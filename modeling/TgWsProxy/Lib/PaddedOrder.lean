import Mathlib.Data.List.GetD
import Mathlib.Order.Lattice.Nat
import Mathlib.Order.PiLex

/-!
# Lists compared with padding

Two lists are compared place by place, and the shorter one is filled up.  A list
stands for the sequence of its values at all places, so the comparison is the
lexicographic order of sequences, which is linear.
-/

namespace Lib

section Padded

variable {α : Type*}

/-- The pairs of the items at the same places, as far as the longer list. -/
def zipLongest (fill : α) : List α → List α → List (α × α)
  | [], [] => []
  | left :: lefts, [] => (left, fill) :: zipLongest fill lefts []
  | [], right :: rights => (fill, right) :: zipLongest fill [] rights
  | left :: lefts, right :: rights =>
      (left, right) :: zipLongest fill lefts rights

/-- The values at all places of a list. -/
def padded (fill : α) (items : List α) : Lex (Nat → α) :=
  toLex fun place => items.getD place fill

/-- Two lists which differ only in the filling at their ends. -/
def SamePadded (fill : α) (lefts rights : List α) : Prop :=
  ∃ more fewer, lefts ++ List.replicate more fill =
    rights ++ List.replicate fewer fill

variable {fill : α} {lefts rights : List α}

theorem getD_append_replicate (items : List α) (more place : Nat) :
    (items ++ List.replicate more fill).getD place fill =
      items.getD place fill := by
  rw [List.getD_eq_getElem?_getD, List.getD_eq_getElem?_getD]
  rcases Nat.lt_or_ge place items.length with inside | outside
  · rw [List.getElem?_append_left inside]
  · rw [List.getElem?_append_right outside, List.getElem?_replicate,
      List.getElem?_eq_none outside]
    split
    · rfl
    · rfl

theorem padded_eq_iff :
    padded fill lefts = padded fill rights ↔ SamePadded fill lefts rights := by
  constructor
  · intro same
    refine ⟨rights.length, lefts.length, ?_⟩
    apply List.ext_getElem
    · simp [Nat.add_comm]
    · intro place left right
      have value := congrFun same place
      change lefts.getD place fill = rights.getD place fill at value
      rw [← List.getD_eq_getElem _ fill left, ← List.getD_eq_getElem _ fill right,
        getD_append_replicate, getD_append_replicate]
      exact value
  · intro ⟨more, fewer, same⟩
    funext place
    change lefts.getD place fill = rights.getD place fill
    rw [← getD_append_replicate lefts more place, same, getD_append_replicate]

theorem padded_append_fill (items : List α) :
    padded fill (items ++ [fill]) = padded fill items :=
  padded_eq_iff.mpr ⟨0, 1, List.append_nil _⟩

section Order

variable [LinearOrder α]

/-- The first values decide, and behind equal ones the rest does. -/
theorem padded_lt_iff (fill : α) (lefts rights : List α) :
    padded fill lefts < padded fill rights ↔
      lefts.headD fill < rights.headD fill ∨
        lefts.headD fill = rights.headD fill ∧
          padded fill lefts.tail < padded fill rights.tail := by
  have head (items : List α) : items.getD 0 fill = items.headD fill := by
    cases items with
    | nil => rfl
    | cons item items => rfl
  have tail (items : List α) (place : Nat) :
      items.getD (place + 1) fill = items.tail.getD place fill := by
    cases items with
    | nil => rfl
    | cons item items => rfl
  constructor
  · intro ⟨place, before, here⟩
    cases place with
    | zero =>
        left
        rw [← head, ← head]
        exact here
    | succ place =>
        right
        constructor
        · rw [← head, ← head]
          exact before 0 (Nat.succ_pos place)
        · refine ⟨place, ?_, ?_⟩
          · intro earlier isEarlier
            have same := before (earlier + 1) (Nat.succ_lt_succ isEarlier)
            change lefts.getD _ fill = rights.getD _ fill at same
            rwa [tail, tail] at same
          · change lefts.getD _ fill < rights.getD _ fill at here
            rwa [tail, tail] at here
  · intro first
    rcases first with lower | ⟨same, place, before, here⟩
    · rw [← head, ← head] at lower
      exact ⟨0, fun earlier none => absurd none (Nat.not_lt_zero earlier),
        lower⟩
    · refine ⟨place + 1, ?_, ?_⟩
      · intro earlier isEarlier
        change lefts.getD _ fill = rights.getD _ fill
        cases earlier with
        | zero =>
            rw [head, head]
            exact same
        | succ earlier =>
            rw [tail, tail]
            exact before earlier (Nat.lt_of_succ_lt_succ isEarlier)
      · change lefts.getD _ fill < rights.getD _ fill
        rw [tail, tail]
        exact here

/-- Whether the left value is greater in the first pair of different values. -/
def leftGreater : List (α × α) → Bool
  | [] => false
  | (left, right) :: pairs =>
      if right < left then true
      else if left < right then false
      else leftGreater pairs

theorem leftGreater_cons_iff {left right : α} {pairs : List (α × α)} :
    leftGreater ((left, right) :: pairs) = true ↔
      right < left ∨ right = left ∧ leftGreater pairs = true := by
  rw [leftGreater]
  rcases lt_trichotomy right left with lower | same | greater
  · simp [lower]
  · simp [same]
  · simp [greater, greater.not_gt, greater.ne']

/-- The loop over the pairs decides the order of the sequences. -/
theorem leftGreater_zipLongest_iff :
    leftGreater (zipLongest fill lefts rights) = true ↔
      padded fill rights < padded fill lefts := by
  fun_induction zipLongest fill lefts rights with
  | case1 =>
      constructor
      · intro never
        cases never
      · intro below
        exact absurd below (lt_irrefl (padded fill []))
  | case2 left lefts induction =>
      rw [leftGreater_cons_iff, induction]
      exact (padded_lt_iff fill [] (left :: lefts)).symm
  | case3 right rights induction =>
      rw [leftGreater_cons_iff, induction]
      exact (padded_lt_iff fill (right :: rights) []).symm
  | case4 left lefts right rights induction =>
      rw [leftGreater_cons_iff, induction]
      exact (padded_lt_iff fill (right :: rights) (left :: lefts)).symm

end Order

end Padded

end Lib
