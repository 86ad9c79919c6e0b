import Mathlib.Data.List.TakeWhile

/-!
# Lists addressed by position

A list in which every item has its place: a place keeps its item until the item
is set, and new items come behind the others.  What stands before the first item
of a kind stays what it is.
-/

namespace Lib

section Slots

variable {α : Type*} {items : List α} {index other : Nat} {old new found : α}

/-- How often a value occurs in the parts of the items, after one of the items
has changed. -/
theorem count_flatMap_set {β : Type*} [BEq β] (parts : α → List β)
    (present : items[index]? = some old) (new : α) (value : β) :
    ((items.set index new).flatMap parts).count value +
        (parts old).count value =
      (items.flatMap parts).count value + (parts new).count value := by
  induction items generalizing index with
  | nil => cases present
  | cons item items induction =>
      cases index with
      | zero =>
          cases present
          simp only [List.set_cons_zero, List.flatMap_cons, List.count_append]
          omega
      | succ index =>
          have later := induction present
          simp only [List.set_cons_succ, List.flatMap_cons, List.count_append]
          omega

/-- How many items are of a kind, after one of the items has changed. -/
theorem countP_set_add (present : items[index]? = some old) (new : α)
    (kind : α → Bool) :
    (items.set index new).countP kind + (if kind old then 1 else 0) =
      items.countP kind + (if kind new then 1 else 0) := by
  induction items generalizing index with
  | nil => cases present
  | cons item items induction =>
      cases index with
      | zero =>
          cases present
          simp only [List.set_cons_zero, List.countP_cons]
          omega
      | succ index =>
          have later := induction present
          simp only [List.set_cons_succ, List.countP_cons]
          omega

/-- An item is set where all items have a property. -/
theorem forall_mem_set_iff {holds : α → Prop} (present : items[index]? = some old)
    (before : ∀ item ∈ items, holds item) (new : α) :
    (∀ item ∈ items.set index new, holds item) ↔ holds new := by
  constructor
  · intro after
    obtain ⟨inside, -⟩ := List.getElem?_eq_some_iff.mp present
    exact after new (List.mem_set inside new)
  · intro holdsNew item member
    rcases List.mem_or_eq_of_mem_set member with old | same
    · exact before item old
    · rw [same]
      exact holdsNew

theorem found_set (present : (items.set index new)[other]? = some found) :
    (other = index ∧ found = new) ∨
      (other ≠ index ∧ items[other]? = some found) := by
  rw [List.getElem?_set] at present
  split at present
  · rename_i same
    split at present
    · cases present
      exact Or.inl ⟨same.symm, rfl⟩
    · cases present
  · rename_i differs
    exact Or.inr ⟨fun same => differs same.symm, present⟩

theorem mem_set_cases (member : found ∈ items.set index new) :
    found = new ∨ ∃ other, other ≠ index ∧ items[other]? = some found := by
  obtain ⟨other, present⟩ := List.mem_iff_getElem?.mp member
  rcases found_set present with ⟨-, same⟩ | ⟨differs, before⟩
  · exact Or.inl same
  · exact Or.inr ⟨other, differs, before⟩

theorem found_concat (present : (items ++ [new])[other]? = some found) :
    items[other]? = some found ∨ (other = items.length ∧ found = new) := by
  rw [List.getElem?_append] at present
  split at present
  · exact Or.inl present
  · have first : other - items.length = 0 := by
      by_contra positive
      rw [List.getElem?_eq_none (by simp; omega)] at present
      cases present
    rw [first] at present
    cases present
    exact Or.inr ⟨by omega, rfl⟩

variable {kind : α → Bool}

theorem takeWhile_not_concat_of_forall (before : ∀ item ∈ items, kind item = false)
    (first : kind new = true) :
    (items ++ [new]).takeWhile (fun item => !kind item) = items := by
  rw [List.takeWhile_append_of_pos]
  · simp [first]
  · intro item member
    rw [before item member]
    rfl

theorem takeWhile_not_concat_of_exists (present : ∃ item ∈ items, kind item = true)
    (new : α) : (items ++ [new]).takeWhile (fun item => !kind item) =
      items.takeWhile fun item => !kind item := by
  induction items with
  | nil =>
      obtain ⟨item, member, -⟩ := present
      cases member
  | cons first items induction =>
      simp only [List.cons_append, List.takeWhile_cons]
      cases isFirst : kind first with
      | true => rfl
      | false =>
          obtain ⟨item, member, isKind⟩ := present
          rcases List.mem_cons.mp member with same | later
          · rw [same, isFirst] at isKind
            cases isKind
          · have rest := induction ⟨item, later, isKind⟩
            simp only [Bool.not_false, if_pos, rest]

end Slots

end Lib
