import Mathlib.Data.List.Infix

/-!
# Programs which read exact amounts

A `Reading` reads a stream in pieces whose sizes may depend on what was read
before, as a program does that calls `read_exact`.  While a piece is incomplete
the program waits, and the items it has taken so far determine where it stands.
-/

namespace Lib

inductive Reading (Item Error : Type) (Result : Type) where
  | done (result : Result)
  | failed (error : Error)
  | exactly (count : Nat) (next : List Item → Reading Item Error Result)

namespace Reading

/-- What becomes of a program on the items at hand. -/
inductive Outcome (Item Error Result : Type) where
  | done (result : Result) (rest : List Item)
  | failed (error : Error)
  | waiting
deriving DecidableEq, Repr

variable {Item Error Result Other : Type}

def bind (program : Reading Item Error Result)
    (next : Result → Reading Item Error Other) : Reading Item Error Other :=
  match program with
  | .done result => next result
  | .failed error => .failed error
  | .exactly count later => .exactly count fun items => bind (later items) next

instance : Monad (Reading Item Error) where
  pure := .done
  bind := bind

/-- Read a piece and return it. -/
def readExact (count : Nat) : Reading Item Error (List Item) :=
  .exactly count .done

/-- Read a piece behind a field which gives its length. -/
def prefixed (count : Nat) (len : List Item → Nat) :
    Reading Item Error (List Item) := do
  let field ← readExact count
  readExact (len field)

/-- Run a program several times in succession. -/
def replicate (program : Reading Item Error Result) :
    Nat → Reading Item Error (List Result)
  | 0 => pure []
  | count + 1 => do
      let result ← program
      let results ← replicate program count
      return result :: results

def on : Reading Item Error Result → List Item → Outcome Item Error Result
  | .done result, items => .done result items
  | .failed error, _ => .failed error
  | .exactly count next, items =>
      if items.length < count then .waiting
      else on (next (items.take count)) (items.drop count)

/-- What a program makes of the items if it takes all of them. -/
def whole (program : Reading Item Error Result) (items : List Item) :
    Option Result :=
  match program.on items with
  | .done result [] => some result
  | _ => none

/-- The program fails with such errors only, whatever it reads. -/
def FailsOnly (allowed : Error → Prop) : Reading Item Error Result → Prop
  | .done _ => True
  | .failed error => allowed error
  | .exactly _ next => ∀ piece, FailsOnly allowed (next piece)

section Outcomes

variable {program : Reading Item Error Result} {items rest : List Item}
  {result : Result}

@[simp] theorem on_pure (result : Result) (items : List Item) :
    (pure result : Reading Item Error Result).on items = .done result items :=
  rfl

/-- The rest of the program runs on what the first part leaves. -/
theorem on_bind (program : Reading Item Error Result)
    (next : Result → Reading Item Error Other) (items : List Item) :
    (program >>= next).on items =
      match program.on items with
      | .done result rest => (next result).on rest
      | .failed error => .failed error
      | .waiting => .waiting := by
  induction program generalizing items with
  | done result => rfl
  | failed error => rfl
  | exactly count later induction =>
      change (if items.length < count then Outcome.waiting
        else ((later (items.take count)).bind next).on (items.drop count)) = _
      simp only [on]
      by_cases short : items.length < count
      · rw [if_pos short, if_pos short]
      · rw [if_neg short, if_neg short]
        exact induction (items.take count) (items.drop count)

theorem on_bind_readExact (count : Nat)
    (next : List Item → Reading Item Error Result) (items : List Item) :
    (readExact count >>= next).on items =
      if items.length < count then .waiting
      else (next (items.take count)).on (items.drop count) :=
  rfl

theorem on_readExact {count : Nat} {piece : List Item}
    (size : piece.length = count) (later : List Item) :
    (readExact count : Reading Item Error (List Item)).on (piece ++ later) =
      .done piece later := by
  have enough : ¬ (piece ++ later).length < count := by
    rw [List.length_append]
    omega
  simp only [readExact, on, if_neg enough]
  rw [List.take_left' size, List.drop_left' size]

/-- The next piece is at the front. -/
theorem on_readExact_bind {count : Nat} {piece : List Item}
    (size : piece.length = count)
    (next : List Item → Reading Item Error Result) (later : List Item) :
    (readExact count >>= next).on (piece ++ later) = (next piece).on later := by
  rw [on_bind, on_readExact size]

theorem on_prefixed_bind {count : Nat} {len : List Item → Nat}
    {field piece : List Item} (size : field.length = count)
    (announced : len field = piece.length)
    (next : List Item → Reading Item Error Result) (later : List Item) :
    (prefixed count len >>= next).on (field ++ (piece ++ later)) =
      (next piece).on later := by
  have read : (prefixed count len : Reading Item Error (List Item)).on
      (field ++ (piece ++ later)) = .done piece later := by
    apply (on_readExact_bind size _ _).trans
    rw [announced]
    exact on_readExact rfl later
  rw [on_bind, read]

theorem whole_of_on (finished : program.on items = .done result []) :
    program.whole items = some result := by
  rw [whole, finished]

/-- A program takes items away and never adds any. -/
theorem on_rest_le (finished : program.on items = .done result rest) :
    rest.length ≤ items.length := by
  induction program generalizing items with
  | done found =>
      cases finished
      exact Nat.le_refl _
  | failed error => cases finished
  | exactly count next induction =>
      simp only [on] at finished
      by_cases short : items.length < count
      · rw [if_pos short] at finished
        cases finished
      · rw [if_neg short] at finished
        apply Nat.le_trans (induction _ finished)
        rw [List.length_drop]
        exact Nat.sub_le _ _

/-- A program which begins by reading something makes progress. -/
theorem on_rest_lt {count : Nat} (positive : 0 < count)
    {next : List Item → Reading Item Error Result}
    (finished : (readExact count >>= next).on items = .done result rest) :
    rest.length < items.length := by
  change (if items.length < count then Outcome.waiting
    else (next (items.take count)).on (items.drop count)) = _ at finished
  by_cases short : items.length < count
  · rw [if_pos short] at finished
    cases finished
  · rw [if_neg short] at finished
    have smaller := on_rest_le finished
    rw [List.length_drop] at smaller
    omega

/-- A program which reads back each encoded value reads back a sequence of
them. -/
theorem on_replicate {Value : Type} (encode : Value → List Item)
    (meaning : Value → Result)
    (reads : ∀ value later, program.on (encode value ++ later) =
      .done (meaning value) later) (values : List Value) (later : List Item) :
    (program.replicate values.length).on ((values.map encode).flatten ++ later) =
      .done (values.map meaning) later := by
  induction values with
  | nil => rfl
  | cons value values induction =>
      rw [List.length_cons, replicate, on_bind, List.map_cons,
        List.flatten_cons, List.append_assoc, reads]
      simp only [on_bind, induction, on_pure, List.map_cons]

/-- A program waits on every part of what it needs. -/
theorem on_of_isPrefix {front : List Item}
    (finished : program.on items = .done result [])
    (isPrefix : front <+: items) (shorter : front ≠ items) :
    program.on front = .waiting := by
  induction program generalizing items front with
  | done found =>
      cases finished
      exact absurd (List.prefix_nil.mp isPrefix) shorter
  | failed error => cases finished
  | exactly count next induction =>
      simp only [on] at finished ⊢
      by_cases missing : front.length < count
      · rw [if_pos missing]
      · obtain ⟨back, rfl⟩ := isPrefix
        have reached : count ≤ front.length := Nat.le_of_not_lt missing
        have enough : ¬ (front ++ back).length < count := by
          rw [List.length_append]
          omega
        rw [if_neg enough, List.take_append_of_le_length reached,
          List.drop_append_of_le_length reached] at finished
        rw [if_neg missing]
        apply induction _ finished (List.prefix_append _ _)
        intro same
        apply shorter
        have noBack : back = [] := by simpa using same
        simp [noBack]

end Outcomes

section FailsOnly

variable {allowed : Error → Prop} {program : Reading Item Error Result}

theorem failsOnly_pure (result : Result) :
    (pure result : Reading Item Error Result).FailsOnly allowed :=
  trivial

theorem failsOnly_readExact (count : Nat) :
    (readExact count : Reading Item Error (List Item)).FailsOnly allowed :=
  fun _ => trivial

theorem FailsOnly.bind {next : Result → Reading Item Error Other}
    (first : program.FailsOnly allowed)
    (second : ∀ result, (next result).FailsOnly allowed) :
    (program >>= next).FailsOnly allowed := by
  induction program with
  | done result => exact second result
  | failed error => exact first
  | exactly count later induction =>
      intro piece
      exact induction piece (first piece)

theorem FailsOnly.error {items : List Item} {error : Error}
    (failsOnly : program.FailsOnly allowed)
    (failed : program.on items = .failed error) : allowed error := by
  induction program generalizing items with
  | done result => cases failed
  | failed other =>
      cases failed
      exact failsOnly
  | exactly count next induction =>
      simp only [on] at failed
      by_cases short : items.length < count
      · rw [if_pos short] at failed
        cases failed
      · rw [if_neg short] at failed
        exact induction _ (failsOnly _) failed

end FailsOnly

end Reading

end Lib
