import Mathlib.Data.List.Basic

/-!
# Cutting a list into pieces of bounded size

All pieces have the given size except the last one, which may be shorter.
-/

namespace Lib

/-- Pieces of `size` items; a size of zero counts as one. -/
def chunksOf (size : Nat) : List α → List (List α)
  | [] => []
  | item :: items =>
      (item :: items.take (size - 1)) :: chunksOf size (items.drop (size - 1))
termination_by items => items.length
decreasing_by
  simp only [List.length_drop, List.length_cons]
  omega

section ChunksOf

variable {size : Nat} {items : List α}

@[simp] theorem chunksOf_nil : chunksOf size ([] : List α) = [] := by
  rw [chunksOf]

theorem chunksOf_of_ne_nil (positive : 0 < size) (nonempty : items ≠ []) :
    chunksOf size items =
      items.take size :: chunksOf size (items.drop size) := by
  cases items with
  | nil => exact absurd rfl nonempty
  | cons item items =>
      obtain ⟨size, rfl⟩ := Nat.exists_eq_succ_of_ne_zero (Nat.ne_of_gt positive)
      rw [chunksOf]
      rfl

/-- Nothing is lost and nothing is added. -/
@[simp] theorem flatten_chunksOf (size : Nat) (items : List α) :
    (chunksOf size items).flatten = items := by
  induction items using chunksOf.induct size with
  | case1 => simp
  | case2 item items induction =>
      rw [chunksOf, List.flatten_cons, induction, List.cons_append,
        List.take_append_drop]

theorem mem_chunksOf (positive : 0 < size) {chunk : List α}
    (member : chunk ∈ chunksOf size items) :
    0 < chunk.length ∧ chunk.length ≤ size := by
  induction items using chunksOf.induct size with
  | case1 => simp at member
  | case2 item items induction =>
      rw [chunksOf, List.mem_cons] at member
      rcases member with rfl | later
      · simp only [List.length_cons, List.length_take]
        omega
      · exact induction later

end ChunksOf

end Lib
