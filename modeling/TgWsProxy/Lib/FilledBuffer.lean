import Mathlib.Data.List.Basic

/-!
# Buffers which are filled from the front

A loop allocates a buffer of the size of its result and writes one piece behind
the other.  Its invariant is that the buffer agrees with the result up to where
the loop has come.
-/

namespace Lib

/-- The pieces are written over what stands at `offset`. -/
def overwrite (buffer : List α) (offset : Nat) (items : List α) : List α :=
  buffer.take offset ++ items ++ buffer.drop (offset + items.length)

/-- The first `count` items are those of the result. -/
structure FilledTo (result : List α) (count : Nat) (buffer : List α) : Prop where
  size : buffer.length = result.length
  front : buffer.take count = result.take count

section FilledTo

variable {result buffer items : List α} {count : Nat}

theorem length_overwrite (within : count + items.length ≤ buffer.length) :
    (overwrite buffer count items).length = buffer.length := by
  simp only [overwrite, List.length_append, List.length_take, List.length_drop]
  omega

theorem FilledTo.start (size : buffer.length = result.length) :
    FilledTo result 0 buffer :=
  ⟨size, rfl⟩

/-- A piece of the result is written where the loop has come to. -/
theorem FilledTo.overwrite (filled : FilledTo result count buffer)
    (within : count + items.length ≤ result.length)
    (piece : (result.drop count).take items.length = items) :
    FilledTo result (count + items.length) (overwrite buffer count items) := by
  have inside : count + items.length ≤ buffer.length := by
    rw [filled.size]
    exact within
  refine ⟨(length_overwrite inside).trans filled.size, ?_⟩
  have written : (buffer.take count ++ items).length = count + items.length := by
    rw [List.length_append, List.length_take]
    omega
  calc (Lib.overwrite buffer count items).take (count + items.length)
      = buffer.take count ++ items := List.take_left' written
    _ = result.take count ++ (result.drop count).take items.length := by
        rw [filled.front, piece]
    _ = result.take (count + items.length) := List.take_add.symm

theorem overwrite_singleton {index : Nat} (inside : index < buffer.length)
    (item : α) : overwrite buffer index [item] = buffer.set index item := by
  rw [overwrite, List.set_eq_take_append_cons_drop, if_pos inside,
    List.length_singleton, List.append_assoc, List.singleton_append]

theorem FilledTo.set {item : α} (filled : FilledTo result count buffer)
    (present : result[count]? = some item) :
    FilledTo result (count + 1) (buffer.set count item) := by
  obtain ⟨within, same⟩ := List.getElem?_eq_some_iff.mp present
  have inside : count < buffer.length := by
    rw [filled.size]
    exact within
  have piece : (result.drop count).take 1 = [item] := by
    rw [List.drop_eq_getElem_cons within, same]
    rfl
  rw [← overwrite_singleton inside]
  exact @FilledTo.overwrite _ result buffer [item] count filled within piece

theorem FilledTo.eq_result (filled : FilledTo result result.length buffer) :
    buffer = result := by
  have front := filled.front
  rwa [← filled.size, List.take_length, filled.size, List.take_length] at front

end FilledTo

end Lib
