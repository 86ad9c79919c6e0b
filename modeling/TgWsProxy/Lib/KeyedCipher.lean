import Mathlib.Data.Int.Order.Basic
import Mathlib.Data.List.Basic

/-!
# Ciphers which take their key from the text

Each letter is moved round its alphabet by the same amount, and the amount is
read off the text.  If the letters stay of their kind and the amount depends on
the kinds only, then the result has the same key and can be taken back.
-/

namespace Lib

/-- The letter which stands `steps` behind `code`, round an alphabet of `size`
letters from `first` on. -/
def rotate (size first : Nat) (steps : Int) (code : Nat) : Nat :=
  (((code : Int) - first + steps) % size + first).toNat

section Rotate

variable {size first code : Nat}

theorem rotate_bounds (positive : 0 < size) (steps : Int) (code : Nat) :
    first ≤ rotate size first steps code ∧
      rotate size first steps code < first + size := by
  have low := Int.emod_nonneg ((code : Int) - first + steps)
    (Int.natCast_ne_zero.mpr (Nat.ne_of_gt positive))
  have high := Int.emod_lt_of_pos ((code : Int) - first + steps)
    (Int.natCast_pos.mpr positive)
  unfold rotate
  omega

theorem rotate_zero (above : first ≤ code) (below : code < first + size) :
    rotate size first 0 code = code := by
  have inside : ((code : Int) - first + 0) % size = code - first :=
    (Int.emod_eq_of_lt (by omega) (by omega)).trans (Int.add_zero _)
  unfold rotate
  omega

/-- One turn behind the other. -/
theorem rotate_rotate (positive : 0 < size) (steps more : Int) (code : Nat) :
    rotate size first more (rotate size first steps code) =
      rotate size first (steps + more) code := by
  have low := Int.emod_nonneg ((code : Int) - first + steps)
    (Int.natCast_ne_zero.mpr (Nat.ne_of_gt positive))
  have turned : ((rotate size first steps code : Nat) : Int) - first =
      ((code : Int) - first + steps) % size := by
    unfold rotate
    omega
  have total : (((code : Int) - first + steps) % size + more) % size =
      ((code : Int) - first + (steps + more)) % size := by
    rw [Int.emod_add_emod, Int.add_assoc]
  calc rotate size first more (rotate size first steps code)
      = ((((rotate size first steps code : Nat) : Int) - first + more) % size +
          first).toNat := rfl
    _ = rotate size first (steps + more) code := by rw [turned, total, rotate]

end Rotate

/-- The items are changed under a key which is read off all of them. -/
def mapKeyed (key : List α → κ) (change : κ → α → β) (items : List α) : List β :=
  items.map (change (key items))

section MapKeyed

variable {kind : α → Bool} {kind' : β → Bool} {change : κ → α → β}
  {back : κ → β → α} {key : List α → κ} {key' : List β → κ} {items : List α}

@[simp] theorem length_mapKeyed (key : List α → κ) (change : κ → α → β)
    (items : List α) : (mapKeyed key change items).length = items.length :=
  List.length_map _

/-- What keeps the kind of each item keeps how many there are of it. -/
theorem countP_mapKeyed
    (kept : ∀ item ∈ items, kind' (change (key items) item) = kind item) :
    (mapKeyed key change items).countP kind' = items.countP kind := by
  rw [mapKeyed, List.countP_map]
  apply List.countP_congr
  intro item member
  rw [Function.comp_apply, kept item member]

/-- With the key at hand the changes of the items are undone one by one. -/
theorem mapKeyed_mapKeyed
    (kept : key' (mapKeyed key change items) = key items)
    (undone : ∀ item ∈ items, back (key items) (change (key items) item) = item) :
    mapKeyed key' back (mapKeyed key change items) = items := by
  calc mapKeyed key' back (mapKeyed key change items)
      = (mapKeyed key change items).map (back (key items)) :=
        congrArg (fun found => (mapKeyed key change items).map (back found)) kept
    _ = items.map (back (key items) ∘ change (key items)) := List.map_map
    _ = items.map id := List.map_congr_left undone
    _ = items := List.map_id items

end MapKeyed

end Lib
