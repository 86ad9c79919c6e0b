import Mathlib.Data.List.Basic

/-!
# Position-dependent maps of a stream

A stream cipher in counter mode changes every symbol by a function of the
symbol and of its position in the stream.  `mapAt` applies such a function to
a segment starting at a given position, and `mapEachAt` does the same to a
stream which has already been cut into pieces.
-/

namespace Lib

/-- Apply `f` at the successive positions `offset`, `offset + 1`, and so on. -/
def mapAt (f : Nat → α → β) : Nat → List α → List β
  | _, [] => []
  | offset, item :: items => f offset item :: mapAt f (offset + 1) items

/-- Apply `mapAt` to consecutive pieces of one stream. -/
def mapEachAt (f : Nat → α → β) : Nat → List (List α) → List (List β)
  | _, [] => []
  | offset, piece :: pieces =>
      mapAt f offset piece :: mapEachAt f (offset + piece.length) pieces

section MapAt

variable (f : Nat → α → β)

@[simp] theorem mapAt_nil (offset : Nat) : mapAt f offset [] = [] := rfl

@[simp] theorem mapAt_cons (offset : Nat) (item : α) (items : List α) :
    mapAt f offset (item :: items) =
      f offset item :: mapAt f (offset + 1) items := rfl

@[simp] theorem length_mapAt (offset : Nat) (items : List α) :
    (mapAt f offset items).length = items.length := by
  induction items generalizing offset with
  | nil => rfl
  | cons item items induction => simp [induction]

theorem mapAt_append (offset : Nat) (left right : List α) :
    mapAt f offset (left ++ right) =
      mapAt f offset left ++ mapAt f (offset + left.length) right := by
  induction left generalizing offset with
  | nil => simp
  | cons item left induction =>
      have shifted : offset + 1 + left.length =
          offset + (item :: left).length := by
        simp only [List.length_cons]
        omega
      simp only [List.cons_append, mapAt_cons, induction, shifted]

theorem mapAt_take (offset count : Nat) (items : List α) :
    mapAt f offset (items.take count) = (mapAt f offset items).take count := by
  induction items generalizing offset count with
  | nil => simp
  | cons item items induction =>
      cases count with
      | zero => simp
      | succ count => simp [induction]

theorem mapAt_drop (offset count : Nat) (items : List α) :
    (mapAt f offset items).drop count =
      mapAt f (offset + count) (items.drop count) := by
  induction items generalizing offset count with
  | nil => simp
  | cons item items induction =>
      cases count with
      | zero => simp
      | succ count =>
          have shifted : offset + 1 + count = offset + (count + 1) := by omega
          simp [induction, shifted]

theorem mapAt_getElem? (offset index : Nat) (items : List α) :
    (mapAt f offset items)[index]? =
      items[index]?.map (f (offset + index)) := by
  induction items generalizing offset index with
  | nil => simp
  | cons item items induction =>
      cases index with
      | zero => simp
      | succ index =>
          have shifted : offset + 1 + index = offset + (index + 1) := by omega
          simp [induction, shifted]

theorem flatten_mapEachAt (offset : Nat) (pieces : List (List α)) :
    (mapEachAt f offset pieces).flatten = mapAt f offset pieces.flatten := by
  induction pieces generalizing offset with
  | nil => rfl
  | cons piece pieces induction =>
      simp [mapEachAt, mapAt_append, induction]

theorem mapEachAt_append (offset : Nat) (left right : List (List α)) :
    mapEachAt f offset (left ++ right) =
      mapEachAt f offset left ++
        mapEachAt f (offset + left.flatten.length) right := by
  induction left generalizing offset with
  | nil => simp [mapEachAt]
  | cons piece left induction =>
      simp [mapEachAt, induction, Nat.add_assoc]

end MapAt

/-- A position-dependent map undoes another one with inverse values. -/
theorem mapAt_leftInverse {f : Nat → α → β} {g : Nat → β → α}
    (inverse : ∀ index item, g index (f index item) = item)
    (offset : Nat) (items : List α) :
    mapAt g offset (mapAt f offset items) = items := by
  induction items generalizing offset with
  | nil => rfl
  | cons item items induction => simp [inverse, induction]

theorem mapEachAt_leftInverse {f : Nat → α → β} {g : Nat → β → α}
    (inverse : ∀ index item, g index (f index item) = item)
    (offset : Nat) (pieces : List (List α)) :
    mapEachAt g offset (mapEachAt f offset pieces) = pieces := by
  induction pieces generalizing offset with
  | nil => rfl
  | cons piece pieces induction =>
      simp [mapEachAt, mapAt_leftInverse inverse, induction]

end Lib
