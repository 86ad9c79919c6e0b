import Mathlib.Data.List.Basic

/-!
# Text in UTF-8

The two ways of decoding: a strict one, and one which puts U+FFFD for each
ill-formed sequence.  They agree wherever the strict one succeeds.
-/

namespace Lib

/-- The character which the bytes begin with. -/
def nextChar (bytes : List UInt8) : Option Char :=
  bytes.toByteArray.utf8DecodeChar? 0

def utf8Encode (text : List Char) : List UInt8 :=
  text.flatMap String.utf8EncodeChar

/-- The strict decoder, behind bytes of which `skip` more belong to the last
character. -/
def utf8DecodeFrom : Nat → List UInt8 → Option (List Char)
  | _, [] => some []
  | skip + 1, _ :: bytes => utf8DecodeFrom skip bytes
  | 0, byte :: bytes =>
      match nextChar (byte :: bytes) with
      | none => none
      | some char =>
          (utf8DecodeFrom (char.utf8Size - 1) bytes).map (char :: ·)

def utf8Decode (bytes : List UInt8) : Option (List Char) :=
  utf8DecodeFrom 0 bytes

def isContinuation (byte : UInt8) : Bool := 0x80 ≤ byte && byte ≤ 0xBF

/-- The second bytes which a first byte of three or four allows. -/
def allowsSecond (first second : UInt8) : Bool :=
  if first == 0xE0 then 0xA0 ≤ second && second ≤ 0xBF
  else if first == 0xED then 0x80 ≤ second && second ≤ 0x9F
  else if first == 0xF0 then 0x90 ≤ second && second ≤ 0xBF
  else if first == 0xF4 then 0x80 ≤ second && second ≤ 0x8F
  else 0xE1 ≤ first && first ≤ 0xF3 && isContinuation second

/-- The bytes at the front, no character, for which one U+FFFD stands: as many
as a character could begin with, or one. -/
def illFormedSize : List UInt8 → Nat
  | first :: second :: third :: _ =>
      if allowsSecond first second then
        if 0xF0 ≤ first && isContinuation third then 3 else 2
      else 1
  | [first, second] => if allowsSecond first second then 2 else 1
  | _ => 1

/-- The decoder which replaces ill-formed sequences. -/
def utf8ReplaceFrom : Nat → List UInt8 → List Char
  | _, [] => []
  | skip + 1, _ :: bytes => utf8ReplaceFrom skip bytes
  | 0, byte :: bytes =>
      match nextChar (byte :: bytes) with
      | none =>
          '\uFFFD' :: utf8ReplaceFrom (illFormedSize (byte :: bytes) - 1) bytes
      | some char => char :: utf8ReplaceFrom (char.utf8Size - 1) bytes

def utf8Replace (bytes : List UInt8) : List Char := utf8ReplaceFrom 0 bytes

section Decoding

variable {bytes : List UInt8} {text : List Char} {char : Char}

@[simp] theorem utf8Encode_nil : utf8Encode [] = [] := rfl

theorem utf8Encode_cons (char : Char) (text : List Char) :
    utf8Encode (char :: text) = String.utf8EncodeChar char ++ utf8Encode text :=
  List.flatMap_cons

theorem utf8Encode_append (front back : List Char) :
    utf8Encode (front ++ back) = utf8Encode front ++ utf8Encode back :=
  List.flatMap_append

theorem nextChar_encode (char : Char) (bytes : List UInt8) :
    nextChar (String.utf8EncodeChar char ++ bytes) = some char := by
  rw [nextChar, List.toByteArray_append]
  exact ByteArray.utf8DecodeChar?_utf8EncodeChar_append

/-- The bytes of a character which has been read are passed over. -/
theorem utf8DecodeFrom_skip (taken bytes : List UInt8) :
    utf8DecodeFrom taken.length (taken ++ bytes) = utf8Decode bytes := by
  induction taken with
  | nil => rfl
  | cons byte taken induction => exact induction

theorem utf8Decode_char (char : Char) (bytes : List UInt8) :
    utf8Decode (String.utf8EncodeChar char ++ bytes) =
      (utf8Decode bytes).map (char :: ·) := by
  have read := nextChar_encode char bytes
  have size := String.length_utf8EncodeChar char
  have filled := char.utf8Size_pos
  cases encoded : String.utf8EncodeChar char with
  | nil =>
      rw [encoded, List.length_nil] at size
      omega
  | cons first others =>
      rw [encoded, List.cons_append] at read
      rw [encoded, List.length_cons] at size
      rw [List.cons_append, utf8Decode, utf8DecodeFrom, read]
      have left : char.utf8Size - 1 = others.length := by omega
      simp only [left, utf8DecodeFrom_skip]

/-- What is encoded is read back. -/
theorem utf8Decode_encode (text : List Char) :
    utf8Decode (utf8Encode text) = some text := by
  induction text with
  | nil => rfl
  | cons char text induction =>
      rw [utf8Encode_cons, utf8Decode_char, induction, Option.map_some]

/-- Nothing is replaced in what the strict decoder accepts. -/
theorem utf8ReplaceFrom_of_decoded {skip : Nat}
    (decoded : utf8DecodeFrom skip bytes = some text) :
    utf8ReplaceFrom skip bytes = text := by
  induction bytes generalizing skip text with
  | nil =>
      cases skip <;> cases decoded <;> rfl
  | cons byte bytes induction =>
      cases skip with
      | succ skip => exact induction decoded
      | zero =>
          rw [utf8DecodeFrom] at decoded
          rw [utf8ReplaceFrom]
          cases read : nextChar (byte :: bytes) with
          | none =>
              rw [read] at decoded
              cases decoded
          | some char =>
              rw [read] at decoded
              obtain ⟨later, isLater, same⟩ := Option.map_eq_some_iff.mp decoded
              rw [← same]
              simp only [induction isLater]

theorem utf8Replace_encode (text : List Char) :
    utf8Replace (utf8Encode text) = text :=
  utf8ReplaceFrom_of_decoded (utf8Decode_encode text)

end Decoding

section Ascii

variable {char : Char} {byte : UInt8}

/-- The bytes of a character outside ASCII have their top bit set. -/
theorem le_of_mem_utf8EncodeChar (foreign : 128 ≤ char.toNat)
    (member : byte ∈ String.utf8EncodeChar char) : 0x80 ≤ byte := by
  have marked (bits mask : UInt8) (top : 0x80 ≤ mask) : 0x80 ≤ bits ||| mask := by
    rw [UInt8.le_iff_toNat_le] at top ⊢
    rw [UInt8.toNat_or]
    exact Nat.le_trans top Nat.right_le_or
  have wide : char.utf8Size ≠ 1 := by
    rw [ne_eq, Char.utf8Size_eq_one_iff, UInt32.le_iff_toNat_le]
    exact Nat.not_le.mpr foreign
  rcases char.utf8Size_eq with one | two | three | four
  · exact absurd one wide
  · rw [String.utf8EncodeChar_eq_cons_cons two] at member
    simp only [List.mem_cons, List.not_mem_nil, or_false] at member
    rcases member with rfl | rfl <;> exact marked _ _ (by decide)
  · rw [String.utf8EncodeChar_eq_cons_cons_cons three] at member
    simp only [List.mem_cons, List.not_mem_nil, or_false] at member
    rcases member with rfl | rfl | rfl <;> exact marked _ _ (by decide)
  · rw [String.utf8EncodeChar_eq_cons_cons_cons_cons four] at member
    simp only [List.mem_cons, List.not_mem_nil, or_false] at member
    rcases member with rfl | rfl | rfl | rfl <;> exact marked _ _ (by decide)

theorem utf8EncodeChar_ascii (ascii : char.toNat < 128) :
    String.utf8EncodeChar char = [char.val.toUInt8] := by
  apply String.utf8EncodeChar_eq_singleton
  rw [Char.utf8Size_eq_one_iff, UInt32.le_iff_toNat_le]
  exact Nat.le_of_lt_succ ascii

/-- A byte of ASCII stands for its character and for nothing else. -/
theorem toNat_mem_utf8Encode {text : List Char}
    (member : byte ∈ utf8Encode text) (ascii : byte.toNat < 128) :
    Char.ofNat byte.toNat ∈ text := by
  obtain ⟨char, inside, isByte⟩ := List.mem_flatMap.mp member
  by_cases low : char.toNat < 128
  · rw [utf8EncodeChar_ascii low, List.mem_singleton] at isByte
    have code : byte.toNat = char.toNat := by
      rw [isByte, UInt32.toNat_toUInt8]
      exact Nat.mod_eq_of_lt (Nat.lt_of_lt_of_le low (by decide))
    rw [code, Char.ofNat_toNat]
    exact inside
  · have top := le_of_mem_utf8EncodeChar (Nat.not_lt.mp low) isByte
    rw [UInt8.le_iff_toNat_le] at top
    exact absurd ascii (Nat.not_lt.mpr top)

end Ascii

end Lib
