import Mathlib.Data.List.Basic

/-!
# Hexadecimal text

Each byte is written as two digits.  They are written in lower case and read in
either.
-/

namespace Lib

def hexDigit (value : Nat) : Char :=
  if value < 10 then Char.ofNat (48 + value) else Char.ofNat (87 + value)

def hexDigitValue (digit : Char) : Option Nat :=
  let point := digit.toNat
  if 48 ≤ point ∧ point ≤ 57 then some (point - 48)
  else if 97 ≤ point ∧ point ≤ 102 then some (point - 87)
  else if 65 ≤ point ∧ point ≤ 70 then some (point - 55)
  else none

def hexEncode : List UInt8 → List Char
  | [] => []
  | byte :: bytes =>
      hexDigit (byte.toNat / 16) :: hexDigit (byte.toNat % 16) ::
        hexEncode bytes

def hexDecode : List Char → Option (List UInt8)
  | [] => some []
  | [_] => none
  | high :: low :: digits => do
      let a ← hexDigitValue high
      let b ← hexDigitValue low
      let others ← hexDecode digits
      some (UInt8.ofNat (16 * a + b) :: others)

theorem hexDigitValue_digit {value : Nat} (small : value < 16) :
    hexDigitValue (hexDigit value) = some value := by
  revert value
  decide +kernel

/-- What is read behind two digits. -/
theorem hexDecode_cons {high low : Char} {a b : Nat}
    (first : hexDigitValue high = some a) (second : hexDigitValue low = some b)
    (digits : List Char) :
    hexDecode (high :: low :: digits) =
      (hexDecode digits).map (UInt8.ofNat (16 * a + b) :: ·) := by
  rw [hexDecode, first, second]
  cases hexDecode digits with
  | none => rfl
  | some others => rfl

theorem hexDecode_cons_eq_some {high low : Char} {digits : List Char}
    {bytes : List UInt8} (read : hexDecode (high :: low :: digits) = some bytes) :
    ∃ a b others, hexDigitValue high = some a ∧ hexDigitValue low = some b ∧
      hexDecode digits = some others ∧
      bytes = UInt8.ofNat (16 * a + b) :: others := by
  rw [hexDecode] at read
  obtain ⟨a, first, read⟩ := Option.bind_eq_some_iff.mp read
  obtain ⟨b, second, read⟩ := Option.bind_eq_some_iff.mp read
  obtain ⟨others, rest, read⟩ := Option.bind_eq_some_iff.mp read
  cases read
  exact ⟨a, b, others, first, second, rest, rfl⟩

/-- What is written is read back. -/
theorem hexDecode_encode (bytes : List UInt8) :
    hexDecode (hexEncode bytes) = some bytes := by
  induction bytes with
  | nil => rfl
  | cons byte bytes induction =>
      have size := byte.toNat_lt
      have value : UInt8.ofNat (16 * (byte.toNat / 16) + byte.toNat % 16) =
          byte := by
        rw [Nat.div_add_mod, UInt8.ofNat_toNat]
      rw [hexEncode, hexDecode_cons (hexDigitValue_digit (by omega))
        (hexDigitValue_digit (by omega)), value, induction]
      rfl

/-- Texts are read one after the other. -/
theorem hexDecode_append {front back : List Char} {bytes : List UInt8}
    (read : hexDecode front = some bytes) :
    hexDecode (front ++ back) = (hexDecode back).map (bytes ++ ·) := by
  induction front using hexDecode.induct generalizing bytes with
  | case1 =>
      cases read
      exact Option.map_id'.symm
  | case2 => cases read
  | case3 high low digits induction =>
      obtain ⟨a, b, others, first, second, rest, rfl⟩ :=
        hexDecode_cons_eq_some read
      rw [List.cons_append, List.cons_append, hexDecode_cons first second,
        induction rest, Option.map_map]
      rfl

/-- Nothing but digits is read. -/
theorem digits_of_hexDecode {text : List Char} {bytes : List UInt8}
    (read : hexDecode text = some bytes) :
    ∀ char ∈ text, (hexDigitValue char).isSome = true := by
  induction text using hexDecode.induct generalizing bytes with
  | case1 =>
      intro char member
      cases member
  | case2 => cases read
  | case3 high low digits induction =>
      obtain ⟨a, b, others, first, second, rest, -⟩ :=
        hexDecode_cons_eq_some read
      intro char member
      rcases List.mem_cons.mp member with rfl | member
      · exact first ▸ rfl
      rcases List.mem_cons.mp member with rfl | later
      · exact second ▸ rfl
      · exact induction rest char later

end Lib
