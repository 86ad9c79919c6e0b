import Mathlib.Data.Nat.Basic
import Mathlib.Data.List.Basic

/-!
# Base64

Three bytes are written as four digits of six bits; what is missing of the last
three bytes is written as padding.
-/

namespace Lib

def base64Digit (value : Nat) : Char :=
  if value < 26 then Char.ofNat (65 + value)
  else if value < 52 then Char.ofNat (97 + (value - 26))
  else if value < 62 then Char.ofNat (48 + (value - 52))
  else if value = 62 then '+'
  else '/'

def base64Value (digit : Char) : Option Nat :=
  let point := digit.toNat
  if 65 ≤ point ∧ point ≤ 90 then some (point - 65)
  else if 97 ≤ point ∧ point ≤ 122 then some (point - 97 + 26)
  else if 48 ≤ point ∧ point ≤ 57 then some (point - 48 + 52)
  else if digit = '+' then some 62
  else if digit = '/' then some 63
  else none

def base64Encode : List UInt8 → List Char
  | [] => []
  | [a] =>
      [base64Digit (a.toNat / 4), base64Digit (a.toNat % 4 * 16), '=', '=']
  | [a, b] =>
      [base64Digit (a.toNat / 4),
        base64Digit (a.toNat % 4 * 16 + b.toNat / 16),
        base64Digit (b.toNat % 16 * 4), '=']
  | a :: b :: c :: bytes =>
      base64Digit (a.toNat / 4) ::
        base64Digit (a.toNat % 4 * 16 + b.toNat / 16) ::
        base64Digit (b.toNat % 16 * 4 + c.toNat / 64) ::
        base64Digit (c.toNat % 64) :: base64Encode bytes

/-- The bytes of four digits, of which the last ones may be padding. -/
def base64Group (p q r s : Char) : Option (List UInt8) := do
  let a ← base64Value p
  let b ← base64Value q
  let first := UInt8.ofNat (a * 4 + b / 16)
  if r = '=' ∧ s = '=' then
    if b % 16 = 0 then some [first] else none
  else
    let c ← base64Value r
    let second := UInt8.ofNat (b % 16 * 16 + c / 4)
    if s = '=' then
      if c % 4 = 0 then some [first, second] else none
    else
      let d ← base64Value s
      some [first, second, UInt8.ofNat (c % 4 * 64 + d)]

/-- The bytes which are written so, in one way only.  Padding ends the text. -/
def base64Decode : List Char → Option (List UInt8)
  | [] => some []
  | p :: q :: r :: s :: digits => do
      let bytes ← base64Group p q r s
      if digits ≠ [] ∧ bytes.length ≠ 3 then none
      else
        let others ← base64Decode digits
        some (bytes ++ others)
  | _ => none

theorem base64Value_digit {value : Nat} (small : value < 64) :
    base64Value (base64Digit value) = some value := by
  revert value
  decide +kernel

/-- No digit is the padding. -/
theorem base64Digit_ne_padding {value : Nat} (small : value < 64) :
    base64Digit value ≠ '=' := by
  intro same
  have read := base64Value_digit small
  rw [same] at read
  cases read

theorem ofNat_toNat {byte : UInt8} {value : Nat} (same : value = byte.toNat) :
    UInt8.ofNat value = byte := by
  rw [same, UInt8.ofNat_toNat]

theorem base64Group_three (a b c : UInt8) :
    base64Group (base64Digit (a.toNat / 4))
        (base64Digit (a.toNat % 4 * 16 + b.toNat / 16))
        (base64Digit (b.toNat % 16 * 4 + c.toNat / 64))
        (base64Digit (c.toNat % 64)) = some [a, b, c] := by
  have aSize := a.toNat_lt
  have bSize := b.toNat_lt
  have cSize := c.toNat_lt
  have rest : c.toNat % 64 < 64 := Nat.mod_lt _ (by decide)
  have noPadding := base64Digit_ne_padding rest
  simp only [base64Group, noPadding, and_false, if_false]
  rw [base64Value_digit (by omega), base64Value_digit (by omega),
    base64Value_digit (by omega), base64Value_digit rest]
  have first : UInt8.ofNat
      (a.toNat / 4 * 4 + (a.toNat % 4 * 16 + b.toNat / 16) / 16) = a :=
    ofNat_toNat (by omega)
  have second : UInt8.ofNat ((a.toNat % 4 * 16 + b.toNat / 16) % 16 * 16 +
      (b.toNat % 16 * 4 + c.toNat / 64) / 4) = b := ofNat_toNat (by omega)
  have third : UInt8.ofNat
      ((b.toNat % 16 * 4 + c.toNat / 64) % 4 * 64 + c.toNat % 64) = c :=
    ofNat_toNat (by omega)
  simp only [Option.bind_eq_bind, Option.bind_some, first, second, third]

theorem base64Group_two (a b : UInt8) :
    base64Group (base64Digit (a.toNat / 4))
        (base64Digit (a.toNat % 4 * 16 + b.toNat / 16))
        (base64Digit (b.toNat % 16 * 4)) '=' = some [a, b] := by
  have aSize := a.toNat_lt
  have bSize := b.toNat_lt
  have small : b.toNat % 16 * 4 < 64 := by omega
  have noPadding := base64Digit_ne_padding small
  have whole : b.toNat % 16 * 4 % 4 = 0 := Nat.mul_mod_left _ _
  simp only [base64Group, noPadding, false_and, if_false, if_true]
  rw [base64Value_digit (by omega), base64Value_digit (by omega),
    base64Value_digit small]
  have first : UInt8.ofNat
      (a.toNat / 4 * 4 + (a.toNat % 4 * 16 + b.toNat / 16) / 16) = a :=
    ofNat_toNat (by omega)
  have second : UInt8.ofNat ((a.toNat % 4 * 16 + b.toNat / 16) % 16 * 16 +
      b.toNat % 16 * 4 / 4) = b := ofNat_toNat (by omega)
  simp only [Option.bind_eq_bind, Option.bind_some, whole, if_true, first,
    second]

theorem base64Group_one (a : UInt8) :
    base64Group (base64Digit (a.toNat / 4)) (base64Digit (a.toNat % 4 * 16))
        '=' '=' = some [a] := by
  have aSize := a.toNat_lt
  have whole : a.toNat % 4 * 16 % 16 = 0 := Nat.mul_mod_left _ _
  simp only [base64Group, and_self, if_true]
  rw [base64Value_digit (by omega), base64Value_digit (by omega)]
  have first : UInt8.ofNat (a.toNat / 4 * 4 + a.toNat % 4 * 16 / 16) = a :=
    ofNat_toNat (by omega)
  simp only [Option.bind_eq_bind, Option.bind_some, whole, if_true, first]

/-- What is written is read back. -/
theorem base64Decode_encode (bytes : List UInt8) :
    base64Decode (base64Encode bytes) = some bytes := by
  induction bytes using base64Encode.induct with
  | case1 => rfl
  | case2 a =>
      rw [base64Encode, base64Decode, base64Group_one]
      rfl
  | case3 a b =>
      rw [base64Encode, base64Decode, base64Group_two]
      rfl
  | case4 a b c bytes induction =>
      rw [base64Encode, base64Decode, base64Group_three, induction]
      simp

/-- The characters of a text in Base64. -/
def IsBase64 (char : Char) : Prop :=
  (base64Value char).isSome = true ∨ char = '='

instance (char : Char) : Decidable (IsBase64 char) :=
  inferInstanceAs (Decidable (_ ∨ _))

theorem mem_base64Encode {bytes : List UInt8} {char : Char}
    (member : char ∈ base64Encode bytes) : IsBase64 char := by
  have digit {value : Nat} (small : value < 64) :
      IsBase64 (base64Digit value) := by
    rw [IsBase64, base64Value_digit small]
    exact Or.inl rfl
  induction bytes using base64Encode.induct with
  | case1 => cases member
  | case2 a =>
      have size := a.toNat_lt
      simp only [base64Encode, List.mem_cons, List.not_mem_nil, or_false]
        at member
      rcases member with rfl | rfl | rfl | rfl
      · exact digit (by omega)
      · exact digit (by omega)
      · exact Or.inr rfl
      · exact Or.inr rfl
  | case3 a b =>
      have aSize := a.toNat_lt
      have bSize := b.toNat_lt
      simp only [base64Encode, List.mem_cons, List.not_mem_nil, or_false]
        at member
      rcases member with rfl | rfl | rfl | rfl
      · exact digit (by omega)
      · exact digit (by omega)
      · exact digit (by omega)
      · exact Or.inr rfl
  | case4 a b c bytes induction =>
      have aSize := a.toNat_lt
      have bSize := b.toNat_lt
      have cSize := c.toNat_lt
      simp only [base64Encode, List.mem_cons] at member
      rcases member with rfl | rfl | rfl | rfl | later
      · exact digit (by omega)
      · exact digit (by omega)
      · exact digit (by omega)
      · exact digit (by omega)
      · exact induction later

end Lib
