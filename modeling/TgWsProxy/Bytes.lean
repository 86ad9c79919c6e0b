import Mathlib.Algebra.Group.Int.Defs
import Mathlib.Algebra.Group.Nat.Defs
import Mathlib.Data.List.Basic

/-!
# Byte strings and the access rules of the two languages

Both implementations work on byte strings.  A Python slice is clamped to the
string, an index out of range raises; a Rust slice or index out of range
panics.  Integers are read from bytes in either order.
-/

namespace TgWsProxy

abbrev Bytes := List UInt8

/-- `data[start:stop]` in Python, for offsets which are not negative. -/
def slice (data : Bytes) (start stop : Nat) : Bytes :=
  (data.take stop).drop start

@[simp] theorem length_slice (data : Bytes) (start stop : Nat) :
    (slice data start stop).length = min stop data.length - start := by
  simp [slice]

theorem slice_append_of_le {front : Bytes} (back : Bytes) {start stop : Nat}
    (inside : stop ≤ front.length) :
    slice (front ++ back) start stop = slice front start stop := by
  rw [slice, List.take_append_of_le_length inside, slice]

/-- A slice which starts behind the first part lies in the second. -/
theorem slice_append_right (front back : Bytes) (start stop : Nat) :
    slice (front ++ back) (front.length + start) (front.length + stop) =
      slice back start stop := by
  simp [slice, List.take_append, List.drop_append]

theorem slice_slice (data : Bytes) (start stop first last : Nat)
    (inside : start + last ≤ stop) :
    slice (slice data start stop) first last =
      slice data (start + first) (start + last) := by
  simp only [slice, List.take_drop, List.drop_drop, List.take_take,
    Nat.min_eq_left inside]

theorem slice_drop (data : Bytes) (offset start stop : Nat) :
    slice (data.drop offset) start stop =
      slice data (offset + start) (offset + stop) := by
  simp [slice, List.take_drop, List.drop_drop]

theorem slice_take (data : Bytes) {start stop limit : Nat}
    (inside : stop ≤ limit) :
    slice (data.take limit) start stop = slice data start stop := by
  simp [slice, List.take_take, Nat.min_eq_left inside]

/-- A slice at the unread part of a buffer. -/
theorem slice_eq_take_drop (data : Bytes) (offset first last : Nat) :
    slice data (offset + first) (offset + last) =
      ((data.drop offset).take last).drop first := by
  rw [← slice_drop]
  rfl

theorem length_of_drop_eq_cons {data rest : Bytes} {offset : Nat}
    {first : UInt8} (unread : data.drop offset = first :: rest) :
    data.length = offset + (rest.length + 1) := by
  have length := congrArg List.length unread
  simp only [List.length_drop, List.length_cons] at length
  omega

theorem getElem?_of_drop_eq_cons {data rest : Bytes} {offset : Nat}
    {first : UInt8} (unread : data.drop offset = first :: rest) :
    data[offset]? = some first := by
  have head : (data.drop offset)[0]? = some first := by
    rw [unread]
    rfl
  rwa [List.getElem?_drop, Nat.add_zero] at head

/-- `int.from_bytes(data, 'little')`. -/
def leNat : Bytes → Nat
  | [] => 0
  | byte :: bytes => byte.toNat + 256 * leNat bytes

/-- `value.to_bytes(count, 'little')` of a value which fits. -/
def natToLe : Nat → Nat → Bytes
  | 0, _ => []
  | count + 1, value => UInt8.ofNat value :: natToLe count (value / 256)

/-- `int.from_bytes(data, 'big')`. -/
def beNat (data : Bytes) : Nat := leNat data.reverse

/-- `value.to_bytes(count, 'big')` of a value which fits. -/
def natToBe (count value : Nat) : Bytes := (natToLe count value).reverse

@[simp] theorem length_natToLe (count value : Nat) :
    (natToLe count value).length = count := by
  induction count generalizing value with
  | zero => rfl
  | succ count induction => simp [natToLe, induction]

theorem leNat_lt (data : Bytes) : leNat data < 256 ^ data.length := by
  induction data with
  | nil => simp [leNat]
  | cons byte bytes induction =>
      have small := byte.toNat_lt
      simp only [leNat, List.length_cons, Nat.pow_succ]
      omega

theorem natToLe_leNat (data : Bytes) :
    natToLe data.length (leNat data) = data := by
  induction data with
  | nil => rfl
  | cons byte bytes induction =>
      have small := byte.toNat_lt
      have low : UInt8.ofNat (byte.toNat + 256 * leNat bytes) = byte := by
        apply UInt8.toNat_inj.mp
        rw [UInt8.toNat_ofNat']
        omega
      have high : (byte.toNat + 256 * leNat bytes) / 256 = leNat bytes := by
        omega
      simp only [List.length_cons, leNat, natToLe, low, high, induction]

theorem leNat_natToLe {count value : Nat} (fits : value < 256 ^ count) :
    leNat (natToLe count value) = value := by
  induction count generalizing value with
  | zero =>
      rw [Nat.pow_zero, Nat.lt_one_iff] at fits
      rw [fits]
      rfl
  | succ count induction =>
      have high : value / 256 < 256 ^ count := by
        rw [Nat.pow_succ] at fits
        omega
      rw [natToLe, leNat, induction high, UInt8.toNat_ofNat']
      omega

theorem beNat_natToBe {count value : Nat} (fits : value < 256 ^ count) :
    beNat (natToBe count value) = value := by
  rw [beNat, natToBe, List.reverse_reverse, leNat_natToLe fits]

@[simp] theorem length_natToBe (count value : Nat) :
    (natToBe count value).length = count := by
  rw [natToBe, List.length_reverse, length_natToLe]

theorem natToBe_beNat {data : Bytes} {count : Nat}
    (size : data.length = count) : natToBe count (beNat data) = data := by
  have reversed := natToLe_leNat data.reverse
  rw [List.length_reverse, size] at reversed
  rw [natToBe, beNat, reversed, List.reverse_reverse]

/-- Words are XORed byte by byte. -/
theorem leNat_zipWith_xor {left right : Bytes}
    (size : left.length = right.length) :
    leNat (List.zipWith (· ^^^ ·) left right) = leNat left ^^^ leNat right := by
  induction left generalizing right with
  | nil =>
      cases right with
      | nil => rfl
      | cons byte right => simp at size
  | cons first left induction =>
      cases right with
      | nil => simp at size
      | cons second right =>
          have tails := @induction right (by simpa using size)
          have digits (byte : UInt8) (high : Nat) (bit : Nat) :
              (byte.toNat + 256 * high).testBit bit =
                if bit < 8 then byte.toNat.testBit bit
                else high.testBit (bit - 8) := by
            rw [Nat.add_comm]
            exact Nat.testBit_two_pow_mul_add high byte.toNat_lt bit
          rw [List.zipWith_cons_cons, leNat, tails, leNat, leNat]
          apply Nat.eq_of_testBit_eq
          intro bit
          rw [Nat.testBit_xor, digits, digits, digits]
          split
          · rw [UInt8.toNat_xor, Nat.testBit_xor]
          · rw [Nat.testBit_xor]

theorem beNat_zipWith_xor {left right : Bytes}
    (size : left.length = right.length) :
    beNat (List.zipWith (· ^^^ ·) left right) = beNat left ^^^ beNat right := by
  have reversed : left.reverse.length = right.reverse.length := by simp [size]
  rw [beNat, List.reverse_zipWith size, leNat_zipWith_xor reversed, beNat, beNat]

/-- `int.from_bytes(data, 'little', signed=True)`. -/
def leInt (data : Bytes) : Int :=
  if 2 * leNat data < 256 ^ data.length then leNat data
  else (leNat data : Int) - 256 ^ data.length

/-- The two bytes of a 16-bit integer in little-endian order, negative values
in two's complement: `i16::to_le_bytes`, or `struct.pack('<h', value)` of a
value in range. -/
def i16ToLe (value : Int) : Bytes := natToLe 2 (value % 65536).toNat

@[simp] theorem length_i16ToLe (value : Int) : (i16ToLe value).length = 2 :=
  length_natToLe _ _

theorem leInt_range {data : Bytes} (size : data.length = 2) :
    -32768 ≤ leInt data ∧ leInt data ≤ 32767 := by
  have bound := leNat_lt data
  unfold leInt
  rw [size] at bound ⊢
  split <;> omega

namespace Python

/-- The exceptions which the modelled Python functions can raise. -/
inductive PyError where
  | indexError
  | keyError
  | typeError
  | valueError
  | runtimeError
  | connectionError
  | structError
  | timeoutError
  | cancelledError
deriving DecidableEq, Repr

/-- `data[index]`. -/
def getByte (data : Bytes) (index : Nat) : Except PyError UInt8 :=
  match data[index]? with
  | some byte => .ok byte
  | none => .error .indexError

theorem getByte_of_getElem? {data : Bytes} {index : Nat} {byte : UInt8}
    (present : data[index]? = some byte) : getByte data index = .ok byte := by
  rw [getByte, present]

end Python

namespace Rust

/-- The ways in which the modelled Rust functions can panic. -/
inductive Panic where
  | sliceIndex
  | tryFromSlice
  | arithmeticOverflow
  | capacityOverflow
  | invalidLength
deriving DecidableEq, Repr

/-- `data[index]`. -/
def getByte (data : Bytes) (index : Nat) : Except Panic UInt8 :=
  match data[index]? with
  | some byte => .ok byte
  | none => .error .sliceIndex

theorem getByte_of_getElem? {data : Bytes} {index : Nat} {byte : UInt8}
    (present : data[index]? = some byte) : getByte data index = .ok byte := by
  rw [getByte, present]

/-- `&data[start..stop]`. -/
def subslice (data : Bytes) (start stop : Nat) : Except Panic Bytes :=
  if start ≤ stop ∧ stop ≤ data.length then .ok (slice data start stop)
  else .error .sliceIndex

/-- `slice.try_into().unwrap()` for an array of `size` bytes. -/
def toArray (size : Nat) (data : Bytes) : Except Panic Bytes :=
  if data.length = size then .ok data else .error .tryFromSlice

theorem subslice_of_le {data : Bytes} {start stop : Nat}
    (ordered : start ≤ stop) (inside : stop ≤ data.length) :
    subslice data start stop = .ok (slice data start stop) := by
  simp [subslice, ordered, inside]

end Rust

end TgWsProxy
