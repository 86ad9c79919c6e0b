import TgWsProxy.Lib.FilledBuffer
import TgWsProxy.Python.RawWebSocket
import TgWsProxy.Rust.RawWebSocket

/-!
# Masking by words

Without the compiled module, `_xor_mask` allocates its result and writes it word
by word, and then the bytes which are left over one by one.
-/

namespace TgWsProxy

open Lib

namespace Python

/-- `struct.unpack('>I', data)[0]`. -/
def unpackBe32 (data : Bytes) : Except PyError Nat :=
  if data.length = 4 then .ok (beNat data) else .error .structError

/-- `struct.unpack_from('>I', data, offset)[0]`. -/
def unpackFromBe32 (data : Bytes) (offset : Nat) : Except PyError Nat :=
  if offset + 4 ≤ data.length then .ok (beNat (slice data offset (offset + 4)))
  else .error .structError

/-- `struct.pack_into('>I', out, offset, value)`. -/
def packIntoBe32 (out : Bytes) (offset value : Nat) : Except PyError Bytes :=
  if value < 2 ^ 32 ∧ offset + 4 ≤ out.length then
    .ok (overwrite out offset (natToBe 4 value))
  else .error .structError

/-- `out[index] = byte`. -/
def setByte (out : Bytes) (index : Nat) (byte : UInt8) : Except PyError Bytes :=
  if index < out.length then .ok (out.set index byte) else .error .indexError

/-- The loop over the words in `_xor_mask`, with `off` and `out`. -/
def writeWords (data : Bytes) (m32 : Nat) :
    Nat → Nat → Bytes → Except PyError (Nat × Bytes)
  | 0, off, out => return (off, out)
  | full + 1, off, out => do
      let v := (← unpackFromBe32 data off) ^^^ m32
      let out ← packIntoBe32 out off v
      writeWords data m32 full (off + 4) out

/-- The assignment in the loop over the remainder. -/
def writeRemainder (data mask : Bytes) (off : Nat) (out : Bytes) (i : Nat) :
    Except PyError Bytes := do
  setByte out (off + i) ((← getByte data (off + i)) ^^^ (← getByte mask i))

/-- `_xor_mask` without the compiled module, by what it writes into `out`. -/
def xorMaskInPlace (data mask : Bytes) : Except PyError Bytes := do
  let n := data.length
  if n = 0 then return data
  let m32 ← unpackBe32 mask
  let out := List.replicate n 0
  let (full, rem) := (n / 4, n % 4)
  let (off, out) ← writeWords data m32 full 0 out
  (List.range rem).foldlM (writeRemainder data mask off) out

section InPlace

variable {data mask out : Bytes} {off : Nat}

/-- The word at a multiple of four, in the masked bytes. -/
theorem take_drop_maskBytes (aligned : off % 4 = 0)
    (inside : off + 4 ≤ data.length) (keySize : mask.length = 4) :
    ((maskBytes mask data).drop off).take 4 =
      natToBe 4 (beNat (slice data off (off + 4)) ^^^ beNat mask) := by
  have word := maskBytes_word aligned inside keySize
  simp only [maskBytes, mapAt_take] at word
  have front : ((maskBytes mask data).take off).length = off := by
    rw [List.length_take, length_maskBytes]
    omega
  calc ((maskBytes mask data).drop off).take 4
      = ((maskBytes mask data).take (off + 4)).drop off := List.take_drop
    _ = ((maskBytes mask data).take off ++
          natToBe 4 (beNat (slice data off (off + 4)) ^^^ beNat mask)).drop off :=
        congrArg (List.drop off) word
    _ = natToBe 4 (beNat (slice data off (off + 4)) ^^^ beNat mask) :=
        List.drop_left' front

/-- Words which are XORed stay words. -/
theorem word_xor_lt (inside : off + 4 ≤ data.length) (keySize : mask.length = 4) :
    beNat (slice data off (off + 4)) ^^^ beNat mask < 2 ^ 32 := by
  have ofData := leNat_lt (slice data off (off + 4)).reverse
  have ofMask := leNat_lt mask.reverse
  have wordSize : (slice data off (off + 4)).length = 4 := by
    rw [length_slice]
    omega
  rw [List.length_reverse, wordSize] at ofData
  rw [List.length_reverse, keySize] at ofMask
  exact Nat.xor_lt_two_pow ofData ofMask

/-- One word is read, masked and written where the loop has come to. -/
theorem packIntoBe32_filled (aligned : off % 4 = 0)
    (inside : off + 4 ≤ data.length) (keySize : mask.length = 4)
    (filled : FilledTo (maskBytes mask data) off out) :
    ∃ written,
      packIntoBe32 out off (beNat (slice data off (off + 4)) ^^^ beNat mask) =
        .ok written ∧
      FilledTo (maskBytes mask data) (off + 4) written := by
  let word := natToBe 4 (beNat (slice data off (off + 4)) ^^^ beNat mask)
  have wordSize : word.length = 4 := length_natToBe _ _
  have size : out.length = data.length :=
    filled.size.trans (length_maskBytes mask data)
  have room : off + 4 ≤ out.length := by omega
  refine ⟨overwrite out off word, if_pos ⟨word_xor_lt inside keySize, room⟩, ?_⟩
  have within : off + word.length ≤ (maskBytes mask data).length := by
    rw [wordSize, length_maskBytes]
    exact inside
  have piece : ((maskBytes mask data).drop off).take word.length = word := by
    rw [wordSize]
    exact take_drop_maskBytes aligned inside keySize
  simpa only [wordSize] using filled.overwrite within piece

/-- The loop over the words keeps `out` right up to `off`, which is a multiple
of four. -/
theorem writeWords_filled (full : Nat) (aligned : off % 4 = 0)
    (inside : off + 4 * full ≤ data.length) (keySize : mask.length = 4)
    (filled : FilledTo (maskBytes mask data) off out) :
    ∃ written,
      writeWords data (beNat mask) full off out = .ok (off + 4 * full, written) ∧
      FilledTo (maskBytes mask data) (off + 4 * full) written := by
  induction full generalizing off out with
  | zero => exact ⟨out, rfl, filled⟩
  | succ full induction =>
      have here : off + 4 ≤ data.length := by omega
      obtain ⟨next, packed, nextFilled⟩ :=
        packIntoBe32_filled aligned here keySize filled
      obtain ⟨written, wrote, writtenFilled⟩ :=
        @induction next (off + 4) (by omega) (by omega) nextFilled
      have position : off + 4 + 4 * full = off + 4 * (full + 1) := by omega
      rw [position] at wrote writtenFilled
      refine ⟨written, ?_, writtenFilled⟩
      simpa only [writeWords, unpackFromBe32, if_pos here, packed, bind,
        Except.bind] using wrote

/-- Behind the last word the masking key begins again. -/
theorem writeRemainder_filled {i : Nat} (aligned : off % 4 = 0) (last : i < 4)
    (inside : off + i < data.length) (keySize : mask.length = 4)
    (filled : FilledTo (maskBytes mask data) (off + i) out) :
    ∃ written, writeRemainder data mask off out i = .ok written ∧
      FilledTo (maskBytes mask data) (off + i + 1) written := by
  obtain ⟨byte, ofData⟩ : ∃ byte, data[off + i]? = some byte :=
    ⟨_, List.getElem?_eq_getElem inside⟩
  obtain ⟨key, ofMask⟩ : ∃ key, mask[i]? = some key :=
    ⟨_, List.getElem?_eq_getElem (by omega)⟩
  have size : out.length = data.length :=
    filled.size.trans (length_maskBytes mask data)
  have room : off + i < out.length := by omega
  have position : (0 + (off + i)) % 4 = i := by omega
  have present : (maskBytes mask data)[off + i]? = some (byte ^^^ key) := by
    simp only [maskBytes, mapAt_getElem?, ofData, Option.map_some, position,
      List.getD_eq_getElem?_getD, ofMask, Option.getD_some]
  refine ⟨out.set (off + i) (byte ^^^ key), ?_, filled.set present⟩
  simp only [writeRemainder, setByte, getByte_of_getElem? ofData,
    getByte_of_getElem? ofMask, if_pos room, bind, Except.bind]

/-- The loop over the remainder keeps `out` right up to the byte which it has
come to. -/
theorem foldlM_writeRemainder_filled {rem : Nat} (aligned : off % 4 = 0)
    (last : rem ≤ 4) (inside : off + rem ≤ data.length)
    (keySize : mask.length = 4)
    (filled : FilledTo (maskBytes mask data) off out) :
    ∃ written,
      (List.range rem).foldlM (writeRemainder data mask off) out = .ok written ∧
      FilledTo (maskBytes mask data) (off + rem) written := by
  induction rem with
  | zero => exact ⟨out, rfl, filled⟩
  | succ rem induction =>
      obtain ⟨before, wrote, beforeFilled⟩ := induction (by omega) (by omega)
      obtain ⟨written, wroteLast, writtenFilled⟩ :=
        writeRemainder_filled aligned last inside keySize beforeFilled
      refine ⟨written, ?_, writtenFilled⟩
      simp only [List.range_succ, List.foldlM_append, wrote, List.foldlM_cons,
        List.foldlM_nil, wroteLast, bind, Except.bind, pure, Except.pure]

theorem xorMaskInPlace_eq (data : Bytes) (keySize : mask.length = 4) :
    xorMaskInPlace data mask = .ok (maskBytes mask data) := by
  by_cases empty : data.length = 0
  · simp only [List.eq_nil_of_length_eq_zero empty]
    rfl
  · have start : FilledTo (maskBytes mask data) 0
        (List.replicate data.length 0) :=
      FilledTo.start (by simp only [List.length_replicate, length_maskBytes])
    obtain ⟨words, wroteWords, wordsFilled⟩ :=
      writeWords_filled (data.length / 4) rfl (by omega) keySize start
    obtain ⟨written, wrote, writtenFilled⟩ :=
      foldlM_writeRemainder_filled (by omega)
        (Nat.le_of_lt (Nat.mod_lt data.length (by omega))) (by omega) keySize
        wordsFilled
    have whole : 0 + 4 * (data.length / 4) + data.length % 4 =
        (maskBytes mask data).length := by
      rw [length_maskBytes]
      omega
    rw [whole] at writtenFilled
    rw [← writtenFilled.eq_result]
    simpa only [xorMaskInPlace, if_neg empty, unpackBe32, if_pos keySize,
      wroteWords, bind, Except.bind] using wrote

end InPlace

end Python

/-- Each byte is XORed with the byte of the key at its position modulo four. -/
structure MaskedBy (mask data masked : Bytes) : Prop where
  size : masked.length = data.length
  bytes : ∀ index, masked[index]? = (data[index]?).bind fun byte =>
    (mask[index % 4]?).map fun key => byte ^^^ key

theorem maskedBy_maskBytes {mask : Bytes} (data : Bytes)
    (keySize : mask.length = 4) : MaskedBy mask data (maskBytes mask data) := by
  refine ⟨length_maskBytes mask data, ?_⟩
  intro index
  have key : mask[index % 4]? = some (mask.getD (index % 4) 0) := by
    have inside : index % 4 < mask.length := by omega
    simp only [List.getD_eq_getElem?_getD, List.getElem?_eq_getElem inside,
      Option.getD_some]
  simp only [maskBytes, mapAt_getElem?, Nat.zero_add, key, Option.map_some]
  exact Option.map_eq_bind

/-- `_xor_mask` without the compiled module returns what `xor_mask` returns, and
takes it back. -/
theorem xorMask_by_words (data : Bytes) (mask : Rust.MaskKey) :
    ∃ masked, Python.xorMaskInPlace data mask.val = .ok masked ∧
      masked = Rust.xorMask data mask.val ∧
      MaskedBy mask.val data masked ∧
      Python.xorMaskInPlace masked mask.val = .ok data ∧
      Rust.xorMask masked mask.val = data := by
  have keySize := mask.property
  refine ⟨maskBytes mask.val data, Python.xorMaskInPlace_eq data keySize,
    (Rust.xorMask_eq data mask.val).symm, maskedBy_maskBytes data keySize, ?_, ?_⟩
  · rw [Python.xorMaskInPlace_eq _ keySize, maskBytes_maskBytes]
  · rw [Rust.xorMask_eq, maskBytes_maskBytes]

example : Python.xorMaskInPlace [0x68, 0x65, 0x6c, 0x6c, 0x6f] [1, 2, 3, 4] =
    .ok [0x69, 0x67, 0x6f, 0x68, 0x6e] := rfl

end TgWsProxy
