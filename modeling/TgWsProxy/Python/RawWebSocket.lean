import TgWsProxy.WebSocket

/-!
# The Python frame functions

`_xor_mask`, `_build_frame` and `_read_frame` of `proxy/raw_websocket.py`.  The
compiled module which `_xor_mask` prefers is a parameter.
-/

namespace TgWsProxy.Python

open Lib

/-- The module `tg_ws_proxy_rs`, with what `_xor_mask` relies on. -/
structure NativeModule where
  xorMask : Bytes → Bytes → Bytes
  xorMask_eq : ∀ data mask, mask.length = 4 →
    xorMask data mask = maskBytes mask data

/-- The loop of `_xor_mask`, which takes four bytes at a time. -/
def xorWords (data : Bytes) (m32 : Nat) : Nat → Nat → Bytes → Bytes × Nat
  | 0, off, out => (out, off)
  | full + 1, off, out =>
      let v := beNat (slice data off (off + 4)) ^^^ m32
      xorWords data m32 full (off + 4) (out ++ natToBe 4 v)

def xorMask (native : Option NativeModule) (data mask : Bytes) :
    Except PyError Bytes :=
  match native with
  | some native => .ok (native.xorMask data mask)
  | none =>
      if data.length = 0 then .ok data
      else if mask.length ≠ 4 then .error .structError
      else
        let full := data.length / 4
        let rem := data.length % 4
        let (out, off) := xorWords data (beNat mask) full 0 []
        .ok (out ++ (List.range rem).map fun i =>
          data.getD (off + i) 0 ^^^ mask.getD i 0)

/-- `struct.pack('>..', ..)` of unsigned integers, given with their sizes. -/
def structPack : List (Nat × Nat) → Except PyError Bytes
  | [] => .ok []
  | (size, value) :: fields =>
      if value < 256 ^ size then do
        let later ← structPack fields
        return natToBe size value ++ later
      else .error .structError

/-- `_build_frame`.  The masking key is `_MASK_KEY` of the module. -/
def buildFrame (native : Option NativeModule) (maskKey : Bytes) (opcode : Nat)
    (data : Bytes) (mask : Bool) : Except PyError Bytes :=
  let length := data.length
  let fb := 0x80 ||| opcode
  if !mask then
    if length < 126 then do
      return (← structPack [(1, fb), (1, length)]) ++ data
    else if length < 65536 then do
      return (← structPack [(1, fb), (1, 126), (2, length)]) ++ data
    else do
      return (← structPack [(1, fb), (1, 127), (8, length)]) ++ data
  else do
    let masked ← xorMask native data maskKey
    if length < 126 then
      return (← structPack [(1, fb), (1, 0x80 ||| length)]) ++ maskKey ++ masked
    else if length < 65536 then
      return (← structPack [(1, fb), (1, 0x80 ||| 126), (2, length)]) ++
        maskKey ++ masked
    else
      return (← structPack [(1, fb), (1, 0x80 ||| 127), (8, length)]) ++
        maskKey ++ masked

/-- The extended lengths in `_read_frame`. -/
def readLength (length : Nat) : Reading UInt8 PyError Nat :=
  if length = 126 then do
    let field ← Reading.readExact 2
    return beNat field
  else if length = 127 then do
    let field ← Reading.readExact 8
    return beNat field
  else return length

/-- `_read_frame`. -/
def readFrame (native : Option NativeModule) :
    Reading UInt8 PyError (Nat × Bytes) := do
  let hdr ← Reading.readExact 2
  let opcode := (hdr.getD 0 0 &&& 0x0F).toNat
  let length ← readLength (hdr.getD 1 0 &&& 0x7F).toNat
  if hdr.getD 1 0 &&& 0x80 ≠ 0 then
    let maskKey ← Reading.readExact 4
    let payload ← Reading.readExact length
    match xorMask native payload maskKey with
    | .error error => .failed error
    | .ok payload => return (opcode, payload)
  else
    let payload ← Reading.readExact length
    return (opcode, payload)

section XorMask

variable {data mask : Bytes}

/-- Four bytes at a multiple of four meet the key from its beginning. -/
theorem maskBytes_word {off : Nat} (aligned : off % 4 = 0)
    (inside : off + 4 ≤ data.length) (keySize : mask.length = 4) :
    maskBytes mask (data.take (off + 4)) =
      maskBytes mask (data.take off) ++
        natToBe 4 (beNat (slice data off (off + 4)) ^^^ beNat mask) := by
  have cut : data.take (off + 4) =
      data.take off ++ slice data off (off + 4) := by
    rw [List.take_add, slice, List.drop_take, Nat.add_sub_cancel_left]
  have wordSize : (slice data off (off + 4)).length = 4 := by
    rw [length_slice]
    omega
  have frontSize : (data.take off).length = off := by
    rw [List.length_take]
    omega
  have word : natToBe 4 (beNat (slice data off (off + 4)) ^^^ beNat mask) =
      List.zipWith (· ^^^ ·) (slice data off (off + 4)) mask := by
    rw [← beNat_zipWith_xor (wordSize.trans keySize.symm)]
    exact natToBe_beNat (by simp [wordSize, keySize])
  rw [cut, maskBytes, mapAt_append, frontSize, Nat.zero_add, word, maskBytes]
  congr 1
  generalize slice data off (off + 4) = word at wordSize
  obtain ⟨a, b, c, d, rfl⟩ := List.length_eq_four.mp wordSize
  obtain ⟨k, l, m, n, rfl⟩ := List.length_eq_four.mp keySize
  have second : (off + 1) % 4 = 1 := by omega
  have third : (off + 1 + 1) % 4 = 2 := by omega
  have fourth : (off + 1 + 1 + 1) % 4 = 3 := by omega
  simp [aligned, second, third, fourth]

theorem xorWords_eq (full : Nat) {off : Nat} (aligned : off % 4 = 0)
    (inside : off + 4 * full ≤ data.length) (keySize : mask.length = 4) :
    xorWords data (beNat mask) full off (maskBytes mask (data.take off)) =
      (maskBytes mask (data.take (off + 4 * full)), off + 4 * full) := by
  induction full generalizing off with
  | zero => rfl
  | succ full induction =>
      have next := @induction (off + 4) (by omega) (by omega)
      have same : off + 4 + 4 * full = off + 4 * (full + 1) := by omega
      rw [xorWords, ← maskBytes_word aligned (by omega) keySize, next, same]

/-- `_xor_mask` masks, with the compiled module or without it. -/
theorem xorMask_eq (native : Option NativeModule) (data : Bytes)
    (keySize : mask.length = 4) :
    xorMask native data mask = .ok (maskBytes mask data) := by
  cases native with
  | some native => simp only [xorMask, native.xorMask_eq data mask keySize]
  | none =>
      by_cases empty : data.length = 0
      · rw [List.eq_nil_of_length_eq_zero empty]
        rfl
      · have words := @xorWords_eq data mask (data.length / 4) 0 rfl (by omega)
          keySize
        have start : maskBytes mask (data.take 0) = [] := rfl
        rw [start, Nat.zero_add] at words
        simp only [xorMask, if_neg empty, if_neg (not_not_intro keySize), words,
          Except.ok.injEq]
        have whole : maskBytes mask data =
            maskBytes mask (data.take (4 * (data.length / 4))) ++
              mapAt (fun index byte => byte ^^^ mask.getD (index % 4) 0)
                (4 * (data.length / 4))
                (data.drop (4 * (data.length / 4))) := by
          conv_lhs => rw [← List.take_append_drop (4 * (data.length / 4)) data]
          rw [maskBytes, mapAt_append, Nat.zero_add, List.length_take,
            Nat.min_eq_left (by omega), maskBytes]
        rw [whole]
        congr 1
        apply List.ext_getElem?
        intro index
        rw [mapAt_getElem?, List.getElem?_drop, List.getElem?_map]
        by_cases within : index < data.length % 4
        · have position : (4 * (data.length / 4) + index) % 4 = index := by
            omega
          have present : 4 * (data.length / 4) + index < data.length := by
            omega
          rw [List.getElem?_range within, position,
            List.getElem?_eq_getElem present]
          simp [List.getD_eq_getElem?_getD, present]
        · rw [List.getElem?_eq_none (by simpa using within),
            List.getElem?_eq_none (by omega)]
          rfl

end XorMask

section Frames

theorem structPack_cons {size value : Nat} (fits : value < 256 ^ size)
    (fields : List (Nat × Nat)) :
    structPack ((size, value) :: fields) = (do
      let later ← structPack fields
      return natToBe size value ++ later) :=
  if_pos fits

/-- The two bytes which every header starts with. -/
theorem structPack_header (opcode : Fin 16) {second : Nat} (small : second < 256)
    {fields : List (Nat × Nat)} {later : Bytes}
    (packed : structPack fields = .ok later) :
    structPack ((1, 0x80 ||| opcode.val) :: (1, second) :: fields) =
      .ok (WsFrame.firstByte true opcode :: UInt8.ofNat second :: later) := by
  have first : 0x80 ||| opcode.val < 256 ^ 1 := by
    apply @Nat.or_lt_two_pow _ _ 8 (by decide)
    exact Nat.lt_trans opcode.isLt (by decide)
  have byte : UInt8.ofNat (0x80 ||| opcode.val) =
      WsFrame.firstByte true opcode := by
    revert opcode
    decide
  rw [structPack_cons first, structPack_cons small, packed]
  simp [natToBe, natToLe, bind, Except.bind, pure, Except.pure, byte]

theorem secondByte_eq (masked : Bool) {marker : Nat} (small : marker < 128) :
    UInt8.ofNat (if masked then 0x80 ||| marker else marker) =
      WsFrame.secondByte masked marker := by
  have all : ∀ masked : Bool, ∀ marker < 128,
      UInt8.ofNat (if masked then 0x80 ||| marker else marker) =
        WsFrame.secondByte masked marker := by
    decide +kernel
  exact all masked marker small

/-- The fields which follow the first two bytes of a header. -/
def lengthFields : LengthForm → Nat → List (Nat × Nat)
  | .short, _ => []
  | .medium, len => [(2, len)]
  | .long, len => [(8, len)]

theorem structPack_lengthFields {form : LengthForm} {len : Nat}
    (fits : form.Fits len) :
    structPack (lengthFields form len) = .ok (form.extended len) := by
  have single {size : Nat} (small : len < 256 ^ size) :
      structPack [(size, len)] = .ok (natToBe size len) := by
    rw [structPack_cons small]
    exact congrArg Except.ok (List.append_nil _)
  cases form with
  | short => rfl
  | medium => exact single fits
  | long =>
      apply single
      exact Nat.lt_trans fits (by decide)

/-- The packed header of a frame, whichever form its length takes. -/
theorem structPack_form (opcode : Fin 16) (masked : Bool) {form : LengthForm}
    {len : Nat} (fits : form.Fits len) :
    structPack ((1, 0x80 ||| opcode.val) ::
        (1, if masked then 0x80 ||| form.marker len else form.marker len) ::
        lengthFields form len) =
      .ok (WsFrame.firstByte true opcode ::
        WsFrame.secondByte masked (form.marker len) :: form.extended len) := by
  have marker := LengthForm.marker_lt fits
  have second : (if masked then 0x80 ||| form.marker len
      else form.marker len) < 256 := by
    split
    · apply @Nat.or_lt_two_pow _ _ 8 (by decide)
      exact Nat.lt_trans marker (by decide)
    · exact Nat.lt_trans marker (by decide)
  rw [← secondByte_eq masked marker]
  exact structPack_header opcode second (structPack_lengthFields fits)

/-- The branches of `_build_frame` differ in what they pack. -/
theorem buildFrame_branches (native : Option NativeModule) (maskKey : Bytes)
    (opcode : Nat) (data : Bytes) (mask : Bool) :
    buildFrame native maskKey opcode data mask = (do
      let form := LengthForm.shortestFor data.length
      let later ← if mask then do
          let masked ← xorMask native data maskKey
          pure (maskKey ++ masked)
        else pure data
      let marker := form.marker data.length
      let header ← structPack ((1, 0x80 ||| opcode) ::
        (1, if mask then 0x80 ||| marker else marker) ::
        lengthFields form data.length)
      return header ++ later) := by
  have tied (result : Except PyError Bytes) (back : Bytes) :
      (do return (← result) ++ maskKey ++ back) =
        do return (← result) ++ (maskKey ++ back) := by
    simp only [List.append_assoc]
  by_cases short : data.length < 126
  · simp only [buildFrame, if_pos short, LengthForm.shortestFor_of_short short]
    cases mask with
    | false => rfl
    | true => cases xorMask native data maskKey with
      | error error => rfl
      | ok masked => exact tied _ masked
  · by_cases medium : data.length < 65536
    · simp only [buildFrame, if_neg short, if_pos medium,
        LengthForm.shortestFor_of_medium short medium]
      cases mask with
      | false => rfl
      | true => cases xorMask native data maskKey with
        | error error => rfl
        | ok masked => exact tied _ masked
    · simp only [buildFrame, if_neg short, if_neg medium,
        LengthForm.shortestFor_of_long short medium]
      cases mask with
      | false => rfl
      | true => cases xorMask native data maskKey with
        | error error => rfl
        | ok masked => exact tied _ masked

/-- `_build_frame` writes a whole frame in the shortest form. -/
theorem buildFrame_eq (native : Option NativeModule) (opcode : Fin 16)
    {payload : Bytes} (mask : Bool) {maskKey : Bytes}
    (size : maskKey.length = 4)
    (keySize : ∀ key ∈ (if mask then some maskKey else none), key.length = 4)
    (fits : (LengthForm.shortestFor payload.length).Fits payload.length) :
    buildFrame native maskKey opcode payload mask =
      .ok (WsFrame.whole opcode payload (if mask then some maskKey else none)
        keySize fits).encode := by
  rw [buildFrame_branches]
  simp only [structPack_form opcode mask fits]
  cases mask with
  | false => rfl
  | true =>
      simp only [if_true, xorMask_eq native payload size]
      rfl

theorem readLength_extended {form : LengthForm} {len : Nat}
    (fits : form.Fits len) (later : Bytes) :
    (readLength (form.marker len)).on (form.extended len ++ later) =
      .done len later :=
  lengthField_extended fits later

/-- `_read_frame` reads back each frame, in whichever form its length is. -/
theorem readFrame_encode (native : Option NativeModule) (frame : WsFrame)
    (later : Bytes) :
    (readFrame native).on (frame.encode ++ later) =
      .done (frame.opcode.val, frame.payload) later := by
  have small := LengthForm.marker_lt frame.fits
  have opcode : (UInt8.ofNat frame.opcode).toNat = frame.opcode.val := by
    rw [UInt8.toNat_ofNat']
    omega
  rw [readFrame, WsFrame.encode, List.append_assoc, Reading.on_bind,
    Reading.on_readExact (show ([_, _] : Bytes).length = 2 from rfl)]
  simp only [List.getD_cons_zero, List.getD_cons_succ, firstByte_opcode,
    secondByte_marker _ small, List.append_assoc, opcode]
  rw [Reading.on_bind, readLength_extended frame.fits]
  simp only [secondByte_masked _ small]
  cases mask : frame.maskKey with
  | none =>
      simp only [Option.isSome_none, Bool.false_eq_true, if_false]
      rw [Reading.on_bind, Reading.on_readExact rfl]
      rfl
  | some key =>
      have keySize : key.length = 4 := frame.keySize key mask
      have dataSize := length_maskBytes key frame.payload
      simp only [Option.isSome_some, if_true, List.append_assoc]
      rw [Reading.on_bind, Reading.on_readExact keySize]
      simp only [Reading.on_bind, Reading.on_readExact dataSize,
        xorMask_eq native _ keySize, maskBytes_maskBytes, Reading.on_pure]

end Frames

end TgWsProxy.Python
