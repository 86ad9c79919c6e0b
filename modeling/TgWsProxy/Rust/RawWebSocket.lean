import TgWsProxy.WebSocket

/-!
# The Rust WebSocket client

`read_frame` and `RawWebSocket` of `raw_websocket.rs`.  `read_frame` reads with
`read_exact`, whose future has already taken an incomplete piece from the
reader when it is dropped.
-/

namespace TgWsProxy.Rust

open Lib

/-- A masking key, as `build_frame` draws one for each frame. -/
abbrev MaskKey := { key : Bytes // key.length = 4 }

def xorMask (data mask : Bytes) : Bytes :=
  data.mapIdx fun index byte => byte ^^^ mask.getD (index &&& 3) 0

/-- `build_frame`, with the random key which a masked frame draws. -/
def buildFrame (opcode : UInt8) (data : Bytes) (mask : Bool)
    (maskKey : Bytes) : Bytes :=
  let len := data.length
  let frame := [0x80 ||| opcode]
  if mask then
    let frame :=
      if len < 126 then frame ++ [0x80 ||| UInt8.ofNat len]
      else if len < 65536 then frame ++ [0x80 ||| 126] ++ natToBe 2 len
      else frame ++ [0x80 ||| 127] ++ natToBe 8 len
    frame ++ maskKey ++ xorMask data maskKey
  else
    let frame :=
      if len < 126 then frame ++ [UInt8.ofNat len]
      else if len < 65536 then frame ++ [126] ++ natToBe 2 len
      else frame ++ [127] ++ natToBe 8 len
    frame ++ data

/-- `vec![0u8; length]`, whose size may not exceed `isize::MAX`. -/
def zeroedVec (length : Nat) : Reading UInt8 Panic Unit :=
  if length < 2 ^ 63 then pure () else .failed .capacityOverflow

def readLength (length : Nat) : Reading UInt8 Panic Nat :=
  if length = 126 then do
    let buf ← Reading.readExact 2
    return beNat buf
  else if length = 127 then do
    let buf ← Reading.readExact 8
    return beNat buf
  else return length

def readFrame : Reading UInt8 Panic (UInt8 × Bytes) := do
  let hdr ← Reading.readExact 2
  let opcode := hdr.getD 0 0 &&& 0x0F
  let length ← readLength (hdr.getD 1 0 &&& 0x7F).toNat
  if hdr.getD 1 0 &&& 0x80 ≠ 0 then
    let maskKey ← Reading.readExact 4
    zeroedVec length
    let data ← Reading.readExact length
    return (opcode, xorMask data maskKey)
  else
    zeroedVec length
    let data ← Reading.readExact length
    return (opcode, data)

structure RawWebSocket where
  closed : Bool
  /-- The frames written so far, without their random masking keys. -/
  frames : List (UInt8 × Bytes)
  /-- What `reader` still holds. -/
  unread : Bytes
  /-- What the pending `recv` has taken of the current frame. -/
  taken : Bytes
deriving DecidableEq, Repr

/-- What a poll of `recv` comes to. -/
inductive Received where
  | pending
  | message (payload : Bytes)
  | close
  | panicked (panic : Panic)
deriving DecidableEq, Repr

namespace RawWebSocket

/-- `recv` until its next frame is complete, or until it waits. -/
def pollRecv (ws : RawWebSocket) : Received × RawWebSocket :=
  match readFrame.on (ws.taken ++ ws.unread) with
  | .waiting =>
      (.pending, { ws with taken := ws.taken ++ ws.unread, unread := [] })
  | .failed panic => (.panicked panic, ws)
  | .done (opcode, payload) rest =>
      let ws := { ws with taken := [], unread := rest }
      if opcode = 0x8 then
        (.close,
          { ws with
            closed := true
            frames := ws.frames ++ [(0x8, payload.take 2)] })
      else if opcode = 0x9 then
        (.pending, { ws with frames := ws.frames ++ [(0xA, payload)] })
      else if opcode = 0x1 ∨ opcode = 0x2 then (.message payload, ws)
      else (.pending, ws)

/-- The future of `recv` is dropped. -/
def dropRecv (ws : RawWebSocket) : RawWebSocket := { ws with taken := [] }

/-- `send_batch`, and `send` for a single part.  A write or the flush may fail;
the error keeps the frames which were written before. -/
def sendBatch (ws : RawWebSocket) (parts : List Bytes)
    (failsAfter : Option Nat) : Except RawWebSocket RawWebSocket :=
  if ws.closed then .error ws
  else
    match failsAfter with
    | none => .ok { ws with frames := ws.frames ++ parts.map (0x2, ·) }
    | some count =>
        .error
          { ws with frames := ws.frames ++ (parts.take count).map (0x2, ·) }

def close (ws : RawWebSocket) : RawWebSocket :=
  if ws.closed then ws
  else { ws with closed := true, frames := ws.frames ++ [(0x8, [])] }

end RawWebSocket

section ReadFrame

theorem xorMask_eq (data mask : Bytes) : xorMask data mask = maskBytes mask data := by
  apply List.ext_getElem?
  intro index
  rw [xorMask, maskBytes, mapAt_getElem?, List.getElem?_mapIdx, Nat.zero_add]
  have position : index &&& 3 = index % 4 := Nat.and_two_pow_sub_one_eq_mod index 2
  rw [position]

theorem readLength_extended {form : LengthForm} {len : Nat}
    (fits : form.Fits len) (later : Bytes) :
    (readLength (form.marker len)).on (form.extended len ++ later) =
      .done len later :=
  lengthField_extended fits later

theorem zeroedVec_of_lt {length : Nat} (allocates : length < 2 ^ 63)
    (items : Bytes) : (zeroedVec length).on items = .done () items := by
  rw [zeroedVec, if_pos allocates, Reading.on_pure]

/-- `read_frame` reads back each frame, in whichever form its length is. -/
theorem readFrame_encode (frame : WsFrame) (later : Bytes) :
    readFrame.on (frame.encode ++ later) =
      .done (UInt8.ofNat frame.opcode, frame.payload) later := by
  have small := LengthForm.marker_lt frame.fits
  have allocates := LengthForm.lt_of_fits frame.fits
  rw [readFrame, WsFrame.encode, List.append_assoc, Reading.on_bind,
    Reading.on_readExact (show ([_, _] : Bytes).length = 2 from rfl)]
  simp only [List.getD_cons_zero, List.getD_cons_succ, firstByte_opcode,
    secondByte_marker _ small, List.append_assoc]
  rw [Reading.on_bind, readLength_extended frame.fits]
  simp only [secondByte_masked _ small]
  cases mask : frame.maskKey with
  | none =>
      simp only [Option.isSome_none, Bool.false_eq_true, if_false]
      rw [Reading.on_bind, zeroedVec_of_lt allocates]
      simp only [Reading.on_bind, Reading.on_readExact rfl, Reading.on_pure]
  | some key =>
      have keySize : key.length = 4 := frame.keySize key mask
      have dataSize := length_maskBytes key frame.payload
      simp only [Option.isSome_some, if_true, List.append_assoc]
      rw [Reading.on_bind, Reading.on_readExact keySize]
      simp only [Reading.on_bind, zeroedVec_of_lt allocates,
        Reading.on_readExact dataSize, Reading.on_pure, xorMask_eq,
        maskBytes_maskBytes]

/-- The length which `build_frame` writes behind the first byte. -/
theorem lengthBytes_eq (front : Bytes) (masked : Bool) (len : Nat) :
    (if len < 126 then front ++ [WsFrame.secondByte masked len]
      else if len < 65536 then
        front ++ [WsFrame.secondByte masked 126] ++ natToBe 2 len
      else front ++ [WsFrame.secondByte masked 127] ++ natToBe 8 len) =
      front ++ WsFrame.secondByte masked
          ((LengthForm.shortestFor len).marker len) ::
        (LengthForm.shortestFor len).extended len := by
  by_cases short : len < 126
  · rw [if_pos short, LengthForm.shortestFor_of_short short]
    rfl
  · rw [if_neg short]
    by_cases medium : len < 65536
    · rw [if_pos medium, LengthForm.shortestFor_of_medium short medium,
        List.append_assoc]
      rfl
    · rw [if_neg medium, LengthForm.shortestFor_of_long short medium,
        List.append_assoc]
      rfl

/-- `build_frame` writes a whole frame in the shortest form. -/
theorem buildFrame_eq (opcode : Fin 16) {payload : Bytes} (mask : Bool)
    {maskKey : Bytes}
    (keySize : ∀ key ∈ (if mask then some maskKey else none), key.length = 4)
    (fits : (LengthForm.shortestFor payload.length).Fits payload.length) :
    buildFrame (UInt8.ofNat opcode) payload mask maskKey =
      (WsFrame.whole opcode payload (if mask then some maskKey else none)
        keySize fits).encode := by
  have length := lengthBytes_eq [WsFrame.firstByte true opcode] mask
    payload.length
  cases mask with
  | true =>
      have written : buildFrame (UInt8.ofNat opcode) payload true maskKey =
          (if payload.length < 126 then
              [WsFrame.firstByte true opcode] ++
                [WsFrame.secondByte true payload.length]
            else if payload.length < 65536 then
              [WsFrame.firstByte true opcode] ++ [WsFrame.secondByte true 126] ++
                natToBe 2 payload.length
            else
              [WsFrame.firstByte true opcode] ++ [WsFrame.secondByte true 127] ++
                natToBe 8 payload.length) ++ maskKey ++
            xorMask payload maskKey :=
        rfl
      rw [written, length, xorMask_eq]
      simp [WsFrame.encode, WsFrame.whole]
  | false =>
      have plain (marker : Nat) :
          WsFrame.secondByte false marker = UInt8.ofNat marker :=
        UInt8.zero_or
      have written : buildFrame (UInt8.ofNat opcode) payload false maskKey =
          (if payload.length < 126 then
              [WsFrame.firstByte true opcode] ++ [UInt8.ofNat payload.length]
            else if payload.length < 65536 then
              [WsFrame.firstByte true opcode] ++ [UInt8.ofNat 126] ++
                natToBe 2 payload.length
            else
              [WsFrame.firstByte true opcode] ++ [UInt8.ofNat 127] ++
                natToBe 8 payload.length) ++ payload :=
        rfl
      simp only [plain] at length
      rw [written, length]
      simp [WsFrame.encode, WsFrame.whole, plain]

end ReadFrame

namespace RawWebSocket

variable {ws : RawWebSocket}

theorem pollRecv_of_waiting
    (waiting : readFrame.on (ws.taken ++ ws.unread) = .waiting) :
    ws.pollRecv =
      (.pending, { ws with taken := ws.taken ++ ws.unread, unread := [] }) := by
  rw [pollRecv, waiting]

/-- A binary frame which is complete becomes a message. -/
theorem pollRecv_of_binary {payload rest : Bytes}
    (complete : readFrame.on (ws.taken ++ ws.unread) = .done (0x2, payload) rest) :
    ws.pollRecv = (.message payload, { ws with taken := [], unread := rest }) := by
  rw [pollRecv, complete]
  rfl

end RawWebSocket

end TgWsProxy.Rust
