import TgWsProxy.Bytes
import TgWsProxy.Lib.ExactReader
import TgWsProxy.Lib.PositionalMap

/-!
# WebSocket frames

The frame format of RFC 6455 without extensions.  A length is written in one
of three forms, of which a sender should choose the shortest; the readers
accept each of them.
-/

namespace TgWsProxy

open Lib

inductive LengthForm where
  | short
  | medium
  | long
deriving DecidableEq, Repr

namespace LengthForm

/-- The lengths which a form can express.  The top bit of the long form is
zero. -/
def Fits : LengthForm → Nat → Prop
  | .short, len => len < 126
  | .medium, len => len < 2 ^ 16
  | .long, len => len < 2 ^ 63

instance (form : LengthForm) (len : Nat) : Decidable (form.Fits len) :=
  match form with
  | .short => inferInstanceAs (Decidable (len < 126))
  | .medium => inferInstanceAs (Decidable (len < 2 ^ 16))
  | .long => inferInstanceAs (Decidable (len < 2 ^ 63))

/-- The seven bits of the second byte. -/
def marker : LengthForm → Nat → Nat
  | .short, len => len
  | .medium, _ => 126
  | .long, _ => 127

def extended : LengthForm → Nat → Bytes
  | .short, _ => []
  | .medium, len => natToBe 2 len
  | .long, len => natToBe 8 len

/-- The bytes which a form adds to the second byte. -/
def size : LengthForm → Nat
  | .short => 0
  | .medium => 2
  | .long => 8

def shortestFor (len : Nat) : LengthForm :=
  if len < 126 then .short else if len < 2 ^ 16 then .medium else .long

end LengthForm

/-- The payload as it is sent under a masking key, and the inverse. -/
def maskBytes (key payload : Bytes) : Bytes :=
  mapAt (fun index byte => byte ^^^ key.getD (index % 4) 0) 0 payload

structure WsFrame where
  fin : Bool
  opcode : Fin 16
  maskKey : Option Bytes
  form : LengthForm
  payload : Bytes
  keySize : ∀ key ∈ maskKey, key.length = 4
  fits : form.Fits payload.length

namespace WsFrame

def firstByte (fin : Bool) (opcode : Fin 16) : UInt8 :=
  (if fin then 0x80 else 0) ||| UInt8.ofNat opcode

def secondByte (masked : Bool) (marker : Nat) : UInt8 :=
  (if masked then 0x80 else 0) ||| UInt8.ofNat marker

def encode (frame : WsFrame) : Bytes :=
  [firstByte frame.fin frame.opcode,
    secondByte frame.maskKey.isSome (frame.form.marker frame.payload.length)] ++
    (frame.form.extended frame.payload.length ++
      match frame.maskKey with
      | none => frame.payload
      | some key => key ++ maskBytes key frame.payload)

/-- Reading a length whose seven bits are `marker`. -/
def lengthField {Error : Type} (marker : Nat) : Reading UInt8 Error Nat :=
  if marker = 126 then do
    let field ← Reading.readExact 2
    return beNat field
  else if marker = 127 then do
    let field ← Reading.readExact 8
    return beNat field
  else return marker

/-- An unfragmented frame, its length in the shortest form. -/
def whole (opcode : Fin 16) (payload : Bytes) (maskKey : Option Bytes)
    (keySize : ∀ key ∈ maskKey, key.length = 4)
    (fits : (LengthForm.shortestFor payload.length).Fits payload.length) :
    WsFrame :=
  { fin := true, opcode, maskKey, form := .shortestFor payload.length, payload,
    keySize, fits }

/-- A whole message of application data. -/
def IsBinary (frame : WsFrame) : Prop :=
  frame.fin = true ∧ frame.opcode = 2

/-- A text or binary frame. -/
def IsMessage (frame : WsFrame) : Prop :=
  frame.opcode = 1 ∨ frame.opcode = 2

instance (frame : WsFrame) : Decidable frame.IsMessage :=
  inferInstanceAs (Decidable (_ ∨ _))

/-- A frame with data, a continuation among them. -/
def IsData (frame : WsFrame) : Prop :=
  frame.opcode = 0 ∨ frame.opcode = 1 ∨ frame.opcode = 2

instance (frame : WsFrame) : Decidable frame.IsData :=
  inferInstanceAs (Decidable (_ ∨ _ ∨ _))

def IsClose (frame : WsFrame) : Prop := frame.opcode = 8

instance (frame : WsFrame) : Decidable frame.IsClose :=
  inferInstanceAs (Decidable (_ = _))

def opContinuation : Fin 16 := 0
def opBinary : Fin 16 := 2

theorem unmasked_keySize : ∀ key ∈ (none : Option Bytes), key.length = 4 := by
  intro key present
  cases present

def encodeAll (frames : List WsFrame) : Bytes :=
  (frames.map encode).flatten

def payloads (frames : List WsFrame) : Bytes :=
  (frames.map (·.payload)).flatten

end WsFrame

section Format

theorem length_maskBytes (key payload : Bytes) :
    (maskBytes key payload).length = payload.length :=
  length_mapAt _ _ _

theorem maskBytes_maskBytes (key payload : Bytes) :
    maskBytes key (maskBytes key payload) = payload := by
  apply mapAt_leftInverse
  intro index byte
  rw [UInt8.xor_assoc, UInt8.xor_self, UInt8.xor_zero]

theorem firstByte_opcode (fin : Bool) (opcode : Fin 16) :
    WsFrame.firstByte fin opcode &&& 0x0F = UInt8.ofNat opcode := by
  revert fin opcode
  decide

theorem secondByte_marker (masked : Bool) {marker : Nat}
    (small : marker < 128) :
    (WsFrame.secondByte masked marker &&& 0x7F).toNat = marker := by
  have all : ∀ masked : Bool, ∀ marker < 128,
      (WsFrame.secondByte masked marker &&& 0x7F).toNat = marker := by
    decide +kernel
  exact all masked marker small

theorem secondByte_masked (masked : Bool) {marker : Nat}
    (small : marker < 128) :
    WsFrame.secondByte masked marker &&& 0x80 ≠ 0 ↔ masked = true := by
  have all : ∀ masked : Bool, ∀ marker < 128,
      (WsFrame.secondByte masked marker &&& 0x80 ≠ 0 ↔ masked = true) := by
    decide +kernel
  exact all masked marker small

theorem LengthForm.marker_lt {form : LengthForm} {len : Nat}
    (fits : form.Fits len) : form.marker len < 128 := by
  cases form with
  | short => exact Nat.lt_trans fits (by decide)
  | medium => exact (by decide : 126 < 128)
  | long => exact (by decide : 127 < 128)

theorem LengthForm.lt_of_fits {form : LengthForm} {len : Nat}
    (fits : form.Fits len) : len < 2 ^ 63 := by
  cases form with
  | short => exact Nat.lt_trans fits (by decide)
  | medium => exact Nat.lt_trans fits (by decide)
  | long => exact fits

theorem LengthForm.shortestFor_of_short {len : Nat} (small : len < 126) :
    shortestFor len = .short :=
  if_pos small

theorem LengthForm.shortestFor_of_medium {len : Nat} (large : ¬ len < 126)
    (small : len < 65536) : shortestFor len = .medium := by
  rw [shortestFor, if_neg large]
  exact if_pos small

theorem LengthForm.shortestFor_of_long {len : Nat} (large : ¬ len < 126)
    (larger : ¬ len < 65536) : shortestFor len = .long := by
  rw [shortestFor, if_neg large]
  exact if_neg larger

theorem LengthForm.shortestFor_fits {len : Nat} (short : len < 2 ^ 63) :
    (shortestFor len).Fits len := by
  unfold shortestFor
  split
  · assumption
  · split
    · assumption
    · exact short

theorem LengthForm.shortestFor_size_le {form : LengthForm} {len : Nat}
    (fits : form.Fits len) : (shortestFor len).size ≤ form.size := by
  unfold shortestFor
  cases form with
  | short =>
      have small : len < 126 := fits
      rw [if_pos small]
  | medium =>
      have small : len < 2 ^ 16 := fits
      rw [if_pos small]
      split
      · exact Nat.zero_le _
      · exact Nat.le_refl _
  | long =>
      split
      · exact Nat.zero_le _
      · split
        · exact (by decide : 2 ≤ 8)
        · exact Nat.le_refl _

theorem lengthField_extended {Error : Type} {form : LengthForm} {len : Nat}
    (fits : form.Fits len) (later : Bytes) :
    (WsFrame.lengthField (form.marker len) : Reading UInt8 Error Nat).on
        (form.extended len ++ later) = .done len later := by
  cases form with
  | short =>
      have notMedium : len ≠ 126 := Nat.ne_of_lt fits
      have notLong : len ≠ 127 := Nat.ne_of_lt (Nat.lt_succ_of_lt fits)
      rw [LengthForm.marker, WsFrame.lengthField, if_neg notMedium,
        if_neg notLong, LengthForm.extended, List.nil_append, Reading.on_pure]
  | medium =>
      rw [LengthForm.marker, WsFrame.lengthField, if_pos rfl, Reading.on_bind,
        LengthForm.extended, Reading.on_readExact (length_natToBe 2 len)]
      simp only [Reading.on_pure]
      rw [beNat_natToBe fits]
  | long =>
      have fitsEight : len < 256 ^ 8 := Nat.lt_trans fits (by decide)
      rw [LengthForm.marker, WsFrame.lengthField, if_neg (by decide),
        if_pos rfl, Reading.on_bind, LengthForm.extended,
        Reading.on_readExact (length_natToBe 8 len)]
      simp only [Reading.on_pure]
      rw [beNat_natToBe fitsEight]

end Format

namespace WsFrame

@[simp] theorem encodeAll_cons (frame : WsFrame) (frames : List WsFrame) :
    encodeAll (frame :: frames) = frame.encode ++ encodeAll frames := rfl

theorem encodeAll_append (front back : List WsFrame) :
    encodeAll (front ++ back) = encodeAll front ++ encodeAll back := by
  simp [encodeAll]

theorem payloads_append (front back : List WsFrame) :
    payloads (front ++ back) = payloads front ++ payloads back := by
  simp [payloads]

theorem payloads_singleton (frame : WsFrame) :
    payloads [frame] = frame.payload := by
  simp [payloads]

end WsFrame

end TgWsProxy
