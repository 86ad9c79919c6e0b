import Mathlib.Data.List.Forall2
import TgWsProxy.Python.RawWebSocket
import TgWsProxy.Rust.RawWebSocket

/-!
# The frame codec across the two implementations

Whichever implementation builds the frames and whichever reads them, the
opcodes and payloads come back, and nothing behind the frames is touched.
-/

namespace TgWsProxy

open Lib

inductive Implementation where
  | python (native : Option Python.NativeModule)
  | rust

/-- What a frame function is called with. -/
structure OutgoingFrame where
  opcode : Fin 16
  payload : Bytes
  mask : Bool
  maskKey : Bytes
  keySize : maskKey.length = 4
  short : payload.length < 2 ^ 63

namespace OutgoingFrame

def content (frame : OutgoingFrame) : Nat × Bytes :=
  (frame.opcode.val, frame.payload)

theorem keySize_of_mem (frame : OutgoingFrame) :
    ∀ key ∈ (if frame.mask then some frame.maskKey else none), key.length = 4 := by
  intro key member
  cases mask : frame.mask with
  | true =>
      rw [mask, if_pos rfl] at member
      rw [← Option.some.inj member]
      exact frame.keySize
  | false =>
      rw [mask, if_neg Bool.false_ne_true] at member
      cases member

/-- The frame which the arguments ask for. -/
def whole (frame : OutgoingFrame) : WsFrame :=
  WsFrame.whole frame.opcode frame.payload
    (if frame.mask then some frame.maskKey else none) frame.keySize_of_mem
    (LengthForm.shortestFor_fits frame.short)

end OutgoingFrame

/-- The form which the seven bits of a length announce. -/
def LengthForm.ofMarker (marker : Nat) : LengthForm :=
  if marker = 126 then .medium else if marker = 127 then .long else .short

/-- The form of the length in a frame, by its second byte. -/
def lengthForm (wire : Bytes) : LengthForm :=
  .ofMarker (wire.getD 1 0 &&& 0x7F).toNat

namespace Implementation

/-- The frame which `build_frame` or `_build_frame` returns. -/
def build (builder : Implementation) (frame : OutgoingFrame) : Option Bytes :=
  match builder with
  | .python native =>
      (Python.buildFrame native frame.maskKey frame.opcode frame.payload
        frame.mask).toOption
  | .rust =>
      some (Rust.buildFrame (UInt8.ofNat frame.opcode) frame.payload frame.mask
        frame.maskKey)

/-- What `count` calls of `read_frame` or `_read_frame` return, and what they
leave unread. -/
def read (reader : Implementation) (count : Nat) (wire : Bytes) :
    Option (List (Nat × Bytes) × Bytes) :=
  match reader with
  | .python native =>
      match ((Python.readFrame native).replicate count).on wire with
      | .done results rest => some (results, rest)
      | _ => none
  | .rust =>
      match (Rust.readFrame.replicate count).on wire with
      | .done results rest =>
          some (results.map fun result => (result.1.toNat, result.2), rest)
      | _ => none

theorem build_eq (builder : Implementation) (frame : OutgoingFrame) :
    builder.build frame = some frame.whole.encode := by
  have fits := LengthForm.shortestFor_fits frame.short
  cases builder with
  | python native =>
      rw [build, Python.buildFrame_eq native frame.opcode frame.mask
        frame.keySize frame.keySize_of_mem fits]
      rfl
  | rust =>
      rw [build, Rust.buildFrame_eq frame.opcode frame.mask
        frame.keySize_of_mem fits]
      rfl

theorem mapM_build (builder : Implementation) (frames : List OutgoingFrame) :
    frames.mapM builder.build =
      some (frames.map fun frame => frame.whole.encode) := by
  have each : builder.build = fun frame => pure frame.whole.encode :=
    funext builder.build_eq
  rw [each]
  exact List.mapM_pure

theorem read_encodeAll (reader : Implementation) (frames : List OutgoingFrame)
    (further : Bytes) :
    reader.read frames.length
        ((frames.map fun frame => frame.whole.encode).flatten ++ further) =
      some (frames.map OutgoingFrame.content, further) := by
  cases reader with
  | python native =>
      have back := Reading.on_replicate (fun frame : OutgoingFrame =>
          frame.whole.encode) OutgoingFrame.content
        (fun frame later => Python.readFrame_encode native frame.whole later)
        frames further
      rw [read, back]
  | rust =>
      have back := Reading.on_replicate (fun frame : OutgoingFrame =>
          frame.whole.encode) (fun frame => (UInt8.ofNat frame.opcode, frame.payload))
        (fun frame later => Rust.readFrame_encode frame.whole later)
        frames further
      have opcode (frame : OutgoingFrame) :
          (UInt8.ofNat frame.opcode).toNat = frame.opcode.val := by
        rw [UInt8.toNat_ofNat']
        exact Nat.mod_eq_of_lt (Nat.lt_trans frame.opcode.isLt (by decide))
      rw [read, back]
      simp only [List.map_map]
      congr 2
      apply List.map_congr_left
      intro frame member
      exact congrArg (·, frame.payload) (opcode frame)

end Implementation

theorem LengthForm.ofMarker_marker {form : LengthForm} {len : Nat}
    (fits : form.Fits len) : ofMarker (form.marker len) = form := by
  cases form with
  | short =>
      have notMedium : len ≠ 126 := Nat.ne_of_lt fits
      have notLong : len ≠ 127 := Nat.ne_of_lt (Nat.lt_succ_of_lt fits)
      exact (if_neg notMedium).trans (if_neg notLong)
  | medium => rfl
  | long => rfl

theorem lengthForm_encode (frame : WsFrame) :
    lengthForm frame.encode = frame.form := by
  have second : frame.encode.getD 1 0 = WsFrame.secondByte frame.maskKey.isSome
      (frame.form.marker frame.payload.length) := rfl
  rw [lengthForm, second, secondByte_marker _ (LengthForm.marker_lt frame.fits),
    LengthForm.ofMarker_marker frame.fits]

/-- Frames built by either implementation are read back by either, and their
lengths have the shortest form. -/
theorem frames_read_back (builder reader : Implementation)
    (frames : List OutgoingFrame) (further : Bytes) :
    ∃ wires, frames.mapM builder.build = some wires ∧
      reader.read frames.length (wires.flatten ++ further) =
        some (frames.map OutgoingFrame.content, further) ∧
      List.Forall₂ (fun frame wire =>
        (lengthForm wire).Fits frame.payload.length ∧
          ∀ form : LengthForm, form.Fits frame.payload.length →
            (lengthForm wire).size ≤ form.size) frames wires := by
  refine ⟨_, builder.mapM_build frames, reader.read_encodeAll frames further, ?_⟩
  apply List.forall₂_map_right_iff.mpr
  apply List.forall₂_same.mpr
  intro frame member
  rw [lengthForm_encode]
  constructor
  · exact LengthForm.shortestFor_fits frame.short
  · intro form fits
    exact LengthForm.shortestFor_size_le fits

end TgWsProxy
