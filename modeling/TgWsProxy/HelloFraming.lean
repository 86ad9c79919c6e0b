import TgWsProxy.Python.HelloFraming
import TgWsProxy.Rust.HelloFraming

/-!
# Framing the ClientHello

Python reads the body of the record by the length bytes, so it checks exactly
the hello which was sent.  Rust reads it by the version bytes, and so does the
same only where these happen to be the length.
-/

namespace TgWsProxy

open Lib

/-- Rust checks exactly the bytes of the hello, leaves what comes after it
unread, and comes to the verdict to which Python comes. -/
def FramesHello (crypto : Primitives) (secret : Bytes) (now : Nat)
    (proxyProtocol : Bool) (masking : String) (preamble : Bytes)
    (hello : HelloRecord) (further : Bytes) (stream : Rust.ClientStream)
    (outcomes : Nat → (op : InitOp) → Rust.InitOutcome op) : Prop :=
  ∃ verdict,
    (∃ performed ∈ Rust.acceptCalls crypto secret now proxyProtocol masking
        stream outcomes,
      Checked Rust.FakeTlsStream.unread hello.encode further verdict
        performed) ∧
    ∀ arrived outcomes, (∀ index op, Python.Timely op (outcomes index op)) →
      ∃ performed ∈ Python.initCalls crypto secret now proxyProtocol masking
          (preamble ++ (hello.encode ++ further)) arrived outcomes,
        Checked Python.FakeTlsStream.unread hello.encode further verdict
          performed

theorem framesHello_iff (crypto : Primitives) (secret : Bytes) (now : Nat)
    {proxyProtocol : Bool} {masking : String} {preamble : Bytes}
    (front : ProxyPreamble proxyProtocol preamble) (masked : masking ≠ "")
    (hello : HelloRecord) (further : Bytes) (stream : Rust.ClientStream)
    (sent : stream.bytes = preamble ++ (hello.encode ++ further))
    (outcomes : Nat → (op : InitOp) → Rust.InitOutcome op)
    (patient : ∀ index op, Rust.Patient
      (stream.waitsWithin (preamble.length + hello.encode.length)) op
      (outcomes index op)) :
    FramesHello crypto secret now proxyProtocol masking preamble hello further
        stream outcomes ↔
      hello.versionLen = hello.body.length := by
  constructor
  · rintro ⟨verdict, ⟨performed, member, before, rfl, -⟩, -⟩
    have sized := Rust.acceptClient_sized front masked sent outcomes _ member
    have size := sized hello.encode rfl
    rw [hello.length_encode] at size
    omega
  · intro agrees
    refine ⟨helloVerdict crypto now secret hello.encode, ?_, ?_⟩
    · exact Rust.acceptClient_checks front masked agrees sent (Nat.le_refl _)
        outcomes patient
    · intro arrived pythonOutcomes timely
      exact Python.readClientInit_checks front masked pythonOutcomes timely

/-- A hello of version 3.1 with a body of 512 bytes. -/
def paddedHello : HelloRecord where
  major := 0x03
  minor := 0x01
  body := [0x01, 0x00, 0x01, 0xfc, 0x03, 0x03] ++ List.replicate 506 0
  fits := by decide +kernel

/-- The client sends its hello and waits for the answer. -/
def paddedHelloStream : Rust.ClientStream where
  segments := [.data paddedHello.encode, .pending]
  valid := by
    intro arrival member
    simp only [List.mem_cons, List.not_mem_nil, or_false] at member
    rcases member with rfl | rfl
    · exact .inr ⟨_, List.cons_ne_nil _ _, rfl⟩
    · exact .inl rfl
  error := none

theorem paddedHelloStream_sent :
    paddedHelloStream.bytes = [] ++ (paddedHello.encode ++ []) := by
  decide +kernel

theorem paddedHelloStream_patient (index : Nat) (op : InitOp) :
    Rust.Patient (paddedHelloStream.waitsWithin
      (([] : Bytes).length + paddedHello.encode.length)) op
      (Rust.waiting 0 index op) := by
  have prompt : paddedHelloStream.waitsWithin
      (([] : Bytes).length + paddedHello.encode.length) = 0 := by
    decide +kernel
  rw [prompt]
  cases op with
  | read step count => exact Nat.le_refl 0
  | _ => trivial

theorem framesHello_iff_padded :
    FramesHello recordedCrypto recordedSecret 0 false "example.org" []
        paddedHello [] paddedHelloStream (Rust.waiting 0) ↔
      paddedHello.versionLen = paddedHello.body.length :=
  framesHello_iff recordedCrypto recordedSecret 0 .off (by decide) paddedHello
    [] paddedHelloStream paddedHelloStream_sent (Rust.waiting 0)
    paddedHelloStream_patient

/-- Rust waits for a body of 769 bytes until the time limit. -/
theorem paddedHello_not_framed :
    (∀ index op, Rust.Patient (paddedHelloStream.waitsWithin
      (([] : Bytes).length + paddedHello.encode.length)) op
      (Rust.waiting 0 index op)) ∧
    ¬ FramesHello recordedCrypto recordedSecret 0 false "example.org" []
      paddedHello [] paddedHelloStream (Rust.waiting 0) := by
  have calls : (Rust.acceptCalls recordedCrypto recordedSecret 0 false
      "example.org" paddedHelloStream (Rust.waiting 0)).map (·.op) =
      [.read .firstByte 1, .read .recordHeader 4, .read .recordBody 769] := by
    decide +kernel
  refine ⟨paddedHelloStream_patient, ?_⟩
  rintro ⟨verdict, ⟨performed, member, before, rfl, -⟩, -⟩
  have called := List.mem_map_of_mem (f := (·.op)) member
  rw [calls] at called
  simp at called

end TgWsProxy
