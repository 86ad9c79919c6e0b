import TgWsProxy.HelloRecord
import TgWsProxy.Python.ClientInit

/-!
# How Python frames the ClientHello

`_read_client_init` has all five bytes of the record header together and reads
the body by the last two, so the hello which it checks is the record.
-/

namespace TgWsProxy.Python

open Lib

/-- No read reaches its time limit, and the connection is not lost. -/
def Timely (op : InitOp) (outcome : InitOutcome op) : Prop :=
  match op, outcome with
  | .read _ _, outcome => outcome = .inTime
  | .proxyLine, outcome => outcome = .inTime
  | _, _ => True

def FakeTlsStream.unread (s : FakeTlsStream) : Bytes := s.reader.unread

/-- The calls which `_read_client_init` makes about the bytes of a client. -/
def initCalls (crypto : Primitives) (secret : Bytes) (now : Nat)
    (proxyProtocol : Bool) (masking : String) (bytes : Bytes)
    (arrived : Nat → Nat) (outcomes : Nat → (op : InitOp) → InitOutcome op) :
    List (Program.Performed (initWorld crypto secret now)) :=
  (readClientInit proxyProtocol masking).history (initWorld crypto secret now)
    outcomes ⟨⟨bytes, arrived⟩, [], 0⟩

variable {crypto : Primitives} {secret : Bytes} {now : Nat}
  {arrived : Nat → Nat}

/-- A read of bytes which the client sends in time. -/
theorem makes_read
    {wanted : Program.Performed (initWorld crypto secret now) → Prop}
    {step : InitRead} {count : Nat}
    {next : Bytes → InitProgram PyError ClientInit} {front back : Bytes}
    (raw : step ≠ .handshakeInTls) (size : front.length = count)
    (later : Program.Makes (initWorld crypto secret now) Timely wanted
      (next front) (FakeTlsStream.mk ⟨back, arrived⟩ [] 0)) :
    Program.Makes (initWorld crypto secret now) Timely wanted
      (readexactlyOrNone step count next)
      (FakeTlsStream.mk ⟨front ++ back, arrived⟩ [] 0) := by
  have filled : timedRead step count .inTime
      (FakeTlsStream.mk ⟨front ++ back, arrived⟩ [] 0) =
        (.filled front, FakeTlsStream.mk ⟨back, arrived⟩ [] 0) := by
    cases step with
    | handshakeInTls => exact absurd rfl raw
    | firstByte | recordHeader | recordBody | handshakeRest =>
        simp only [timedRead, StreamReader.readexactly_append back arrived size]
  apply Program.Makes.later
  intro outcome (inTime : outcome = .inTime)
  subst inTime
  simp only [initWorld, filled]
  exact later

section Passing

variable {hello : HelloRecord} {further : Bytes}

theorem readHelloInit_checks (masking : String) (clientHello : Bytes) :
    Program.Makes (initWorld crypto secret now) Timely
      (Checked FakeTlsStream.unread clientHello further
        (helloVerdict crypto now secret clientHello))
      (readHelloInit masking clientHello)
      (FakeTlsStream.mk ⟨further, arrived⟩ [] 0) := by
  apply Program.Makes.here
  intro outcome _
  refine ⟨FakeTlsStream.mk ⟨further, arrived⟩ [] 0, ?_, rfl⟩
  simp only [initWorld, verifyClientHello_eq]

/-- The bytes of a record are read up to what is done about the hello. -/
theorem makes_hello {masking : String} (masked : masking ≠ "")
    {wanted : Program.Performed (initWorld crypto secret now) → Prop}
    (later : Program.Makes (initWorld crypto secret now) Timely wanted
      (readHelloInit masking hello.encode)
      (FakeTlsStream.mk ⟨further, arrived⟩ [] 0)) :
    Program.Makes (initWorld crypto secret now) Timely wanted
      (readFirstByteInit masking)
      (FakeTlsStream.mk ⟨hello.encode ++ further, arrived⟩ [] 0) := by
  have split : hello.encode ++ further =
      [tlsRecordHandshake] ++ (hello.header ++ (hello.body ++ further)) := by
    simp [HelloRecord.encode]
  rw [split]
  apply makes_read (by decide) rfl
  have isTls : ([tlsRecordHandshake] : Bytes).getD 0 0 = tlsRecordHandshake ∧
      masking ≠ "" := ⟨rfl, masked⟩
  rw [if_pos isTls]
  apply makes_read (by decide) hello.length_header
  simp only [hello.recordLen_eq]
  apply makes_read (by decide) rfl
  exact later

theorem readFirstByteInit_checks {masking : String} (masked : masking ≠ "") :
    Program.Makes (initWorld crypto secret now) Timely
      (Checked FakeTlsStream.unread hello.encode further
        (helloVerdict crypto now secret hello.encode))
      (readFirstByteInit masking)
      (FakeTlsStream.mk ⟨hello.encode ++ further, arrived⟩ [] 0) :=
  makes_hello masked (readHelloInit_checks masking hello.encode)

theorem readline_line {line : Bytes} (clean : 0x0A ∉ line)
    (limited : line.length ≤ streamLimit) (back : Bytes) :
    StreamReader.readline ⟨line ++ [0x0A] ++ back, arrived⟩ =
      some (line ++ [0x0A], ⟨back, arrived⟩) := by
  have whole : (line ++ [0x0A]).length = line.length + 1 := by simp
  have first : (line ++ [0x0A] ++ back).takeWhile
      (fun byte => decide (byte ≠ 0x0A)) = line := by
    rw [List.append_assoc]
    exact takeWhile_newline clean back
  simp only [StreamReader.readline, first]
  rw [if_neg (Nat.not_lt_of_le limited), List.take_left' whole,
    List.drop_left' whole]

theorem readClientInit_checks {proxyProtocol : Bool} {masking : String}
    {preamble : Bytes} (front : ProxyPreamble proxyProtocol preamble)
    (masked : masking ≠ "") :
    Program.Makes (initWorld crypto secret now) Timely
      (Checked FakeTlsStream.unread hello.encode further
        (helloVerdict crypto now secret hello.encode))
      (readClientInit proxyProtocol masking)
      (FakeTlsStream.mk ⟨preamble ++ (hello.encode ++ further), arrived⟩ []
        0) := by
  cases front with
  | off => exact readFirstByteInit_checks masked
  | line clean limited =>
      apply Program.Makes.later
      intro outcome (inTime : outcome = .inTime)
      subst inTime
      simp only [initWorld, readline_line clean limited, if_true]
      exact readFirstByteInit_checks masked

end Passing

end TgWsProxy.Python
