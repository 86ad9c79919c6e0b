import TgWsProxy.HelloFraming
import TgWsProxy.Obfuscation

/-!
# Plain clients of both implementations

Without Fake TLS the two accept paths read the same 64 bytes, come to the same
verdict and leave the same bytes to the session.
-/

namespace TgWsProxy

open Lib

namespace Python

/-- `_handle_client` has this request, and `left` is still to be read. -/
def HasRequest (request : Option ClientRequest) (left : Bytes)
    (result : Option ClientRequest) (s : FakeTlsStream) : Prop :=
  result = request ∧ ∃ arrived, s = FakeTlsStream.mk ⟨left, arrived⟩ [] 0

section Accept

variable {crypto : Primitives} {secret : Bytes} {now : Nat}
  {arrived : Nat → Nat} {handshake further : Bytes}

/-- A read of bytes which the client sends in time. -/
theorem ends_read {Result : Type}
    {Post : Result → FakeTlsStream → Prop} {step : InitRead} {count : Nat}
    {next : Bytes → InitProgram PyError ClientInit}
    {after : ClientInit → InitProgram PyError Result} {front back : Bytes}
    (raw : step ≠ .handshakeInTls) (size : front.length = count)
    (later : Program.Ends (initWorld crypto secret now) Timely Post
      (next front >>= after) (FakeTlsStream.mk ⟨back, arrived⟩ [] 0)) :
    Program.Ends (initWorld crypto secret now) Timely Post
      (readexactlyOrNone step count next >>= after)
      (FakeTlsStream.mk ⟨front ++ back, arrived⟩ [] 0) := by
  have filled : timedRead step count .inTime
      (FakeTlsStream.mk ⟨front ++ back, arrived⟩ [] 0) =
        (.filled front, FakeTlsStream.mk ⟨back, arrived⟩ [] 0) := by
    cases step with
    | handshakeInTls => exact absurd rfl raw
    | firstByte | recordHeader | recordBody | handshakeRest =>
        simp only [timedRead, StreamReader.readexactly_append back arrived size]
  change Program.Ends _ _ _ (initAct (.read step count) >>= fun result =>
    afterRead next result >>= after) _
  apply Program.Ends.perform
  intro outcome (inTime : outcome = .inTime)
  subst inTime
  simp only [initWorld, filled]
  exact later

theorem requestAfter_ends (size : handshake.length = 64) :
    Program.Ends (initWorld crypto secret now) Timely
      (HasRequest (requestOf crypto secret handshake) further)
      (requestAfter (.handshake handshake))
      (FakeTlsStream.mk ⟨further, arrived⟩ [] 0) := by
  apply Program.Ends.perform
  intro outcome _
  simp only [initWorld, tryHandshake_eq crypto secret size]
  cases requestOf crypto secret handshake with
  | some request => exact Program.Ends.pure ⟨rfl, arrived, rfl⟩
  | none =>
      apply Program.Ends.perform
      intro outcome _
      exact Program.Ends.pure ⟨rfl, arrived, rfl⟩

theorem readFirstByteInit_ends (size : handshake.length = 64) :
    Program.Ends (initWorld crypto secret now) Timely
      (HasRequest (requestOf crypto secret handshake) further)
      (readFirstByteInit "" >>= requestAfter)
      (FakeTlsStream.mk ⟨handshake ++ further, arrived⟩ [] 0) := by
  cases handshake with
  | nil => cases size
  | cons first rest =>
      have firstSize : [first].length = 1 := rfl
      have restSize : rest.length = handshakeLen - 1 := Nat.succ.inj size
      have split : first :: rest ++ further = [first] ++ (rest ++ further) := rfl
      rw [split, readFirstByteInit]
      refine ends_read (by decide) firstSize ?_
      simp only [ne_eq, not_true_eq_false, and_false, if_false]
      refine ends_read (by decide) restSize ?_
      exact requestAfter_ends size

theorem handleClientInit_ends {proxyProtocol : Bool} {preamble : Bytes}
    (front : ProxyPreamble proxyProtocol preamble)
    (size : handshake.length = 64) :
    Program.Ends (initWorld crypto secret now) Timely
      (HasRequest (requestOf crypto secret handshake) further)
      (handleClientInit proxyProtocol "")
      (FakeTlsStream.mk ⟨preamble ++ (handshake ++ further), arrived⟩ [] 0) := by
  cases front with
  | off => exact readFirstByteInit_ends size
  | line clean limited =>
      apply Program.Ends.perform
      intro outcome (inTime : outcome = .inTime)
      subst inTime
      simp only [initWorld, readline_line clean limited]
      exact readFirstByteInit_ends size

end Accept

end Python

namespace Rust

/-- `handle_client` has this request, and `left` is still to be read. -/
def HasRequest (request : Option ClientRequest) (left : Bytes)
    (result : Option ClientRequest) (s : FakeTlsStream) : Prop :=
  result = request ∧
    ∃ rest : ClientStream, s = FakeTlsStream.mk rest.source [] ∧
      rest.bytes = left

section Accept

variable {crypto : Primitives} {secret : Bytes} {now waits : Nat}
  {handshake further : Bytes}

/-- A read of bytes which the client sends in time. -/
theorem ends_read {Result : Type}
    {Post : Result → FakeTlsStream → Prop} {step : InitRead} {count : Nat}
    {next : TimedRead → InitProgram Panic Result} {stream : ClientStream}
    {front back : Bytes} (raw : step ≠ .handshakeInTls)
    (cut : stream.bytes = front ++ back) (size : front.length = count)
    (early : stream.waitsWithin count ≤ waits)
    (later : ∀ rest : ClientStream, rest.bytes = back →
      (∀ more, rest.waitsWithin more ≤ stream.waitsWithin (count + more)) →
      Program.Ends (acceptWorld crypto secret now) (Patient waits) Post
        (next (.filled front)) (FakeTlsStream.mk rest.source [])) :
    Program.Ends (acceptWorld crypto secret now) (Patient waits) Post
      (initAct (.read step count) >>= next)
      (FakeTlsStream.mk stream.source []) := by
  apply Program.Ends.perform
  intro patience (willing : waits ≤ patience)
  simp only [acceptWorld]
  rw [timedRead_raw raw]
  rcases stream.read_front patience cut size with
    ⟨rest, read, restBytes, order⟩ | ⟨last, read, late⟩
  · simp only [read]
    exact later rest restBytes order
  · omega

theorem acceptHandshake_ends {stream : ClientStream}
    (size : handshake.length = 64) (left : stream.bytes = further) :
    Program.Ends (acceptWorld crypto secret now) (Patient waits)
      (HasRequest (requestOf crypto secret handshake) further)
      (acceptHandshake handshake) (FakeTlsStream.mk stream.source []) := by
  have rests : ∃ rest : ClientStream, FakeTlsStream.mk stream.source [] =
      FakeTlsStream.mk rest.source [] ∧ rest.bytes = further :=
    ⟨stream, rfl, left⟩
  apply Program.Ends.perform
  intro outcome _
  simp only [acceptWorld, tryHandshake_eq crypto secret size]
  cases requestOf crypto secret handshake with
  | some request => exact Program.Ends.pure ⟨rfl, rests⟩
  | none =>
      apply Program.Ends.perform
      intro outcome _
      exact Program.Ends.pure ⟨rfl, rests⟩

theorem acceptFirstByte_ends {stream : ClientStream}
    (size : handshake.length = 64)
    (sent : stream.bytes = handshake ++ further)
    (early : stream.waitsWithin 64 ≤ waits) :
    Program.Ends (acceptWorld crypto secret now) (Patient waits)
      (HasRequest (requestOf crypto secret handshake) further)
      (acceptFirstByte "") (FakeTlsStream.mk stream.source []) := by
  cases handshake with
  | nil => cases size
  | cons first rest =>
      have firstSize : [first].length = 1 := rfl
      have restSize : rest.length = handshakeLen - 1 := Nat.succ.inj size
      have split : stream.bytes = [first] ++ (rest ++ further) := sent
      refine ends_read (by decide) split firstSize ?_ ?_
      · exact (stream.waitsWithin_mono (by omega)).trans early
      · intro afterFirst firstLeft order
        simp only [isErr, bufferAfter, Bool.false_eq_true, if_false, acceptBy,
          ne_eq, not_true_eq_false, and_false]
        refine ends_read (by decide) firstLeft restSize ?_ ?_
        · exact (order _).trans early
        · intro afterRest restLeft _
          exact acceptHandshake_ends size restLeft

theorem acceptClient_ends {proxyProtocol : Bool} {preamble : Bytes}
    {stream : ClientStream} (front : ProxyPreamble proxyProtocol preamble)
    (size : handshake.length = 64)
    (sent : stream.bytes = preamble ++ (handshake ++ further))
    (early : stream.waitsWithin (preamble.length + 64) ≤ waits) :
    Program.Ends (acceptWorld crypto secret now) (Patient waits)
      (HasRequest (requestOf crypto secret handshake) further)
      (acceptClient proxyProtocol "") (FakeTlsStream.mk stream.source []) := by
  cases proxyProtocol with
  | false =>
      cases front with
      | off =>
          rw [List.length_nil, Nat.zero_add] at early
          exact acceptFirstByte_ends size sent early
  | true =>
      obtain ⟨rest, reached, left, order⟩ :=
        proxyLine_preamble stream front sent
      apply Program.Ends.perform
      intro outcome _
      simp only [acceptWorld, reached, if_true]
      exact acceptFirstByte_ends size left ((order _).trans early)

end Accept

end Rust

end TgWsProxy
