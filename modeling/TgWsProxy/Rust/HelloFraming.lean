import TgWsProxy.HelloRecord
import TgWsProxy.Rust.ClientInit

/-!
# How Rust frames the ClientHello

`handle_client` has the first byte of the record apart from the other four, and
takes the first two of these for the length of the body.  They are the version.
-/

namespace TgWsProxy.Rust

open Lib

/-- The client does not let a read wait more often than it is willing to. -/
def Patient (waits : Nat) (op : InitOp) (outcome : InitOutcome op) : Prop :=
  match op, outcome with
  | .read _ _, patience => waits ≤ patience
  | _, _ => True

def FakeTlsStream.unread (s : FakeTlsStream) : Bytes :=
  (s.reader.arrivals.map arrivalBytes).flatten

variable {crypto : Primitives} {secret : Bytes} {now waits : Nat}
  {Result : Type}

/-- A PROXY line is read to its end. -/
theorem proxyLine_preamble {preamble : Bytes} (stream : ClientStream)
    (front : ProxyPreamble true preamble) {back : Bytes}
    (cut : stream.bytes = preamble ++ back) :
    ∃ rest : ClientStream, proxyLine stream.source = (true, rest.source) ∧
      rest.bytes = back ∧
      ∀ more, rest.waitsWithin more ≤
        stream.waitsWithin (preamble.length + more) := by
  cases front with
  | @line line clean limited =>
      rw [List.append_assoc, List.singleton_append] at cut
      have reached := stream.proxyLine
      generalize proxyLine stream.source = result at reached ⊢
      cases reached with
      | @whole other rest otherClean split earlier =>
          have lines : line = other := by
            rw [← takeWhile_newline clean back, ← cut, split,
              takeWhile_newline otherClean]
          subst lines
          have tails := List.append_cancel_left (cut.symm.trans split)
          refine ⟨rest, rfl, ?_, ?_⟩
          · exact (List.cons.inj tails).2.symm
          · intro more
            rw [List.length_append]
            exact earlier more
      | cut missing =>
          apply absurd _ missing
          rw [cut]
          exact List.mem_append_right _ List.mem_cons_self

/-- A read of bytes which the client sends in time. -/
theorem makes_read {wanted : Program.Performed (acceptWorld crypto secret now) → Prop}
    {step : InitRead} {count : Nat}
    {next : TimedRead → InitProgram Panic Result} {stream : ClientStream}
    {front back : Bytes} (raw : step ≠ .handshakeInTls)
    (cut : stream.bytes = front ++ back) (size : front.length = count)
    (early : stream.waitsWithin count ≤ waits)
    (later : ∀ rest : ClientStream, rest.bytes = back →
      (∀ more, rest.waitsWithin more ≤ stream.waitsWithin (count + more)) →
      Program.Makes (acceptWorld crypto secret now) (Patient waits) wanted
        (next (.filled front)) (FakeTlsStream.mk rest.source [])) :
    Program.Makes (acceptWorld crypto secret now) (Patient waits) wanted
      (initAct (.read step count) >>= next)
      (FakeTlsStream.mk stream.source []) := by
  apply Program.Makes.later
  intro patience (willing : waits ≤ patience)
  simp only [acceptWorld]
  rw [timedRead_raw raw]
  rcases stream.read_front patience cut size with
    ⟨rest, read, restBytes, order⟩ | ⟨last, read, late⟩
  · simp only [read]
    exact later rest restBytes order
  · omega

section Passing

variable {hello : HelloRecord} {further : Bytes}

theorem acceptHello_checks {stream : ClientStream} (clientHello : Bytes)
    (left : stream.bytes = further) :
    Program.Makes (acceptWorld crypto secret now) (Patient waits)
      (Checked FakeTlsStream.unread clientHello further
        (helloVerdict crypto now secret clientHello))
      (acceptHello clientHello) (FakeTlsStream.mk stream.source []) := by
  apply Program.Makes.here
  intro outcome _
  refine ⟨FakeTlsStream.mk stream.source [], ?_, ?_⟩
  · simp only [acceptWorld, verifyClientHello_eq]
  · exact stream.source_unread.trans left

theorem acceptTls_checks {stream : ClientStream}
    (agrees : hello.versionLen = hello.body.length)
    (sent : stream.bytes = hello.header ++ (hello.body ++ further))
    (early : stream.waitsWithin (4 + hello.body.length) ≤ waits) :
    Program.Makes (acceptWorld crypto secret now) (Patient waits)
      (Checked FakeTlsStream.unread hello.encode further
        (helloVerdict crypto now secret hello.encode))
      (acceptTls [tlsRecordHandshake])
      (FakeTlsStream.mk stream.source []) := by
  apply makes_read (by decide) sent hello.length_header
  · exact (stream.waitsWithin_mono (Nat.le_add_right 4 _)).trans early
  · intro afterHeader headerLeft order
    apply makes_read (by decide) headerLeft agrees.symm
    · rw [agrees]
      exact (order _).trans early
    · intro afterBody bodyLeft _
      exact acceptHello_checks hello.encode bodyLeft

theorem acceptBy_tls {masking : String} (masked : masking ≠ "") :
    acceptBy masking [tlsRecordHandshake] = acceptTls [tlsRecordHandshake] :=
  if_pos ⟨rfl, masked⟩

theorem acceptFirstByte_checks {masking : String} {stream : ClientStream}
    (masked : masking ≠ "") (agrees : hello.versionLen = hello.body.length)
    (sent : stream.bytes = hello.encode ++ further)
    (early : stream.waitsWithin hello.encode.length ≤ waits) :
    Program.Makes (acceptWorld crypto secret now) (Patient waits)
      (Checked FakeTlsStream.unread hello.encode further
        (helloVerdict crypto now secret hello.encode))
      (acceptFirstByte masking) (FakeTlsStream.mk stream.source []) := by
  have split : hello.encode ++ further =
      [tlsRecordHandshake] ++ (hello.header ++ (hello.body ++ further)) := by
    simp [HelloRecord.encode]
  rw [hello.length_encode] at early
  apply @makes_read _ _ _ _ _ _ .firstByte 1 _ _ _ _ (by decide)
    (sent.trans split) rfl
  · exact (stream.waitsWithin_mono (by omega)).trans early
  · intro afterFirst firstLeft order
    have tls := acceptBy_tls masked
    simp only [isErr, bufferAfter, Bool.false_eq_true, if_false, tls]
    apply acceptTls_checks agrees firstLeft
    have total : 1 + (4 + hello.body.length) = 5 + hello.body.length := by omega
    rw [← total] at early
    exact (order _).trans early

theorem acceptClient_checks {proxyProtocol : Bool} {masking : String}
    {preamble : Bytes} {stream : ClientStream}
    (front : ProxyPreamble proxyProtocol preamble) (masked : masking ≠ "")
    (agrees : hello.versionLen = hello.body.length)
    (sent : stream.bytes = preamble ++ (hello.encode ++ further))
    (early : stream.waitsWithin (preamble.length + hello.encode.length) ≤
      waits) :
    Program.Makes (acceptWorld crypto secret now) (Patient waits)
      (Checked FakeTlsStream.unread hello.encode further
        (helloVerdict crypto now secret hello.encode))
      (acceptClient proxyProtocol masking)
      (FakeTlsStream.mk stream.source []) := by
  cases proxyProtocol with
  | false =>
      cases front with
      | off =>
          rw [List.nil_append] at sent
          rw [List.length_nil, Nat.zero_add] at early
          exact acceptFirstByte_checks masked agrees sent early
  | true =>
      obtain ⟨rest, reached, left, order⟩ :=
        proxyLine_preamble stream front sent
      apply Program.Makes.later
      intro outcome _
      simp only [acceptWorld, reached, if_true]
      exact acceptFirstByte_checks masked agrees left ((order _).trans early)

end Passing

section Length

variable {hello : HelloRecord} {further : Bytes}

/-- A hello which is passed on is as long as the version says. -/
def SizedByVersion (hello : HelloRecord) (op : InitOp) : Prop :=
  ∀ clientHello, op = .verifyClientHello clientHello →
    clientHello.length = 5 + hello.versionLen

theorem sizedByVersion_of_ne {op : InitOp}
    (other : ∀ clientHello, op ≠ .verifyClientHello clientHello) :
    SizedByVersion hello op := by
  intro clientHello same
  exact absurd same (other clientHello)

theorem acceptHandshake_sized (handshake : Bytes) :
    (acceptHandshake handshake).Calls (SizedByVersion hello) := by
  apply Program.Calls.bind
  · apply Program.Calls.perform
    exact sizedByVersion_of_ne (by simp)
  · rintro (panic | _ | request)
    · exact Program.Calls.pure _
    · apply Program.Calls.bind
      · apply Program.Calls.perform
        exact sizedByVersion_of_ne (by simp)
      · intro counted
        exact Program.Calls.pure _
    · exact Program.Calls.pure _

theorem acceptHello_sized {clientHello : Bytes}
    (size : clientHello.length = 5 + hello.versionLen) :
    (acceptHello clientHello).Calls (SizedByVersion hello) := by
  apply Program.Calls.bind
  · apply Program.Calls.perform
    intro passed same
    cases same
    exact size
  · rintro (panic | _ | verdict)
    · exact Program.Calls.pure _
    · exact Program.Calls.pure _
    · apply Program.Calls.bind
      · apply Program.Calls.perform
        exact sizedByVersion_of_ne (by simp)
      · intro sent
        cases sent with
        | false => exact Program.Calls.pure _
        | true =>
            apply Program.Calls.bind
            · apply Program.Calls.perform
              exact sizedByVersion_of_ne (by simp)
            · intro hs
              split
              · exact Program.Calls.pure _
              · exact acceptHandshake_sized _

/-- A stretch of calls which pass on no hello but one of that size. -/
def OnlySized (crypto : Primitives) (secret : Bytes) (now : Nat)
    (hello : HelloRecord) (program : InitProgram Panic Result)
    (s : FakeTlsStream) : Prop :=
  Program.Only (acceptWorld crypto secret now)
    (fun performed => SizedByVersion hello performed.op) program s

theorem onlySized_timedRead {step : InitRead} {count : Nat}
    {next : TimedRead → InitProgram Panic Result} {s : FakeTlsStream}
    (each : ∀ patience, OnlySized crypto secret now hello
      (next (timedRead step count patience s).1)
      (timedRead step count patience s).2) :
    OnlySized crypto secret now hello (initAct (.read step count) >>= next)
      s := by
  apply Program.Only.perform
  · intro patience
    exact sizedByVersion_of_ne (by simp)
  · exact each

/-- A read of bytes which the client sends. -/
theorem onlySized_read {step : InitRead} {count : Nat}
    {next : TimedRead → InitProgram Panic Result} {stream : ClientStream}
    {front back : Bytes} (raw : step ≠ .handshakeInTls)
    (cut : stream.bytes = front ++ back) (size : front.length = count)
    (filled : ∀ rest : ClientStream, rest.bytes = back →
      OnlySized crypto secret now hello (next (.filled front))
        ⟨rest.source, []⟩)
    (elapsed : ∃ result, next .elapsed = pure result) :
    OnlySized crypto secret now hello (initAct (.read step count) >>= next)
      ⟨stream.source, []⟩ := by
  apply onlySized_timedRead
  intro patience
  rw [timedRead_raw raw]
  rcases stream.read_front patience cut size with
    ⟨rest, read, left, -⟩ | ⟨last, read, -⟩
  · simp only [read]
    exact filled rest left
  · obtain ⟨result, spent⟩ := elapsed
    simp only [read, spent]
    exact Program.Only.pure result

theorem length_bufferAfter {size : Nat} {taken : Bytes}
    (short : taken.length ≤ size) :
    (taken ++ List.replicate (size - taken.length) 0).length = size := by
  rw [List.length_append, List.length_replicate]
  exact Nat.add_sub_cancel' short

/-- Whatever comes for the body, the buffer has the size which was asked for. -/
theorem acceptRecord_sized (stream : ClientStream) :
    OnlySized crypto secret now hello
      (acceptRecord [tlsRecordHandshake] hello.header) ⟨stream.source, []⟩ := by
  have sized {body : Bytes} (bodySize : body.length = hello.versionLen)
      (s : FakeTlsStream) :
      OnlySized crypto secret now hello
        (acceptHello ([tlsRecordHandshake] ++ hello.header ++ body)) s := by
    apply Program.Only.of_calls
    apply acceptHello_sized
    rw [List.length_append, List.length_append, hello.length_header, bodySize]
    rfl
  apply onlySized_timedRead
  intro patience
  rw [timedRead_raw (by decide)]
  have read := stream.read hello.versionLen patience []
  have asked : beNat [hello.header.getD 0 0, hello.header.getD 1 0] =
      hello.versionLen := hello.rustRecordLen_eq
  simp only [asked]
  generalize readExact Source.poll hello.versionLen patience [] stream.source =
    result at read ⊢
  cases read with
  | filled cut takenSize waits => exact sized takenSize _
  | ended short =>
      apply sized
      exact length_bufferAfter (Nat.le_of_lt short)
  | failed short =>
      apply sized
      exact length_bufferAfter (Nat.le_of_lt short)
  | elapsed impatient => exact Program.Only.pure none

theorem acceptTls_sized {stream : ClientStream} {rest : Bytes}
    (sent : stream.bytes = hello.header ++ rest) :
    OnlySized crypto secret now hello (acceptTls [tlsRecordHandshake])
      ⟨stream.source, []⟩ := by
  apply onlySized_read (by decide) sent hello.length_header
  · intro afterHeader left
    exact acceptRecord_sized afterHeader
  · exact ⟨none, rfl⟩

theorem acceptFirstByte_sized {masking : String} {stream : ClientStream}
    (masked : masking ≠ "") (sent : stream.bytes = hello.encode ++ further) :
    OnlySized crypto secret now hello (acceptFirstByte masking)
      ⟨stream.source, []⟩ := by
  have split : hello.encode ++ further =
      [tlsRecordHandshake] ++ (hello.header ++ (hello.body ++ further)) := by
    simp [HelloRecord.encode]
  apply onlySized_read (by decide) (sent.trans split) rfl
  · intro afterFirst left
    have tls := acceptBy_tls masked
    simp only [isErr, bufferAfter, Bool.false_eq_true, if_false, tls]
    exact acceptTls_sized left
  · exact ⟨none, rfl⟩

theorem acceptClient_sized {proxyProtocol : Bool} {masking : String}
    {preamble : Bytes} {stream : ClientStream}
    (front : ProxyPreamble proxyProtocol preamble) (masked : masking ≠ "")
    (sent : stream.bytes = preamble ++ (hello.encode ++ further)) :
    OnlySized crypto secret now hello (acceptClient proxyProtocol masking)
      ⟨stream.source, []⟩ := by
  cases proxyProtocol with
  | false =>
      cases front with
      | off => exact acceptFirstByte_sized masked sent
  | true =>
      obtain ⟨rest, reached, left, -⟩ := proxyLine_preamble stream front sent
      apply Program.Only.perform
      · intro outcome
        exact sizedByVersion_of_ne (by simp)
      · intro outcome
        simp only [acceptWorld, reached, if_true]
        exact acceptFirstByte_sized masked left

end Length

end TgWsProxy.Rust
