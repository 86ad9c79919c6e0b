import TgWsProxy.HelloFraming
import TgWsProxy.HelloSignatures
import TgWsProxy.Python.ClientInit
import TgWsProxy.Python.Tunnel

/-!
# From the first byte of a client to its bridge

What a client sends before its session starts, in either mode, and where
`_handle_client` leaves its stream when it has the handshake.
-/

namespace TgWsProxy.Python

open Lib

open Rust (TlsRecord encodeAll payloads)

/-- What stands in front of a client's stream behind a PROXY server. -/
inductive ProxyLine : Bool → Bytes → Prop where
  | absent : ProxyLine false []
  | line {text : Bytes} (oneLine : 0x0A ∉ text)
      (short : text.length ≤ streamLimit) : ProxyLine true (text ++ [0x0A])

/-- A client of the proxy by what it sends: a handshake and more, in Fake-TLS
mode as application data behind a signed ClientHello. -/
inductive Client (crypto : Primitives) (secret : Bytes) (now : Nat)
    (handshake rest : Bytes) : String → Bytes → Prop where
  | plain : Client crypto secret now handshake rest "" (handshake ++ rest)
  | fakeTls {masking : String} {hello : WireRecord} {verdict : HelloVerdict}
      {records : List TlsRecord} (masked : masking ≠ "")
      (isHandshake : hello.rtype = tlsRecordHandshake)
      (verified : verifyClientHello crypto now hello.encode secret =
        .ok (some verdict))
      (carried : payloads records = handshake ++ rest) :
      Client crypto secret now handshake rest masking
        (hello.encode ++ encodeAll records)

/-- The reader which `_read_client_init` returns with a handshake. -/
def sessionReader (masking : String) (s : FakeTlsStream) : ClientReader :=
  if masking = "" then .plain s.reader else .fakeTls s

/-- Every read and every write succeeds in time. -/
def prompt : (op : InitOp) → InitOutcome op
  | .read _ _ | .proxyLine => .inTime
  | .serverHello _ _ | .redirect _ => true
  | .verifyClientHello _ | .proxyToMaskingDomain _ _ | .tryHandshake _
  | .countBad => ()

section Reading

variable {crypto : Primitives} {secret : Bytes} {now : Nat} {Result : Type}

/-- A read which gets its bytes. -/
theorem finish_filled {step : InitRead} {count : Nat}
    {next : Bytes → InitProgram PyError ClientInit}
    {after : ClientInit → InitProgram PyError Result} {s later : FakeTlsStream}
    {data : Bytes}
    (filled : timedRead step count .inTime s = (.filled data, later)) :
    (readexactlyOrNone step count next >>= after).finish
        (initWorld crypto secret now) (fun _ => prompt) s =
      (next data >>= after).finish (initWorld crypto secret now)
        (fun _ => prompt) later := by
  have reply : timedRead step count (prompt (.read step count)) s =
      (.filled data, later) := filled
  rw [finish_read, reply]
  rfl

/-- A read of the connection itself. -/
theorem finish_raw {step : InitRead} (raw : step ≠ .handshakeInTls)
    {next : Bytes → InitProgram PyError ClientInit}
    {after : ClientInit → InitProgram PyError Result} {count : Nat}
    {data : Bytes} (size : data.length = count) (behind : Bytes)
    (arrived : Nat → Nat) :
    (readexactlyOrNone step count next >>= after).finish
        (initWorld crypto secret now) (fun _ => prompt)
        ⟨⟨data ++ behind, arrived⟩, [], 0⟩ =
      (next data >>= after).finish (initWorld crypto secret now)
        (fun _ => prompt) ⟨⟨behind, arrived⟩, [], 0⟩ := by
  apply finish_filled
  have read := StreamReader.readexactly_append behind arrived size
  cases step with
  | handshakeInTls => exact absurd rfl raw
  | firstByte => simp only [timedRead, read]
  | recordHeader => simp only [timedRead, read]
  | recordBody => simp only [timedRead, read]
  | handshakeRest => simp only [timedRead, read]

/-- `_handle_client` with an accepted handshake. -/
theorem finish_handshake {handshake : Bytes} {request : ClientRequest}
    (accepted : tryHandshake crypto handshake secret = .ok (some request))
    (s : FakeTlsStream) :
    (requestAfter (.handshake handshake)).finish (initWorld crypto secret now)
      (fun _ => prompt) s = (some request, s) := by
  have performed : (initWorld crypto secret now).perform s
      (.tryHandshake handshake) (prompt (.tryHandshake handshake)) =
        (.ok (some request), s) := Prod.ext accepted rfl
  unfold requestAfter
  rw [Program.finish_perform, performed]
  rfl

theorem encodeRecords_wireRecord (records : List TlsRecord) :
    encodeRecords (records.map wireRecord) = encodeAll records := by
  rw [encodeRecords, List.map_map]
  rfl

theorem appData_wireRecord (records : List TlsRecord) :
    appData (records.map wireRecord) = payloads records := by
  induction records with
  | nil => rfl
  | cons record records induction =>
      rw [List.map_cons, appData, induction, Rust.payloads_cons,
        TlsRecord.payload]
      cases kind : record.kind with
      | changeCipherSpec =>
          have ccs : (wireRecord record).rtype = tlsRecordCcs := by
            rw [wireRecord, kind]
            rfl
          rw [if_pos ccs, List.nil_append]
      | applicationData =>
          have application : (wireRecord record).rtype = tlsRecordAppdata := by
            rw [wireRecord, kind]
            rfl
          have notCcs : (wireRecord record).rtype ≠ tlsRecordCcs := by
            rw [application]
            decide
          have goesOn : ¬ (wireRecord record).EndsReading := by
            rintro ⟨-, other | empty⟩
            · exact other application
            · exact record.nonempty kind empty
          rw [if_neg notCcs, if_neg goesOn]
          rfl

/-- The Fake-TLS stream behind what it has returned. -/
theorem reader_of_undelivered {s : FakeTlsStream} {rest : Bytes}
    (undelivered : FakeTlsStream.UndeliveredBefore [] s rest) :
    ∃ input arrived, ClientReader.fakeTls s = ClientInput.reader arrived input ∧
      input.clientBytes = rest := by
  obtain ⟨current, left, unread, readLeft, rfl⟩ := undelivered
  refine ⟨.fakeTls s.readBuf current (left.map wireRecord), s.reader.arrived,
    ?_, ?_⟩
  · obtain ⟨⟨wire, arrived⟩, readBuf, count⟩ := s
    rw [List.append_nil] at unread
    rw [ClientInput.reader, encodeRecords_wireRecord, ← unread, ← readLeft]
  · rw [ClientInput.clientBytes, appData_wireRecord, List.append_assoc]

end Reading

section Clients

variable {crypto : Primitives} {secret : Bytes} {now : Nat} {masking : String}
  {wire handshake rest : Bytes} {request : ClientRequest}

/-- Without Fake TLS, the handshake is read in two pieces. -/
theorem finish_plain (handshakeSize : handshake.length = 64)
    (accepted : tryHandshake crypto handshake secret = .ok (some request))
    (arrived : Nat → Nat) :
    (readFirstByteInit "" >>= requestAfter).finish (initWorld crypto secret now)
        (fun _ => prompt) ⟨⟨handshake ++ rest, arrived⟩, [], 0⟩ =
      (some request, ⟨⟨rest, arrived⟩, [], 0⟩) := by
  have cut : handshake ++ rest =
      handshake.take 1 ++ (handshake.drop 1 ++ rest) := by
    rw [← List.append_assoc, List.take_append_drop]
  have firstSize : (handshake.take 1).length = 1 := by
    rw [List.length_take]
    omega
  have restSize : (handshake.drop 1).length = handshakeLen - 1 := by
    rw [List.length_drop, handshakeSize]
    rfl
  have whole : handshake.take 1 ++ handshake.drop 1 = handshake :=
    List.take_append_drop 1 handshake
  rw [readFirstByteInit, cut, finish_raw (by decide) firstSize]
  simp only [ne_eq, not_true_eq_false, and_false, if_false]
  rw [finish_raw (by decide) restSize, whole]
  exact finish_handshake accepted _

/-- `_read_client_init` with a hello which verifies goes on to the handshake. -/
theorem finish_hello {hello : Bytes} {verdict : HelloVerdict}
    (verified : verifyClientHello crypto now hello secret = .ok (some verdict))
    (s : FakeTlsStream) :
    (readHelloInit masking hello >>= requestAfter).finish
        (initWorld crypto secret now) (fun _ => prompt) s =
      (readexactlyOrNone .handshakeInTls handshakeLen (fun handshake =>
          return .handshake handshake) >>= requestAfter).finish
        (initWorld crypto secret now) (fun _ => prompt) s := by
  have performed : (initWorld crypto secret now).perform s
      (.verifyClientHello hello) (prompt (.verifyClientHello hello)) =
        (.ok (some verdict), s) :=
    Prod.ext verified rfl
  unfold readHelloInit
  change (Program.perform _ >>= _).finish _ _ _ = _
  rw [Program.finish_perform, performed]
  rfl

/-- Behind the first byte of a TLS record, up to the hello. -/
theorem finish_record {hello : WireRecord} (masked : masking ≠ "")
    (isHandshake : hello.rtype = tlsRecordHandshake) (behind : Bytes)
    (arrived : Nat → Nat) :
    (readFirstByteInit masking >>= requestAfter).finish
        (initWorld crypto secret now) (fun _ => prompt)
        ⟨⟨hello.encode ++ behind, arrived⟩, [], 0⟩ =
      (readHelloInit masking hello.encode >>= requestAfter).finish
        (initWorld crypto secret now) (fun _ => prompt)
        ⟨⟨behind, arrived⟩, [], 0⟩ := by
  have cut : hello.encode ++ behind =
      [hello.rtype] ++ (hello.header.drop 1 ++ (hello.body ++ behind)) := by
    rw [WireRecord.encode, List.append_assoc]
    rfl
  have firstSize : [hello.rtype].length = 1 := rfl
  have restSize : (hello.header.drop 1).length = 4 := by
    rw [List.length_drop, hello.length_header]
  have header : [hello.rtype] ++ hello.header.drop 1 = hello.header := rfl
  have isTls : [hello.rtype].getD 0 0 = tlsRecordHandshake ∧ masking ≠ "" :=
    ⟨isHandshake, masked⟩
  rw [readFirstByteInit, cut, finish_raw (by decide) firstSize]
  simp only [if_pos isTls]
  rw [readTlsInit, finish_raw (by decide) restSize]
  simp only [header, hello.header_len]
  rw [finish_raw (by decide) (Eq.refl hello.body.length)]
  rfl

/-- The handshake in TLS records. -/
theorem finish_records {records : List TlsRecord}
    (handshakeSize : handshake.length = 64)
    (accepted : tryHandshake crypto handshake secret = .ok (some request))
    (carried : payloads records = handshake ++ rest) (arrived : Nat → Nat) :
    ∃ s, (readexactlyOrNone .handshakeInTls handshakeLen (fun handshake =>
          return .handshake handshake) >>= requestAfter).finish
        (initWorld crypto secret now) (fun _ => prompt)
        ⟨⟨encodeAll records, arrived⟩, [], 0⟩ = (some request, s) ∧
      FakeTlsStream.UndeliveredBefore [] s rest := by
  have undelivered : FakeTlsStream.UndeliveredBefore []
      ⟨⟨encodeAll records, arrived⟩, [], 0⟩ (handshake ++ rest) := by
    refine ⟨[], records, ?_, rfl, ?_⟩
    · rw [List.append_nil]
      rfl
    · rw [carried]
      rfl
  have enough : 64 ≤ (handshake ++ rest).length := by
    rw [List.length_append]
    omega
  obtain ⟨later, read, after⟩ := FakeTlsStream.readexactly_spec undelivered
    enough
  rw [List.take_left' handshakeSize] at read
  rw [List.drop_left' handshakeSize] at after
  have filled : timedRead .handshakeInTls handshakeLen .inTime
      ⟨⟨encodeAll records, arrived⟩, [], 0⟩ = (.filled handshake, later) := by
    simp only [timedRead]
    rw [show handshakeLen = 64 from rfl, read]
  refine ⟨later, ?_, after⟩
  rw [finish_filled filled]
  exact finish_handshake accepted later

/-- `_handle_client` from the first byte which is not of the PROXY line. -/
theorem Client.firstByte
    (client : Client crypto secret now handshake rest masking wire)
    (handshakeSize : handshake.length = 64)
    (accepted : tryHandshake crypto handshake secret = .ok (some request))
    (arrived : Nat → Nat) :
    ∃ s input next,
      (readFirstByteInit masking >>= requestAfter).finish
          (initWorld crypto secret now) (fun _ => prompt)
          ⟨⟨wire, arrived⟩, [], 0⟩ = (some request, s) ∧
        sessionReader masking s = ClientInput.reader next input ∧
        input.clientBytes = rest := by
  cases client with
  | plain =>
      exact ⟨⟨⟨rest, arrived⟩, [], 0⟩, .plain rest, arrived,
        finish_plain handshakeSize accepted arrived, rfl, rfl⟩
  | fakeTls masked isHandshake verified carried =>
      obtain ⟨later, finished, undelivered⟩ := @finish_records crypto secret now
        _ _ _ _ handshakeSize accepted carried arrived
      obtain ⟨input, next, isReader, bytes⟩ := reader_of_undelivered undelivered
      refine ⟨later, input, next, ?_, ?_, bytes⟩
      · rw [finish_record masked isHandshake, finish_hello verified]
        exact finished
      · rw [sessionReader, if_neg masked, isReader]

theorem Client.accepted {proxyProtocol : Bool} {line : Bytes}
    (client : Client crypto secret now handshake rest masking wire)
    (proxy : ProxyLine proxyProtocol line)
    (handshakeSize : handshake.length = 64)
    (accepted : tryHandshake crypto handshake secret = .ok (some request))
    (arrived : Nat → Nat) :
    ∃ s input next,
      (handleClientInit proxyProtocol masking).finish
          (initWorld crypto secret now) (fun _ => prompt)
          ⟨⟨line ++ wire, arrived⟩, [], 0⟩ = (some request, s) ∧
        sessionReader masking s = ClientInput.reader next input ∧
        input.clientBytes = rest := by
  cases proxy with
  | absent => exact client.firstByte handshakeSize accepted arrived
  | @line text oneLine short =>
      have read := @readline_line arrived text oneLine short wire
      have performed : (initWorld crypto secret now).perform
          ⟨⟨text ++ [0x0A] ++ wire, arrived⟩, [], 0⟩ .proxyLine
          (prompt .proxyLine) = (true, ⟨⟨wire, arrived⟩, [], 0⟩) := by
        simp only [prompt, read]
      have behindLine : (handleClientInit true masking).finish
          (initWorld crypto secret now) (fun _ => prompt)
          ⟨⟨text ++ [0x0A] ++ wire, arrived⟩, [], 0⟩ =
        (readFirstByteInit masking >>= requestAfter).finish
          (initWorld crypto secret now) (fun _ => prompt)
          ⟨⟨wire, arrived⟩, [], 0⟩ := by
        unfold handleClientInit readClientInit
        change (Program.perform _ >>= _).finish _ _ _ = _
        rw [Program.finish_perform, performed]
        rfl
      rw [behindLine]
      exact client.firstByte handshakeSize accepted arrived

end Clients

/-- From the first byte of a client, plain or Fake-TLS, behind a PROXY server or
not: if its reads and the answer to it are in time, its handshake is accepted, and
whatever the session does then, Telegram is sent the relay header and the front
of what the client sends behind its handshake. -/
theorem client_endToEnd (crypto : Primitives) (frames : Wire.FrameModule)
    (writer : ClientWriter) {secret : Bytes} {now : Nat} {masking : String}
    {proxyProtocol : Bool} {line wire handshake rest : Bytes}
    {request : ClientRequest} {relayInit : Wire.PyBytes}
    (client : Client crypto secret now handshake rest masking wire)
    (proxy : ProxyLine proxyProtocol line)
    (handshakeSize : handshake.length = 64)
    (accepted : tryHandshake crypto handshake secret = .ok (some request))
    (relaySize : relayInit.val.length = 64) (arrived : Nat → Nat)
    (unread : Bytes) :
    ∃ s start,
      (handleClientInit proxyProtocol masking).finish
          (initWorld crypto secret now) (fun _ => prompt)
          ⟨⟨line ++ wire, arrived⟩, [], 0⟩ = (some request, s) ∧
      Tunnel.start crypto frames request secret relayInit
          (sessionReader masking s) unread = .ok start ∧
      ∀ events,
        let s := run (RecordedTunnel.step crypto frames writer) (.start start)
          events
        s.DeliversUp crypto secret handshake relayInit.val
          (protoIntOfTag request.protoTag) rest ∧
        ((∀ event ∈ events, event.GoesOn) →
          s.wire.ws.closed = true ∨ s.read = rest ∨
            2 ^ 63 ≤ s.read.length ∨ s.wire.Live) := by
  obtain ⟨s, input, next, read, isReader, bytes⟩ :=
    client.accepted proxy handshakeSize accepted arrived
  obtain ⟨start, started, kept, -, live⟩ := Tunnel.start_kept crypto frames
    handshakeSize accepted relaySize (sessionReader masking s) unread
  have initial := kept input next isReader
  refine ⟨s, start, read, started, fun events => ?_⟩
  rw [← bytes]
  refine ⟨(initial.run writer events).deliversUp, fun goesOn => ?_⟩
  have sends : Tunnel.GoesOnSending input (.start start) :=
    .inr (.inr (.inr live))
  exact sends.run writer initial goesOn

/-- Without tables, a handshake reads as it is written. -/
def openHandshake : Bytes :=
  List.replicate 56 7 ++ protoTagSecure ++ [2, 0, 0, 0]

def openHello : WireRecord :=
  ⟨0x16, 3, 1, (signHello (Primitives.ofTables [] []) []
    ([0x16, 0x03, 0x01, 0x00, 0x26, 0x01] ++ List.replicate 37 0)
    1700000000).drop 5, by decide +kernel⟩

theorem openHello_verified :
    verifyClientHello (Primitives.ofTables [] []) 1700000060 openHello.encode
      [] = .ok (some ⟨slice openHello.encode 11 43, List.replicate 32 0,
        1700000000⟩) := by
  decide +kernel

/-- The handshake and one more byte, cut into two records. -/
def openRecords : List TlsRecord :=
  [⟨.applicationData, 3, 3, openHandshake.take 40, by decide, by decide⟩,
    ⟨.applicationData, 3, 3, openHandshake.drop 40 ++ [9], by decide,
      by decide⟩]

theorem client_endToEnd_open :
    ∃ s start,
      (handleClientInit true "example.com").finish
          (initWorld (Primitives.ofTables [] []) [] 1700000060)
          (fun _ => prompt)
          ⟨⟨[0x50, 0x0D] ++ [0x0A] ++ (openHello.encode ++ encodeAll openRecords),
            fun _ => 3⟩, [], 0⟩ =
        (some ⟨2, false, protoTagSecure, slice openHandshake 8 56⟩, s) ∧
      Tunnel.start (Primitives.ofTables [] []) recordedFrames
          ⟨2, false, protoTagSecure, slice openHandshake 8 56⟩ [] recordedRelay
          (sessionReader "example.com" s) [] = .ok start ∧
      ∀ events,
        let s := run (RecordedTunnel.step (Primitives.ofTables [] [])
          recordedFrames .fakeTls) (.start start) events
        s.DeliversUp (Primitives.ofTables [] []) [] openHandshake recordedDraw
          protoPaddedIntermediateInt [9] ∧
        ((∀ event ∈ events, event.GoesOn) →
          s.wire.ws.closed = true ∨ s.read = [9] ∨
            2 ^ 63 ≤ s.read.length ∨ s.wire.Live) :=
  client_endToEnd (Primitives.ofTables [] []) recordedFrames .fakeTls
    (.fakeTls (by decide) rfl openHello_verified (by decide +kernel))
    (.line (by decide) (by decide)) (by decide +kernel)
    (by decide +kernel) (by decide +kernel) (fun _ => 3) []

end TgWsProxy.Python
