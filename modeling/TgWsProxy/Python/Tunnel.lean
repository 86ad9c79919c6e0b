import TgWsProxy.Python.BridgeTail
import TgWsProxy.Python.WebSocketClose
import TgWsProxy.Python.WirePayloads
import TgWsProxy.RecvUntilClose

/-!
# A Python session from byte to byte

`bridge_ws_reencrypt` between its two connections, with the bytes which each of
them takes and gives: the reader of the client, plain or Fake-TLS, the ciphers,
the splitter, the frames of the WebSocket, and the writer of the client.  The
tasks are those of `Wire.Session`, with every point at which they can be
cancelled.
-/

namespace TgWsProxy.Python

open Lib

/-- The writer of a session: that of the connection, or a Fake-TLS stream on
it. -/
inductive ClientWriter where
  | plain
  | fakeTls
deriving DecidableEq, Repr

/-- What `writer.write(data)` puts on the connection. -/
def ClientWriter.write (writer : ClientWriter) (data : Bytes) : Bytes :=
  match writer with
  | .plain => data
  | .fakeTls => wrapTlsRecord data

/-- A `bytes` object, if there is one of this length. -/
def pyBytes (data : Bytes) : Option Wire.PyBytes :=
  if fits : data.length < 2 ^ 63 then some ⟨data, fits⟩ else none

/-- How `tcp_to_ws` sends the parts of a chunk. -/
def sendsOf : List Bytes → Option Wire.Sends
  | [] => some .nothing
  | [part] => (pyBytes part).map .one
  | parts => (parts.mapM pyBytes).map .batch

/-- What `reader.read(n)` returns, or nothing if it raises. -/
def ClientReader.returned (reader : ClientReader) (n : Nat) : Bytes :=
  match reader.read n with
  | .error _ => []
  | .ok (chunk, _) => chunk

/-- What `_read_frame` returns, if it does. -/
def returnedFrame (native : Option NativeModule) (unread : Bytes) :
    Option (Nat × Bytes) :=
  match (readFrame native).on unread with
  | .failed _ | .waiting => none
  | .done frame _ => some frame

structure Tunnel where
  wire : Wire.Session
  ctx : CryptoCtx
  splitter : Option MsgSplitter
  reader : ClientReader
  /-- What Telegram has sent and `_read_frame` has not returned. -/
  unread : Bytes
  /-- What the connection to the client was given. -/
  toClient : Bytes

inductive TunnelEvent where
  /-- `reader.read` returns or raises. -/
  | readReturns (aboveHighWater : Bool)
  /-- `_read_frame` returns or raises. -/
  | frameReturns (aboveHighWater : Bool)
  /-- Another resumption, an exception or a cancellation. -/
  | task (event : Wire.SessionEvent)

/-- The events of the two tasks. -/
def TunnelEvent.OfTasks : TunnelEvent → Prop
  | .readReturns _ | .frameReturns _ => True
  | .task event => event.OfTasks

/-- The tasks go on: nothing raises but what the readers return, and nobody
cancels. -/
def TunnelEvent.GoesOn : TunnelEvent → Prop
  | .readReturns _ | .frameReturns _ => True
  | .task event => event.GoesOn

theorem TunnelEvent.GoesOn.ofTasks {event : TunnelEvent}
    (goesOn : event.GoesOn) : event.OfTasks := by
  cases event with
  | readReturns aboveHighWater | frameReturns aboveHighWater => trivial
  | task event =>
      cases event with
      | upStarts | upDrained | downStarts | downDrained succeeds => trivial
      | begin relayInit | clientRead sends aboveHighWater | clientEnds tail
        | upFails | wsFrame opcode payload aboveHighWater | downFails | cancelUp
        | cancelDown | mainResumes cancelled | closeWebSocket | sessionEnds =>
          exact goesOn.elim

/-- What the client receives: in Fake-TLS mode, application-data records with
the data. -/
def ClientWriter.Carries (writer : ClientWriter) (wire data : Bytes) : Prop :=
  match writer with
  | .plain => wire = data
  | .fakeTls => ∃ records, wire = Rust.encodeAll records ∧
      Rust.payloads records = data ∧
      ∀ record ∈ records, 1 ≤ record.body.length ∧
        record.body.length ≤ tlsAppdataMax

/-- What Telegram sends: frames, the last of which the end of the stream may
cut short. -/
structure TelegramInput where
  frames : List WsFrame
  cut : Bytes
  short : ∃ frame : WsFrame, cut <+: frame.encode ∧ cut ≠ frame.encode

def TelegramInput.stream (input : TelegramInput) : Bytes :=
  WsFrame.encodeAll input.frames ++ input.cut

namespace Tunnel

section Steps

variable (crypto : Primitives) (frames : Wire.FrameModule)
  (writer : ClientWriter)

def resume (s : Tunnel) (event : Wire.SessionEvent) : Tunnel :=
  { s with wire := s.wire.step frames event }

/-- `tcp_to_ws` sends the parts of a chunk. -/
def sendParts (s : Tunnel) (parts : List Bytes) (aboveHighWater : Bool) :
    Tunnel :=
  match sendsOf parts with
  | none => s.resume frames .upFails
  | some sends => s.resume frames (.clientRead sends aboveHighWater)

/-- `tcp_to_ws` with a chunk. -/
def forwardUp (s : Tunnel) (chunk : Bytes) (aboveHighWater : Bool) : Tunnel :=
  let (plain, cltDec) := s.ctx.cltDec.update crypto chunk
  let (data, tgEnc) := s.ctx.tgEnc.update crypto plain
  let s := { s with ctx := { s.ctx with cltDec, tgEnc } }
  match s.splitter with
  | none => s.sendParts frames [data] aboveHighWater
  | some splitter =>
      match splitter.split crypto data with
      | .error _ => s.resume frames .upFails
      | .ok (parts, splitter) =>
          { s with splitter := some splitter }.sendParts frames parts
            aboveHighWater

/-- `tcp_to_ws` at the end of the client's stream. -/
def flushTail (s : Tunnel) : Tunnel :=
  match s.splitter with
  | none => s.resume frames (.clientEnds none)
  | some splitter =>
      let s := { s with splitter := some splitter.flush.2 }
      match splitter.flush.1 with
      | [] => s.resume frames (.clientEnds none)
      | tail :: _ =>
          match pyBytes tail with
          | none => s.resume frames .upFails
          | some tail => s.resume frames (.clientEnds (some tail))

/-- `tcp_to_ws` after `reader.read`. -/
def readReturns (s : Tunnel) (aboveHighWater : Bool) : Tunnel :=
  match s.reader.read 65536 with
  | .error _ => s.resume frames .upFails
  | .ok (chunk, reader) =>
      let s := { s with reader }
      if chunk = [] then s.flushTail frames
      else s.forwardUp crypto frames chunk aboveHighWater

/-- `ws_to_tcp` with a message. -/
def forwardDown (s : Tunnel) (payload : Bytes) : Tunnel :=
  let (plain, tgDec) := s.ctx.tgDec.update crypto payload
  let (data, cltEnc) := s.ctx.cltEnc.update crypto plain
  { s with
    ctx := { s.ctx with tgDec, cltEnc }
    toClient := s.toClient ++ writer.write data }

/-- `ws_to_tcp` with a frame. -/
def handleFrame (s : Tunnel) (opcode : Nat) (payload : Bytes)
    (aboveHighWater : Bool) : Tunnel :=
  match pyBytes payload with
  | none => s.resume frames .downFails
  | some data =>
      let s :=
        if opcode = 0x1 ∨ opcode = 0x2 then s.forwardDown crypto writer payload
        else s
      s.resume frames (.wsFrame opcode data aboveHighWater)

/-- `ws_to_tcp` after `_read_frame`, which raises if the stream ends inside a
frame. -/
def frameReturns (s : Tunnel) (aboveHighWater : Bool) : Tunnel :=
  match (readFrame frames.native).on s.unread with
  | .failed _ | .waiting => s.resume frames .downFails
  | .done (opcode, payload) unread =>
      { s with unread }.handleFrame crypto frames writer opcode payload
        aboveHighWater

/-- The next state of the session.  A task which was cancelled while it read
raises when it is resumed, and has taken nothing. -/
def step (s : Tunnel) : TunnelEvent → Tunnel
  | .readReturns aboveHighWater =>
      if s.wire.up = .reading ∧ s.wire.upCancelled = false then
        s.readReturns crypto frames aboveHighWater
      else s
  | .frameReturns aboveHighWater =>
      if s.wire.down = .receiving ∧ s.wire.downCancelled = false then
        s.frameReturns crypto frames writer aboveHighWater
      else s
  | .task event => if event.BringsData then s else s.resume frames event

/-- The session which `_handle_client` starts for an accepted request, on an
open WebSocket. -/
def start (request : ClientRequest) (secret : Bytes)
    (relayInit : Wire.PyBytes) (reader : ClientReader) (unread : Bytes) :
    Except PyError Tunnel := do
  let ctx ← buildCryptoCtx crypto request.decPrekeyIv secret relayInit.val
  let splitter := (MsgSplitter.new crypto relayInit.val
    (protoIntOfTag request.protoTag)).toOption
  return { wire := Wire.Session.start.step frames (.begin relayInit), ctx,
           splitter, reader, unread, toClient := [] }

/-- `_cipher_buf` of the splitter. -/
def pending (s : Tunnel) : Bytes :=
  match s.splitter with
  | none => []
  | some splitter => splitter.cipherBuf

end Steps

end Tunnel

/-- A session together with what its reads have returned, recorded where they
return. -/
structure RecordedTunnel extends Tunnel where
  /-- What `reader.read` has returned. -/
  read : Bytes
  /-- What `_read_frame` has returned: opcodes and payloads. -/
  gone : List (Nat × Bytes)

namespace RecordedTunnel

def start (tunnel : Tunnel) : RecordedTunnel := ⟨tunnel, [], []⟩

def step (crypto : Primitives) (frames : Wire.FrameModule)
    (writer : ClientWriter) (s : RecordedTunnel) (event : TunnelEvent) :
    RecordedTunnel :=
  { toTunnel := s.toTunnel.step crypto frames writer event
    read :=
      match event with
      | .readReturns _ =>
          if s.wire.up = .reading ∧ s.wire.upCancelled = false then
            s.read ++ s.reader.returned 65536
          else s.read
      | _ => s.read
    gone :=
      match event with
      | .frameReturns _ =>
          if s.wire.down = .receiving ∧ s.wire.downCancelled = false then
            s.gone ++ (returnedFrame frames.native s.unread).toList
          else s.gone
      | _ => s.gone }

/-- What is recorded does not change what the session does. -/
theorem run_toTunnel (crypto : Primitives) (frames : Wire.FrameModule)
    (writer : ClientWriter) (s : RecordedTunnel) (events : List TunnelEvent) :
    (run (step crypto frames writer) s events).toTunnel =
      run (Tunnel.step crypto frames writer) s.toTunnel events := by
  induction events generalizing s with
  | nil => rfl
  | cons event events induction =>
      exact induction (s.step crypto frames writer event)

end RecordedTunnel

namespace Tunnel

section Upstream

variable {crypto : Primitives} {frames : Wire.FrameModule}
  {session : CryptoCtx} {relayInit : Bytes} {proto : Nat}
  {input : ClientInput} {s : Tunnel} {read : Bytes} {returned : List Bytes}

/-- What `tcp_to_ws` needs to go on: the ciphers and the splitter stand where
the reads have come to, and the reader has the rest. -/
structure UpActive (crypto : Primitives) (session : CryptoCtx)
    (relayInit : Bytes) (proto : Nat) (input : ClientInput) (s : Tunnel)
    (read : Bytes) (returned : List Bytes) : Prop where
  cltDec : s.ctx.cltDec = session.cltDec.advance read.length
  tgEnc : s.ctx.tgEnc = session.tgEnc.advance read.length
  follows : ∃ splitter, s.splitter = some splitter ∧
    splitter.Follows crypto relayInit proto
      (reencryptedUp crypto session read) returned
  reads : ∃ left : ClientInput, ∃ arrived, s.reader = left.reader arrived ∧
    read ++ left.clientBytes = input.clientBytes

/-- What was sent is an initial part of what was read, re-encrypted. -/
structure Upward (crypto : Primitives) (session : CryptoCtx)
    (relayInit : Bytes) (proto : Nat) (input : ClientInput) (s : Tunnel)
    (read : Bytes) (returned : List Bytes) : Prop where
  carries : Wire.Carries s.wire.ws (relayInit :: returned)
  forwarded : returned.flatten <+: reencryptedUp crypto session read
  readPart : read <+: input.clientBytes
  active : s.wire.Sending →
    UpActive crypto session relayInit proto input s read returned

theorem map_val_pyBytes {parts : List Bytes} {objects : List Wire.PyBytes}
    (made : parts.mapM pyBytes = some objects) :
    objects.map Subtype.val = parts := by
  induction parts generalizing objects with
  | nil =>
      cases made
      rfl
  | cons part parts induction =>
      rw [List.mapM_cons] at made
      by_cases fits : part.length < 2 ^ 63
      · rw [pyBytes, dif_pos fits] at made
        cases later : parts.mapM pyBytes with
        | none =>
            rw [later] at made
            cases made
        | some rest =>
            rw [later] at made
            cases made
            exact congrArg (part :: ·) (induction later)
      · rw [pyBytes, dif_neg fits] at made
        cases made

theorem parts_sendsOf {parts : List Bytes} {sends : Wire.Sends}
    (made : sendsOf parts = some sends) : sends.parts = parts := by
  match parts with
  | [] =>
      cases made
      rfl
  | [part] =>
      obtain ⟨object, isObject, rfl⟩ := Option.map_eq_some_iff.mp made
      unfold pyBytes at isObject
      split at isObject
      · cases isObject
        rfl
      · cases isObject
  | _ :: _ :: _ =>
      obtain ⟨objects, areObjects, rfl⟩ := Option.map_eq_some_iff.mp made
      exact map_val_pyBytes areObjects

/-- A step which sends nothing. -/
theorem Upward.quiet
    (up : Upward crypto session relayInit proto input s read returned)
    {next : Wire.Session}
    (quiet : Wire.Session.Quiet (relayInit :: returned) s.wire next) :
    Upward crypto session relayInit proto input { s with wire := next } read
      returned := by
  refine ⟨quiet.carries, up.forwarded, up.readPart, fun sending => ?_⟩
  obtain ⟨cltDec, tgEnc, follows, reads⟩ := up.active (quiet.sending sending)
  exact ⟨cltDec, tgEnc, follows, reads⟩

theorem Upward.fails
    (up : Upward crypto session relayInit proto input s read returned) :
    Upward crypto session relayInit proto input (s.resume frames .upFails)
      read returned :=
  up.quiet (Wire.Session.task_quiet up.carries .upFails rfl)

/-- `tcp_to_ws` after it has ended. -/
theorem Upward.ended {next : Tunnel}
    (carries : Wire.Carries next.wire.ws (relayInit :: returned))
    (forwarded : returned.flatten <+: reencryptedUp crypto session read)
    (readPart : read <+: input.clientBytes)
    (ends : ¬ next.wire.Sending) :
    Upward crypto session relayInit proto input next read returned :=
  ⟨carries, forwarded, readPart, fun sending => absurd sending ends⟩

theorem upFails_ends (frames : Wire.FrameModule) {wire : Wire.Session}
    (reading : wire.up = .reading) :
    ¬ (wire.step frames .upFails).Sending := by
  simp [Wire.Session.step, reading, Wire.Session.Sending]

/-- The parts of a chunk are sent, or `tcp_to_ws` ends. -/
theorem sendParts_upward (returned : List Bytes) {parts : List Bytes}
    (carries : Wire.Carries s.wire.ws (relayInit :: returned))
    (reading : s.wire.up = .reading) (running : s.wire.upCancelled = false)
    (whole : (returned ++ parts).flatten <+:
      reencryptedUp crypto session read)
    (readPart : read <+: input.clientBytes)
    (active : UpActive crypto session relayInit proto input s read
      (returned ++ parts)) (aboveHighWater : Bool) :
    ∃ sent, Upward crypto session relayInit proto input
      (s.sendParts frames parts aboveHighWater) read sent := by
  have before : returned.flatten <+: reencryptedUp crypto session read := by
    rw [List.flatten_append] at whole
    exact (List.prefix_append _ _).trans whole
  unfold Tunnel.sendParts
  cases made : sendsOf parts with
  | none =>
      have quiet := @Wire.Session.task_quiet frames s.wire _ carries .upFails rfl
      exact ⟨returned, .ended quiet.carries before readPart
        (upFails_ends frames reading)⟩
  | some sends =>
      have sent := @Wire.Session.clientRead_carries frames s.wire _ carries
        reading running sends aboveHighWater
      rw [parts_sendsOf made] at sent
      rcases sent with sent | ⟨unsent, ends⟩
      · obtain ⟨cltDec, tgEnc, follows, reads⟩ := active
        exact ⟨returned ++ parts, sent, whole, readPart,
          fun _ => ⟨cltDec, tgEnc, follows, reads⟩⟩
      · exact ⟨returned, .ended unsent before readPart ends⟩

theorem Upward.forwardUp
    (up : Upward crypto session relayInit proto input s read returned)
    (reading : s.wire.up = .reading) (running : s.wire.upCancelled = false)
    (chunk : Bytes) (reader : ClientReader)
    (reads : ∃ left : ClientInput, ∃ arrived, reader = left.reader arrived ∧
      read ++ chunk ++ left.clientBytes = input.clientBytes)
    (aboveHighWater : Bool) :
    ∃ sent, Upward crypto session relayInit proto input
      (Tunnel.forwardUp crypto frames { s with reader } chunk aboveHighWater)
      (read ++ chunk) sent := by
  obtain ⟨cltDec, tgEnc, ⟨splitter, isSplitter, follows⟩, -⟩ :=
    up.active (.inr (.inl reading))
  obtain ⟨parts, next, split, followsNext⟩ := follows.split
    (s.ctx.tgEnc.apply crypto (s.ctx.cltDec.apply crypto chunk))
  have data : reencryptedUp crypto session read ++
      s.ctx.tgEnc.apply crypto (s.ctx.cltDec.apply crypto chunk) =
        reencryptedUp crypto session (read ++ chunk) := by
    rw [reencryptedUp_append, cltDec, tgEnc]
  rw [data] at followsNext
  have readPart : read ++ chunk <+: input.clientBytes := by
    obtain ⟨left, arrived, -, whole⟩ := reads
    exact ⟨left.clientBytes, whole⟩
  simp only [Tunnel.forwardUp, AesCtr.update_eq, isSplitter, split,
    AesCtr.length_apply]
  refine sendParts_upward returned ?_ ?_ ?_ ?_ ?_ ?_ _
  · exact up.carries
  · exact reading
  · exact running
  · exact ⟨next.cipherBuf, followsNext.conserved⟩
  · exact readPart
  · refine ⟨?_, ?_, ⟨next, rfl, followsNext⟩, reads⟩
    · exact (congrArg (AesCtr.advance · chunk.length) cltDec).trans
        (AesCtr.advance_append _ _ _)
    · exact (congrArg (AesCtr.advance · chunk.length) tgEnc).trans
        (AesCtr.advance_append _ _ _)

theorem Upward.flushTail
    (up : Upward crypto session relayInit proto input s read returned)
    (reading : s.wire.up = .reading) (running : s.wire.upCancelled = false)
    (reader : ClientReader) :
    ∃ sent, Upward crypto session relayInit proto input
      (Tunnel.flushTail frames { s with reader }) read sent := by
  obtain ⟨-, -, ⟨splitter, isSplitter, follows⟩, -⟩ :=
    up.active (.inr (.inl reading))
  obtain ⟨nothing, ends⟩ := @Wire.Session.clientEnds_carries frames s.wire _
    up.carries reading running none
  have quiet := @Wire.Session.task_quiet frames s.wire _ up.carries .upFails rfl
  have unsent : Wire.Carries (s.wire.step frames (.clientEnds none)).ws
      (relayInit :: returned) := by
    rcases nothing with sent | ⟨unsent, -⟩
    · rw [Option.toList_none, List.map_nil, List.append_nil] at sent
      exact sent
    · exact unsent
  simp only [Tunnel.flushTail, isSplitter]
  by_cases empty : splitter.cipherBuf = []
  · have flushed : splitter.flush = ([], splitter) := if_pos empty
    simp only [flushed]
    exact ⟨returned, .ended unsent up.forwarded up.readPart ends⟩
  · have flushed : splitter.flush = ([splitter.cipherBuf],
        { splitter with cipherBuf := [], plainBuf := [] }) := if_neg empty
    simp only [flushed]
    by_cases fits : splitter.cipherBuf.length < 2 ^ 63
    · simp only [pyBytes, dif_pos fits]
      obtain ⟨sent, ends⟩ := @Wire.Session.clientEnds_carries frames s.wire _
        up.carries reading running (some ⟨splitter.cipherBuf, fits⟩)
      rcases sent with sent | ⟨unsent, -⟩
      · refine ⟨returned ++ [splitter.cipherBuf], .ended sent ?_ up.readPart ends⟩
        rw [List.flatten_append, List.flatten_singleton, follows.conserved]
      · exact ⟨returned, .ended unsent up.forwarded up.readPart ends⟩
    · simp only [pyBytes, dif_neg fits]
      exact ⟨returned, .ended quiet.carries up.forwarded up.readPart
        (upFails_ends frames reading)⟩

theorem Upward.readReturns
    (up : Upward crypto session relayInit proto input s read returned)
    (reading : s.wire.up = .reading) (running : s.wire.upCancelled = false)
    (aboveHighWater : Bool) :
    ∃ sent, Upward crypto session relayInit proto input
      (s.readReturns crypto frames aboveHighWater)
      (read ++ s.reader.returned 65536) sent := by
  obtain ⟨-, -, -, left, arrived, isReader, whole⟩ :=
    up.active (.inr (.inl reading))
  unfold Tunnel.readReturns ClientReader.returned
  by_cases none : left.clientBytes = []
  · obtain ⟨empty, raises⟩ := left.read_none arrived none
    by_cases ends : left.EndsEmpty
    · obtain ⟨later, reads⟩ := empty ends
      simp only [isReader, reads, if_true, List.append_nil]
      exact up.flushTail reading running later
    · obtain ⟨error, reads⟩ := raises ends
      simp only [isReader, reads, List.append_nil]
      exact ⟨returned, up.fails⟩
  · obtain ⟨piece, later, next, reads, split, nonempty, -⟩ :=
      left.read_some arrived none
    simp only [isReader, reads, if_neg nonempty]
    apply up.forwardUp reading running
    refine ⟨later, next, rfl, ?_⟩
    rw [List.append_assoc, ← split, whole]

end Upstream

section Downstream

variable {crypto : Primitives} {frames : Wire.FrameModule}
  {writer : ClientWriter} {session : CryptoCtx} {telegram : TelegramInput}
  {s : Tunnel} {gone : List (Nat × Bytes)}

/-- The payloads of the messages among the frames. -/
def messagesOf (gone : List (Nat × Bytes)) : Bytes :=
  ((gone.filter fun frame => frame.1 = 0x1 ∨ frame.1 = 0x2).map
    Prod.snd).flatten

theorem messagesOf_append (earlier later : List (Nat × Bytes)) :
    messagesOf (earlier ++ later) = messagesOf earlier ++ messagesOf later := by
  simp [messagesOf]

/-- What was written to the client is what was received, re-encrypted; the
frames which were read are the first ones of Telegram's stream. -/
structure Downward (crypto : Primitives) (writer : ClientWriter)
    (session : CryptoCtx) (telegram : TelegramInput) (s : Tunnel)
    (gone : List (Nat × Bytes)) : Prop where
  tgDec : s.ctx.tgDec = session.tgDec.advance (messagesOf gone).length
  cltEnc : s.ctx.cltEnc = session.cltEnc.advance (messagesOf gone).length
  written : ∃ writes : List Bytes,
    s.toClient = (writes.map writer.write).flatten ∧
      writes.flatten = reencryptedDown crypto session (messagesOf gone)
  stream : ∃ first left, telegram.frames = first ++ left ∧
    gone = first.map (fun frame => (frame.opcode.val, frame.payload)) ∧
    s.unread = WsFrame.encodeAll left ++ telegram.cut

/-- What a step of `tcp_to_ws` leaves alone. -/
structure DownFrame (s next : Tunnel) : Prop where
  tgDec : next.ctx.tgDec = s.ctx.tgDec
  cltEnc : next.ctx.cltEnc = s.ctx.cltEnc
  toClient : next.toClient = s.toClient
  unread : next.unread = s.unread

theorem Downward.frame (down : Downward crypto writer session telegram s gone)
    {next : Tunnel} (frame : DownFrame s next) :
    Downward crypto writer session telegram next gone := by
  obtain ⟨tgDec, cltEnc, toClient, unread⟩ := frame
  constructor
  · rw [tgDec, down.tgDec]
  · rw [cltEnc, down.cltEnc]
  · rw [toClient]
    exact down.written
  · rw [unread]
    exact down.stream

theorem DownFrame.resume {before : Tunnel} (frame : DownFrame before s)
    (event : Wire.SessionEvent) : DownFrame before (s.resume frames event) :=
  ⟨frame.tgDec, frame.cltEnc, frame.toClient, frame.unread⟩

theorem DownFrame.sendParts {before : Tunnel} (frame : DownFrame before s)
    (parts : List Bytes) (aboveHighWater : Bool) :
    DownFrame before (s.sendParts frames parts aboveHighWater) := by
  unfold Tunnel.sendParts
  split
  · exact frame.resume _
  · exact frame.resume _

theorem DownFrame.forwardUp {before : Tunnel} (frame : DownFrame before s)
    (chunk : Bytes) (aboveHighWater : Bool) :
    DownFrame before (s.forwardUp crypto frames chunk aboveHighWater) := by
  obtain ⟨tgDec, cltEnc, toClient, unread⟩ := frame
  simp only [Tunnel.forwardUp, AesCtr.update_eq]
  split
  · apply DownFrame.sendParts
    exact ⟨tgDec, cltEnc, toClient, unread⟩
  · split
    · apply DownFrame.resume
      exact ⟨tgDec, cltEnc, toClient, unread⟩
    · apply DownFrame.sendParts
      exact ⟨tgDec, cltEnc, toClient, unread⟩

theorem DownFrame.flushTail {before : Tunnel} (frame : DownFrame before s) :
    DownFrame before (s.flushTail frames) := by
  obtain ⟨tgDec, cltEnc, toClient, unread⟩ := frame
  simp only [Tunnel.flushTail]
  split
  · apply DownFrame.resume
    exact ⟨tgDec, cltEnc, toClient, unread⟩
  · split
    · apply DownFrame.resume
      exact ⟨tgDec, cltEnc, toClient, unread⟩
    · split
      · apply DownFrame.resume
        exact ⟨tgDec, cltEnc, toClient, unread⟩
      · apply DownFrame.resume
        exact ⟨tgDec, cltEnc, toClient, unread⟩

theorem readReturns_frame (s : Tunnel) (aboveHighWater : Bool) :
    DownFrame s (s.readReturns crypto frames aboveHighWater) := by
  simp only [Tunnel.readReturns]
  split
  · apply DownFrame.resume
    exact ⟨rfl, rfl, rfl, rfl⟩
  · split
    · apply DownFrame.flushTail
      exact ⟨rfl, rfl, rfl, rfl⟩
    · apply DownFrame.forwardUp
      exact ⟨rfl, rfl, rfl, rfl⟩

/-- What a step of `ws_to_tcp` leaves alone. -/
structure UpFrame (s next : Tunnel) : Prop where
  cltDec : next.ctx.cltDec = s.ctx.cltDec
  tgEnc : next.ctx.tgEnc = s.ctx.tgEnc
  splitter : next.splitter = s.splitter
  reader : next.reader = s.reader

theorem handleFrame_frame (s : Tunnel) (opcode : Nat) (payload : Bytes)
    (aboveHighWater : Bool) :
    UpFrame s
      (s.handleFrame crypto frames writer opcode payload aboveHighWater) := by
  simp only [Tunnel.handleFrame]
  split
  · exact ⟨rfl, rfl, rfl, rfl⟩
  · split
    · exact ⟨rfl, rfl, rfl, rfl⟩
    · exact ⟨rfl, rfl, rfl, rfl⟩

theorem frameReturns_frame (s : Tunnel) (aboveHighWater : Bool) :
    UpFrame s (s.frameReturns crypto frames writer aboveHighWater) := by
  simp only [Tunnel.frameReturns]
  split
  · exact ⟨rfl, rfl, rfl, rfl⟩
  · exact ⟨rfl, rfl, rfl, rfl⟩
  · rename_i opcode payload unread read
    obtain ⟨cltDec, tgEnc, splitter, reader⟩ :=
      @handleFrame_frame crypto frames writer { s with unread } opcode payload
        aboveHighWater
    exact ⟨cltDec, tgEnc, splitter, reader⟩

/-- In the session below, a frame is one event or the end of `ws_to_tcp`. -/
theorem frameReturns_wire (s : Tunnel) (aboveHighWater : Bool) :
    (s.frameReturns crypto frames writer aboveHighWater).wire =
        s.wire.step frames .downFails ∨
      ∃ opcode payload,
        (s.frameReturns crypto frames writer aboveHighWater).wire =
          s.wire.step frames (.wsFrame opcode payload aboveHighWater) := by
  simp only [Tunnel.frameReturns]
  split
  · exact .inl rfl
  · exact .inl rfl
  · simp only [Tunnel.handleFrame]
    split
    · exact .inl rfl
    · right
      split
      · exact ⟨_, _, rfl⟩
      · exact ⟨_, _, rfl⟩

/-- A message is re-encrypted and written in the step in which it is read. -/
theorem forwardDown_written {received : Bytes}
    (tgDec : s.ctx.tgDec = session.tgDec.advance received.length)
    (cltEnc : s.ctx.cltEnc = session.cltEnc.advance received.length)
    (written : ∃ writes : List Bytes,
      s.toClient = (writes.map writer.write).flatten ∧
        writes.flatten = reencryptedDown crypto session received)
    (payload : Bytes) :
    (s.forwardDown crypto writer payload).ctx.tgDec =
        session.tgDec.advance (received ++ payload).length ∧
      (s.forwardDown crypto writer payload).ctx.cltEnc =
        session.cltEnc.advance (received ++ payload).length ∧
      ∃ writes : List Bytes,
        (s.forwardDown crypto writer payload).toClient =
            (writes.map writer.write).flatten ∧
          writes.flatten =
            reencryptedDown crypto session (received ++ payload) := by
  obtain ⟨writes, toClient, whole⟩ := written
  simp only [Tunnel.forwardDown, AesCtr.update_eq, AesCtr.length_apply]
  refine ⟨?_, ?_, writes ++ [s.ctx.cltEnc.apply crypto
    (s.ctx.tgDec.apply crypto payload)], ?_, ?_⟩
  · rw [tgDec, AesCtr.advance_append]
  · rw [cltEnc, AesCtr.advance_append]
  · rw [toClient, List.map_append, List.flatten_append, List.map_singleton,
      List.flatten_singleton]
  · rw [List.flatten_append, List.flatten_singleton, whole,
      reencryptedDown_append, tgDec, cltEnc]

/-- A frame which the end of the stream cuts short is never returned. -/
theorem readFrame_cut (native : Option NativeModule)
    (telegram : TelegramInput) :
    (readFrame native).on telegram.cut = .waiting := by
  obtain ⟨frame, isPrefix, shorter⟩ := telegram.short
  apply Reading.on_of_isPrefix _ isPrefix shorter
  · exact (frame.opcode.val, frame.payload)
  · have read := readFrame_encode native frame []
    rw [List.append_nil] at read
    exact read

theorem Downward.frameReturns
    (down : Downward crypto writer session telegram s gone)
    (aboveHighWater : Bool) :
    Downward crypto writer session telegram
      (s.frameReturns crypto frames writer aboveHighWater)
      (gone ++ (returnedFrame frames.native s.unread).toList) := by
  obtain ⟨tgDec, cltEnc, written, first, left, cut, isGone, unread⟩ := down
  cases left with
  | nil =>
      have starved : (readFrame frames.native).on s.unread = .waiting := by
        rw [unread]
        exact readFrame_cut frames.native telegram
      simp only [Tunnel.frameReturns, returnedFrame, starved,
        Option.toList_none, List.append_nil]
      exact ⟨tgDec, cltEnc, written, first, [], cut, isGone, unread⟩
  | cons frame left =>
      have read : (readFrame frames.native).on s.unread =
          .done (frame.opcode.val, frame.payload)
            (WsFrame.encodeAll left ++ telegram.cut) := by
        rw [unread, WsFrame.encodeAll_cons, List.append_assoc]
        exact readFrame_encode frames.native frame _
      have fits : frame.payload.length < 2 ^ 63 :=
        LengthForm.lt_of_fits frame.fits
      have front : telegram.frames = (first ++ [frame]) ++ left := by
        rw [cut, List.append_assoc, List.singleton_append]
      have isGoneToo : gone ++ [(frame.opcode.val, frame.payload)] =
          (first ++ [frame]).map fun frame =>
            (frame.opcode.val, frame.payload) := by
        rw [isGone, List.map_append, List.map_singleton]
      simp only [Tunnel.frameReturns, returnedFrame, read, Tunnel.handleFrame,
        pyBytes, dif_pos fits, Tunnel.resume, Option.toList_some]
      by_cases isMessage : frame.opcode.val = 0x1 ∨ frame.opcode.val = 0x2
      · have messages : messagesOf
            (gone ++ [(frame.opcode.val, frame.payload)]) =
              messagesOf gone ++ frame.payload := by
          rw [messagesOf_append]
          simp [messagesOf, isMessage]
        simp only [if_pos isMessage]
        obtain ⟨tgDec, cltEnc, written⟩ :=
          forwardDown_written tgDec cltEnc written frame.payload
        rw [← messages] at tgDec cltEnc written
        exact ⟨tgDec, cltEnc, written, first ++ [frame], left, front, isGoneToo,
          rfl⟩
      · have messages : messagesOf
            (gone ++ [(frame.opcode.val, frame.payload)]) =
              messagesOf gone := by
          rw [messagesOf_append]
          simp [messagesOf, isMessage]
        simp only [if_neg isMessage]
        rw [← messages] at tgDec cltEnc written
        exact ⟨tgDec, cltEnc, written, first ++ [frame], left, front, isGoneToo,
          rfl⟩

theorem Downward.step {s : RecordedTunnel}
    (down : Downward crypto writer session telegram s.toTunnel s.gone)
    (event : TunnelEvent) :
    Downward crypto writer session telegram
      (s.step crypto frames writer event).toTunnel
      (s.step crypto frames writer event).gone := by
  cases event with
  | readReturns aboveHighWater =>
      simp only [RecordedTunnel.step, Tunnel.step]
      split
      · exact down.frame (readReturns_frame s.toTunnel aboveHighWater)
      · exact down
  | frameReturns aboveHighWater =>
      simp only [RecordedTunnel.step, Tunnel.step]
      split
      · exact down.frameReturns aboveHighWater
      · exact down
  | task event =>
      simp only [RecordedTunnel.step, Tunnel.step]
      split
      · exact down
      · apply down.frame
        apply DownFrame.resume
        exact ⟨rfl, rfl, rfl, rfl⟩

end Downstream

section Runs

variable {crypto : Primitives} {frames : Wire.FrameModule}
  {writer : ClientWriter} {session : CryptoCtx} {relayInit : Bytes}
  {proto : Nat} {input : ClientInput} {s : Tunnel}

/-- The upstream half of the session at every suspension point. -/
structure UpKept (crypto : Primitives) (session : CryptoCtx)
    (relayInit : Bytes) (proto : Nat) (input : ClientInput)
    (s : RecordedTunnel) : Prop where
  kept : Wire.WellKept s.wire
  upward : ∃ returned,
    Upward crypto session relayInit proto input s.toTunnel s.read returned

theorem sendParts_wire (s : Tunnel) (parts : List Bytes)
    (aboveHighWater : Bool) :
    ∃ taken : Wire.SessionEvent, taken.OfTasks ∧
      (s.sendParts frames parts aboveHighWater).wire =
        s.wire.step frames taken := by
  unfold Tunnel.sendParts
  split
  · exact ⟨.upFails, trivial, rfl⟩
  · rename_i sends made
    exact ⟨.clientRead sends aboveHighWater, trivial, rfl⟩

theorem readReturns_wire (s : Tunnel) (aboveHighWater : Bool) :
    ∃ taken : Wire.SessionEvent, taken.OfTasks ∧
      (s.readReturns crypto frames aboveHighWater).wire =
        s.wire.step frames taken := by
  simp only [Tunnel.readReturns]
  split
  · exact ⟨.upFails, trivial, rfl⟩
  · split
    · simp only [Tunnel.flushTail]
      split
      · exact ⟨.clientEnds none, trivial, rfl⟩
      · split
        · exact ⟨.clientEnds none, trivial, rfl⟩
        · split
          · exact ⟨.upFails, trivial, rfl⟩
          · rename_i tail made
            exact ⟨.clientEnds (some tail), trivial, rfl⟩
    · simp only [Tunnel.forwardUp, AesCtr.update_eq]
      split
      · exact sendParts_wire _ _ _
      · split
        · exact ⟨.upFails, trivial, rfl⟩
        · exact sendParts_wire _ _ _

/-- A step changes nothing in the session of the tasks, or is a step of it. -/
theorem step_wire (s : Tunnel) (event : TunnelEvent) :
    (s.step crypto frames writer event).wire = s.wire ∨
      ∃ taken, (event.OfTasks → taken.OfTasks) ∧
        (s.step crypto frames writer event).wire =
          s.wire.step frames taken := by
  cases event with
  | readReturns aboveHighWater =>
      simp only [Tunnel.step]
      split
      · obtain ⟨taken, ofTasks, same⟩ :=
          @readReturns_wire crypto frames s aboveHighWater
        exact .inr ⟨taken, fun _ => ofTasks, same⟩
      · exact .inl rfl
  | frameReturns aboveHighWater =>
      simp only [Tunnel.step]
      split
      · right
        rcases @frameReturns_wire crypto frames writer s aboveHighWater with
          fails | ⟨opcode, payload, read⟩
        · exact ⟨.downFails, fun _ => trivial, fails⟩
        · exact ⟨.wsFrame opcode payload aboveHighWater, fun _ => trivial,
            read⟩
      · exact .inl rfl
  | task event =>
      simp only [Tunnel.step]
      split
      · exact .inl rfl
      · exact .inr ⟨event, id, rfl⟩

theorem wellKept_step (s : Tunnel) (event : TunnelEvent)
    (kept : Wire.WellKept s.wire) :
    Wire.WellKept (s.step crypto frames writer event).wire := by
  rcases @step_wire crypto frames writer s event with
    same | ⟨taken, -, same⟩
  · rw [same]
    exact kept
  · rw [same]
    exact kept.step taken

/-- A step of `ws_to_tcp` leaves the upstream half alone. -/
theorem Upward.frameReturns {read : Bytes} {returned : List Bytes}
    (up : Upward crypto session relayInit proto input s read returned)
    (kept : Wire.WellKept s.wire) (aboveHighWater : Bool) :
    Upward crypto session relayInit proto input
      (s.frameReturns crypto frames writer aboveHighWater) read returned := by
  have frame := @frameReturns_frame crypto frames writer s aboveHighWater
  have quiet : Wire.Session.Quiet (relayInit :: returned) s.wire
      (s.frameReturns crypto frames writer aboveHighWater).wire := by
    rcases @frameReturns_wire crypto frames writer s aboveHighWater with
      fails | ⟨opcode, payload, read⟩
    · rw [fails]
      exact Wire.Session.task_quiet up.carries .downFails rfl
    · rw [read]
      exact Wire.Session.wsFrame_quiet up.carries kept opcode payload _
  refine ⟨quiet.carries, up.forwarded, up.readPart, fun sending => ?_⟩
  obtain ⟨cltDec, tgEnc, follows, reads⟩ := up.active (quiet.sending sending)
  constructor
  · rw [frame.cltDec, cltDec]
  · rw [frame.tgEnc, tgEnc]
  · rw [frame.splitter]
    exact follows
  · rw [frame.reader]
    exact reads

theorem UpKept.step {s : RecordedTunnel}
    (kept : UpKept crypto session relayInit proto input s)
    (event : TunnelEvent) :
    UpKept crypto session relayInit proto input
      (s.step crypto frames writer event) := by
  refine ⟨wellKept_step s.toTunnel event kept.kept, ?_⟩
  obtain ⟨returned, up⟩ := kept.upward
  cases event with
  | readReturns aboveHighWater =>
      simp only [RecordedTunnel.step, Tunnel.step]
      split
      · rename_i active
        exact up.readReturns active.1 active.2 aboveHighWater
      · exact ⟨returned, up⟩
  | frameReturns aboveHighWater =>
      simp only [RecordedTunnel.step, Tunnel.step]
      split
      · exact ⟨returned, up.frameReturns kept.kept aboveHighWater⟩
      · exact ⟨returned, up⟩
  | task event =>
      simp only [RecordedTunnel.step, Tunnel.step]
      split
      · exact ⟨returned, up⟩
      · rename_i noData
        have quiet := @Wire.Session.task_quiet frames s.wire _ up.carries event
          (Bool.eq_false_iff.mpr noData)
        exact ⟨returned, up.quiet quiet⟩

theorem UpKept.run {s : RecordedTunnel} (writer : ClientWriter)
    (events : List TunnelEvent)
    (kept : UpKept crypto session relayInit proto input s) :
    UpKept crypto session relayInit proto input
      (Lib.run (RecordedTunnel.step crypto frames writer) s events) :=
  run_invariant (fun _ event kept => kept.step event) events kept

end Runs

section Live

variable {crypto : Primitives} {frames : Wire.FrameModule}
  {writer : ClientWriter} {session : CryptoCtx} {relayInit : Bytes}
  {proto : Nat} {input : ClientInput} {s : RecordedTunnel}

theorem exists_sendsOf {parts : List Bytes}
    (fit : ∀ part ∈ parts, part.length < 2 ^ 63) :
    ∃ sends, sendsOf parts = some sends := by
  have object {part : Bytes} (fits : part.length < 2 ^ 63) :
      pyBytes part = some ⟨part, fits⟩ := dif_pos fits
  match parts with
  | [] => exact ⟨_, rfl⟩
  | [part] =>
      refine ⟨.one ⟨part, fit part List.mem_cons_self⟩, ?_⟩
      rw [sendsOf, object (fit part List.mem_cons_self)]
      rfl
  | first :: second :: rest =>
      have objects (parts : List Bytes)
          (fit : ∀ part ∈ parts, part.length < 2 ^ 63) :
          ∃ objects, parts.mapM pyBytes = some objects := by
        induction parts with
        | nil => exact ⟨[], rfl⟩
        | cons part parts induction =>
            obtain ⟨later, made⟩ := induction fun part member =>
              fit part (List.mem_cons_of_mem _ member)
            refine ⟨⟨part, fit part List.mem_cons_self⟩ :: later, ?_⟩
            rw [List.mapM_cons, object (fit part List.mem_cons_self), made]
            rfl
      obtain ⟨all, made⟩ := objects _ fit
      refine ⟨.batch all, ?_⟩
      have batched : sendsOf (first :: second :: rest) =
        ((first :: second :: rest).mapM pyBytes).map .batch := rfl
      rw [batched, made]
      rfl

/-- The parts of a chunk are sent if no more was read than an object holds. -/
theorem Upward.forwardUp_live {s : Tunnel} {read : Bytes}
    {returned : List Bytes}
    (up : Upward crypto session relayInit proto input s read returned)
    (reading : s.wire.up = .reading) (running : s.wire.upCancelled = false)
    (opened : s.wire.ws.closed = false) (chunk : Bytes) (reader : ClientReader)
    (fits : (read ++ chunk).length < 2 ^ 63) (aboveHighWater : Bool) :
    (Tunnel.forwardUp crypto frames { s with reader } chunk
      aboveHighWater).wire.Live := by
  obtain ⟨cltDec, tgEnc, ⟨splitter, isSplitter, follows⟩, -⟩ :=
    up.active (.inr (.inl reading))
  obtain ⟨parts, next, split, followsNext⟩ := follows.split
    (s.ctx.tgEnc.apply crypto (s.ctx.cltDec.apply crypto chunk))
  have data : reencryptedUp crypto session read ++
      s.ctx.tgEnc.apply crypto (s.ctx.cltDec.apply crypto chunk) =
        reencryptedUp crypto session (read ++ chunk) := by
    rw [reencryptedUp_append, cltDec, tgEnc]
  rw [data] at followsNext
  have small : ∀ part ∈ parts, part.length < 2 ^ 63 := by
    intro part member
    have within := congrArg List.length followsNext.conserved
    rw [reencryptedUp, AesCtr.length_apply, AesCtr.length_apply,
      List.length_append, List.flatten_append, List.length_append] at within
    have inParts : part.length ≤ parts.flatten.length :=
      (List.sublist_flatten_of_mem member).length_le
    omega
  obtain ⟨sends, made⟩ := exists_sendsOf small
  simp only [Tunnel.forwardUp, AesCtr.update_eq, isSplitter, split,
    Tunnel.sendParts, made]
  exact Wire.Session.clientRead_live reading running opened sends _

/-- `tcp_to_ws` can send, unless the WebSocket is closed, the client's stream is
at its end, or more was read than an object holds. -/
def GoesOnSending (input : ClientInput) (s : RecordedTunnel) : Prop :=
  s.wire.ws.closed = true ∨ s.read = input.clientBytes ∨
    2 ^ 63 ≤ s.read.length ∨ s.wire.Live

/-- A WebSocket which is closed stays closed. -/
theorem closed_goesOn {event : TunnelEvent} (quiet : event.GoesOn)
    (closed : s.wire.ws.closed = true) :
    (s.step crypto frames writer event).wire.ws.closed = true := by
  rcases @step_wire crypto frames writer s.toTunnel event with
    same | ⟨taken, ofTasks, same⟩
  · exact (congrArg (·.ws.closed) same).trans closed
  · have tasks := ofTasks quiet.ofTasks
    have step := (@Wire.taskStep frames s.wire taken tasks).closed
    rw [closed, Bool.true_or] at step
    exact (congrArg (·.ws.closed) same).trans step

theorem read_grows (s : RecordedTunnel) (event : TunnelEvent) :
    s.read <+: (s.step crypto frames writer event).read := by
  cases event with
  | readReturns aboveHighWater =>
      simp only [RecordedTunnel.step]
      split
      · exact List.prefix_append _ _
      · exact List.prefix_refl _
  | frameReturns aboveHighWater | task event => exact List.prefix_refl _

/-- The whole stream was read, and is all that is ever read. -/
theorem UpKept.all_read
    (kept : UpKept crypto session relayInit proto input s)
    (all : s.read = input.clientBytes) (event : TunnelEvent) :
    (s.step crypto frames writer event).read = input.clientBytes := by
  obtain ⟨returned, up⟩ := (@UpKept.step crypto frames writer session
    relayInit proto input s kept event).upward
  have grows := @read_grows crypto frames writer s event
  rw [all] at grows
  exact up.readPart.eq_of_length_le grows.length_le

/-- A read of a stream which is not at its end is sent on. -/
theorem GoesOnSending.readReturns (live : s.wire.Live)
    (kept : UpKept crypto session relayInit proto input s)
    (aboveHighWater : Bool) :
    GoesOnSending input
      (s.step crypto frames writer (.readReturns aboveHighWater)) := by
  obtain ⟨returned, up⟩ := kept.upward
  by_cases active : s.wire.up = .reading ∧ s.wire.upCancelled = false
  · obtain ⟨-, -, -, left, arrived, isReader, whole⟩ :=
      up.active (.inr (.inl active.1))
    by_cases atEnd : left.clientBytes = []
    · rw [atEnd, List.append_nil] at whole
      exact .inr (.inl (kept.all_read whole _))
    · obtain ⟨piece, later, next, reads, -, nonempty, -⟩ :=
        left.read_some arrived atEnd
      have stepped : s.step crypto frames writer (.readReturns aboveHighWater) =
          ⟨Tunnel.forwardUp crypto frames
              { s.toTunnel with reader := later.reader next } piece
              aboveHighWater, s.read ++ piece, s.gone⟩ := by
        simp only [RecordedTunnel.step, Tunnel.step, if_pos active,
          Tunnel.readReturns, ClientReader.returned, isReader, reads,
          if_neg nonempty]
      cases opened : s.wire.ws.closed with
      | true =>
          have quiet : (TunnelEvent.readReturns aboveHighWater).GoesOn := trivial
          exact .inl (closed_goesOn quiet opened)
      | false =>
          rw [stepped]
          by_cases fits : (s.read ++ piece).length < 2 ^ 63
          · exact .inr (.inr (.inr (up.forwardUp_live active.1 active.2 opened
              piece _ fits aboveHighWater)))
          · exact .inr (.inr (.inl (Nat.not_lt.mp fits)))
  · simp only [RecordedTunnel.step, Tunnel.step, if_neg active]
    exact .inr (.inr (.inr live))

theorem GoesOnSending.step (goesOn : GoesOnSending input s)
    (kept : UpKept crypto session relayInit proto input s)
    {event : TunnelEvent} (quiet : event.GoesOn) :
    GoesOnSending input (s.step crypto frames writer event) := by
  rcases goesOn with closed | all | long | live
  · exact .inl (closed_goesOn quiet closed)
  · exact .inr (.inl (kept.all_read all event))
  · exact .inr (.inr (.inl (long.trans (read_grows s event).length_le)))
  cases event with
  | readReturns aboveHighWater =>
      exact GoesOnSending.readReturns live kept aboveHighWater
  | frameReturns aboveHighWater =>
      refine .inr (.inr (.inr ?_))
      simp only [RecordedTunnel.step, Tunnel.step]
      split
      · rcases @frameReturns_wire crypto frames writer s.toTunnel
            aboveHighWater with fails | ⟨opcode, payload, read⟩
        · rw [fails]
          exact live.downFails
        · rw [read]
          exact live.wsFrame opcode payload aboveHighWater
      · exact live
  | task event =>
      refine .inr (.inr (.inr ?_))
      simp only [RecordedTunnel.step, Tunnel.step]
      split
      · exact live
      · exact live.goesOn quiet

theorem GoesOnSending.run (writer : ClientWriter)
    (goesOn : GoesOnSending input s)
    (kept : UpKept crypto session relayInit proto input s)
    {events : List TunnelEvent} (quiet : ∀ event ∈ events, event.GoesOn) :
    GoesOnSending input
      (Lib.run (RecordedTunnel.step crypto frames writer) s events) := by
  have preserved (s : RecordedTunnel) (event : TunnelEvent)
      (holds : UpKept crypto session relayInit proto input s ∧
        GoesOnSending input s) (quiet : event.GoesOn) :
      UpKept crypto session relayInit proto input
          (s.step crypto frames writer event) ∧
        GoesOnSending input (s.step crypto frames writer event) :=
    ⟨holds.1.step event, holds.2.step holds.1 quiet⟩
  exact (run_invariant_of_forall preserved ⟨kept, goesOn⟩ quiet).2

end Live

section Delivery

variable {crypto : Primitives} {secret handshake relayInit : Bytes}
  {proto : Nat} {input : ClientInput} {s : Tunnel} {read : Bytes}
  {returned : List Bytes} {plain : Bytes}

/-- What was read of the client's stream is the beginning of its plaintext. -/
theorem Upward.relayPlain_read
    (up : Upward crypto (sessionCiphers crypto secret handshake relayInit)
      relayInit proto input s read returned)
    (initialPart : input.clientBytes <+:
      clientUpstream crypto secret handshake plain) :
    relayPlain crypto relayInit (reencryptedUp crypto
      (sessionCiphers crypto secret handshake relayInit) read) =
        plain.take read.length :=
  relayPlain_reencryptedUp crypto secret handshake relayInit
    (up.readPart.trans initialPart)

theorem Upward.relayPlain_sent
    (up : Upward crypto (sessionCiphers crypto secret handshake relayInit)
      relayInit proto input s read returned)
    (initialPart : input.clientBytes <+:
      clientUpstream crypto secret handshake plain) :
    relayPlain crypto relayInit returned.flatten <+: plain := by
  have decrypted := relayPlain_prefix crypto relayInit up.forwarded
  rw [up.relayPlain_read initialPart] at decrypted
  exact decrypted.trans (List.take_prefix _ _)

end Delivery

/-- The session which is started, before its first event. -/
theorem start_kept (crypto : Primitives) (frames : Wire.FrameModule)
    {handshake secret : Bytes} {relayInit : Wire.PyBytes}
    {request : ClientRequest}
    (handshakeSize : handshake.length = 64)
    (accepted : tryHandshake crypto handshake secret = .ok (some request))
    (relaySize : relayInit.val.length = 64) (reader : ClientReader)
    (unread : Bytes) :
    ∃ s, start crypto frames request secret relayInit reader unread = .ok s ∧
      (∀ input arrived, reader = ClientInput.reader arrived input →
        UpKept crypto (sessionCiphers crypto secret handshake relayInit.val)
          relayInit.val (protoIntOfTag request.protoTag) input (.start s)) ∧
      (∀ writer telegram, unread = TelegramInput.stream telegram →
        Downward crypto writer
          (sessionCiphers crypto secret handshake relayInit.val) telegram s
          []) ∧
      s.wire.Live := by
  rw [tryHandshake_eq crypto secret handshakeSize, Except.ok.injEq] at accepted
  obtain ⟨-, known⟩ := requestOf_eq_some accepted
  have keys : request.decPrekeyIv = slice handshake 8 56 := by
    rw [known]
  obtain ⟨splitter, made, follows⟩ := MsgSplitter.new_follows crypto
    (protoIntOfTag request.protoTag) (show 56 ≤ relayInit.val.length by omega)
  have ciphers := @buildCryptoCtx_eq crypto handshake relayInit.val secret
    (by omega) (by omega)
  have carries := Wire.Session.begin_carries frames relayInit
  refine ⟨{ wire := Wire.Session.start.step frames (.begin relayInit),
            ctx := sessionCiphers crypto secret handshake relayInit.val,
            splitter := some splitter, reader, unread, toClient := [] },
    ?_, ?_, ?_, ?_⟩
  · simp only [start, keys, ciphers, made, bind, Except.bind, pure, Except.pure]
    rfl
  · intro input arrived isReader
    refine ⟨Wire.WellKept.start.step (.begin relayInit), [], carries,
      List.nil_prefix, List.nil_prefix, fun _ => ⟨rfl, rfl, ?_, ?_⟩⟩
    · exact ⟨splitter, rfl, follows⟩
    · exact ⟨input, arrived, isReader, rfl⟩
  · intro writer telegram isStream
    exact ⟨rfl, rfl, ⟨[], rfl, rfl⟩, [], telegram.frames, rfl, rfl, isStream⟩
  · exact Wire.Session.begin_live frames relayInit

end Tunnel

theorem ClientWriter.carries_writes (writer : ClientWriter)
    (writes : List Bytes) :
    writer.Carries (writes.map writer.write).flatten writes.flatten := by
  cases writer with
  | plain => exact congrArg List.flatten (List.map_id' writes)
  | fakeTls => exact wrapTlsRecords_records writes

/-- What Telegram has been sent: complete masked frames, the binary ones with
the relay header and then an initial part of the client's plaintext, of which
the client has sent `stream`.  While `tcp_to_ws` can send, what was read and what
its reader still has make up the stream, only what the splitter holds is missing
of what was read, and each frame is one packet of the transport. -/
def RecordedTunnel.DeliversUp (crypto : Primitives)
    (secret handshake relayInit : Bytes) (proto : Nat) (stream : Bytes)
    (s : RecordedTunnel) : Prop :=
  ∃ written sent, s.wire.ws.wire = WsFrame.encodeAll written ∧
    (∀ frame ∈ written, frame.maskKey.isSome) ∧
    Wire.binaryPayloads written = relayInit :: sent ∧
    (s.wire.Sending → ∃ left : ClientInput, ∃ arrived,
      s.reader = left.reader arrived ∧ s.read ++ left.clientBytes = stream) ∧
    ∀ plain, stream <+: clientUpstream crypto secret handshake plain →
      let seen := plain.take s.read.length
      relayPlain crypto relayInit sent.flatten <+: plain ∧
      (s.wire.Sending →
        relayPlain crypto relayInit (sent.flatten ++ s.pending) = seen ∧
        (((transportFraming proto).parse seen).stopped = false →
          relayPlainEach crypto relayInit sent =
            ((transportFraming proto).parse seen).packets))

/-- What the client has been sent: Telegram's plaintext, as far as the messages
among the frames which were read. -/
def RecordedTunnel.DeliversDown (crypto : Primitives) (writer : ClientWriter)
    (secret handshake relayInit : Bytes) (telegram : TelegramInput)
    (s : RecordedTunnel) : Prop :=
  ∃ stream gone, writer.Carries s.toClient stream ∧
    gone <+: telegram.frames ∧
    s.gone = gone.map (fun frame => (frame.opcode.val, frame.payload)) ∧
    ∀ plain, (WsFrame.messagePayloads telegram.frames).flatten <+:
        telegramDownstream crypto relayInit plain →
      clientDownPlain crypto secret handshake stream =
        plain.take (WsFrame.messagePayloads gone).flatten.length

theorem Tunnel.UpKept.deliversUp {crypto : Primitives}
    {secret handshake relayInit : Bytes} {proto : Nat} {input : ClientInput}
    {s : RecordedTunnel}
    (kept : Tunnel.UpKept crypto
      (sessionCiphers crypto secret handshake relayInit) relayInit proto input
      s) :
    s.DeliversUp crypto secret handshake relayInit proto input.clientBytes := by
  obtain ⟨-, returned, up⟩ := kept
  obtain ⟨data, last, framed, payloads⟩ := up.carries
  refine ⟨data ++ last, returned, framed.wire, framed.masked, payloads,
    fun sending => (up.active sending).reads, ?_⟩
  intro plain initialPart
  have plainRead := up.relayPlain_read initialPart
  refine ⟨up.relayPlain_sent initialPart, fun sending => ?_⟩
  obtain ⟨-, -, ⟨splitter, isSplitter, follows⟩, -⟩ := up.active sending
  have pending : s.pending = splitter.cipherBuf := by
    rw [Tunnel.pending, isSplitter]
  have parsed : MsgSplitter.parseFed crypto relayInit proto
      (reencryptedUp crypto (sessionCiphers crypto secret handshake relayInit)
        s.read) =
      (transportFraming proto).parse (plain.take s.read.length) := by
    rw [MsgSplitter.parseFed, plainRead]
  refine ⟨?_, fun goesOn => ?_⟩
  · rw [pending, follows.conserved, plainRead]
  · rw [← parsed] at goesOn ⊢
    have enabled : splitter.disabled = false := by
      apply Bool.eq_false_iff.mpr
      intro disabled
      obtain ⟨-, -, stopped, -⟩ := follows.passing disabled
      rw [goesOn] at stopped
      cases stopped
    exact (follows.running enabled).2.2.2

theorem Tunnel.messagesOf_frames (frames : List WsFrame) :
    messagesOf (frames.map fun frame => (frame.opcode.val, frame.payload)) =
      (WsFrame.messagePayloads frames).flatten := by
  have isMessage_iff (frame : WsFrame) : frame.IsMessage ↔
      frame.opcode.val = 0x1 ∨ frame.opcode.val = 0x2 := by
    rw [WsFrame.IsMessage, Fin.ext_iff, Fin.ext_iff]
    exact Iff.rfl
  rw [messagesOf, WsFrame.messagePayloads, List.filter_map, List.map_map]
  congr 2
  apply List.filter_congr
  intro frame _
  simp only [Function.comp_apply, isMessage_iff]

theorem Tunnel.Downward.deliversDown {crypto : Primitives}
    {writer : ClientWriter} {secret handshake relayInit : Bytes}
    {telegram : TelegramInput} {s : RecordedTunnel}
    (down : Tunnel.Downward crypto writer
      (sessionCiphers crypto secret handshake relayInit) telegram s.toTunnel
      s.gone) :
    s.DeliversDown crypto writer secret handshake relayInit telegram := by
  obtain ⟨writes, toClient, whole⟩ := down.written
  obtain ⟨first, left, cut, isGone, -⟩ := down.stream
  have received : Tunnel.messagesOf s.gone =
      (WsFrame.messagePayloads first).flatten := by
    rw [isGone, Tunnel.messagesOf_frames]
  refine ⟨writes.flatten, first, ?_, ⟨left, cut.symm⟩, isGone, ?_⟩
  · rw [toClient]
    exact writer.carries_writes writes
  · intro plain initialPart
    have receivedPart : Tunnel.messagesOf s.gone <+:
        telegramDownstream crypto relayInit plain := by
      refine List.IsPrefix.trans ?_ initialPart
      rw [received, cut, WsFrame.messagePayloads, WsFrame.messagePayloads,
        List.filter_append, List.map_append, List.flatten_append]
      exact List.prefix_append _ _
    rw [whole, ← received]
    exact clientDownPlain_reencryptedDown crypto secret handshake relayInit
      receivedPart

/-- Whatever Telegram sends, whatever the tasks do and wherever they are
cancelled.  As long as the tasks go on, `tcp_to_ws` can send until the WebSocket
is closed or the client's stream is at its end. -/
theorem upstream_endToEnd (crypto : Primitives) (frames : Wire.FrameModule)
    (writer : ClientWriter) {handshake secret : Bytes}
    {relayInit : Wire.PyBytes} {request : ClientRequest}
    (handshakeSize : handshake.length = 64)
    (accepted : tryHandshake crypto handshake secret = .ok (some request))
    (relaySize : relayInit.val.length = 64) (input : ClientInput)
    (arrived : Nat → Nat) (unread : Bytes) :
    ∃ start, Tunnel.start crypto frames request secret relayInit
        (input.reader arrived) unread = .ok start ∧
      ∀ events,
        let s := run (RecordedTunnel.step crypto frames writer) (.start start)
          events
        s.DeliversUp crypto secret handshake relayInit.val
          (protoIntOfTag request.protoTag) input.clientBytes ∧
        ((∀ event ∈ events, event.GoesOn) →
          s.wire.ws.closed = true ∨ s.read = input.clientBytes ∨
            2 ^ 63 ≤ s.read.length ∨ s.wire.Live) := by
  obtain ⟨start, started, kept, -, live⟩ := Tunnel.start_kept crypto frames
    handshakeSize accepted relaySize (input.reader arrived) unread
  have initial := kept input arrived rfl
  refine ⟨start, started, fun events => ⟨?_, fun goesOn => ?_⟩⟩
  · exact (initial.run writer events).deliversUp
  · have sends : Tunnel.GoesOnSending input (.start start) :=
      .inr (.inr (.inr live))
    exact sends.run writer initial goesOn

def recordedFrames : Wire.FrameModule := ⟨none, [1, 2, 3, 4], rfl⟩

def recordedRelay : Wire.PyBytes := ⟨recordedDraw, by decide +kernel⟩

/-- In `_read_buf`, in the record which is read, and in the next ones. -/
def recordedInput : ClientInput :=
  .fakeTls [0x10] [0x20, 0x30] [⟨0x14, 3, 3, [1], by decide⟩,
    ⟨0x17, 3, 3, [0x40, 0x50], by decide⟩]

theorem upstream_endToEnd_recorded :
    ∃ start, Tunnel.start recordedCrypto recordedFrames
        ⟨2, true, protoTagIntermediate, slice recordedHandshake 8 56⟩
        recordedSecret recordedRelay (recordedInput.reader fun _ => 1) [] =
          .ok start ∧
      ∀ events,
        let s := run (RecordedTunnel.step recordedCrypto recordedFrames .fakeTls)
          (.start start) events
        s.DeliversUp recordedCrypto recordedSecret recordedHandshake
          recordedDraw protoIntermediateInt recordedInput.clientBytes ∧
        ((∀ event ∈ events, event.GoesOn) →
          s.wire.ws.closed = true ∨ s.read = recordedInput.clientBytes ∨
            2 ^ 63 ≤ s.read.length ∨ s.wire.Live) :=
  upstream_endToEnd recordedCrypto recordedFrames .fakeTls (by decide +kernel)
    (by decide +kernel) (by decide +kernel) recordedInput (fun _ => 1) []

/-- One binary frame, and a cut one behind it. -/
def recordedTelegram : TelegramInput where
  frames := [.whole WsFrame.opBinary [0x60, 0x70] none WsFrame.unmasked_keySize
    (LengthForm.shortestFor_fits (by decide))]
  cut := [0x82]
  short := ⟨.whole WsFrame.opBinary [] none WsFrame.unmasked_keySize
    (LengthForm.shortestFor_fits (by decide)), by decide, by decide⟩

end TgWsProxy.Python
