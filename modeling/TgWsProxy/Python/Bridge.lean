import TgWsProxy.Python.Handshake
import TgWsProxy.Python.MsgSplitter
import TgWsProxy.Lib.Runs

/-!
# The Python WebSocket bridge

`bridge_ws_reencrypt` of `proxy/bridge.py` runs two tasks, one for each
direction, and closes the session when the first of them ends.  An event lets
one task run from the suspension point where it stands to its next one, so the
states of a run are the states at suspension points.  What the event loop
decides (which task continues, what a read returns, whether a write buffer is
above its limit) is part of the event.
-/

namespace TgWsProxy.Python

open Lib

def opBinary : Nat := 0x2
def opClose : Nat := 0x8
def opPing : Nat := 0x9
def opPong : Nat := 0xA

/-- `RawWebSocket`: `_closed` and the frames written so far. -/
structure RawWebSocket where
  closed : Bool
  frames : List (Nat × Bytes)
deriving DecidableEq, Repr

namespace RawWebSocket

/-- `send`. -/
def send (ws : RawWebSocket) (data : Bytes) : Except PyError RawWebSocket :=
  if ws.closed then .error .connectionError
  else .ok { ws with frames := ws.frames ++ [(opBinary, data)] }

/-- `send_batch`. -/
def sendBatch (ws : RawWebSocket) (parts : List Bytes) :
    Except PyError RawWebSocket :=
  if ws.closed then .error .connectionError
  else .ok { ws with frames := ws.frames ++ parts.map (opBinary, ·) }

/-- The payloads of the binary frames written so far. -/
def payloads (ws : RawWebSocket) : List Bytes :=
  (ws.frames.filter (·.1 = opBinary)).map (·.2)

end RawWebSocket

/-- Where `tcp_to_ws` is suspended. -/
inductive UpTask where
  | reading
  | draining
  | drainingTail
  | finished
deriving DecidableEq, Repr

/-- Where `ws_to_tcp` is suspended; the drains inside `recv` are told apart. -/
inductive DownTask where
  | receiving
  | drainingPong
  | drainingClose
  | draining
  | finished
deriving DecidableEq, Repr

/-- Where `bridge_ws_reencrypt` itself is suspended. -/
inductive MainTask where
  | waiting
  | cancelling
  | finished
deriving DecidableEq, Repr

structure Bridge where
  ctx : CryptoCtx
  splitter : Option MsgSplitter
  ws : RawWebSocket
  up : UpTask
  down : DownTask
  main : MainTask
  /-- The bytes given to `writer.write`. -/
  written : Bytes
  upBytes : Nat
  downBytes : Nat
  upPackets : Nat
  downPackets : Nat
deriving DecidableEq, Repr

inductive BridgeEvent where
  /-- `reader.read` returns, an empty chunk at the end of the stream. -/
  | clientRead (chunk : Bytes) (aboveHighWater : Bool)
  | clientFails
  | upDrained (succeeds : Bool)
  /-- `_read_frame` returns. -/
  | wsFrame (opcode : Nat) (payload : Bytes) (aboveHighWater : Bool)
  | wsFails
  | downDrained (succeeds : Bool)
  /-- `asyncio.wait` returns and both tasks are cancelled. -/
  | cancelTasks
  /-- `ws.close()` and `writer.close()`. -/
  | close
deriving DecidableEq, Repr

namespace Bridge

/-- How `tcp_to_ws` sends the parts of a chunk. -/
def sendParts (ws : RawWebSocket) : List Bytes → Except PyError RawWebSocket
  | [part] => ws.send part
  | parts => ws.sendBatch parts

/-- A send inside `tcp_to_ws`; the exception of a closed WebSocket ends the
task. -/
def sendOrFinish (s : Bridge) (sent : Except PyError RawWebSocket)
    (resume : UpTask) : Bridge :=
  match sent with
  | .error _ => { s with up := .finished }
  | .ok ws => { s with ws, up := resume }

/-- `tcp_to_ws` at the end of the client's stream. -/
def flushTail (s : Bridge) : Bridge :=
  match s.splitter with
  | none => { s with up := .finished }
  | some splitter =>
      let s := { s with splitter := some splitter.flush.2 }
      match splitter.flush.1 with
      | [] => { s with up := .finished }
      | part :: _ => s.sendOrFinish (s.ws.send part) .drainingTail

/-- `tcp_to_ws` after `reader.read` has returned a chunk. -/
def tcpToWs (crypto : Primitives) (s : Bridge) (chunk : Bytes)
    (aboveHighWater : Bool) : Bridge :=
  if chunk = [] then s.flushTail
  else
    let (plain, cltDec) := s.ctx.cltDec.update crypto chunk
    let (data, tgEnc) := s.ctx.tgEnc.update crypto plain
    let s :=
      { s with
        ctx := { s.ctx with cltDec, tgEnc }
        upBytes := s.upBytes + chunk.length
        upPackets := s.upPackets + 1 }
    let resume := if aboveHighWater then UpTask.draining else .reading
    match s.splitter with
    | none => s.sendOrFinish (s.ws.send data) resume
    | some splitter =>
        match splitter.split crypto data with
        | .error _ => { s with up := .finished }
        | .ok (parts, splitter) =>
            let s := { s with splitter := some splitter }
            if parts = [] then { s with up := .reading }
            else s.sendOrFinish (sendParts s.ws parts) resume

/-- Entering `recv`, which returns `None` at once on a closed WebSocket. -/
def enterRecv (s : Bridge) : Bridge :=
  { s with down := if s.ws.closed then .finished else .receiving }

/-- `ws_to_tcp` after `_read_frame` has returned a frame. -/
def wsToTcp (crypto : Primitives) (s : Bridge) (opcode : Nat)
    (payload : Bytes) (aboveHighWater : Bool) : Bridge :=
  if opcode = opClose then
    { s with
      ws :=
        { closed := true
          frames := s.ws.frames ++ [(opClose, payload.take 2)] }
      down := .drainingClose }
  else if opcode = opPing then
    { s with
      ws := { s.ws with frames := s.ws.frames ++ [(opPong, payload)] }
      down := .drainingPong }
  else if opcode = 0x1 ∨ opcode = 0x2 then
    let (plain, tgDec) := s.ctx.tgDec.update crypto payload
    let (data, cltEnc) := s.ctx.cltEnc.update crypto plain
    let s :=
      { s with
        ctx := { s.ctx with tgDec, cltEnc }
        downBytes := s.downBytes + payload.length
        downPackets := s.downPackets + 1
        written := s.written ++ data }
    if aboveHighWater then { s with down := .draining } else s.enterRecv
  else s.enterRecv

/-- The next state of the session.  An event which is not possible at the
current suspension points changes nothing. -/
def step (crypto : Primitives) (s : Bridge) : BridgeEvent → Bridge
  | .clientRead chunk aboveHighWater =>
      if s.up = .reading then s.tcpToWs crypto chunk aboveHighWater else s
  | .clientFails =>
      if s.up = .reading then { s with up := .finished } else s
  | .upDrained succeeds =>
      if s.up = .draining then
        { s with up := if succeeds then .reading else .finished }
      else if s.up = .drainingTail then { s with up := .finished }
      else s
  | .wsFrame opcode payload aboveHighWater =>
      if s.down = .receiving then
        s.wsToTcp crypto opcode payload aboveHighWater
      else s
  | .wsFails =>
      if s.down = .receiving then { s with down := .finished } else s
  | .downDrained succeeds =>
      match s.down with
      | .drainingPong => s.enterRecv
      | .drainingClose => { s with down := .finished }
      | .draining =>
          if succeeds then s.enterRecv else { s with down := .finished }
      | .receiving | .finished => s
  | .cancelTasks =>
      if s.main = .waiting ∧ (s.up = .finished ∨ s.down = .finished) then
        { s with up := .finished, down := .finished, main := .cancelling }
      else s
  | .close =>
      if s.main = .cancelling then
        { s with ws := { s.ws with closed := true }, main := .finished }
      else s

/-- The session which `_handle_client` starts for an accepted request. -/
def start (crypto : Primitives) (request : ClientRequest)
    (secret relayInit : Bytes) : Except PyError Bridge := do
  let ctx ← buildCryptoCtx crypto request.decPrekeyIv secret relayInit
  let splitter :=
    (MsgSplitter.new crypto relayInit (protoIntOfTag request.protoTag)).toOption
  let ws ← RawWebSocket.send ⟨false, []⟩ relayInit
  return { ctx, splitter, ws, up := .reading, down := .receiving,
           main := .waiting, written := [], upBytes := 0, downBytes := 0,
           upPackets := 0, downPackets := 0 }

/-- `_cipher_buf` of the splitter. -/
def pending (s : Bridge) : Bytes :=
  match s.splitter with
  | none => []
  | some splitter => splitter.cipherBuf

end Bridge

/-- A session together with what its two sides have handed to it, recorded
where the event loop delivers it. -/
structure RecordedBridge extends Bridge where
  /-- What `reader.read` has returned. -/
  read : Bytes
  /-- What `ws.recv` has returned. -/
  received : Bytes

def RecordedBridge.step (crypto : Primitives) (s : RecordedBridge)
    (event : BridgeEvent) : RecordedBridge :=
  { toBridge := s.toBridge.step crypto event
    read :=
      match event with
      | .clientRead chunk _ =>
          if s.up = .reading then s.read ++ chunk else s.read
      | _ => s.read
    received :=
      match event with
      | .wsFrame opcode payload _ =>
          if s.down = .receiving ∧ (opcode = 0x1 ∨ opcode = 0x2) then
            s.received ++ payload
          else s.received
      | _ => s.received }

section Frames

theorem RawWebSocket.payloads_append (closed : Bool)
    (earlier later : List (Nat × Bytes)) :
    RawWebSocket.payloads ⟨closed, earlier ++ later⟩ =
      RawWebSocket.payloads ⟨closed, earlier⟩ ++
        RawWebSocket.payloads ⟨closed, later⟩ := by
  simp [RawWebSocket.payloads]

theorem RawWebSocket.payloads_binary (closed : Bool) (parts : List Bytes) :
    RawWebSocket.payloads ⟨closed, parts.map (opBinary, ·)⟩ = parts := by
  induction parts with
  | nil => rfl
  | cons part parts induction =>
      simp only [RawWebSocket.payloads, List.map_cons, List.filter_cons,
        decide_true, if_true] at induction ⊢
      rw [induction]

theorem RawWebSocket.payloads_control {closed : Bool} {opcode : Nat}
    (control : opcode ≠ opBinary) (payload : Bytes) :
    RawWebSocket.payloads ⟨closed, [(opcode, payload)]⟩ = [] := by
  simp [RawWebSocket.payloads, control]

/-- The parts of a chunk become one binary frame each. -/
theorem Bridge.sendParts_eq {ws : RawWebSocket} (parts : List Bytes)
    (opened : ws.closed = false) :
    ∃ ws', Bridge.sendParts ws parts = .ok ws' ∧ ws'.closed = false ∧
      ws'.payloads = ws.payloads ++ parts := by
  have batch : ∀ parts : List Bytes, RawWebSocket.payloads
      ⟨ws.closed, ws.frames ++ parts.map (opBinary, ·)⟩ =
        ws.payloads ++ parts := by
    intro parts
    rw [RawWebSocket.payloads_append, RawWebSocket.payloads_binary]
  match parts with
  | [part] =>
      refine ⟨_, if_neg (by simp [opened]), opened, ?_⟩
      exact batch [part]
  | [] | _ :: _ :: _ =>
      refine ⟨_, if_neg (by simp [opened]), opened, ?_⟩
      exact batch _

end Frames

namespace Bridge

/-- The upstream half of the session: what was sent and what is pending make
up what was read, and the ciphers and the splitter have kept step while
`tcp_to_ws` can still send. -/
structure UpFaithful (crypto : Primitives) (session : CryptoCtx)
    (relayInit : Bytes) (proto : Nat) (s : Bridge) (read : Bytes)
    (returned : List Bytes) (splitter : MsgSplitter) : Prop where
  payloads : s.ws.payloads = relayInit :: returned
  splitter_eq : s.splitter = some splitter
  conserved : returned.flatten ++ splitter.cipherBuf =
    reencryptedUp crypto session read
  running : s.up = .reading ∨ s.up = .draining →
    s.ctx.cltDec = session.cltDec.advance read.length ∧
      s.ctx.tgEnc = session.tgEnc.advance read.length ∧
      splitter.Follows crypto relayInit proto
        (reencryptedUp crypto session read) returned

/-- The downstream half of the session. -/
structure DownFaithful (crypto : Primitives) (session : CryptoCtx)
    (s : Bridge) (received : Bytes) : Prop where
  tgDec : s.ctx.tgDec = session.tgDec.advance received.length
  cltEnc : s.ctx.cltEnc = session.cltEnc.advance received.length
  written : s.written = reencryptedDown crypto session received

structure Faithful (crypto : Primitives) (session : CryptoCtx)
    (relayInit : Bytes) (proto : Nat) (s : RecordedBridge) : Prop where
  upward : s.ws.closed = false → ∃ returned splitter,
    UpFaithful crypto session relayInit proto s.toBridge s.read returned
      splitter
  downward : DownFaithful crypto session s.toBridge s.received

section Faithful

variable {crypto : Primitives} {session : CryptoCtx} {relayInit : Bytes}
  {proto : Nat} {s : Bridge} {read received : Bytes}

/-- What `tcp_to_ws` leaves alone: the downstream half of the session, and a
closed WebSocket. -/
structure UpFrame (s s' : Bridge) : Prop where
  tgDec : s'.ctx.tgDec = s.ctx.tgDec
  cltEnc : s'.ctx.cltEnc = s.ctx.cltEnc
  written : s'.written = s.written
  closed : s.ws.closed = true → s'.ws.closed = true

theorem sendOrFinish_frame {before : Bridge}
    {sent : Except PyError RawWebSocket} (frame : UpFrame before s)
    (refused : s.ws.closed = true → ∃ error, sent = .error error)
    (resume : UpTask) : UpFrame before (s.sendOrFinish sent resume) := by
  cases sent with
  | error error =>
      exact ⟨frame.tgDec, frame.cltEnc, frame.written, frame.closed⟩
  | ok ws =>
      refine ⟨frame.tgDec, frame.cltEnc, frame.written, ?_⟩
      intro closed
      obtain ⟨error, impossible⟩ := refused (frame.closed closed)
      cases impossible

theorem send_refused {ws : RawWebSocket} (data : Bytes)
    (closed : ws.closed = true) : ∃ error, ws.send data = .error error :=
  ⟨_, if_pos closed⟩

theorem sendParts_refused {ws : RawWebSocket} (parts : List Bytes)
    (closed : ws.closed = true) :
    ∃ error, sendParts ws parts = .error error := by
  match parts with
  | [part] => exact ⟨_, if_pos closed⟩
  | [] | _ :: _ :: _ => exact ⟨_, if_pos closed⟩

theorem flushTail_frame (s : Bridge) : UpFrame s s.flushTail := by
  unfold flushTail
  split
  · exact ⟨rfl, rfl, rfl, id⟩
  · simp only
    split
    · exact ⟨rfl, rfl, rfl, id⟩
    · apply sendOrFinish_frame
      · exact ⟨rfl, rfl, rfl, id⟩
      · exact send_refused _

theorem tcpToWs_frame (crypto : Primitives) (s : Bridge) (chunk : Bytes)
    (aboveHighWater : Bool) :
    UpFrame s (s.tcpToWs crypto chunk aboveHighWater) := by
  unfold tcpToWs
  split
  · exact flushTail_frame s
  · simp only [AesCtr.update_eq]
    split
    · apply sendOrFinish_frame
      · exact ⟨rfl, rfl, rfl, id⟩
      · exact send_refused _
    · split
      · exact ⟨rfl, rfl, rfl, id⟩
      · split
        · exact ⟨rfl, rfl, rfl, id⟩
        · apply sendOrFinish_frame
          · exact ⟨rfl, rfl, rfl, id⟩
          · exact sendParts_refused _

theorem UpFaithful.flushTail {returned : List Bytes} {splitter : MsgSplitter}
    (up : UpFaithful crypto session relayInit proto s read returned splitter)
    (opened : s.ws.closed = false) :
    ∃ returned' splitter', UpFaithful crypto session relayInit proto
      s.flushTail read returned' splitter' := by
  unfold Bridge.flushTail
  rw [up.splitter_eq]
  by_cases nothing : splitter.cipherBuf = []
  · have flushed : splitter.flush = ([], splitter) := if_pos nothing
    simp only [flushed]
    exact ⟨returned, splitter, up.payloads, rfl, up.conserved, by simp⟩
  · have flushed : splitter.flush = ([splitter.cipherBuf],
        { splitter with cipherBuf := [], plainBuf := [] }) := if_neg nothing
    obtain ⟨ws, sent, -, payloads⟩ := sendParts_eq [splitter.cipherBuf] opened
    have sentTail : s.ws.send splitter.cipherBuf = .ok ws := sent
    simp only [flushed, sentTail, sendOrFinish]
    refine ⟨returned ++ [splitter.cipherBuf], _, ?_, rfl, ?_, by simp⟩
    · rw [payloads, up.payloads]
      rfl
    · simpa using up.conserved

theorem UpFaithful.tcpToWs {returned : List Bytes} {splitter : MsgSplitter}
    (up : UpFaithful crypto session relayInit proto s read returned splitter)
    (reading : s.up = .reading) (opened : s.ws.closed = false)
    (chunk : Bytes) (aboveHighWater : Bool) :
    ∃ returned' splitter', UpFaithful crypto session relayInit proto
      (s.tcpToWs crypto chunk aboveHighWater) (read ++ chunk) returned'
      splitter' := by
  unfold Bridge.tcpToWs
  by_cases eof : chunk = []
  · rw [if_pos eof, eof, List.append_nil]
    exact up.flushTail opened
  · obtain ⟨cltDec, tgEnc, follows⟩ := up.running (.inl reading)
    have data : s.ctx.tgEnc.apply crypto (s.ctx.cltDec.apply crypto chunk) =
        (session.tgEnc.advance read.length).apply crypto
          ((session.cltDec.advance read.length).apply crypto chunk) := by
      rw [cltDec, tgEnc]
    obtain ⟨parts, next, split, followsNext⟩ := follows.split
      (s.ctx.tgEnc.apply crypto (s.ctx.cltDec.apply crypto chunk))
    rw [data, ← reencryptedUp_append] at followsNext
    simp only [if_neg eof, AesCtr.update_eq, up.splitter_eq, split]
    have kept : s.ctx.cltDec.advance chunk.length =
          session.cltDec.advance (read ++ chunk).length ∧
        s.ctx.tgEnc.advance (s.ctx.cltDec.apply crypto chunk).length =
          session.tgEnc.advance (read ++ chunk).length := by
      rw [AesCtr.length_apply, cltDec, tgEnc, AesCtr.advance_append,
        AesCtr.advance_append]
      exact ⟨rfl, rfl⟩
    refine ⟨returned ++ parts, next, ?_⟩
    by_cases incomplete : parts = []
    · simp only [if_pos incomplete]
      subst incomplete
      rw [List.append_nil] at followsNext ⊢
      exact ⟨up.payloads, rfl, followsNext.conserved,
        fun _ => ⟨kept.1, kept.2, followsNext⟩⟩
    · simp only [if_neg incomplete]
      obtain ⟨ws, sent, -, payloads⟩ := sendParts_eq parts opened
      simp only [sent, sendOrFinish]
      refine ⟨?_, rfl, followsNext.conserved,
        fun _ => ⟨kept.1, kept.2, followsNext⟩⟩
      rw [payloads, up.payloads]
      rfl

/-- A frame from Telegram leaves the upstream half alone, except that it may
close the WebSocket. -/
theorem UpFaithful.wsToTcp {returned : List Bytes} {splitter : MsgSplitter}
    (up : UpFaithful crypto session relayInit proto s read returned splitter)
    (opcode : Nat) (payload : Bytes) (aboveHighWater : Bool) :
    UpFaithful crypto session relayInit proto
      (s.wsToTcp crypto opcode payload aboveHighWater) read returned
      splitter := by
  have control (closed : Bool) {opcode : Nat} (notBinary : opcode ≠ opBinary)
      (payload : Bytes) : RawWebSocket.payloads
        ⟨closed, s.ws.frames ++ [(opcode, payload)]⟩ =
          relayInit :: returned := by
    rw [RawWebSocket.payloads_append, RawWebSocket.payloads_control notBinary,
      List.append_nil]
    exact up.payloads
  unfold Bridge.wsToTcp
  split
  · exact ⟨control true (by decide) _, up.splitter_eq, up.conserved, up.running⟩
  · split
    · exact ⟨control _ (by decide) _, up.splitter_eq, up.conserved, up.running⟩
    · split
      · simp only [AesCtr.update_eq]
        split
        · exact ⟨up.payloads, up.splitter_eq, up.conserved, up.running⟩
        · exact ⟨up.payloads, up.splitter_eq, up.conserved, up.running⟩
      · exact ⟨up.payloads, up.splitter_eq, up.conserved, up.running⟩

theorem wsToTcp_closed (s : Bridge) (opcode : Nat) (payload : Bytes)
    (aboveHighWater : Bool) (closed : s.ws.closed = true) :
    (s.wsToTcp crypto opcode payload aboveHighWater).ws.closed = true := by
  unfold Bridge.wsToTcp
  split
  · rfl
  · split
    · exact closed
    · split
      · simp only [AesCtr.update_eq]
        split
        · exact closed
        · exact closed
      · exact closed

/-- What `tcp_to_ws` leaves alone does not concern the downstream half. -/
theorem DownFaithful.of_upFrame {s' : Bridge}
    (down : DownFaithful crypto session s received) (frame : UpFrame s s') :
    DownFaithful crypto session s' received := by
  refine ⟨?_, ?_, ?_⟩
  · rw [frame.tgDec, down.tgDec]
  · rw [frame.cltEnc, down.cltEnc]
  · rw [frame.written, down.written]

theorem DownFaithful.wsToTcp (down : DownFaithful crypto session s received)
    (opcode : Nat) (payload : Bytes) (aboveHighWater : Bool) :
    DownFaithful crypto session
      (s.wsToTcp crypto opcode payload aboveHighWater)
      (if opcode = 0x1 ∨ opcode = 0x2 then received ++ payload
        else received) := by
  unfold Bridge.wsToTcp
  by_cases close : opcode = opClose
  · subst close
    exact ⟨down.tgDec, down.cltEnc, down.written⟩
  · rw [if_neg close]
    by_cases ping : opcode = opPing
    · subst ping
      exact ⟨down.tgDec, down.cltEnc, down.written⟩
    · rw [if_neg ping]
      by_cases message : opcode = 0x1 ∨ opcode = 0x2
      · -- The payload passes through both ciphers.
        have data : s.ctx.cltEnc.apply crypto
              (s.ctx.tgDec.apply crypto payload) =
            (session.cltEnc.advance received.length).apply crypto
              ((session.tgDec.advance received.length).apply crypto
                payload) := by
          rw [down.tgDec, down.cltEnc]
        have next : DownFaithful crypto session
            { s with
              ctx :=
                { s.ctx with
                  tgDec := s.ctx.tgDec.advance payload.length
                  cltEnc := s.ctx.cltEnc.advance payload.length }
              written := s.written ++ s.ctx.cltEnc.apply crypto
                (s.ctx.tgDec.apply crypto payload) }
            (received ++ payload) := by
          refine ⟨?_, ?_, ?_⟩
          · simp only [down.tgDec, AesCtr.advance_append]
          · simp only [down.cltEnc, AesCtr.advance_append]
          · simp only [down.written, data, reencryptedDown_append]
        simp only [if_pos message, AesCtr.update_eq, AesCtr.length_apply]
        split
        · exact ⟨next.tgDec, next.cltEnc, next.written⟩
        · exact ⟨next.tgDec, next.cltEnc, next.written⟩
      · simp only [if_neg message]
        exact ⟨down.tgDec, down.cltEnc, down.written⟩

/-- A WebSocket which is open after a step was open before it. -/
theorem opened_before {before after : RawWebSocket}
    (stays : before.closed = true → after.closed = true)
    (opened : after.closed = false) : before.closed = false := by
  cases closed : before.closed with
  | false => rfl
  | true =>
      rw [stays closed] at opened
      cases opened

end Faithful

section Recorded

variable {crypto : Primitives} {session : CryptoCtx} {relayInit : Bytes}
  {proto : Nat} {s : RecordedBridge}

/-- Only the suspension points change, and `tcp_to_ws` does not start again. -/
theorem Faithful.of_tasks (faithful : Faithful crypto session relayInit proto s)
    (up : UpTask) (down : DownTask) (main : MainTask)
    (continues : up = .reading ∨ up = .draining →
      s.up = .reading ∨ s.up = .draining) :
    Faithful crypto session relayInit proto { s with up, down, main } := by
  refine ⟨?_, ?_⟩
  · intro opened
    obtain ⟨returned, splitter, upward⟩ := faithful.upward opened
    exact ⟨returned, splitter, upward.payloads, upward.splitter_eq,
      upward.conserved, fun active => upward.running (continues active)⟩
  · obtain ⟨tgDec, cltEnc, written⟩ := faithful.downward
    exact ⟨tgDec, cltEnc, written⟩

theorem Faithful.of_down (faithful : Faithful crypto session relayInit proto s)
    (down : DownTask) :
    Faithful crypto session relayInit proto { s with down } :=
  faithful.of_tasks s.up down s.main id

theorem Faithful.finish_up
    (faithful : Faithful crypto session relayInit proto s) :
    Faithful crypto session relayInit proto { s with up := .finished } :=
  faithful.of_tasks .finished s.down s.main (by simp)

theorem Faithful.tcpToWs (faithful : Faithful crypto session relayInit proto s)
    (reading : s.up = .reading) (chunk : Bytes) (aboveHighWater : Bool) :
    Faithful crypto session relayInit proto
      ⟨s.toBridge.tcpToWs crypto chunk aboveHighWater, s.read ++ chunk,
        s.received⟩ := by
  have frame := tcpToWs_frame crypto s.toBridge chunk aboveHighWater
  refine ⟨?_, faithful.downward.of_upFrame frame⟩
  intro opened
  have openedBefore := opened_before frame.closed opened
  obtain ⟨returned, splitter, up⟩ := faithful.upward openedBefore
  exact up.tcpToWs reading openedBefore chunk aboveHighWater

theorem Faithful.wsToTcp (faithful : Faithful crypto session relayInit proto s)
    (opcode : Nat) (payload : Bytes) (aboveHighWater : Bool) :
    Faithful crypto session relayInit proto
      ⟨s.toBridge.wsToTcp crypto opcode payload aboveHighWater, s.read,
        if opcode = 0x1 ∨ opcode = 0x2 then s.received ++ payload
        else s.received⟩ := by
  refine ⟨?_, faithful.downward.wsToTcp opcode payload aboveHighWater⟩
  intro opened
  have openedBefore := opened_before
    (wsToTcp_closed s.toBridge opcode payload aboveHighWater) opened
  obtain ⟨returned, splitter, up⟩ := faithful.upward openedBefore
  exact ⟨returned, splitter, up.wsToTcp opcode payload aboveHighWater⟩

/-- One resumption of one task keeps both halves. -/
theorem step_faithful (s : RecordedBridge) (event : BridgeEvent)
    (faithful : Faithful crypto session relayInit proto s) :
    Faithful crypto session relayInit proto (s.step crypto event) := by
  cases event with
  | clientRead chunk aboveHighWater =>
      simp only [RecordedBridge.step, step]
      by_cases reading : s.up = .reading
      · simp only [if_pos reading]
        exact faithful.tcpToWs reading chunk aboveHighWater
      · simp only [if_neg reading]
        exact faithful
  | wsFrame opcode payload aboveHighWater =>
      simp only [RecordedBridge.step, step]
      by_cases receiving : s.down = .receiving
      · simp only [receiving, true_and]
        exact faithful.wsToTcp opcode payload aboveHighWater
      · simp only [receiving, false_and]
        exact faithful
  | clientFails =>
      simp only [RecordedBridge.step, step]
      split
      · exact faithful.finish_up
      · exact faithful
  | upDrained succeeds =>
      simp only [RecordedBridge.step, step]
      split
      · rename_i draining
        cases succeeds with
        | true => exact faithful.of_tasks _ _ _ (fun _ => .inr draining)
        | false => exact faithful.finish_up
      · split
        · exact faithful.finish_up
        · exact faithful
  | wsFails =>
      simp only [RecordedBridge.step, step]
      split
      · exact faithful.of_down .finished
      · exact faithful
  | downDrained succeeds =>
      simp only [RecordedBridge.step, step]
      split
      · exact faithful.of_down _
      · exact faithful.of_down .finished
      · split
        · exact faithful.of_down _
        · exact faithful.of_down .finished
      · exact faithful
      · exact faithful
  | cancelTasks =>
      simp only [RecordedBridge.step, step]
      split
      · exact faithful.of_tasks .finished .finished .cancelling (by simp)
      · exact faithful
  | close =>
      simp only [RecordedBridge.step, step]
      split
      · obtain ⟨tgDec, cltEnc, written⟩ := faithful.downward
        refine ⟨?_, tgDec, cltEnc, written⟩
        intro opened
        cases opened
      · exact faithful

end Recorded

theorem start_faithful (crypto : Primitives) {handshake relayInit : Bytes}
    (secret : Bytes) {request : ClientRequest}
    (keys : request.decPrekeyIv = slice handshake 8 56)
    (handshakeSize : 56 ≤ handshake.length)
    (relaySize : 56 ≤ relayInit.length) :
    ∃ s, start crypto request secret relayInit = .ok s ∧
      Faithful crypto (sessionCiphers crypto secret handshake relayInit)
        relayInit (protoIntOfTag request.protoTag) ⟨s, [], []⟩ ∧
      s.up = .reading ∧ s.down = .receiving ∧ s.ws.closed = false := by
  obtain ⟨splitter, made, follows⟩ := MsgSplitter.new_follows crypto
    (protoIntOfTag request.protoTag) relaySize
  have ciphers := buildCryptoCtx_eq crypto secret handshakeSize relaySize
  let s : Bridge :=
    { ctx := sessionCiphers crypto secret handshake relayInit
      splitter := some splitter
      ws := ⟨false, [(opBinary, relayInit)]⟩
      up := .reading
      down := .receiving
      main := .waiting
      written := []
      upBytes := 0
      downBytes := 0
      upPackets := 0
      downPackets := 0 }
  refine ⟨s, ?_, ⟨?_, ?_⟩, rfl, rfl, rfl⟩
  · simp only [start, keys, ciphers, made, RawWebSocket.send, bind, Except.bind,
      pure, Except.pure]
    rfl
  · intro _
    refine ⟨[], splitter, rfl, rfl, ?_, ?_⟩
    · exact follows.conserved
    · intro _
      exact ⟨rfl, rfl, follows⟩
  · exact ⟨rfl, rfl, rfl⟩

end Bridge

/-- Nothing ends the session: the client and Telegram go on, and no write
fails. -/
def BridgeEvent.GoesOn : BridgeEvent → Prop
  | .clientRead chunk _ => chunk ≠ []
  | .upDrained succeeds | .downDrained succeeds => succeeds = true
  | .wsFrame opcode _ _ => opcode ≠ opClose
  | .clientFails | .wsFails | .cancelTasks | .close => False

namespace Bridge

/-- Both tasks forward, or drain before they do. -/
structure Running (s : Bridge) : Prop where
  opened : s.ws.closed = false
  up : s.up = .reading ∨ s.up = .draining
  down : s.down = .receiving ∨ s.down = .drainingPong ∨ s.down = .draining

section Running

variable {crypto : Primitives} {session : CryptoCtx} {relayInit : Bytes}
  {proto : Nat} {s : Bridge} {read : Bytes} {returned : List Bytes}
  {splitter : MsgSplitter} {chunk : Bytes}

/-- After a chunk `tcp_to_ws` reads again, or drains first. -/
theorem tcpToWs_active
    (up : UpFaithful crypto session relayInit proto s read returned splitter)
    (reading : s.up = .reading) (opened : s.ws.closed = false)
    (some : chunk ≠ []) (aboveHighWater : Bool) :
    ((s.tcpToWs crypto chunk aboveHighWater).up = .reading ∨
        (s.tcpToWs crypto chunk aboveHighWater).up = .draining) ∧
      (s.tcpToWs crypto chunk aboveHighWater).ws.closed = false ∧
      (s.tcpToWs crypto chunk aboveHighWater).down = s.down := by
  obtain ⟨-, -, follows⟩ := up.running (.inl reading)
  obtain ⟨parts, next, split, -⟩ := follows.split
    (s.ctx.tgEnc.apply crypto (s.ctx.cltDec.apply crypto chunk))
  have resumes : (if aboveHighWater then UpTask.draining else .reading) =
        .reading ∨
      (if aboveHighWater then UpTask.draining else .reading) = .draining := by
    cases aboveHighWater with
    | true => exact Or.inr rfl
    | false => exact Or.inl rfl
  simp only [Bridge.tcpToWs, if_neg some, AesCtr.update_eq, up.splitter_eq,
    split]
  by_cases incomplete : parts = []
  · simp only [if_pos incomplete]
    exact ⟨Or.inl trivial, opened, trivial⟩
  · obtain ⟨ws, sent, stillOpened, -⟩ := sendParts_eq parts opened
    simp only [if_neg incomplete, sent, sendOrFinish]
    exact ⟨resumes, stillOpened, trivial⟩

theorem enterRecv_running (opened : s.ws.closed = false)
    (up : s.up = .reading ∨ s.up = .draining) : s.enterRecv.Running := by
  refine ⟨opened, up, Or.inl ?_⟩
  simp only [enterRecv, opened, Bool.false_eq_true, if_false]

theorem Running.wsToTcp (running : s.Running) {opcode : Nat}
    (notClose : opcode ≠ opClose) (payload : Bytes) (aboveHighWater : Bool) :
    (s.wsToTcp crypto opcode payload aboveHighWater).Running := by
  simp only [Bridge.wsToTcp, if_neg notClose, AesCtr.update_eq]
  split
  · exact ⟨running.opened, running.up, Or.inr (Or.inl rfl)⟩
  · split
    · split
      · exact ⟨running.opened, running.up, Or.inr (Or.inr rfl)⟩
      · exact enterRecv_running running.opened running.up
    · exact enterRecv_running running.opened running.up

theorem Running.step {s : RecordedBridge} (running : s.toBridge.Running)
    (faithful : Faithful crypto session relayInit proto s)
    {event : BridgeEvent} (goesOn : event.GoesOn) :
    (s.toBridge.step crypto event).Running := by
  cases event with
  | clientRead chunk aboveHighWater =>
      simp only [Bridge.step]
      split
      · rename_i reading
        obtain ⟨returned, splitter, up⟩ := faithful.upward running.opened
        obtain ⟨active, opened, down⟩ :=
          tcpToWs_active up reading running.opened goesOn aboveHighWater
        exact ⟨opened, active, by rw [down]; exact running.down⟩
      · exact running
  | upDrained succeeds =>
      obtain rfl : succeeds = true := goesOn
      simp only [Bridge.step]
      split
      · exact ⟨running.opened, Or.inl rfl, running.down⟩
      · split
        · rename_i tail
          rcases running.up with reading | draining
          · cases reading.symm.trans tail
          · cases draining.symm.trans tail
        · exact running
  | wsFrame opcode payload aboveHighWater =>
      simp only [Bridge.step]
      split
      · exact running.wsToTcp goesOn payload aboveHighWater
      · exact running
  | downDrained succeeds =>
      obtain rfl : succeeds = true := goesOn
      simp only [Bridge.step]
      split
      · exact enterRecv_running running.opened running.up
      · rename_i closing
        rcases running.down with receiving | pong | draining
        · cases receiving.symm.trans closing
        · cases pong.symm.trans closing
        · cases draining.symm.trans closing
      · exact enterRecv_running running.opened running.up
      · exact running
      · exact running
  | clientFails | wsFails | cancelTasks | close => exact goesOn.elim

theorem run_running {s : RecordedBridge}
    (faithful : Faithful crypto session relayInit proto s)
    (running : s.toBridge.Running) {events : List BridgeEvent}
    (goesOn : ∀ event ∈ events, event.GoesOn) :
    (run (RecordedBridge.step crypto) s events).toBridge.Running := by
  have kept (s : RecordedBridge) (event : BridgeEvent)
      (holds : Faithful crypto session relayInit proto s ∧ s.toBridge.Running)
      (goesOn : event.GoesOn) :
      Faithful crypto session relayInit proto (s.step crypto event) ∧
        (s.step crypto event).toBridge.Running :=
    ⟨step_faithful s event holds.1, holds.2.step holds.1 goesOn⟩
  exact (run_invariant_of_forall kept ⟨faithful, running⟩ goesOn).2

/-- A drain which succeeds lets its task forward again. -/
theorem Running.drained (running : s.Running) :
    (s.step crypto (.upDrained true)).up = .reading ∧
      (s.step crypto (.downDrained true)).down = .receiving := by
  constructor
  · rcases running.up with reading | draining
    · simp [Bridge.step, reading]
    · simp [Bridge.step, draining]
  · rcases running.down with receiving | pong | draining
    · simp [Bridge.step, receiving]
    · simp [Bridge.step, pong, enterRecv, running.opened]
    · simp [Bridge.step, draining, enterRecv, running.opened]

end Running

end Bridge

/-- The bridge forwards the session unchanged: at every suspension point, while
the WebSocket is open, what was sent behind the relay header and what is still
pending is the client's plaintext, as far as it was read; and what was written
to the client is Telegram's plaintext, as far as it was received.  As long as
nothing ends the session, both tasks go on, and at most a drain keeps them from
the next chunk. -/
theorem bridge_faithful (crypto : Primitives)
    {handshake secret relayInit : Bytes} {request : ClientRequest}
    (handshakeSize : handshake.length = 64)
    (accepted : tryHandshake crypto handshake secret = .ok (some request))
    (relaySize : relayInit.length = 64) :
    ∃ start, Bridge.start crypto request secret relayInit = .ok start ∧
      ∀ events,
        let s := run (RecordedBridge.step crypto) ⟨start, [], []⟩ events
        (s.ws.closed = false → ∃ sent, s.ws.payloads = relayInit :: sent ∧
          ∀ plain, s.read <+: clientUpstream crypto secret handshake plain →
            relayPlain crypto relayInit (sent.flatten ++ s.pending) =
              plain.take s.read.length) ∧
        (∀ plain, s.received <+: telegramDownstream crypto relayInit plain →
          clientDownPlain crypto secret handshake s.written =
            plain.take s.received.length) ∧
        ((∀ event ∈ events, event.GoesOn) → s.ws.closed = false ∧
          (s.toBridge.step crypto (.upDrained true)).up = .reading ∧
          (s.toBridge.step crypto (.downDrained true)).down = .receiving) := by
  rw [tryHandshake_eq crypto secret handshakeSize, Except.ok.injEq] at accepted
  obtain ⟨-, read⟩ := requestOf_eq_some accepted
  have keys : request.decPrekeyIv = slice handshake 8 56 := by
    rw [read]
  obtain ⟨start, started, initial, reading, receiving, opened⟩ :=
    @Bridge.start_faithful crypto handshake relayInit secret request keys
      (by omega) (by omega)
  refine ⟨start, started, ?_⟩
  intro events s
  have faithful := run_invariant Bridge.step_faithful events initial
  refine ⟨?_, ?_, ?_⟩
  · intro opened
    obtain ⟨returned, splitter, up⟩ := faithful.upward opened
    refine ⟨returned, up.payloads, ?_⟩
    intro plain initialPart
    have pending : s.pending = splitter.cipherBuf := by
      rw [Bridge.pending, up.splitter_eq]
    rw [pending, up.conserved]
    exact relayPlain_reencryptedUp crypto secret handshake relayInit initialPart
  · intro plain initialPart
    rw [faithful.downward.written]
    exact clientDownPlain_reencryptedDown crypto secret handshake relayInit
      initialPart
  · intro goesOn
    have running := Bridge.run_running initial
      ⟨opened, Or.inl reading, Or.inl receiving⟩ goesOn
    exact ⟨running.opened, running.drained⟩

theorem bridge_faithful_recorded :
    ∃ start, Bridge.start recordedCrypto
        ⟨2, true, protoTagIntermediate, slice recordedHandshake 8 56⟩
        recordedSecret recordedDraw = .ok start ∧
      ∀ events,
        let s := run (RecordedBridge.step recordedCrypto) ⟨start, [], []⟩ events
        (s.ws.closed = false → ∃ sent, s.ws.payloads = recordedDraw :: sent ∧
          ∀ plain, s.read <+: clientUpstream recordedCrypto recordedSecret
              recordedHandshake plain →
            relayPlain recordedCrypto recordedDraw (sent.flatten ++ s.pending) =
              plain.take s.read.length) ∧
        (∀ plain, s.received <+:
            telegramDownstream recordedCrypto recordedDraw plain →
          clientDownPlain recordedCrypto recordedSecret recordedHandshake
              s.written = plain.take s.received.length) ∧
        ((∀ event ∈ events, event.GoesOn) → s.ws.closed = false ∧
          (s.toBridge.step recordedCrypto (.upDrained true)).up = .reading ∧
          (s.toBridge.step recordedCrypto (.downDrained true)).down =
            .receiving) :=
  bridge_faithful recordedCrypto (by decide +kernel) (by decide +kernel)
    (by decide +kernel)

end TgWsProxy.Python
