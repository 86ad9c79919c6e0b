import TgWsProxy.Python.Bridge
import TgWsProxy.Python.RawWebSocket

/-!
# What the Python WebSocket writes

`RawWebSocket` of `proxy/raw_websocket.py` down to the bytes given to its
writer, and the tasks of `bridge_ws_reencrypt` with every suspension point at
which they can be cancelled.  What `tcp_to_ws` makes of a chunk is left open
here: any parts may be sent.
-/

namespace TgWsProxy.Python.Wire

open Lib

/-- What `raw_websocket.py` sets up when it is loaded. -/
structure FrameModule where
  native : Option NativeModule
  maskKey : Bytes
  keySize : maskKey.length = 4

/-- A `bytes` object, whose length is at most `sys.maxsize`. -/
abbrev PyBytes := { data : Bytes // data.length < 2 ^ 63 }

def FrameModule.buildMasked (frames : FrameModule) (opcode : Nat)
    (data : Bytes) : Except PyError Bytes :=
  buildFrame frames.native frames.maskKey opcode data true

/-- `RawWebSocket` after the handshake. -/
structure RawWebSocket where
  closed : Bool
  /-- What `writer.write` was given after the request. -/
  wire : Bytes

/-- How a turn of the loop in `recv` ends: with `None`, with a pong to drain,
with a payload, or in the next turn. -/
inductive RecvTurn where
  | closed
  | pong
  | message (payload : Bytes)
  | ignored

namespace RawWebSocket

def write (ws : RawWebSocket) (data : Bytes) : RawWebSocket :=
  { ws with wire := ws.wire ++ data }

/-- `send`. -/
def send (frames : FrameModule) (ws : RawWebSocket) (data : Bytes) :
    Except PyError RawWebSocket :=
  if ws.closed then .error .connectionError
  else do
    let frame ← frames.buildMasked opBinary data
    return ws.write frame

/-- `send_batch`, which hands all frames to one call of `write`. -/
def sendBatch (frames : FrameModule) (ws : RawWebSocket) (parts : List Bytes) :
    Except PyError RawWebSocket :=
  if ws.closed then .error .connectionError
  else do
    let buf ← parts.mapM (frames.buildMasked opBinary)
    return ws.write buf.flatten

/-- A control frame; an exception is dropped. -/
def tryWrite (frames : FrameModule) (ws : RawWebSocket) (opcode : Nat)
    (data : Bytes) : RawWebSocket :=
  match frames.buildMasked opcode data with
  | .ok frame => ws.write frame
  | .error _ => ws

/-- The loop of `recv` after `_read_frame` has returned. -/
def handleFrame (frames : FrameModule) (ws : RawWebSocket) (opcode : Nat)
    (payload : Bytes) : RecvTurn × RawWebSocket :=
  if opcode = opClose then
    (.closed,
      ({ ws with closed := true }).tryWrite frames opClose (payload.take 2))
  else if opcode = opPing then (.pong, ws.tryWrite frames opPong payload)
  else if opcode = opPong then (.ignored, ws)
  else if opcode = 0x1 ∨ opcode = 0x2 then (.message payload, ws)
  else (.ignored, ws)

/-- `close` up to its first suspension. -/
def close (frames : FrameModule) (ws : RawWebSocket) : RawWebSocket :=
  if ws.closed then ws
  else ({ ws with closed := true }).tryWrite frames opClose []

end RawWebSocket

/-- Where `tcp_to_ws` stands. -/
inductive TcpToWs where
  | notCreated
  | ready
  | reading
  | draining
  | drainingTail
  | finished
deriving DecidableEq, Repr

/-- Where `ws_to_tcp` stands.  `_read_frame` suspends several times, but does
nothing else. -/
inductive WsToTcp where
  | notCreated
  | ready
  | receiving
  | drainingPong
  | drainingClose
  | draining
  | finished
deriving DecidableEq, Repr

/-- Where the session itself stands. -/
inductive Main where
  | connected
  | waiting
  | awaitingTasks
  | closing
  | finished
deriving DecidableEq, Repr

structure Session where
  ws : RawWebSocket
  up : TcpToWs
  upCancelled : Bool
  down : WsToTcp
  downCancelled : Bool
  main : Main

/-- How the parts of a chunk are sent. -/
inductive Sends where
  | nothing
  | one (part : PyBytes)
  | batch (parts : List PyBytes)

inductive SessionEvent where
  /-- `ws.send(relay_init)`, and the bridge creates its tasks. -/
  | begin (relayInit : PyBytes)
  | upStarts
  | clientRead (sends : Sends) (aboveHighWater : Bool)
  /-- `reader.read` returns an empty chunk; the splitter may hold a tail. -/
  | clientEnds (tail : Option PyBytes)
  | upDrained
  /-- What `tcp_to_ws` awaits or computes raises. -/
  | upFails
  | downStarts
  | wsFrame (opcode : Nat) (payload : PyBytes) (aboveHighWater : Bool)
  | downDrained (succeeds : Bool)
  | downFails
  /-- Someone cancels a task, which sees it when it is resumed. -/
  | cancelUp
  | cancelDown
  /-- `asyncio.wait` returns or is cancelled, and `finally` cancels the tasks. -/
  | mainResumes (cancelled : Bool)
  /-- Both tasks were awaited: `ws.close()`. -/
  | closeWebSocket
  | sessionEnds

namespace Session

variable (frames : FrameModule)

/-- `tcp_to_ws` goes on with `next` unless it was cancelled. -/
def resumeUp (s : Session) (next : Session) : Session :=
  if s.upCancelled then { s with up := .finished } else next

def resumeDown (s : Session) (next : Session) : Session :=
  if s.downCancelled then { s with down := .finished } else next

/-- A send inside `tcp_to_ws`, whose exceptions end the task. -/
def afterSend (s : Session) (sent : Except PyError RawWebSocket)
    (resume : TcpToWs) : Session :=
  match sent with
  | .error _ => { s with up := .finished }
  | .ok ws => { s with ws, up := resume }

/-- `tcp_to_ws` after `reader.read` has returned a chunk. -/
def sendChunk (s : Session) (sends : Sends) (aboveHighWater : Bool) : Session :=
  let resume := if aboveHighWater then TcpToWs.draining else .reading
  match sends with
  | .nothing => { s with up := .reading }
  | .one part => s.afterSend (s.ws.send frames part) resume
  | .batch parts =>
      s.afterSend (s.ws.sendBatch frames (parts.map Subtype.val)) resume

/-- `tcp_to_ws` at the end of the client's stream. -/
def sendTail (s : Session) (tail : Option PyBytes) : Session :=
  match tail with
  | none => { s with up := .finished }
  | some part => s.afterSend (s.ws.send frames part) .drainingTail

/-- The condition of the loop in `recv`. -/
def enterRecv (s : Session) : Session :=
  { s with down := if s.ws.closed then .finished else .receiving }

/-- `ws_to_tcp` after `_read_frame` has returned. -/
def receiveFrame (s : Session) (opcode : Nat) (payload : Bytes)
    (aboveHighWater : Bool) : Session :=
  let (turn, ws) := s.ws.handleFrame frames opcode payload
  let s := { s with ws }
  match turn with
  | .closed => { s with down := .drainingClose }
  | .pong => { s with down := .drainingPong }
  | .message _ =>
      if aboveHighWater then { s with down := .draining } else s.enterRecv
  | .ignored => s.enterRecv

/-- `ws_to_tcp` after a drain.  `recv` drops the exceptions of its own. -/
def afterDrain (s : Session) (succeeds : Bool) : Session :=
  match s.down with
  | .drainingPong => s.enterRecv
  | .drainingClose => { s with down := .finished }
  | .draining => if succeeds then s.enterRecv else { s with down := .finished }
  | .notCreated | .ready | .receiving | .finished => s

/-- The next state of the session.  An event which is not possible where the
tasks stand changes nothing. -/
def step (s : Session) : SessionEvent → Session
  | .begin relayInit =>
      if s.main = .connected then
        match s.ws.send frames relayInit with
        | .error _ => { s with main := .finished }
        | .ok ws =>
            { ws, up := .ready, upCancelled := false, down := .ready,
              downCancelled := false, main := .waiting }
      else s
  | .upStarts =>
      if s.up = .ready then s.resumeUp { s with up := .reading } else s
  | .clientRead sends aboveHighWater =>
      if s.up = .reading then
        s.resumeUp (s.sendChunk frames sends aboveHighWater)
      else s
  | .clientEnds tail =>
      if s.up = .reading then s.resumeUp (s.sendTail frames tail) else s
  | .upDrained =>
      if s.up = .draining then s.resumeUp { s with up := .reading }
      else if s.up = .drainingTail then { s with up := .finished }
      else s
  | .upFails =>
      if s.up = .notCreated then s else { s with up := .finished }
  | .downStarts =>
      if s.down = .ready then s.resumeDown s.enterRecv else s
  | .wsFrame opcode payload aboveHighWater =>
      if s.down = .receiving then
        s.resumeDown (s.receiveFrame frames opcode payload aboveHighWater)
      else s
  | .downDrained succeeds =>
      if s.down = .drainingPong ∨ s.down = .drainingClose ∨
          s.down = .draining then
        s.resumeDown (s.afterDrain succeeds)
      else s
  | .downFails =>
      if s.down = .notCreated then s else { s with down := .finished }
  | .cancelUp => { s with upCancelled := true }
  | .cancelDown => { s with downCancelled := true }
  | .mainResumes cancelled =>
      if s.main = .waiting ∧
          (cancelled = true ∨ s.up = .finished ∨ s.down = .finished) then
        { s with upCancelled := true, downCancelled := true,
                 main := .awaitingTasks }
      else s
  | .closeWebSocket =>
      if s.main = .awaitingTasks ∧ s.up = .finished ∧ s.down = .finished then
        { s with ws := s.ws.close frames, main := .closing }
      else s
  | .sessionEnds =>
      if s.main = .closing then { s with main := .finished } else s

/-- The WebSocket of a session after its handshake. -/
def start : Session :=
  { ws := ⟨false, []⟩, up := .notCreated, upCancelled := false
    down := .notCreated, downCancelled := false, main := .connected }

end Session

section Frames

variable {frames : FrameModule} {ws : RawWebSocket}

/-- The frame which `_build_frame` writes. -/
def FrameModule.masked (frames : FrameModule) (opcode : Fin 16)
    (data : PyBytes) : WsFrame :=
  WsFrame.whole opcode data (some frames.maskKey)
    (fun _ member => Option.some.inj member ▸ frames.keySize)
    (LengthForm.shortestFor_fits data.property)

theorem buildMasked_eq (frames : FrameModule) (opcode : Fin 16)
    (data : PyBytes) :
    frames.buildMasked opcode data = .ok (frames.masked opcode data).encode :=
  buildFrame_eq frames.native opcode true frames.keySize _ _

theorem mapM_buildMasked (frames : FrameModule) (opcode : Fin 16)
    (parts : List PyBytes) :
    (parts.map Subtype.val).mapM (frames.buildMasked opcode) =
      .ok (parts.map fun part => (frames.masked opcode part).encode) := by
  induction parts with
  | nil => rfl
  | cons part parts induction =>
      rw [List.map_cons, List.mapM_cons, buildMasked_eq, induction]
      rfl

/-- The frames on the wire, of which only the last one may be a Close frame,
and only once the WebSocket is closed. -/
structure Framed (ws : RawWebSocket) (data last : List WsFrame) : Prop where
  wire : ws.wire = WsFrame.encodeAll (data ++ last)
  masked : ∀ frame ∈ data ++ last, frame.maskKey.isSome
  noClose : ∀ frame ∈ data, frame.opcode ≠ 8
  single : last.length ≤ 1
  opened : ws.closed = false → last = []

/-- More frames on an open WebSocket. -/
theorem Framed.write {data last : List WsFrame} (framed : Framed ws data last)
    (opened : ws.closed = false) {opcode : Fin 16} (noClose : opcode ≠ 8)
    (parts : List PyBytes) :
    Framed (ws.write (parts.map fun part =>
        (frames.masked opcode part).encode).flatten)
      (data ++ parts.map (frames.masked opcode)) [] := by
  have none := framed.opened opened
  subst none
  have wire := framed.wire
  have earlier := framed.masked
  rw [List.append_nil] at wire earlier
  constructor
  · rw [List.append_nil, WsFrame.encodeAll_append, ← wire, WsFrame.encodeAll,
      List.map_map]
    rfl
  · intro frame member
    rw [List.append_nil] at member
    rcases List.mem_append.mp member with before | after
    · exact earlier frame before
    · obtain ⟨part, isPart, rfl⟩ := List.mem_map.mp after
      rfl
  · intro frame member
    rcases List.mem_append.mp member with before | after
    · exact framed.noClose frame before
    · obtain ⟨part, isPart, rfl⟩ := List.mem_map.mp after
      exact noClose
  · exact Nat.zero_le 1
  · intro stillOpen
    rfl

theorem Framed.writeOne {data last : List WsFrame}
    (framed : Framed ws data last) (opened : ws.closed = false)
    {opcode : Fin 16} (noClose : opcode ≠ 8) (part : PyBytes) :
    ∃ data', Framed (ws.write (frames.masked opcode part).encode) data' [] := by
  have written := @Framed.write frames ws data last framed opened opcode noClose
    [part]
  have single : ([part].map fun part =>
      (frames.masked opcode part).encode).flatten =
        (frames.masked opcode part).encode := List.append_nil _
  rw [single] at written
  exact ⟨_, written⟩

/-- The Close frame, with the flag which goes with it. -/
theorem Framed.writeClose {data last : List WsFrame}
    (framed : Framed ws data last) (opened : ws.closed = false)
    (payload : PyBytes) :
    Framed (({ ws with closed := true }).tryWrite frames opClose payload) data
      [frames.masked 8 payload] := by
  have none := framed.opened opened
  subst none
  have wire := framed.wire
  have earlier := framed.masked
  rw [List.append_nil] at wire earlier
  have built : frames.buildMasked opClose payload =
      .ok (frames.masked 8 payload).encode := buildMasked_eq frames 8 payload
  simp only [RawWebSocket.tryWrite, built]
  constructor
  · rw [WsFrame.encodeAll_append, ← wire]
    exact congrArg (ws.wire ++ ·) (List.append_nil _).symm
  · intro frame member
    rcases List.mem_append.mp member with before | close
    · exact earlier frame before
    · rw [List.mem_singleton.mp close]
      rfl
  · exact framed.noClose
  · exact Nat.le_refl 1
  · intro stillOpen
    cases stillOpen

theorem Framed.send {data last : List WsFrame} (framed : Framed ws data last)
    {part : PyBytes} {ws' : RawWebSocket} (sent : ws.send frames part = .ok ws') :
    ws'.closed = ws.closed ∧ ∃ data', Framed ws' data' [] := by
  cases opened : ws.closed with
  | true =>
      rw [RawWebSocket.send, if_pos opened] at sent
      cases sent
  | false =>
      have built : frames.buildMasked opBinary part =
          .ok (frames.masked 2 part).encode := buildMasked_eq frames 2 part
      rw [RawWebSocket.send, opened, if_neg Bool.false_ne_true, built] at sent
      cases sent
      exact ⟨opened, framed.writeOne opened (by decide) part⟩

theorem Framed.sendBatch {data last : List WsFrame}
    (framed : Framed ws data last) {parts : List PyBytes} {ws' : RawWebSocket}
    (sent : ws.sendBatch frames (parts.map Subtype.val) = .ok ws') :
    ws'.closed = ws.closed ∧ ∃ data', Framed ws' data' [] := by
  cases opened : ws.closed with
  | true =>
      rw [RawWebSocket.sendBatch, if_pos opened] at sent
      cases sent
  | false =>
      have built := mapM_buildMasked frames 2 parts
      rw [RawWebSocket.sendBatch, opened, if_neg Bool.false_ne_true] at sent
      change (do
        let buf ← (parts.map Subtype.val).mapM (frames.buildMasked (2 : Fin 16))
        return ws.write buf.flatten) = _ at sent
      rw [built] at sent
      cases sent
      exact ⟨opened, _, framed.write opened (by decide) parts⟩

theorem Framed.close {data last : List WsFrame} (framed : Framed ws data last) :
    ∃ last', Framed (ws.close frames) data last' := by
  cases opened : ws.closed with
  | true =>
      rw [RawWebSocket.close, if_pos opened]
      exact ⟨last, framed⟩
  | false =>
      rw [RawWebSocket.close, opened, if_neg Bool.false_ne_true]
      exact ⟨_, framed.writeClose opened ⟨[], by decide⟩⟩

/-- A frame from Telegram on an open WebSocket: only the answer to a Close
frame closes it. -/
theorem Framed.handleFrame {data last : List WsFrame}
    (framed : Framed ws data last) (opened : ws.closed = false) (opcode : Nat)
    (payload : PyBytes) :
    (∃ data' last', Framed (ws.handleFrame frames opcode payload).2 data' last') ∧
      ((ws.handleFrame frames opcode payload).2.closed = true →
        (ws.handleFrame frames opcode payload).1 = .closed) := by
  have unchanged : ∀ turn : RecvTurn,
      (∃ data' last', Framed (turn, ws).2 data' last') ∧
        ((turn, ws).2.closed = true → (turn, ws).1 = .closed) := by
    intro turn
    refine ⟨⟨data, last, framed⟩, fun closed => ?_⟩
    rw [show (turn, ws).2.closed = ws.closed from rfl, opened] at closed
    cases closed
  unfold RawWebSocket.handleFrame
  split
  · have size : (payload.val.take 2).length < 2 ^ 63 := by
      rw [List.length_take]
      exact Nat.lt_of_le_of_lt (Nat.min_le_left _ _) (by decide)
    exact ⟨⟨data, _, framed.writeClose opened ⟨_, size⟩⟩, fun _ => rfl⟩
  · split
    · have built : frames.buildMasked opPong payload =
          .ok (frames.masked 10 payload).encode := buildMasked_eq frames 10 payload
      obtain ⟨data', written⟩ := @Framed.writeOne frames ws data last framed
        opened 10 (by decide) payload
      simp only [RawWebSocket.tryWrite, built]
      refine ⟨⟨_, _, written⟩, fun closed => ?_⟩
      rw [show (ws.write _).closed = ws.closed from rfl, opened] at closed
      cases closed
    · split
      · exact unchanged _
      · split
        · exact unchanged _
        · exact unchanged _

end Frames

/-- What holds at every suspension point.  Only `ws_to_tcp` closes the
WebSocket while the tasks run, and it does not enter `recv` again. -/
structure WellKept (s : Session) : Prop where
  framed : ∃ data last, Framed s.ws data last
  closer : s.ws.closed = true → s.down = .drainingClose ∨ s.down = .finished

namespace WellKept

variable {frames : FrameModule} {s : Session}

/-- A change of `tcp_to_ws`, which never closes the WebSocket. -/
theorem afterSend (kept : WellKept s) {sent : Except PyError RawWebSocket}
    (resume : TcpToWs)
    (sends : ∀ ws, sent = .ok ws →
      ws.closed = s.ws.closed ∧ ∃ data, Framed ws data []) :
    WellKept (s.afterSend sent resume) := by
  cases sent with
  | error error => exact ⟨kept.framed, kept.closer⟩
  | ok ws =>
      obtain ⟨same, data, framed⟩ := sends ws rfl
      refine ⟨⟨data, [], framed⟩, fun closed => ?_⟩
      exact kept.closer (same.symm.trans closed)

theorem sendChunk (kept : WellKept s) (sends : Sends) (aboveHighWater : Bool) :
    WellKept (s.sendChunk frames sends aboveHighWater) := by
  obtain ⟨data, last, framed⟩ := kept.framed
  cases sends with
  | nothing => exact ⟨kept.framed, kept.closer⟩
  | one part =>
      apply kept.afterSend
      intro ws sent
      exact framed.send sent
  | batch parts =>
      apply kept.afterSend
      intro ws sent
      exact framed.sendBatch sent

theorem sendTail (kept : WellKept s) (tail : Option PyBytes) :
    WellKept (s.sendTail frames tail) := by
  obtain ⟨data, last, framed⟩ := kept.framed
  cases tail with
  | none => exact ⟨kept.framed, kept.closer⟩
  | some part =>
      apply kept.afterSend
      intro ws sent
      exact framed.send sent

theorem resumeUp (kept : WellKept s) {next : Session} (nextKept : WellKept next) :
    WellKept (s.resumeUp next) := by
  unfold Session.resumeUp
  split
  · exact ⟨kept.framed, kept.closer⟩
  · exact nextKept

theorem downFinished (kept : WellKept s) :
    WellKept { s with down := .finished } :=
  ⟨kept.framed, fun _ => .inr rfl⟩

theorem resumeDown (kept : WellKept s) {next : Session}
    (nextKept : WellKept next) : WellKept (s.resumeDown next) := by
  unfold Session.resumeDown
  split
  · exact kept.downFinished
  · exact nextKept

theorem enterRecv (framed : ∃ data last, Framed s.ws data last) :
    WellKept s.enterRecv := by
  refine ⟨framed, fun closed => .inr ?_⟩
  exact if_pos closed

theorem opened_of_down (kept : WellKept s) (active : s.down ≠ .drainingClose)
    (unfinished : s.down ≠ .finished) : s.ws.closed = false := by
  cases closed : s.ws.closed with
  | false => rfl
  | true =>
      rcases kept.closer closed with draining | finished
      · exact absurd draining active
      · exact absurd finished unfinished

theorem receiveFrame (kept : WellKept s) (receiving : s.down = .receiving)
    (opcode : Nat) (payload : PyBytes) (aboveHighWater : Bool) :
    WellKept (s.receiveFrame frames opcode payload aboveHighWater) := by
  have opened := kept.opened_of_down (by simp [receiving]) (by simp [receiving])
  obtain ⟨data, last, framed⟩ := kept.framed
  obtain ⟨written, closes⟩ := @Framed.handleFrame frames s.ws data last framed
    opened opcode payload
  unfold Session.receiveFrame
  generalize s.ws.handleFrame frames opcode payload = handled at written closes
  obtain ⟨turn, ws⟩ := handled
  cases turn with
  | closed => exact ⟨written, fun _ => .inl rfl⟩
  | pong =>
      refine ⟨written, fun closed => ?_⟩
      cases closes closed
  | message payload =>
      cases aboveHighWater with
      | false => exact enterRecv written
      | true =>
          refine ⟨written, fun closed => ?_⟩
          cases closes closed
  | ignored => exact enterRecv written

theorem afterDrain (kept : WellKept s) (succeeds : Bool) :
    WellKept (s.afterDrain succeeds) := by
  unfold Session.afterDrain
  split
  · exact enterRecv kept.framed
  · exact kept.downFinished
  · split
    · exact enterRecv kept.framed
    · exact kept.downFinished
  all_goals exact kept

/-- Only an open WebSocket sends. -/
theorem opened_of_send {ws next : RawWebSocket} {data : PyBytes}
    (sent : ws.send frames data = .ok next) : ws.closed = false := by
  cases closed : ws.closed with
  | false => rfl
  | true =>
      have refused : ws.send frames data = .error .connectionError :=
        if_pos closed
      rw [refused] at sent
      cases sent

theorem step (kept : WellKept s) (event : SessionEvent) :
    WellKept (s.step frames event) := by
  cases event with
  | begin relayInit =>
      simp only [Session.step]
      split
      · cases sent : s.ws.send frames relayInit with
        | error error => exact ⟨kept.framed, kept.closer⟩
        | ok ws =>
            obtain ⟨data, last, framed⟩ := kept.framed
            obtain ⟨same, data', written⟩ := framed.send sent
            have opened := same.trans (opened_of_send sent)
            refine ⟨⟨data', [], written⟩, fun closed => ?_⟩
            exact absurd (opened.symm.trans closed) Bool.false_ne_true
      · exact kept
  | upStarts =>
      simp only [Session.step]
      split
      · exact kept.resumeUp ⟨kept.framed, kept.closer⟩
      · exact kept
  | clientRead sends aboveHighWater =>
      simp only [Session.step]
      split
      · exact kept.resumeUp (kept.sendChunk sends aboveHighWater)
      · exact kept
  | clientEnds tail =>
      simp only [Session.step]
      split
      · exact kept.resumeUp (kept.sendTail tail)
      · exact kept
  | upDrained =>
      simp only [Session.step]
      split
      · exact kept.resumeUp ⟨kept.framed, kept.closer⟩
      · split
        · exact ⟨kept.framed, kept.closer⟩
        · exact kept
  | upFails =>
      simp only [Session.step]
      split
      · exact kept
      · exact ⟨kept.framed, kept.closer⟩
  | downStarts =>
      simp only [Session.step]
      split
      · exact kept.resumeDown (enterRecv kept.framed)
      · exact kept
  | wsFrame opcode payload aboveHighWater =>
      simp only [Session.step]
      split
      · rename_i receiving
        exact kept.resumeDown
          (kept.receiveFrame receiving opcode payload aboveHighWater)
      · exact kept
  | downDrained succeeds =>
      simp only [Session.step]
      split
      · exact kept.resumeDown (kept.afterDrain succeeds)
      · exact kept
  | downFails =>
      simp only [Session.step]
      split
      · exact kept
      · exact kept.downFinished
  | cancelUp => exact ⟨kept.framed, kept.closer⟩
  | cancelDown => exact ⟨kept.framed, kept.closer⟩
  | mainResumes cancelled =>
      simp only [Session.step]
      split
      · exact ⟨kept.framed, kept.closer⟩
      · exact kept
  | closeWebSocket =>
      simp only [Session.step]
      split
      · rename_i awaited
        obtain ⟨data, last, framed⟩ := kept.framed
        obtain ⟨last', closed⟩ := @Framed.close frames s.ws data last framed
        exact ⟨⟨data, last', closed⟩, fun _ => .inr awaited.2.2⟩
      · exact kept
  | sessionEnds =>
      simp only [Session.step]
      split
      · exact ⟨kept.framed, kept.closer⟩
      · exact kept

theorem start : WellKept Session.start := by
  refine ⟨⟨[], [], rfl, ?_, ?_, Nat.zero_le 1, fun _ => rfl⟩, ?_⟩
  · intro frame member
    cases member
  · intro frame member
    cases member
  · intro closed
    cases closed

end WellKept

/-- The wire holds complete masked frames, at most one of them a Close frame,
and no frame behind that. -/
def WellFormed (wire : Bytes) : Prop :=
  ∃ frames : List WsFrame, wire = WsFrame.encodeAll frames ∧
    (∀ frame ∈ frames, frame.maskKey.isSome) ∧
    frames.countP (fun frame => frame.IsClose) ≤ 1 ∧
    ∀ front close back, frames = front ++ close :: back → close.IsClose →
      back = []

theorem Framed.wellFormed {ws : RawWebSocket} {data last : List WsFrame}
    (framed : Framed ws data last) : WellFormed ws.wire := by
  refine ⟨data ++ last, framed.wire, framed.masked, ?_, ?_⟩
  · have none : data.countP (fun frame => frame.IsClose) = 0 := by
      apply List.countP_eq_zero.mpr
      intro frame member
      rw [decide_eq_true_iff]
      exact framed.noClose frame member
    rw [List.countP_append, none, Nat.zero_add]
    exact Nat.le_trans List.countP_le_length framed.single
  · intro front close back cut isClose
    have single := framed.single
    rcases List.append_eq_append_iff.mp cut with ⟨middle, rfl, behind⟩ |
        ⟨middle, rfl, behind⟩
    · rw [behind, List.length_append, List.length_cons] at single
      apply List.eq_nil_of_length_eq_zero
      omega
    · cases middle with
      | nil =>
          rw [List.nil_append] at behind
          rw [← behind, List.length_cons] at single
          apply List.eq_nil_of_length_eq_zero
          omega
      | cons frame middle =>
          rw [List.cons_append, List.cons.injEq] at behind
          have inside : close ∈ front ++ frame :: middle := by
            rw [behind.1]
            exact List.mem_append_right _ List.mem_cons_self
          exact absurd isClose (framed.noClose close inside)

/-- Whatever the two tasks do and wherever they are cancelled, the wire is
well formed at every moment. -/
theorem wire_wellFormed (frames : FrameModule) (events : List SessionEvent) :
    WellFormed (run (Session.step frames) Session.start events).ws.wire := by
  have preserved (s : Session) (event : SessionEvent) (kept : WellKept s) :
      WellKept (s.step frames event) := kept.step event
  have kept := run_invariant preserved events WellKept.start
  obtain ⟨data, last, framed⟩ := kept.framed
  exact framed.wellFormed

end TgWsProxy.Python.Wire
