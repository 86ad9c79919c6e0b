import TgWsProxy.Python.Tunnel

/-!
# How a Python WebSocket session ends

`bridge_ws_reencrypt` with each `await` of its own: for a task, for each of the
two tasks in its `finally` clause, in `ws.close()` and for the writer of the
client.  Its tasks are those of `Tunnel`, of which every run here is a run.
-/

namespace TgWsProxy.Python

open Lib

/-- Where `bridge_ws_reencrypt` waits. -/
inductive WsMain where
  | waiting
  | awaitingUp
  | awaitingDown
  /-- In `ws.close()`, for the drain. -/
  | drainingSocket
  /-- In `ws.close()`, for `wait_closed`. -/
  | closingSocket
  | closingClient
  | ended
deriving DecidableEq, Repr

/-- The number of `await`s which the call has behind it. -/
def WsMain.awaited : WsMain → Nat
  | .waiting => 0
  | .awaitingUp => 1
  | .awaitingDown => 2
  | .drainingSocket => 3
  | .closingSocket => 4
  | .closingClient => 5
  | .ended => 6

/-- Where the session of the tasks stands. -/
def WsMain.session : WsMain → Wire.Main
  | .waiting => .waiting
  | .awaitingUp | .awaitingDown => .awaitingTasks
  | .drainingSocket | .closingSocket | .closingClient => .closing
  | .ended => .finished

structure WsBridge where
  tunnel : Tunnel
  main : WsMain
  /-- `close()` was called for the writer of the WebSocket. -/
  socketClosed : Bool
  /-- `close()` was called for the writer of the client. -/
  writerClosed : Bool

deriving instance DecidableEq for Wire.Sends, Wire.SessionEvent, TunnelEvent

inductive WsBridgeEvent where
  /-- A task is resumed, or cancelled by someone. -/
  | task (event : TunnelEvent)
  /-- What the call waits for has come. -/
  | wakes
  /-- The call is resumed with `CancelledError`.  While it waits for a task,
  `cancel()` is passed on to this task. -/
  | cancelled
deriving DecidableEq

instance : DecidablePred Wire.SessionEvent.OfTasks := by
  intro event
  unfold Wire.SessionEvent.OfTasks
  split <;> infer_instance

instance : DecidablePred TunnelEvent.OfTasks := by
  intro event
  unfold TunnelEvent.OfTasks
  split <;> infer_instance

namespace WsBridge

section Steps

variable (crypto : Primitives) (frames : Wire.FrameModule)
  (writer : ClientWriter)

/-- `writer.close()` at the end of the `finally` clause. -/
def closeClient (s : WsBridge) : WsBridge :=
  { s with main := .closingClient, writerClosed := true }

/-- `ws.close()` up to its first `await`; it has none if `_closed` is set. -/
def closeSocket (s : WsBridge) : WsBridge :=
  let next := { s with tunnel := s.tunnel.resume frames .closeWebSocket }
  if s.tunnel.wire.ws.closed then next.closeClient
  else { next with main := .drainingSocket }

/-- Past an `await`.  The `finally` clause drops every exception; `ws.close()`
drops all but a cancellation. -/
def goOn (s : WsBridge) (cancelled : Bool) : WsBridge :=
  match s.main with
  | .waiting =>
      { s with
        tunnel := s.tunnel.resume frames (.mainResumes cancelled)
        main := .awaitingUp }
  | .awaitingUp => { s with main := .awaitingDown }
  | .awaitingDown => s.closeSocket frames
  | .drainingSocket =>
      if cancelled then s.closeClient
      else { s with main := .closingSocket, socketClosed := true }
  | .closingSocket => s.closeClient
  | .closingClient =>
      { s with tunnel := s.tunnel.resume frames .sessionEnds, main := .ended }
  | .ended => s

/-- What the call waits for.  `drain` and `wait_closed` may return at any
time. -/
def Awakes (s : WsBridge) : Prop :=
  match s.main with
  | .waiting =>
      s.tunnel.wire.up = .finished ∨ s.tunnel.wire.down = .finished
  | .awaitingUp => s.tunnel.wire.up = .finished
  | .awaitingDown => s.tunnel.wire.down = .finished
  | .drainingSocket | .closingSocket | .closingClient => True
  | .ended => False

instance (s : WsBridge) : Decidable s.Awakes := by
  unfold Awakes
  split <;> infer_instance

/-- The next state.  The tasks go their own way, and the call goes on with what
they have left. -/
def step (s : WsBridge) : WsBridgeEvent → WsBridge
  | .task event =>
      if event.OfTasks then
        { s with tunnel := s.tunnel.step crypto frames writer event }
      else s
  | .wakes => if s.Awakes then s.goOn frames false else s
  | .cancelled =>
      if s.main = .waiting ∨ s.Awakes then s.goOn frames true else s

/-- The bridge which `_handle_client` starts for an accepted request, on an open
WebSocket to which `relay_init` has been sent. -/
def start (request : ClientRequest) (secret : Bytes) (relayInit : Wire.PyBytes)
    (reader : ClientReader) (unread : Bytes) : Except PyError WsBridge := do
  let tunnel ← Tunnel.start crypto frames request secret relayInit reader unread
  return { tunnel, main := .waiting, socketClosed := false,
           writerClosed := false }

end Steps

end WsBridge

/-! ### What the tasks keep -/

namespace Wire.Session

variable {frames : FrameModule} {s next : Session}

/-- A task which was created is there for good, and so is its end. -/
structure Goes (s next : Session) : Prop where
  main : next.main = s.main
  upCreated : s.up ≠ .notCreated → next.up ≠ .notCreated
  upFinished : s.up = .finished → next.up = .finished
  downCreated : s.down ≠ .notCreated → next.down ≠ .notCreated
  downFinished : s.down = .finished → next.down = .finished

theorem Goes.refl (s : Session) : Goes s s := ⟨rfl, id, id, id, id⟩

/-- A step of `tcp_to_ws` while it runs. -/
theorem Goes.ofUp (active : s.up ≠ .finished) (main : next.main = s.main)
    (created : next.up ≠ .notCreated) (down : next.down = s.down) :
    Goes s next := by
  refine ⟨main, fun _ => created, fun ended => absurd ended active, ?_, ?_⟩
  · rw [down]
    exact id
  · rw [down]
    exact id

theorem Goes.resumeUp (active : s.up ≠ .finished) (main : next.main = s.main)
    (created : next.up ≠ .notCreated) (down : next.down = s.down) :
    Goes s (s.resumeUp next) := by
  unfold Session.resumeUp
  split
  · exact .ofUp active rfl nofun rfl
  · exact .ofUp active main created down

/-- A step of `ws_to_tcp` while it runs. -/
theorem Goes.ofDown (active : s.down ≠ .finished) (main : next.main = s.main)
    (created : next.down ≠ .notCreated) (up : next.up = s.up) :
    Goes s next := by
  refine ⟨main, ?_, ?_, fun _ => created, fun ended => absurd ended active⟩
  · rw [up]
    exact id
  · rw [up]
    exact id

theorem Goes.resumeDown (active : s.down ≠ .finished)
    (main : next.main = s.main) (created : next.down ≠ .notCreated)
    (up : next.up = s.up) : Goes s (s.resumeDown next) := by
  unfold Session.resumeDown
  split
  · exact .ofDown active rfl nofun rfl
  · exact .ofDown active main created up

theorem afterSend_goes (sent : Except PyError RawWebSocket) {resume : TcpToWs}
    (created : resume ≠ .notCreated) :
    (s.afterSend sent resume).main = s.main ∧
      (s.afterSend sent resume).up ≠ .notCreated ∧
      (s.afterSend sent resume).down = s.down := by
  cases sent with
  | error error => exact ⟨rfl, nofun, rfl⟩
  | ok ws => exact ⟨rfl, created, rfl⟩

theorem sendChunk_goes (sends : Sends) (aboveHighWater : Bool) :
    (s.sendChunk frames sends aboveHighWater).main = s.main ∧
      (s.sendChunk frames sends aboveHighWater).up ≠ .notCreated ∧
      (s.sendChunk frames sends aboveHighWater).down = s.down := by
  have created : (if aboveHighWater then TcpToWs.draining else .reading) ≠
      .notCreated := by
    cases aboveHighWater <;> nofun
  cases sends with
  | nothing => exact ⟨rfl, nofun, rfl⟩
  | one part => exact afterSend_goes _ created
  | batch parts => exact afterSend_goes _ created

theorem sendTail_goes (tail : Option PyBytes) :
    (s.sendTail frames tail).main = s.main ∧
      (s.sendTail frames tail).up ≠ .notCreated ∧
      (s.sendTail frames tail).down = s.down := by
  cases tail with
  | none => exact ⟨rfl, nofun, rfl⟩
  | some part => exact afterSend_goes _ nofun

theorem enterRecv_goes (s : Session) :
    s.enterRecv.main = s.main ∧ s.enterRecv.down ≠ .notCreated ∧
      s.enterRecv.up = s.up := by
  refine ⟨rfl, ?_, rfl⟩
  unfold enterRecv
  cases s.ws.closed <;> nofun

theorem receiveFrame_goes (opcode : Nat) (payload : Bytes)
    (aboveHighWater : Bool) :
    (s.receiveFrame frames opcode payload aboveHighWater).main = s.main ∧
      (s.receiveFrame frames opcode payload aboveHighWater).down ≠
        .notCreated ∧
      (s.receiveFrame frames opcode payload aboveHighWater).up = s.up := by
  unfold receiveFrame
  generalize s.ws.handleFrame frames opcode payload = handled
  obtain ⟨turn, ws⟩ := handled
  cases turn with
  | closed => exact ⟨rfl, nofun, rfl⟩
  | pong => exact ⟨rfl, nofun, rfl⟩
  | message payload =>
      cases aboveHighWater with
      | false => exact enterRecv_goes { s with ws }
      | true => exact ⟨rfl, nofun, rfl⟩
  | ignored => exact enterRecv_goes { s with ws }

theorem afterDrain_goes (created : s.down ≠ .notCreated) (succeeds : Bool) :
    (s.afterDrain succeeds).main = s.main ∧
      (s.afterDrain succeeds).down ≠ .notCreated ∧
      (s.afterDrain succeeds).up = s.up := by
  unfold afterDrain
  split
  · exact enterRecv_goes s
  · exact ⟨rfl, nofun, rfl⟩
  · split
    · exact enterRecv_goes s
    · exact ⟨rfl, nofun, rfl⟩
  all_goals exact ⟨rfl, created, rfl⟩

theorem step_goes {event : SessionEvent} (ofTasks : event.OfTasks) :
    Goes s (s.step frames event) := by
  cases event with
  | begin relayInit => exact ofTasks.elim
  | mainResumes cancelled => exact ofTasks.elim
  | closeWebSocket => exact ofTasks.elim
  | sessionEnds => exact ofTasks.elim
  | upStarts =>
      simp only [step]
      split
      · exact .resumeUp (by simp [*]) rfl (by simp) rfl
      · exact .refl s
  | clientRead sends aboveHighWater =>
      simp only [step]
      split
      · obtain ⟨main, created, down⟩ :=
          @sendChunk_goes frames s sends aboveHighWater
        exact .resumeUp (by simp [*]) main created down
      · exact .refl s
  | clientEnds tail =>
      simp only [step]
      split
      · obtain ⟨main, created, down⟩ := @sendTail_goes frames s tail
        exact .resumeUp (by simp [*]) main created down
      · exact .refl s
  | upDrained =>
      simp only [step]
      split
      · exact .resumeUp (by simp [*]) rfl (by simp) rfl
      · split
        · exact .ofUp (by simp [*]) rfl (by simp) rfl
        · exact .refl s
  | upFails =>
      simp only [step]
      split
      · exact .refl s
      · exact ⟨rfl, fun _ => by simp, fun _ => rfl, id, id⟩
  | downStarts =>
      simp only [step]
      split
      · obtain ⟨main, created, up⟩ := enterRecv_goes s
        exact .resumeDown (by simp [*]) main created up
      · exact .refl s
  | wsFrame opcode payload aboveHighWater =>
      simp only [step]
      split
      · obtain ⟨main, created, up⟩ :=
          @receiveFrame_goes frames s opcode payload aboveHighWater
        exact .resumeDown (by simp [*]) main created up
      · exact .refl s
  | downDrained succeeds =>
      simp only [step]
      split
      · rename_i draining
        have active : s.down ≠ .notCreated ∧ s.down ≠ .finished := by
          rcases draining with pong | close | data <;> simp [*]
        obtain ⟨main, created, up⟩ := afterDrain_goes active.1 succeeds
        exact .resumeDown active.2 main created up
      · exact .refl s
  | downFails =>
      simp only [step]
      split
      · exact .refl s
      · exact ⟨rfl, id, id, fun _ => by simp, fun _ => rfl⟩
  | cancelUp => exact ⟨rfl, id, id, id, id⟩
  | cancelDown => exact ⟨rfl, id, id, id, id⟩

/-- Both tasks have been cancelled, and the WebSocket is as it was. -/
structure Silent (ws : RawWebSocket) (s : Session) : Prop where
  ws : s.ws = ws
  up : s.upCancelled = true
  down : s.downCancelled = true

section Silent

variable {ws : RawWebSocket}

theorem Silent.resumeUp (silent : Silent ws s) (next : Session) :
    Silent ws (s.resumeUp next) := by
  rw [Session.resumeUp, if_pos silent.up]
  exact ⟨silent.ws, silent.up, silent.down⟩

theorem Silent.resumeDown (silent : Silent ws s) (next : Session) :
    Silent ws (s.resumeDown next) := by
  rw [Session.resumeDown, if_pos silent.down]
  exact ⟨silent.ws, silent.up, silent.down⟩

/-- A cancelled task only ends. -/
theorem Silent.step (silent : Silent ws s) {event : SessionEvent}
    (ofTasks : event.OfTasks) : Silent ws (s.step frames event) := by
  have ended (up : TcpToWs) (down : WsToTcp) :
      Silent ws { s with up, down } :=
    ⟨silent.ws, silent.up, silent.down⟩
  cases event with
  | begin relayInit => exact ofTasks.elim
  | mainResumes cancelled => exact ofTasks.elim
  | closeWebSocket => exact ofTasks.elim
  | sessionEnds => exact ofTasks.elim
  | upStarts | clientRead sends aboveHighWater | clientEnds tail =>
      simp only [Session.step]
      split
      · exact silent.resumeUp _
      · exact silent
  | downStarts | wsFrame opcode payload aboveHighWater | downDrained succeeds =>
      simp only [Session.step]
      split
      · exact silent.resumeDown _
      · exact silent
  | upDrained =>
      simp only [Session.step]
      split
      · exact silent.resumeUp _
      · split
        · exact ended _ _
        · exact silent
  | upFails | downFails =>
      simp only [Session.step]
      split
      · exact silent
      · exact ended _ _
  | cancelUp => exact ⟨silent.ws, rfl, silent.down⟩
  | cancelDown => exact ⟨silent.ws, silent.up, rfl⟩

end Silent

end Wire.Session

namespace Tunnel

variable {crypto : Primitives} {frames : Wire.FrameModule}
  {writer : ClientWriter} {s : Tunnel} {event : TunnelEvent}

theorem step_goes (ofTasks : event.OfTasks) :
    Wire.Session.Goes s.wire (s.step crypto frames writer event).wire := by
  rcases @step_wire crypto frames writer s event with
    same | ⟨taken, isTask, same⟩
  · rw [same]
    exact .refl s.wire
  · rw [same]
    exact Wire.Session.step_goes (isTask ofTasks)

/-- Tasks which were cancelled write to nobody. -/
theorem step_silent {ws : Wire.RawWebSocket}
    (silent : Wire.Session.Silent ws s.wire) (ofTasks : event.OfTasks) :
    Wire.Session.Silent ws (s.step crypto frames writer event).wire ∧
      (s.step crypto frames writer event).toClient = s.toClient := by
  cases event with
  | readReturns aboveHighWater =>
      have idle : s.step crypto frames writer (.readReturns aboveHighWater) =
          s := by
        apply if_neg
        intro active
        cases active.2.symm.trans silent.up
      rw [idle]
      exact ⟨silent, rfl⟩
  | frameReturns aboveHighWater =>
      have idle : s.step crypto frames writer (.frameReturns aboveHighWater) =
          s := by
        apply if_neg
        intro active
        cases active.2.symm.trans silent.down
      rw [idle]
      exact ⟨silent, rfl⟩
  | task event =>
      simp only [Tunnel.step]
      split
      · exact ⟨silent, rfl⟩
      · exact ⟨silent.step ofTasks, rfl⟩

/-- A task which is resumed with an exception has ended. -/
theorem step_fails (created : s.wire.up ≠ .notCreated ∧
      s.wire.down ≠ .notCreated) :
    (s.step crypto frames writer (.task .upFails)).wire.up = .finished ∧
      (s.step crypto frames writer (.task .downFails)).wire.down =
        .finished := by
  constructor
  · simp [Tunnel.step, Tunnel.resume, Wire.SessionEvent.BringsData,
      Wire.Session.step, created.1]
  · simp [Tunnel.step, Tunnel.resume, Wire.SessionEvent.BringsData,
      Wire.Session.step, created.2]

end Tunnel

namespace WsBridge

section Ends

variable {crypto : Primitives} {frames : Wire.FrameModule}
  {writer : ClientWriter} {s : WsBridge}

/-- What is behind the call in the session of its tasks. -/
structure Stage (main : WsMain) (wire : Wire.Session) : Prop where
  session : wire.main = main.session
  created : wire.up ≠ .notCreated ∧ wire.down ≠ .notCreated
  cancelled : 1 ≤ main.awaited →
    wire.upCancelled = true ∧ wire.downCancelled = true
  upFinished : 2 ≤ main.awaited → wire.up = .finished
  downFinished : 3 ≤ main.awaited → wire.down = .finished
  closed : 3 ≤ main.awaited → wire.ws.closed = true

/-- How far the `finally` clause has come. -/
structure Orderly (s : WsBridge) : Prop where
  stage : Stage s.main s.tunnel.wire
  socketClosed : s.socketClosed = true → 4 ≤ s.main.awaited
  writerClosed : s.writerClosed = decide (5 ≤ s.main.awaited)

section Stage

variable {main next : WsMain} {wire : Wire.Session}

theorem Stage.silent (stage : Stage main wire) (late : 1 ≤ main.awaited) :
    Wire.Session.Silent wire.ws wire :=
  ⟨rfl, (stage.cancelled late).1, (stage.cancelled late).2⟩

theorem Stage.task {tunnel : Tunnel} (stage : Stage main tunnel.wire)
    {event : TunnelEvent} (ofTasks : event.OfTasks) :
    Stage main (tunnel.step crypto frames writer event).wire := by
  have goes := @Tunnel.step_goes crypto frames writer tunnel event ofTasks
  have silent (late : 1 ≤ main.awaited) :=
    (@Tunnel.step_silent crypto frames writer tunnel event _
      (stage.silent late) ofTasks).1
  constructor
  · exact goes.main.trans stage.session
  · exact ⟨goes.upCreated stage.created.1, goes.downCreated stage.created.2⟩
  · exact fun late => ⟨(silent late).up, (silent late).down⟩
  · exact fun late => goes.upFinished (stage.upFinished late)
  · exact fun late => goes.downFinished (stage.downFinished late)
  · intro late
    have same := (silent (Nat.le_trans (by decide) late)).ws
    exact (congrArg Wire.RawWebSocket.closed same).trans (stage.closed late)

/-- The tasks are cancelled. -/
theorem Stage.resumes (stage : Stage .waiting wire) {cancelled : Bool}
    (awakes : cancelled = true ∨ wire.up = .finished ∨
      wire.down = .finished) :
    Stage .awaitingUp (wire.step frames (.mainResumes cancelled)) := by
  have resumed : wire.step frames (.mainResumes cancelled) =
      { wire with
        upCancelled := true, downCancelled := true, main := .awaitingTasks } :=
    if_pos ⟨stage.session, awakes⟩
  rw [resumed]
  exact ⟨rfl, stage.created, fun _ => ⟨rfl, rfl⟩, nofun, nofun, nofun⟩

theorem Stage.awaitsUp (stage : Stage .awaitingUp wire)
    (ends : wire.up = .finished) : Stage .awaitingDown wire :=
  ⟨stage.session, stage.created, fun _ => stage.cancelled le_rfl, fun _ => ends,
    nofun, nofun⟩

/-- Both tasks were awaited. -/
theorem Stage.closes (stage : Stage .awaitingDown wire)
    (ends : wire.down = .finished) (closing : next.session = .closing) :
    Stage next (wire.step frames .closeWebSocket) := by
  have upEnds := stage.upFinished le_rfl
  have closed : wire.step frames .closeWebSocket =
      { wire with ws := wire.ws.close frames, main := .closing } :=
    if_pos ⟨stage.session, upEnds, ends⟩
  rw [closed]
  exact ⟨closing.symm, stage.created, fun _ => stage.cancelled (by decide),
    fun _ => upEnds, fun _ => ends, fun _ => Wire.Socket.closed_close wire.ws⟩

/-- Nothing is left of the tasks. -/
theorem Stage.past (stage : Stage main wire) (late : 3 ≤ main.awaited)
    (same : next.session = main.session) : Stage next wire :=
  ⟨stage.session.trans same.symm, stage.created,
    fun _ => stage.cancelled (Nat.le_trans (by decide) late),
    fun _ => stage.upFinished (Nat.le_trans (by decide) late),
    fun _ => stage.downFinished late, fun _ => stage.closed late⟩

theorem Stage.ends (stage : Stage .closingClient wire) :
    Stage .ended (wire.step frames .sessionEnds) := by
  have ended : wire.step frames .sessionEnds = { wire with main := .finished } :=
    if_pos stage.session
  rw [ended]
  exact ⟨rfl, stage.created, fun _ => stage.cancelled (by decide),
    fun _ => stage.upFinished (by decide),
    fun _ => stage.downFinished (by decide), fun _ => stage.closed (by decide)⟩

end Stage

/-- A resumption of the call, by where it waits. -/
theorem Orderly.goOn (orderly : Orderly s) {cancelled : Bool}
    (awakes : cancelled = true ∧ s.main = .waiting ∨ s.Awakes) :
    Orderly (s.goOn frames cancelled) := by
  obtain ⟨stage, socketClosed, writerClosed⟩ := orderly
  have opened (early : s.main.awaited < 4) : ¬ s.socketClosed = true :=
    fun shut => absurd (socketClosed shut) (Nat.not_le.mpr early)
  cases main : s.main with
  | waiting =>
      rw [main] at stage opened writerClosed
      have resumed := awakes.imp_left And.left
      simp only [Awakes, main] at resumed
      simp only [WsBridge.goOn, main]
      exact ⟨@Stage.resumes frames _ stage cancelled resumed,
        fun shut => absurd shut (opened (by decide)), writerClosed⟩
  | awaitingUp =>
      rw [main] at stage opened writerClosed
      simp only [Awakes, main, reduceCtorEq, and_false, false_or] at awakes
      simp only [WsBridge.goOn, main]
      exact ⟨stage.awaitsUp awakes,
        fun shut => absurd shut (opened (by decide)), writerClosed⟩
  | awaitingDown =>
      rw [main] at stage opened writerClosed
      simp only [Awakes, main, reduceCtorEq, and_false, false_or] at awakes
      simp only [WsBridge.goOn, main, closeSocket, closeClient]
      split
      · exact ⟨stage.closes awakes rfl, fun _ => Nat.le_succ 4, rfl⟩
      · exact ⟨stage.closes awakes rfl,
          fun shut => absurd shut (opened (by decide)), writerClosed⟩
  | drainingSocket =>
      rw [main] at stage writerClosed
      simp only [WsBridge.goOn, main, closeClient]
      split
      · exact ⟨stage.past (by decide) rfl, fun _ => Nat.le_succ 4, rfl⟩
      · exact ⟨stage.past (by decide) rfl, fun _ => le_rfl, writerClosed⟩
  | closingSocket =>
      rw [main] at stage
      simp only [WsBridge.goOn, main, closeClient]
      exact ⟨stage.past (by decide) rfl, fun _ => Nat.le_succ 4, rfl⟩
  | closingClient =>
      rw [main] at stage writerClosed
      simp only [WsBridge.goOn, main]
      exact ⟨@Stage.ends frames _ stage, fun _ => Nat.le_add_right 4 2,
        writerClosed⟩
  | ended =>
      simp only [WsBridge.goOn, main]
      exact ⟨stage, socketClosed, writerClosed⟩

theorem Orderly.step (orderly : Orderly s) (event : WsBridgeEvent) :
    Orderly (s.step crypto frames writer event) := by
  cases event with
  | task event =>
      simp only [WsBridge.step]
      split
      · rename_i ofTasks
        exact ⟨orderly.stage.task ofTasks, orderly.socketClosed,
          orderly.writerClosed⟩
      · exact orderly
  | wakes =>
      simp only [WsBridge.step]
      split
      · rename_i awakes
        exact orderly.goOn (.inr awakes)
      · exact orderly
  | cancelled =>
      simp only [WsBridge.step]
      split
      · rename_i awakes
        exact orderly.goOn (awakes.imp_left fun waits => ⟨rfl, waits⟩)
      · exact orderly

/-! What the call writes once it has been resumed. -/

theorem close_close (ws : Wire.RawWebSocket) :
    (ws.close frames).close frames = ws.close frames :=
  if_pos (Wire.Socket.closed_close ws)

/-- Only `ws.close()` writes, and to the WebSocket only. -/
structure Quiet (frames : Wire.FrameModule) (s next : WsBridge) : Prop where
  toClient : next.tunnel.toClient = s.tunnel.toClient
  ws : next.tunnel.wire.ws = s.tunnel.wire.ws ∨
    next.tunnel.wire.ws = s.tunnel.wire.ws.close frames

theorem Quiet.refl (s : WsBridge) : Quiet frames s s := ⟨rfl, .inl rfl⟩

theorem Quiet.trans {before next : WsBridge} (first : Quiet frames before s)
    (second : Quiet frames s next) : Quiet frames before next := by
  refine ⟨second.toClient.trans first.toClient, ?_⟩
  rcases first.ws with same | closed
  · rw [← same]
    exact second.ws
  · right
    rcases second.ws with same | again
    · exact same.trans closed
    · rw [again, closed, close_close]

theorem quiet_closeSocket (s : WsBridge) :
    Quiet frames s (s.closeSocket frames) := by
  have closes : (s.tunnel.resume frames .closeWebSocket).wire.ws =
      s.tunnel.wire.ws ∨
        (s.tunnel.resume frames .closeWebSocket).wire.ws =
          s.tunnel.wire.ws.close frames := by
    simp only [Tunnel.resume, Wire.Session.step]
    split
    · exact .inr rfl
    · exact .inl rfl
  unfold closeSocket
  split
  · exact ⟨rfl, closes⟩
  · exact ⟨rfl, closes⟩

theorem quiet_goOn (late : 1 ≤ s.main.awaited) (cancelled : Bool) :
    Quiet frames s (s.goOn frames cancelled) := by
  unfold goOn
  split
  · rename_i waiting
    rw [waiting] at late
    exact absurd late (by decide)
  · exact ⟨rfl, .inl rfl⟩
  · exact quiet_closeSocket s
  · split
    · exact ⟨rfl, .inl rfl⟩
    · exact ⟨rfl, .inl rfl⟩
  · exact ⟨rfl, .inl rfl⟩
  · refine ⟨rfl, .inl ?_⟩
    simp only [Tunnel.resume, Wire.Session.step]
    split
    · rfl
    · rfl
  · exact .refl s

theorem Orderly.quiet_step (orderly : Orderly s) (late : 1 ≤ s.main.awaited)
    (event : WsBridgeEvent) :
    Quiet frames s (s.step crypto frames writer event) := by
  cases event with
  | task event =>
      simp only [WsBridge.step]
      split
      · rename_i ofTasks
        obtain ⟨silent, toClient⟩ := @Tunnel.step_silent crypto frames writer
          s.tunnel event _ (orderly.stage.silent late) ofTasks
        exact ⟨toClient, .inl silent.ws⟩
      · exact .refl s
  | wakes =>
      simp only [WsBridge.step]
      split
      · exact quiet_goOn late false
      · exact .refl s
  | cancelled =>
      simp only [WsBridge.step]
      split
      · exact quiet_goOn late true
      · exact .refl s

/-! What brings the call to its end. -/

theorem awaited_goOn (s : WsBridge) (cancelled : Bool) :
    min 6 (s.main.awaited + 1) ≤ (s.goOn frames cancelled).main.awaited := by
  unfold goOn
  split
  all_goals
    rename_i main
    rw [main]
  · exact le_rfl
  · exact le_rfl
  · unfold closeSocket
    split
    · exact Nat.le_add_right 3 2
    · exact le_rfl
  · split
    · exact Nat.le_succ 4
    · exact le_rfl
  · exact le_rfl
  · exact le_rfl
  · exact le_rfl

theorem awaited_le (main : WsMain) : main.awaited ≤ 6 := by
  cases main <;> decide

theorem awaited_step (crypto : Primitives) (frames : Wire.FrameModule)
    (writer : ClientWriter) (s : WsBridge) (event : WsBridgeEvent) :
    s.main.awaited ≤ (s.step crypto frames writer event).main.awaited := by
  have goesOn (cancelled : Bool) :
      s.main.awaited ≤ (s.goOn frames cancelled).main.awaited := by
    have more := @awaited_goOn frames s cancelled
    have bound := awaited_le s.main
    omega
  cases event with
  | task event =>
      simp only [WsBridge.step]
      split
      · exact le_rfl
      · exact le_rfl
  | wakes =>
      simp only [WsBridge.step]
      split
      · exact goesOn false
      · exact le_rfl
  | cancelled =>
      simp only [WsBridge.step]
      split
      · exact goesOn true
      · exact le_rfl

theorem waiting_of_awaited (early : ¬ 1 ≤ s.main.awaited) :
    s.main = .waiting := by
  cases main : s.main with
  | waiting => rfl
  | _ =>
      rw [main] at early
      exact absurd (by decide) early

theorem awaited_pos : 1 ≤ s.main.awaited ↔ s.main ≠ .waiting := by
  constructor
  · intro late waiting
    rw [waiting] at late
    exact absurd late (by decide)
  · intro resumed
    by_contra early
    exact resumed (waiting_of_awaited early)

/-- The call is in its `finally` clause, or about to be. -/
def Ends (s : WsBridge) : Prop :=
  1 ≤ s.main.awaited ∨ s.tunnel.wire.up = .finished ∨
    s.tunnel.wire.down = .finished

theorem resume_main_goes (tunnel : Tunnel) {event : Wire.SessionEvent}
    (ofMain : event = .closeWebSocket ∨ event = .sessionEnds ∨
      ∃ cancelled, event = .mainResumes cancelled) :
    (tunnel.resume frames event).wire.up = tunnel.wire.up ∧
      (tunnel.resume frames event).wire.down = tunnel.wire.down := by
  rcases ofMain with rfl | rfl | ⟨cancelled, rfl⟩
  all_goals
    simp only [Tunnel.resume, Wire.Session.step]
    split
    · exact ⟨rfl, rfl⟩
    · exact ⟨rfl, rfl⟩

/-- The call does not touch its tasks, but for their cancellation. -/
theorem goOn_tasks (s : WsBridge) (cancelled : Bool) :
    (s.goOn frames cancelled).tunnel.wire.up = s.tunnel.wire.up ∧
      (s.goOn frames cancelled).tunnel.wire.down = s.tunnel.wire.down := by
  unfold goOn
  split
  · exact resume_main_goes s.tunnel (.inr (.inr ⟨cancelled, rfl⟩))
  · exact ⟨rfl, rfl⟩
  · unfold closeSocket
    split
    · exact resume_main_goes s.tunnel (.inl rfl)
    · exact resume_main_goes s.tunnel (.inl rfl)
  · split
    · exact ⟨rfl, rfl⟩
    · exact ⟨rfl, rfl⟩
  · exact ⟨rfl, rfl⟩
  · exact resume_main_goes s.tunnel (.inr (.inl rfl))
  · exact ⟨rfl, rfl⟩

theorem step_finished (crypto : Primitives) (frames : Wire.FrameModule)
    (writer : ClientWriter) (s : WsBridge) (event : WsBridgeEvent) :
    (s.tunnel.wire.up = .finished →
      (s.step crypto frames writer event).tunnel.wire.up = .finished) ∧
    (s.tunnel.wire.down = .finished →
      (s.step crypto frames writer event).tunnel.wire.down = .finished) := by
  cases event with
  | task event =>
      simp only [WsBridge.step]
      split
      · rename_i ofTasks
        have goes := @Tunnel.step_goes crypto frames writer s.tunnel event
          ofTasks
        exact ⟨goes.upFinished, goes.downFinished⟩
      · exact ⟨id, id⟩
  | wakes =>
      obtain ⟨up, down⟩ := @goOn_tasks frames s false
      simp only [WsBridge.step]
      split
      · exact ⟨up.trans, down.trans⟩
      · exact ⟨id, id⟩
  | cancelled =>
      obtain ⟨up, down⟩ := @goOn_tasks frames s true
      simp only [WsBridge.step]
      split
      · exact ⟨up.trans, down.trans⟩
      · exact ⟨id, id⟩

theorem Ends.step (ends : Ends s) (event : WsBridgeEvent) :
    Ends (s.step crypto frames writer event) := by
  obtain ⟨up, down⟩ := step_finished crypto frames writer s event
  rcases ends with late | upEnds | downEnds
  · exact .inl (late.trans (awaited_step crypto frames writer s event))
  · exact .inr (.inl (up upEnds))
  · exact .inr (.inr (down downEnds))

theorem Ends.wakes (ends : Ends s) :
    1 ≤ (s.step crypto frames writer .wakes).main.awaited := by
  by_cases late : 1 ≤ s.main.awaited
  · exact late.trans (awaited_step crypto frames writer s .wakes)
  · have waiting := waiting_of_awaited late
    have finished := ends.resolve_left late
    have awakes : s.Awakes := by
      simpa only [Awakes, waiting] using finished
    have more := @awaited_goOn frames s false
    simp only [WsBridge.step, if_pos awakes]
    omega

/-- A resumption of the call once both tasks have ended. -/
theorem awaited_wakes (up : s.tunnel.wire.up = .finished)
    (down : s.tunnel.wire.down = .finished) :
    min 6 (s.main.awaited + 1) ≤
      (s.step crypto frames writer .wakes).main.awaited := by
  by_cases awakes : s.Awakes
  · simp only [WsBridge.step, if_pos awakes]
    exact awaited_goOn s false
  · have ended : s.main = .ended := by
      unfold Awakes at awakes
      split at awakes <;> simp_all
    have all : s.main.awaited = 6 := by
      rw [ended]
      rfl
    exact (Nat.min_le_left 6 _).trans
      (all ▸ awaited_step crypto frames writer s .wakes)

theorem Orderly.stops (orderly : Orderly s) :
    (s.step crypto frames writer (.task (.task .upFails))).tunnel.wire.up =
        .finished ∧
      (s.step crypto frames writer (.task (.task .downFails))).tunnel.wire.down =
        .finished := by
  obtain ⟨up, down⟩ := @Tunnel.step_fails crypto frames writer s.tunnel
    orderly.stage.created
  constructor
  · have taken : (TunnelEvent.task .upFails).OfTasks := trivial
    rw [WsBridge.step, if_pos taken]
    exact up
  · have taken : (TunnelEvent.task .downFails).OfTasks := trivial
    rw [WsBridge.step, if_pos taken]
    exact down

/-! Runs. -/

theorem Orderly.run (orderly : Orderly s) (events : List WsBridgeEvent) :
    Orderly (Lib.run (WsBridge.step crypto frames writer) s events) := by
  have kept (s : WsBridge) (event : WsBridgeEvent) (orderly : Orderly s) :
      Orderly (s.step crypto frames writer event) := orderly.step event
  exact run_invariant kept events orderly

/-- Once the call has been resumed. -/
theorem Orderly.run_quiet (orderly : Orderly s) (late : 1 ≤ s.main.awaited)
    (events : List WsBridgeEvent) :
    Quiet frames s (Lib.run (WsBridge.step crypto frames writer) s events) := by
  induction events generalizing s with
  | nil => exact .refl s
  | cons event events induction =>
      have first := @Orderly.quiet_step crypto frames writer s orderly late event
      have later := induction (orderly.step event)
        (late.trans (awaited_step crypto frames writer s event))
      exact first.trans later

/-- The schedules under which the call ends. -/
theorem Orderly.run_ends (orderly : Orderly s) (ends : Ends s)
    {first settling closing : List WsBridgeEvent} (wakes : .wakes ∈ first)
    (upStops : .task (.task .upFails) ∈ settling)
    (downStops : .task (.task .downFails) ∈ settling)
    (often : 6 ≤ closing.count .wakes) :
    (Lib.run (WsBridge.step crypto frames writer) s
      (first ++ settling ++ closing)).main = .ended := by
  have kept (s : WsBridge) (event : WsBridgeEvent) (orderly : Orderly s) :
      Orderly (s.step crypto frames writer event) := orderly.step event
  have finished := step_finished crypto frames writer
  have last := le_rank_run_of_stages kept (awaited_step crypto frames writer)
    (fun _ event ends => Ends.step ends event) (fun _ ends => Ends.wakes ends)
    (fun _ orderly _ => orderly.stops.1) (fun s event => (finished s event).1)
    (fun _ orderly _ => orderly.stops.2) (fun s event => (finished s event).2)
    (fun _ _ up down => awaited_wakes up down) orderly ends wakes upStops
    downStops often
  unfold WsMain.awaited at last
  split at last <;> simp_all

end Ends

/-- An event is one of the session of the tasks, or nothing there. -/
theorem exists_tunnel_run (crypto : Primitives) (frames : Wire.FrameModule)
    (writer : ClientWriter) (start : WsBridge) (events : List WsBridgeEvent) :
    ∃ taken, (run (WsBridge.step crypto frames writer) start events).tunnel =
      run (Tunnel.step crypto frames writer) start.tunnel taken := by
  have nothing (s next : WsBridge) (same : next.tunnel = s.tunnel) :
      ∃ taken, next.tunnel =
        run (Tunnel.step crypto frames writer) s.tunnel taken := ⟨[], same⟩
  have one (s next : WsBridge) (event : TunnelEvent)
      (same : next.tunnel = s.tunnel.step crypto frames writer event) :
      ∃ taken, next.tunnel =
        run (Tunnel.step crypto frames writer) s.tunnel taken :=
    ⟨[event], same⟩
  have goesOn (s : WsBridge) (cancelled : Bool) :
      ∃ taken, (s.goOn frames cancelled).tunnel =
        run (Tunnel.step crypto frames writer) s.tunnel taken := by
    unfold goOn
    split
    · exact one s _ (.task (.mainResumes cancelled)) rfl
    · exact nothing s _ rfl
    · unfold closeSocket
      split
      · exact one s _ (.task .closeWebSocket) rfl
      · exact one s _ (.task .closeWebSocket) rfl
    · split
      · exact nothing s _ rfl
      · exact nothing s _ rfl
    · exact nothing s _ rfl
    · exact one s _ (.task .sessionEnds) rfl
    · exact nothing s _ rfl
  apply exists_coarse_run
  intro s event
  cases event with
  | task event =>
      simp only [WsBridge.step]
      split
      · exact one s _ event rfl
      · exact nothing s _ rfl
  | wakes =>
      simp only [WsBridge.step]
      split
      · exact goesOn s false
      · exact nothing s _ rfl
  | cancelled =>
      simp only [WsBridge.step]
      split
      · exact goesOn s true
      · exact nothing s _ rfl

theorem begin_stage (frames : Wire.FrameModule) (relayInit : Wire.PyBytes) :
    Stage .waiting (Wire.Session.start.step frames (.begin relayInit)) := by
  obtain ⟨ws, sent⟩ := @Wire.ClosingSession.send_of_opened frames
    Wire.Session.start.ws rfl relayInit
  have begun : Wire.Session.start.step frames (.begin relayInit) =
      { ws, up := .ready, upCancelled := false, down := .ready,
        downCancelled := false, main := .waiting } := by
    simp only [Wire.Session.step, sent]
    rfl
  rw [begun]
  have early {count : Nat} (positive : 0 < count) :
      ¬ count ≤ WsMain.waiting.awaited := Nat.not_le.mpr positive
  constructor
  · rfl
  · exact ⟨by simp, by simp⟩
  · exact fun late => absurd late (early (by decide))
  · exact fun late => absurd late (early (by decide))
  · exact fun late => absurd late (early (by decide))
  · exact fun late => absurd late (early (by decide))

theorem start_orderly {crypto : Primitives} {frames : Wire.FrameModule}
    {request : ClientRequest} {secret : Bytes} {relayInit : Wire.PyBytes}
    {reader : ClientReader} {unread : Bytes} {s : WsBridge}
    (started : start crypto frames request secret relayInit reader unread =
      .ok s) : Orderly s := by
  unfold start Tunnel.start at started
  cases ciphers : buildCryptoCtx crypto request.decPrekeyIv secret
      relayInit.val with
  | error error =>
      rw [ciphers] at started
      cases started
  | ok ctx =>
      rw [ciphers] at started
      cases started
      exact ⟨begin_stage frames relayInit,
        fun shut => absurd shut Bool.false_ne_true, rfl⟩

end WsBridge

/-- A session which runs through its `finally` clause is one of those above.
No writer is closed while a task can write to it.  Once the call has been
resumed, `ws.close()` alone writes, and the client is given nothing more.  The
call ends when the tasks are resumed with their cancellation and it is resumed
for each of its `await`s, and then the writer of the client is closed. -/
theorem wsBridge_closes (crypto : Primitives) (frames : Wire.FrameModule)
    (writer : ClientWriter) {handshake secret : Bytes}
    {relayInit : Wire.PyBytes} {request : ClientRequest}
    (handshakeSize : handshake.length = 64)
    (accepted : tryHandshake crypto handshake secret = .ok (some request))
    (relaySize : relayInit.val.length = 64) (reader : ClientReader)
    (unread : Bytes) :
    ∃ start, WsBridge.start crypto frames request secret relayInit reader
        unread = .ok start ∧
      ∀ events,
        let s := run (WsBridge.step crypto frames writer) start events
        (∃ taken, s.tunnel = (run (RecordedTunnel.step crypto frames writer)
          (.start start.tunnel) taken).toTunnel) ∧
        (s.socketClosed ∨ s.writerClosed →
          s.tunnel.wire.up = .finished ∧ s.tunnel.wire.down = .finished ∧
            s.tunnel.wire.ws.closed) ∧
        (s.main = .ended → s.writerClosed) ∧
        (s.main ≠ .waiting → ∀ later,
          let next := run (WsBridge.step crypto frames writer) s later
          next.tunnel.toClient = s.tunnel.toClient ∧
            (next.tunnel.wire.ws = s.tunnel.wire.ws ∨
              next.tunnel.wire.ws = s.tunnel.wire.ws.close frames)) ∧
        (s.main ≠ .waiting ∨ s.tunnel.wire.up = .finished ∨
            s.tunnel.wire.down = .finished →
          ∀ first settling closing, .wakes ∈ first →
            .task (.task .upFails) ∈ settling →
            .task (.task .downFails) ∈ settling →
            6 ≤ closing.count .wakes →
            (run (WsBridge.step crypto frames writer) s
              (first ++ settling ++ closing)).main = .ended) := by
  obtain ⟨tunnel, started, -⟩ := Tunnel.start_kept crypto frames handshakeSize
    accepted relaySize reader unread
  have begun : WsBridge.start crypto frames request secret relayInit reader
      unread = .ok ⟨tunnel, .waiting, false, false⟩ := by
    unfold WsBridge.start
    rw [started]
    rfl
  refine ⟨_, begun, fun events => ?_⟩
  have orderly := @WsBridge.Orderly.run crypto frames writer _
    (WsBridge.start_orderly begun) events
  obtain ⟨taken, reached⟩ :=
    WsBridge.exists_tunnel_run crypto frames writer _ events
  refine ⟨⟨taken, reached.trans
    (RecordedTunnel.run_toTunnel crypto frames writer (.start tunnel)
      taken).symm⟩, ?_⟩
  generalize run (WsBridge.step crypto frames writer) _ events = s at orderly
  refine ⟨?_, ?_, ?_, ?_⟩
  · intro closed
    have late : 4 ≤ s.main.awaited := by
      rcases closed with closed | closed
      · exact orderly.socketClosed closed
      · have late := of_decide_eq_true (orderly.writerClosed.symm.trans closed)
        exact Nat.le_trans (by decide) late
    exact ⟨orderly.stage.upFinished (by omega),
      orderly.stage.downFinished (by omega), orderly.stage.closed (by omega)⟩
  · intro ended
    rw [orderly.writerClosed, ended]
    rfl
  · intro resumed later
    have quiet := @WsBridge.Orderly.run_quiet crypto frames writer s orderly
      (WsBridge.awaited_pos.mpr resumed) later
    exact ⟨quiet.toClient, quiet.ws⟩
  · intro ends first settling closing wakes upStops downStops often
    have isEnding : WsBridge.Ends s :=
      ends.imp_left WsBridge.awaited_pos.mpr
    exact orderly.run_ends isEnding wakes upStops downStops often

theorem wsBridge_closes_recorded :
    ∃ start, WsBridge.start recordedCrypto recordedFrames
        ⟨2, true, protoTagIntermediate, slice recordedHandshake 8 56⟩
        recordedSecret recordedRelay (recordedInput.reader fun _ => 1) [] =
          .ok start ∧
      ∀ events,
        let s := run (WsBridge.step recordedCrypto recordedFrames .fakeTls)
          start events
        (∃ taken, s.tunnel =
          (run (RecordedTunnel.step recordedCrypto recordedFrames .fakeTls)
            (.start start.tunnel) taken).toTunnel) ∧
        (s.socketClosed ∨ s.writerClosed →
          s.tunnel.wire.up = .finished ∧ s.tunnel.wire.down = .finished ∧
            s.tunnel.wire.ws.closed) ∧
        (s.main = .ended → s.writerClosed) ∧
        (s.main ≠ .waiting → ∀ later,
          let next := run (WsBridge.step recordedCrypto recordedFrames .fakeTls)
            s later
          next.tunnel.toClient = s.tunnel.toClient ∧
            (next.tunnel.wire.ws = s.tunnel.wire.ws ∨
              next.tunnel.wire.ws = s.tunnel.wire.ws.close recordedFrames)) ∧
        (s.main ≠ .waiting ∨ s.tunnel.wire.up = .finished ∨
            s.tunnel.wire.down = .finished →
          ∀ first settling closing, .wakes ∈ first →
            .task (.task .upFails) ∈ settling →
            .task (.task .downFails) ∈ settling →
            6 ≤ closing.count .wakes →
            (run (WsBridge.step recordedCrypto recordedFrames .fakeTls) s
              (first ++ settling ++ closing)).main = .ended) :=
  @wsBridge_closes recordedCrypto recordedFrames .fakeTls recordedHandshake
    recordedSecret recordedRelay _ (by decide +kernel) (by decide +kernel)
    (by decide +kernel) (recordedInput.reader fun _ => 1) []

end TgWsProxy.Python
