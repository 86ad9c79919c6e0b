import TgWsProxy.Lib.Runs
import TgWsProxy.Python.WebSocketWire

/-!
# How the Python WebSocket is closed

The flag `_closed` says that a Close frame was sent.  `close` returns at once if
it is set, and shuts the writer otherwise.  But `recv` sets it too, when it
answers a Close frame, and leaves the writer open.
-/

namespace TgWsProxy.Python.Wire

open Lib

/-- How `close` gets past `drain` and `wait_closed`.  It drops their exceptions,
and a cancellation is none. -/
inductive CloseEnd where
  | returns
  | drainCancelled
  | waitCancelled
deriving DecidableEq, Repr

/-- The call which has set `_closed`. -/
inductive Closer where
  | recv
  | cancelledClose
  | close
deriving DecidableEq, Repr

/-- A `RawWebSocket` with its writer. -/
structure Socket where
  ws : RawWebSocket
  /-- A call of `recv` waits for a frame. -/
  receiving : Bool
  writerClosed : Bool
  /-- Who has set `_closed`, kept as history. -/
  closedBy : Option Closer

inductive SocketEvent where
  | send (data : PyBytes)
  | sendBatch (parts : List PyBytes)
  | recv
  /-- `_read_frame` returns to the call of `recv`. -/
  | frame (opcode : Nat) (payload : PyBytes)
  /-- `recv` raises or is cancelled. -/
  | recvRaises
  | close (ends : CloseEnd)

namespace Socket

def start : Socket :=
  { ws := ⟨false, []⟩, receiving := false, writerClosed := false,
    closedBy := none }

variable (frames : FrameModule)

/-- An exception leaves the socket as it is. -/
def sent (s : Socket) : Except PyError RawWebSocket → Socket
  | .ok ws => { s with ws }
  | .error _ => s

/-- A turn of the loop in `recv`. -/
def receiveFrame (s : Socket) (opcode : Nat) (payload : Bytes) : Socket :=
  let (turn, ws) := s.ws.handleFrame frames opcode payload
  let closedBy :=
    if ws.closed ∧ ¬ s.ws.closed then some Closer.recv else s.closedBy
  match turn with
  | .closed | .message _ => { s with ws, closedBy, receiving := false }
  | .pong | .ignored => { s with ws, closedBy, receiving := !ws.closed }

/-- `close`. -/
def close (s : Socket) (ends : CloseEnd) : Socket :=
  if s.ws.closed then s
  else
    let s := { s with ws := s.ws.close frames }
    match ends with
    | .drainCancelled => { s with closedBy := some .cancelledClose }
    | .returns | .waitCancelled =>
        { s with writerClosed := true, closedBy := some .close }

def step (s : Socket) : SocketEvent → Socket
  | .send data => s.sent (s.ws.send frames data)
  | .sendBatch parts =>
      s.sent (s.ws.sendBatch frames (parts.map Subtype.val))
  | .recv =>
      if s.receiving then s else { s with receiving := !s.ws.closed }
  | .frame opcode payload =>
      if s.receiving then s.receiveFrame frames opcode payload else s
  | .recvRaises => { s with receiving := false }
  | .close ends => s.close frames ends

/-- A call of `close` which returns leaves the writer closed. -/
def ClosesWriter (s : Socket) : SocketEvent → Prop
  | .close ends =>
      s.ws.closed = true ∨ ends = .returns →
        (s.step frames (.close ends)).writerClosed = true
  | _ => True

/-- `close` is not called on a socket which `recv` has marked as closed, nor on
one whose first `close` was cancelled while it drained. -/
def StillToClose (s : Socket) : SocketEvent → Prop
  | .close _ =>
      s.closedBy ≠ some .recv ∧ s.closedBy ≠ some .cancelledClose
  | _ => True

/-- Where the flag comes from. -/
structure Kept (s : Socket) : Prop where
  flag : s.ws.closed = true ↔ s.closedBy ≠ none
  shut : s.writerClosed = true ↔ s.closedBy = some .close

section Kept

variable {frames : FrameModule} {s : Socket}

theorem closed_of_send {ws next : RawWebSocket} {data : Bytes}
    (sent : ws.send frames data = .ok next) : next.closed = ws.closed := by
  unfold RawWebSocket.send at sent
  split at sent
  · cases sent
  · cases built : frames.buildMasked opBinary data with
    | error error =>
        rw [built] at sent
        cases sent
    | ok frame =>
        rw [built] at sent
        cases sent
        rfl

theorem closed_of_sendBatch {ws next : RawWebSocket} {parts : List Bytes}
    (sent : ws.sendBatch frames parts = .ok next) :
    next.closed = ws.closed := by
  unfold RawWebSocket.sendBatch at sent
  split at sent
  · cases sent
  · cases built : parts.mapM (frames.buildMasked opBinary) with
    | error error =>
        rw [built] at sent
        cases sent
    | ok buf =>
        rw [built] at sent
        cases sent
        rfl

theorem closed_tryWrite (ws : RawWebSocket) (opcode : Nat) (data : Bytes) :
    (ws.tryWrite frames opcode data).closed = ws.closed := by
  unfold RawWebSocket.tryWrite
  split
  · rfl
  · rfl

theorem closed_close (ws : RawWebSocket) : (ws.close frames).closed = true := by
  unfold RawWebSocket.close
  split
  · assumption
  · exact closed_tryWrite _ _ _

/-- Only a Close frame sets the flag. -/
theorem closed_handleFrame (ws : RawWebSocket) (opcode : Nat)
    (payload : Bytes) :
    (ws.handleFrame frames opcode payload).2.closed =
      (ws.closed || decide (opcode = opClose)) := by
  unfold RawWebSocket.handleFrame
  by_cases isClose : opcode = opClose
  · rw [if_pos isClose, decide_eq_true isClose, Bool.or_true]
    exact closed_tryWrite _ _ _
  · rw [if_neg isClose, decide_eq_false isClose, Bool.or_false]
    split
    · exact closed_tryWrite _ _ _
    · split
      · rfl
      · split
        · rfl
        · rfl

theorem Kept.sent (kept : s.Kept) {result : Except PyError RawWebSocket}
    (same : ∀ ws, result = .ok ws → ws.closed = s.ws.closed) :
    (s.sent result).Kept := by
  cases result with
  | error error => exact kept
  | ok ws =>
      constructor
      · apply Iff.trans _ kept.flag
        simp only [Socket.sent, same ws rfl]
      · exact kept.shut

theorem Kept.receiveFrame (kept : s.Kept) (opcode : Nat) (payload : Bytes) :
    (s.receiveFrame frames opcode payload).Kept := by
  have closed := @closed_handleFrame frames s.ws opcode payload
  unfold Socket.receiveFrame
  generalize s.ws.handleFrame frames opcode payload = handled at closed
  obtain ⟨turn, ws⟩ := handled
  dsimp only at closed ⊢
  have flag : ws.closed = true ↔
      (if ws.closed = true ∧ ¬ s.ws.closed = true then some Closer.recv
        else s.closedBy) ≠ none := by
    by_cases before : s.ws.closed = true
    · rw [if_neg fun fresh => fresh.2 before, closed, before, Bool.true_or]
      exact iff_of_true rfl (kept.flag.mp before)
    · by_cases after : ws.closed = true
      · rw [if_pos ⟨after, before⟩]
        exact iff_of_true after (Option.some_ne_none _)
      · rw [if_neg fun fresh => after fresh.1]
        exact iff_of_false after fun some => before (kept.flag.mpr some)
  have shut : s.writerClosed = true ↔
      (if ws.closed = true ∧ ¬ s.ws.closed = true then some Closer.recv
        else s.closedBy) = some .close := by
    by_cases fresh : ws.closed = true ∧ ¬ s.ws.closed = true
    · have none : s.closedBy = none := by
        by_contra some
        exact fresh.2 (kept.flag.mpr some)
      rw [if_pos fresh, kept.shut, none]
      exact iff_of_false (by intro same; cases same) (by intro same; cases same)
    · rw [if_neg fresh]
      exact kept.shut
  cases turn with
  | closed => exact ⟨flag, shut⟩
  | pong => exact ⟨flag, shut⟩
  | message payload => exact ⟨flag, shut⟩
  | ignored => exact ⟨flag, shut⟩

theorem Kept.close (kept : s.Kept) (ends : CloseEnd) :
    (s.close frames ends).Kept := by
  unfold Socket.close
  by_cases closed : s.ws.closed = true
  · rw [if_pos closed]
    exact kept
  · rw [if_neg closed]
    have none : s.closedBy = none := by
      by_contra some
      exact closed (kept.flag.mpr some)
    have opened : ¬ s.writerClosed = true := by
      rw [kept.shut, none]
      intro same
      cases same
    have flag (closer : Closer) : (s.ws.close frames).closed = true ↔
        some closer ≠ Option.none :=
      iff_of_true (closed_close s.ws) (Option.some_ne_none _)
    cases ends with
    | returns => exact ⟨flag _, iff_of_true rfl rfl⟩
    | drainCancelled =>
        refine ⟨flag _, iff_of_false opened ?_⟩
        intro same
        cases same
    | waitCancelled => exact ⟨flag _, iff_of_true rfl rfl⟩

theorem Kept.step (kept : s.Kept) (event : SocketEvent) :
    (s.step frames event).Kept := by
  cases event with
  | send data => exact kept.sent fun ws sent => closed_of_send sent
  | sendBatch parts => exact kept.sent fun ws sent => closed_of_sendBatch sent
  | recv =>
      simp only [Socket.step]
      split
      · exact kept
      · exact ⟨kept.flag, kept.shut⟩
  | frame opcode payload =>
      simp only [Socket.step]
      split
      · exact kept.receiveFrame opcode payload
      · exact kept
  | recvRaises => exact ⟨kept.flag, kept.shut⟩
  | close ends => exact kept.close ends

theorem start_kept : start.Kept := by
  constructor
  · apply iff_of_false
    · intro closed
      cases closed
    · exact fun some => some rfl
  · apply iff_of_false
    · intro closed
      cases closed
    · intro same
      cases same

/-- A call of `close` which returns has closed the writer, unless someone else
has set the flag. -/
theorem Kept.closesWriter_iff (kept : s.Kept) (event : SocketEvent) :
    s.ClosesWriter frames event ↔ s.StillToClose event := by
  cases event with
  | close ends =>
      simp only [ClosesWriter, StillToClose, Socket.step, Socket.close]
      by_cases closed : s.ws.closed = true
      · have flagged := kept.flag.mp closed
        simp only [if_pos closed, kept.shut]
        cases setter : s.closedBy with
        | none => exact absurd setter flagged
        | some closer => cases closer <;> simp [closed]
      · have none : s.closedBy = none := by
          by_contra some
          exact closed (kept.flag.mpr some)
        simp only [if_neg closed, none]
        apply iff_of_true
        · intro returns
          rcases returns with flagged | returned
          · exact absurd flagged closed
          · rw [returned]
        · exact ⟨(Option.some_ne_none _).symm, (Option.some_ne_none _).symm⟩
  | send data => exact Iff.rfl
  | sendBatch parts => exact Iff.rfl
  | recv => exact Iff.rfl
  | frame opcode payload => exact Iff.rfl
  | recvRaises => exact Iff.rfl

end Kept

end Socket

/-- Where the call of `close` at the end of a bridge stands. -/
inductive ClosePhase where
  | notCalled
  | draining
  | ended
deriving DecidableEq, Repr

/-- A session with the writer of its WebSocket. -/
structure ClosingSession where
  session : Session
  phase : ClosePhase
  writerClosed : Bool
  /-- Who has set `_closed`, kept as history. -/
  closedBy : Option Closer

inductive ClosingEvent where
  | session (event : SessionEvent)
  /-- `ws.close()` gets past its drain.  `finally` drops every exception. -/
  | closeEnds (ends : CloseEnd)

namespace ClosingSession

def start : ClosingSession :=
  { session := Session.start, phase := .notCalled, writerClosed := false,
    closedBy := none }

/-- `recv` answers a Close frame in this step. -/
def answersClose (s : Session) : SessionEvent → Bool
  | .wsFrame opcode _ _ =>
      decide (s.down = .receiving) && !s.downCancelled &&
        decide (opcode = opClose)
  | _ => false

def step (frames : FrameModule) (s : ClosingSession) :
    ClosingEvent → ClosingSession
  | .session .closeWebSocket =>
      if s.session.main = .awaitingTasks ∧ s.session.up = .finished ∧
          s.session.down = .finished then
        { s with
          session := s.session.step frames .closeWebSocket
          phase := if s.session.ws.closed then .ended else .draining }
      else s
  | .session .sessionEnds =>
      if s.phase = .ended then
        { s with session := s.session.step frames .sessionEnds }
      else s
  | .session event =>
      { s with
        session := s.session.step frames event
        closedBy :=
          if answersClose s.session event then some .recv else s.closedBy }
  | .closeEnds ends =>
      if s.phase = .draining then
        match ends with
        | .drainCancelled =>
            { s with phase := .ended, closedBy := some .cancelledClose }
        | .returns | .waitCancelled =>
            { s with
              phase := .ended
              writerClosed := true
              closedBy := some .close }
      else s

end ClosingSession

/-- What a step of the two tasks changes of the session. -/
structure TaskStep (s next : Session) (answers : Bool) : Prop where
  closed : next.ws.closed = (s.ws.closed || answers)
  main : next.main = s.main
  uncreated : s.down = .notCreated → next.down = .notCreated
  finished : s.down = .finished → next.down = .finished

section TaskStep

variable {frames : FrameModule} {s next : Session} {answers : Bool}

theorem TaskStep.refl (s : Session) : TaskStep s s false :=
  ⟨(Bool.or_false _).symm, rfl, id, id⟩

/-- A step of `tcp_to_ws`. -/
theorem TaskStep.of_same (closed : next.ws.closed = s.ws.closed)
    (main : next.main = s.main) (down : next.down = s.down) :
    TaskStep s next false :=
  ⟨closed.trans (Bool.or_false _).symm, main, down.trans, down.trans⟩

theorem TaskStep.resumeUp (taskStep : TaskStep s next false) :
    TaskStep s (s.resumeUp next) false := by
  unfold Session.resumeUp
  split
  · exact TaskStep.of_same rfl rfl rfl
  · exact taskStep

theorem taskStep_afterSend {result : Except PyError RawWebSocket}
    (resume : TcpToWs)
    (same : ∀ ws, result = .ok ws → ws.closed = s.ws.closed) :
    TaskStep s (s.afterSend result resume) false := by
  cases result with
  | error error => exact TaskStep.of_same rfl rfl rfl
  | ok ws => exact TaskStep.of_same (same ws rfl) rfl rfl

theorem taskStep_sendChunk (sends : Sends) (aboveHighWater : Bool) :
    TaskStep s (s.sendChunk frames sends aboveHighWater) false := by
  cases sends with
  | nothing => exact TaskStep.of_same rfl rfl rfl
  | one part => exact taskStep_afterSend _ fun ws => Socket.closed_of_send
  | batch parts =>
      exact taskStep_afterSend _ fun ws => Socket.closed_of_sendBatch

theorem taskStep_sendTail (tail : Option PyBytes) :
    TaskStep s (s.sendTail frames tail) false := by
  cases tail with
  | none => exact TaskStep.of_same rfl rfl rfl
  | some part => exact taskStep_afterSend _ fun ws => Socket.closed_of_send

/-- A step of `ws_to_tcp` while it runs. -/
theorem taskStep_resumeDown
    (active : s.down ≠ .notCreated ∧ s.down ≠ .finished)
    (closed : s.downCancelled = false →
      next.ws.closed = (s.ws.closed || answers))
    (main : next.main = s.main) :
    TaskStep s (s.resumeDown next) (!s.downCancelled && answers) := by
  unfold Session.resumeDown
  cases cancelled : s.downCancelled with
  | true =>
      rw [if_pos rfl, Bool.not_true, Bool.false_and]
      exact ⟨(Bool.or_false _).symm, rfl,
        fun uncreated => absurd uncreated active.1, fun _ => rfl⟩
  | false =>
      rw [if_neg Bool.false_ne_true, Bool.not_false, Bool.true_and]
      exact ⟨closed cancelled, main,
        fun uncreated => absurd uncreated active.1,
        fun finished => absurd finished active.2⟩

theorem receiveFrame_closed (opcode : Nat) (payload : Bytes)
    (aboveHighWater : Bool) :
    (s.receiveFrame frames opcode payload aboveHighWater).ws.closed =
        (s.ws.closed || decide (opcode = opClose)) ∧
      (s.receiveFrame frames opcode payload aboveHighWater).main = s.main := by
  have closed := @Socket.closed_handleFrame frames s.ws opcode payload
  unfold Session.receiveFrame
  generalize s.ws.handleFrame frames opcode payload = handled at closed
  obtain ⟨turn, ws⟩ := handled
  cases turn with
  | closed => exact ⟨closed, rfl⟩
  | pong => exact ⟨closed, rfl⟩
  | message payload =>
      cases aboveHighWater with
      | false => exact ⟨closed, rfl⟩
      | true => exact ⟨closed, rfl⟩
  | ignored => exact ⟨closed, rfl⟩

theorem afterDrain_same (succeeds : Bool) :
    (s.afterDrain succeeds).ws = s.ws ∧
      (s.afterDrain succeeds).main = s.main := by
  unfold Session.afterDrain
  split
  · exact ⟨rfl, rfl⟩
  · exact ⟨rfl, rfl⟩
  · split
    · exact ⟨rfl, rfl⟩
    · exact ⟨rfl, rfl⟩
  all_goals exact ⟨rfl, rfl⟩

/-- The events of the two tasks. -/
def SessionEvent.OfTasks : SessionEvent → Prop
  | .begin _ | .mainResumes _ | .closeWebSocket | .sessionEnds => False
  | _ => True

theorem taskStep {event : SessionEvent} (ofTasks : event.OfTasks) :
    TaskStep s (s.step frames event)
      (ClosingSession.answersClose s event) := by
  cases event with
  | begin relayInit => exact ofTasks.elim
  | mainResumes cancelled => exact ofTasks.elim
  | closeWebSocket => exact ofTasks.elim
  | sessionEnds => exact ofTasks.elim
  | upStarts =>
      simp only [Session.step]
      split
      · exact TaskStep.resumeUp (TaskStep.of_same rfl rfl rfl)
      · exact TaskStep.refl s
  | clientRead sends aboveHighWater =>
      simp only [Session.step]
      split
      · exact (taskStep_sendChunk sends aboveHighWater).resumeUp
      · exact TaskStep.refl s
  | clientEnds tail =>
      simp only [Session.step]
      split
      · exact (taskStep_sendTail tail).resumeUp
      · exact TaskStep.refl s
  | upDrained =>
      simp only [Session.step]
      split
      · exact TaskStep.resumeUp (TaskStep.of_same rfl rfl rfl)
      · split
        · exact TaskStep.of_same rfl rfl rfl
        · exact TaskStep.refl s
  | upFails =>
      simp only [Session.step]
      split
      · exact TaskStep.refl s
      · exact TaskStep.of_same rfl rfl rfl
  | downStarts =>
      simp only [Session.step]
      split
      · rename_i ready
        have resumed := @taskStep_resumeDown s s.enterRecv false
          (by simp [ready])
          (fun _ => (Bool.or_false _).symm) rfl
        rw [Bool.and_false] at resumed
        exact resumed
      · exact TaskStep.refl s
  | wsFrame opcode payload aboveHighWater =>
      simp only [Session.step, ClosingSession.answersClose]
      by_cases receiving : s.down = .receiving
      · obtain ⟨closed, main⟩ := @receiveFrame_closed frames s opcode payload
          aboveHighWater
        rw [if_pos receiving, decide_eq_true receiving, Bool.true_and]
        apply taskStep_resumeDown _ (fun _ => closed) main
        simp [receiving]
      · rw [if_neg receiving, decide_eq_false receiving, Bool.false_and,
          Bool.false_and]
        exact TaskStep.refl s
  | downDrained succeeds =>
      simp only [Session.step]
      split
      · rename_i draining
        obtain ⟨ws, main⟩ := @afterDrain_same s succeeds
        have resumed := @taskStep_resumeDown s (s.afterDrain succeeds) false
          (by rcases draining with pong | close | data <;> simp [*])
          (fun _ => (congrArg RawWebSocket.closed ws).trans
            (Bool.or_false _).symm) main
        rw [Bool.and_false] at resumed
        exact resumed
      · exact TaskStep.refl s
  | downFails =>
      simp only [Session.step]
      split
      · exact TaskStep.refl s
      · rename_i created
        exact ⟨(Bool.or_false _).symm, rfl,
          fun uncreated => absurd uncreated created, fun _ => rfl⟩
  | cancelUp => exact TaskStep.of_same rfl rfl rfl
  | cancelDown => exact TaskStep.of_same rfl rfl rfl

end TaskStep

namespace ClosingSession

/-- What holds at every suspension point of a bridge. -/
structure Kept (s : ClosingSession) : Prop where
  wellKept : WellKept s.session
  /-- The flag is also set while `close` drains. -/
  flag : s.session.ws.closed = true ↔
    s.closedBy ≠ none ∨ s.phase = .draining
  shut : s.writerClosed = true ↔ s.closedBy = some .close
  connected : s.session.main = .connected →
    s.session.ws.closed = false ∧ s.session.down = .notCreated
  uncalled : s.phase = .notCalled →
    s.session.main ≠ .closing ∧ s.session.main ≠ .finished
  called : s.phase ≠ .notCalled →
    (s.session.main = .closing ∨ s.session.main = .finished) ∧
      s.session.down = .finished
  draining : s.phase = .draining → s.closedBy = none ∧ s.session.main = .closing
  ended : s.phase = .ended → s.closedBy ≠ none

section Kept

variable {frames : FrameModule} {s : ClosingSession}

theorem start_kept : start.Kept := by
  constructor
  · exact WellKept.start
  all_goals simp [start, Session.start]

/-- An event of the two tasks. -/
theorem Kept.task {event : SessionEvent} (kept : s.Kept)
    (ofTasks : event.OfTasks) :
    Kept { s with
      session := s.session.step frames event
      closedBy :=
        if answersClose s.session event then some .recv else s.closedBy } := by
  obtain ⟨closed, main, uncreated, finished⟩ :=
    @taskStep frames s.session event ofTasks
  have wellKept := @WellKept.step frames s.session kept.wellKept event
  cases answers : answersClose s.session event with
  | false =>
      rw [answers, Bool.or_false] at closed
      rw [if_neg Bool.false_ne_true]
      refine ⟨wellKept, ?_, kept.shut, ?_, ?_, ?_, ?_, kept.ended⟩
      · rw [closed]
        exact kept.flag
      · rw [main, closed]
        intro connected
        exact ⟨(kept.connected connected).1,
          uncreated (kept.connected connected).2⟩
      · rw [main]
        exact kept.uncalled
      · intro called
        rw [main]
        exact ⟨(kept.called called).1, finished (kept.called called).2⟩
      · rw [main]
        exact kept.draining
  | true =>
      rw [answers, Bool.or_true] at closed
      rw [if_pos rfl]
      have running : s.session.down = .receiving := by
        cases event <;> simp_all [answersClose]
      have before : s.session.ws.closed = false :=
        kept.wellKept.opened_of_down (by simp [running]) (by simp [running])
      have unset : s.closedBy = none ∧ s.phase ≠ .draining := by
        have unflagged : ¬ (s.closedBy ≠ none ∨ s.phase = .draining) := by
          rw [← kept.flag, before]
          exact Bool.false_ne_true
        exact ⟨not_not.mp fun set => unflagged (Or.inl set),
          fun draining => unflagged (Or.inr draining)⟩
      have uncalled : s.phase = .notCalled := by
        cases phase : s.phase with
        | notCalled => rfl
        | draining => exact absurd phase unset.2
        | ended => exact absurd unset.1 (kept.ended phase)
      refine ⟨wellKept, ?_, ?_, ?_, ?_, ?_, ?_, ?_⟩
      · rw [closed]
        exact iff_of_true rfl (Or.inl (Option.some_ne_none _))
      · rw [kept.shut, unset.1]
        exact iff_of_false (by intro same; cases same) (by intro same; cases same)
      · rw [main]
        intro connected
        cases running.symm.trans (kept.connected connected).2
      · rw [main]
        exact kept.uncalled
      · exact fun called => absurd uncalled called
      · exact fun draining => absurd draining unset.2
      · exact fun _ => Option.some_ne_none _

/-- An open WebSocket sends. -/
theorem send_of_opened {ws : RawWebSocket} (opened : ws.closed = false)
    (data : PyBytes) : ∃ next, ws.send frames data = .ok next := by
  have built : frames.buildMasked opBinary data =
      .ok (frames.masked 2 data).encode := buildMasked_eq frames 2 data
  refine ⟨ws.write (frames.masked 2 data).encode, ?_⟩
  rw [RawWebSocket.send, opened, if_neg Bool.false_ne_true, built]
  rfl

theorem Kept.begin (kept : s.Kept) (relayInit : PyBytes) :
    (s.step frames (.session (.begin relayInit))).Kept := by
  have wellKept := @WellKept.step frames s.session kept.wellKept
    (.begin relayInit)
  simp only [step, answersClose, Session.step] at wellKept ⊢
  by_cases connected : s.session.main = .connected
  · obtain ⟨opened, uncreated⟩ := kept.connected connected
    obtain ⟨ws, sent⟩ := @send_of_opened frames s.session.ws opened relayInit
    have same := Socket.closed_of_send sent
    have uncalled : s.phase = .notCalled := by
      by_contra called
      have late := (kept.called called).1
      rw [connected] at late
      simp at late
    simp only [if_pos connected, sent] at wellKept ⊢
    refine ⟨wellKept, ?_, kept.shut, ?_, ?_, ?_, ?_, kept.ended⟩
    · simp only [same]
      exact kept.flag
    · intro again
      cases again
    · intro _
      exact ⟨by simp, by simp⟩
    · exact fun called => absurd uncalled called
    · intro draining
      cases uncalled.symm.trans draining
  · simp only [if_neg connected]
    exact kept

theorem Kept.mainResumes (kept : s.Kept) (cancelled : Bool) :
    (s.step frames (.session (.mainResumes cancelled))).Kept := by
  have wellKept := @WellKept.step frames s.session kept.wellKept
    (.mainResumes cancelled)
  simp only [step, answersClose, Session.step] at wellKept ⊢
  by_cases resumes : s.session.main = .waiting ∧
      (cancelled = true ∨ s.session.up = .finished ∨
        s.session.down = .finished)
  · have uncalled : s.phase = .notCalled := by
      by_contra called
      have late := (kept.called called).1
      rw [resumes.1] at late
      simp at late
    simp only [if_pos resumes] at wellKept ⊢
    refine ⟨wellKept, kept.flag, kept.shut, ?_, ?_, ?_, ?_, kept.ended⟩
    · intro again
      cases again
    · intro _
      exact ⟨by simp, by simp⟩
    · exact fun called => absurd uncalled called
    · intro draining
      cases uncalled.symm.trans draining
  · simp only [if_neg resumes]
    exact kept

theorem Kept.closeWebSocket (kept : s.Kept) :
    (s.step frames (.session .closeWebSocket)).Kept := by
  have wellKept := @WellKept.step frames s.session kept.wellKept
    .closeWebSocket
  simp only [step]
  by_cases awaited : s.session.main = .awaitingTasks ∧
      s.session.up = .finished ∧ s.session.down = .finished
  · have uncalled : s.phase = .notCalled := by
      by_contra called
      have late := (kept.called called).1
      rw [awaited.1] at late
      simp at late
    have closed := @Socket.closed_close frames s.session.ws
    simp only [if_pos awaited, Session.step] at wellKept ⊢
    by_cases flagged : s.session.ws.closed = true
    · have set : s.closedBy ≠ none := by
        rcases kept.flag.mp flagged with set | draining
        · exact set
        · cases uncalled.symm.trans draining
      simp only [if_pos flagged]
      refine ⟨wellKept, ?_, kept.shut, ?_, ?_, ?_, ?_, ?_⟩
      · exact iff_of_true closed (Or.inl set)
      · intro again
        cases again
      · intro again
        cases again
      · intro _
        exact ⟨Or.inl rfl, awaited.2.2⟩
      · intro draining
        cases draining
      · exact fun _ => set
    · have unset : s.closedBy = none := by
        by_contra set
        exact flagged (kept.flag.mpr (Or.inl set))
      simp only [if_neg flagged]
      refine ⟨wellKept, ?_, kept.shut, ?_, ?_, ?_, ?_, ?_⟩
      · exact iff_of_true closed (Or.inr rfl)
      · intro again
        cases again
      · intro again
        cases again
      · intro _
        exact ⟨Or.inl rfl, awaited.2.2⟩
      · exact fun _ => ⟨unset, rfl⟩
      · intro ended
        cases ended
  · simp only [if_neg awaited]
    exact kept

theorem Kept.sessionEnds (kept : s.Kept) :
    (s.step frames (.session .sessionEnds)).Kept := by
  have wellKept := @WellKept.step frames s.session kept.wellKept .sessionEnds
  simp only [step]
  by_cases ended : s.phase = .ended
  · obtain ⟨-, finished⟩ := kept.called (by rw [ended]; simp)
    simp only [if_pos ended, Session.step] at wellKept ⊢
    by_cases closing : s.session.main = .closing
    · simp only [if_pos closing] at wellKept ⊢
      refine ⟨wellKept, kept.flag, kept.shut, ?_, ?_, ?_, ?_, kept.ended⟩
      · intro again
        cases again
      · intro uncalled
        cases ended.symm.trans uncalled
      · exact fun _ => ⟨Or.inr rfl, finished⟩
      · intro draining
        cases ended.symm.trans draining
    · simp only [if_neg closing]
      exact kept
  · simp only [if_neg ended]
    exact kept

theorem Kept.closeEnds (kept : s.Kept) (ends : CloseEnd) :
    (s.step frames (.closeEnds ends)).Kept := by
  simp only [step]
  by_cases draining : s.phase = .draining
  · have closed := kept.flag.mpr (Or.inr draining)
    obtain ⟨unset, closing⟩ := kept.draining draining
    have called := kept.called (by rw [draining]; simp)
    have opened : ¬ s.writerClosed = true := by
      rw [kept.shut, unset]
      simp
    have ended (closer : Closer) (writerClosed : Bool)
        (shut : writerClosed = true ↔ closer = .close) :
        Kept { s with
          phase := .ended
          writerClosed
          closedBy := some closer } := by
      refine ⟨kept.wellKept, ?_, ?_, kept.connected, ?_, fun _ => called, ?_,
        fun _ => Option.some_ne_none _⟩
      · exact iff_of_true closed (Or.inl (Option.some_ne_none _))
      · rw [Option.some.injEq]
        exact shut
      · intro uncalled
        cases uncalled
      · intro again
        cases again
    simp only [if_pos draining]
    cases ends with
    | returns => exact ended .close true (iff_of_true rfl rfl)
    | drainCancelled =>
        exact ended .cancelledClose s.writerClosed
          (iff_of_false opened (by intro same; cases same))
    | waitCancelled => exact ended .close true (iff_of_true rfl rfl)
  · simp only [if_neg draining]
    exact kept

theorem Kept.step (kept : s.Kept) (event : ClosingEvent) :
    (s.step frames event).Kept := by
  cases event with
  | closeEnds ends => exact kept.closeEnds ends
  | session event =>
      cases event with
      | begin relayInit => exact kept.begin relayInit
      | mainResumes cancelled => exact kept.mainResumes cancelled
      | closeWebSocket => exact kept.closeWebSocket
      | sessionEnds => exact kept.sessionEnds
      | upStarts => exact kept.task trivial
      | clientRead sends aboveHighWater => exact kept.task trivial
      | clientEnds tail => exact kept.task trivial
      | upDrained => exact kept.task trivial
      | upFails => exact kept.task trivial
      | downStarts => exact kept.task trivial
      | wsFrame opcode payload aboveHighWater => exact kept.task trivial
      | downDrained succeeds => exact kept.task trivial
      | downFails => exact kept.task trivial
      | cancelUp => exact kept.task trivial
      | cancelDown => exact kept.task trivial

/-- A bridge which has finished has closed the socket unless someone else has
set the flag. -/
theorem Kept.writerClosed_iff (kept : s.Kept)
    (finished : s.session.main = .finished) :
    s.writerClosed = true ↔
      s.closedBy ≠ some .recv ∧ s.closedBy ≠ some .cancelledClose := by
  have ended : s.phase = .ended := by
    cases phase : s.phase with
    | notCalled => exact absurd finished (kept.uncalled phase).2
    | draining => cases finished.symm.trans (kept.draining phase).2
    | ended => rfl
  rw [kept.shut]
  cases setter : s.closedBy with
  | none => exact absurd setter (kept.ended ended)
  | some closer => cases closer <;> simp

end Kept

end ClosingSession

/-- `close` closes the writer in exactly those calls which find the flag unset,
or set by a `close` which has reached the writer.  A bridge which has finished
leaves the socket open exactly if `recv` has answered a Close frame, or if the
drain of its `close` was cancelled. -/
theorem close_closes_iff (frames : FrameModule) :
    (∀ events,
      AllSteps (Socket.step frames) (Socket.ClosesWriter frames) Socket.start
          events ↔
        AllSteps (Socket.step frames) Socket.StillToClose Socket.start
          events) ∧
    ∀ events,
      let s := run (ClosingSession.step frames) ClosingSession.start events
      s.session.main = .finished →
        (s.writerClosed = true ↔
          s.closedBy ≠ some .recv ∧ s.closedBy ≠ some .cancelledClose) := by
  constructor
  · intro events
    apply allSteps_congr Socket.Kept (fun s event kept => kept.step event)
      (fun s event kept => kept.closesWriter_iff event) Socket.start_kept
  · intro events s finished
    have kept : s.Kept := run_invariant (fun s event kept => kept.step event)
      events ClosingSession.start_kept
    exact kept.writerClosed_iff finished

/-- The server closes first. -/
def serverCloses : List SocketEvent :=
  [.recv, .frame opClose ⟨[], by decide⟩, .close .returns]

/-- A bridge whose server closes first. -/
def serverClosesBridge : List ClosingEvent :=
  [.session (.begin ⟨[], by decide⟩), .session .upStarts, .session .downStarts,
    .session (.wsFrame opClose ⟨[], by decide⟩ false),
    .session (.downDrained true), .session (.mainResumes false),
    .session (.clientEnds none), .session .closeWebSocket,
    .session .sessionEnds]

/-- `close` returns, and the bridge finishes, with an open writer. -/
theorem serverCloses_leaves_open :
    ∃ frames : FrameModule,
      ¬ AllSteps (Socket.step frames) (Socket.ClosesWriter frames) Socket.start
          serverCloses ∧
        let s := run (ClosingSession.step frames) ClosingSession.start
          serverClosesBridge
        s.session.main = .finished ∧ s.writerClosed = false := by
  refine ⟨⟨none, [0, 0, 0, 0], rfl⟩, ?_, by decide +kernel, by decide +kernel⟩
  intro closes
  obtain ⟨-, -, returned, -⟩ := closes
  cases returned (Or.inr rfl)

end TgWsProxy.Python.Wire
