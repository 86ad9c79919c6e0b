import TgWsProxy.Python.Tunnel

/-!
# The Python TCP fallback

`_tcp_fallback` and `_bridge_tcp_reencrypt` of `bridge.py`: two tasks `forward`,
one for each direction, which share nothing, and the call which waits for one of
them, cancels both and closes both writers.  A step is the resumption of one of
the three.
-/

namespace TgWsProxy.Python

open Lib

inductive ForwardPhase where
  | reading
  | draining
  | finished
deriving DecidableEq, Repr

/-- A task `forward(src, dst_w, is_up)`.  The direction selects its ciphers. -/
structure Forward where
  phase : ForwardPhase
  /-- `cancel()` was called. -/
  cancelled : Bool
  src : ClientReader
  writer : ClientWriter
  /-- `clt_dec` or `tg_dec`. -/
  dec : AesCtr
  /-- `tg_enc` or `clt_enc`. -/
  enc : AesCtr
  /-- What the connection of `dst_w` was given. -/
  given : Bytes

inductive ForwardEvent where
  /-- `src.read` returns; then `dst_w.write` may raise, or `dst_w` may be above
  the high-water mark. -/
  | readReturns (writeRaises aboveHighWater : Bool)
  | drainReturns
  /-- `src.read` or `dst_w.drain` raises. -/
  | raises
  /-- The task is resumed with `CancelledError`. -/
  | stops
deriving DecidableEq, Repr

namespace Forward

/-- `forward` with what was read. -/
def forwardData (crypto : Primitives) (t : Forward) (data : Bytes)
    (writeRaises aboveHighWater : Bool) : Forward :=
  let (plain, dec) := t.dec.update crypto data
  let (out, enc) := t.enc.update crypto plain
  let t := { t with dec, enc }
  if writeRaises then { t with phase := .finished }
  else
    { t with
      given := t.given ++ t.writer.write out
      phase := if aboveHighWater then .draining else .reading }

/-- `forward` behind `src.read`. -/
def readReturns (crypto : Primitives) (t : Forward)
    (writeRaises aboveHighWater : Bool) : Forward :=
  match t.src.read 65536 with
  | .error _ => { t with phase := .finished }
  | .ok (data, src) =>
      let t := { t with src }
      if data = [] then { t with phase := .finished }
      else t.forwardData crypto data writeRaises aboveHighWater

def step (crypto : Primitives) (t : Forward) : ForwardEvent → Forward
  | .readReturns writeRaises aboveHighWater =>
      if t.phase = .reading ∧ t.cancelled = false then
        t.readReturns crypto writeRaises aboveHighWater
      else t
  | .drainReturns =>
      if t.phase = .draining ∧ t.cancelled = false then
        { t with phase := .reading }
      else t
  | .raises => { t with phase := .finished }
  | .stops => if t.cancelled then { t with phase := .finished } else t

def cancel (t : Forward) : Forward := { t with cancelled := true }

end Forward

/-- Where `_bridge_tcp_reencrypt` waits. -/
inductive TcpMain where
  | waiting
  | awaitingUp
  | awaitingDown
  | closingClient
  | closingRemote
  | ended
deriving DecidableEq, Repr

structure TcpBridge where
  up : Forward
  down : Forward
  main : TcpMain
  writerClosed : Bool
  remoteClosed : Bool

inductive TcpBridgeEvent where
  | up (event : ForwardEvent)
  | down (event : ForwardEvent)
  /-- What the call waits for has come. -/
  | wakes
  /-- The call is resumed with `CancelledError`.  While it waits for a task,
  `cancel()` is passed on to this task. -/
  | cancelled
deriving DecidableEq, Repr

namespace TcpBridge

/-- The `finally` clause up to its first `await`. -/
def cancelTasks (s : TcpBridge) : TcpBridge :=
  { s with up := s.up.cancel, down := s.down.cancel, main := .awaitingUp }

/-- Past an `await`.  The `finally` clause drops every exception. -/
def goOn (s : TcpBridge) : TcpBridge :=
  match s.main with
  | .waiting => s.cancelTasks
  | .awaitingUp => { s with main := .awaitingDown }
  | .awaitingDown => { s with main := .closingClient, writerClosed := true }
  | .closingClient => { s with main := .closingRemote, remoteClosed := true }
  | .closingRemote => { s with main := .ended }
  | .ended => s

/-- What the call waits for.  `wait_closed` may return at any time. -/
def Awakes (s : TcpBridge) : Prop :=
  match s.main with
  | .waiting => s.up.phase = .finished ∨ s.down.phase = .finished
  | .awaitingUp => s.up.phase = .finished
  | .awaitingDown => s.down.phase = .finished
  | .closingClient | .closingRemote => True
  | .ended => False

instance (s : TcpBridge) : Decidable s.Awakes := by
  unfold Awakes
  split <;> infer_instance

def step (crypto : Primitives) (s : TcpBridge) : TcpBridgeEvent → TcpBridge
  | .up event => { s with up := s.up.step crypto event }
  | .down event => { s with down := s.down.step crypto event }
  | .wakes => if s.Awakes then s.goOn else s
  | .cancelled => if s.main = .waiting ∨ s.Awakes then s.goOn else s

/-- The bridge which `_tcp_fallback` starts for an accepted request, when
`relay_init` has been written. -/
def start (crypto : Primitives) (request : ClientRequest) (secret relayInit : Bytes)
    (reader remote : ClientReader) (writer : ClientWriter) :
    Except PyError TcpBridge := do
  let ctx ← buildCryptoCtx crypto request.decPrekeyIv secret relayInit
  return {
    up := ⟨.reading, false, reader, .plain, ctx.cltDec, ctx.tgEnc, relayInit⟩
    down := ⟨.reading, false, remote, writer, ctx.tgDec, ctx.cltEnc, []⟩
    main := .waiting, writerClosed := false, remoteClosed := false }

end TcpBridge

/-- What `src.read` returns to the task which the event resumes. -/
def Forward.returned (t : Forward) : ForwardEvent → Bytes
  | .readReturns _ _ =>
      if t.phase = .reading ∧ t.cancelled = false then t.src.returned 65536
      else []
  | .drainReturns | .raises | .stops => []

/-- The call together with what the reads of its tasks have returned, recorded
where they return. -/
structure RecordedTcpBridge extends TcpBridge where
  upRead : Bytes
  downRead : Bytes

namespace RecordedTcpBridge

def start (bridge : TcpBridge) : RecordedTcpBridge := ⟨bridge, [], []⟩

def step (crypto : Primitives) (s : RecordedTcpBridge) (event : TcpBridgeEvent) :
    RecordedTcpBridge :=
  { toTcpBridge := s.toTcpBridge.step crypto event
    upRead :=
      match event with
      | .up event => s.upRead ++ s.up.returned event
      | _ => s.upRead
    downRead :=
      match event with
      | .down event => s.downRead ++ s.down.returned event
      | _ => s.downRead }

end RecordedTcpBridge

/-- The task goes on: nothing raises but `src.read` at the end. -/
def ForwardEvent.GoesOn : ForwardEvent → Prop
  | .readReturns writeRaises _ => writeRaises = false
  | .drainReturns | .stops => True
  | .raises => False

/-- Nothing ends the call but the end of a task. -/
def TcpBridgeEvent.GoesOn : TcpBridgeEvent → Prop
  | .up event | .down event => event.GoesOn
  | .wakes => True
  | .cancelled => False

namespace Forward

/-- The task reads, or does so when its `drain` returns. -/
structure Forwards (crypto : Primitives) (t : Forward) : Prop where
  running : t.cancelled = false
  reads : (t.step crypto .drainReturns).phase = .reading

theorem forwards_iff {crypto : Primitives} {t : Forward} :
    t.Forwards crypto ↔ t.cancelled = false ∧ t.phase ≠ .finished := by
  constructor
  · rintro ⟨running, reads⟩
    refine ⟨running, fun finished => ?_⟩
    simp [Forward.step, finished] at reads
  · rintro ⟨running, active⟩
    refine ⟨running, ?_⟩
    cases phase : t.phase with
    | reading => simp [Forward.step, phase]
    | draining => simp [Forward.step, phase, running]
    | finished => exact absurd phase active

section Keeps

variable {crypto : Primitives} {dec enc : AesCtr} {front : Bytes}
  {input : ClientInput} {t : Forward} {read : Bytes}

/-- What the writer was given behind `front` is the beginning of what was read,
re-encrypted, and all of it while the task goes on. -/
structure Keeps (crypto : Primitives) (dec enc : AesCtr) (front : Bytes)
    (input : ClientInput) (t : Forward) (read : Bytes) (writes : List Bytes) :
    Prop where
  given : t.given = front ++ (writes.map t.writer.write).flatten
  forwarded : writes.flatten <+: enc.apply crypto (dec.apply crypto read)
  readPart : read <+: input.clientBytes
  whole : t.phase ≠ .finished →
    writes.flatten = enc.apply crypto (dec.apply crypto read)
  ciphers : t.phase ≠ .finished →
    t.dec = dec.advance read.length ∧ t.enc = enc.advance read.length
  reads : t.phase ≠ .finished → ∃ left : ClientInput, ∃ arrived,
    t.src = left.reader arrived ∧
      read ++ left.clientBytes = input.clientBytes

variable {writes : List Bytes}

/-- The task ends, and has taken nothing more. -/
theorem Keeps.finish (kept : Keeps crypto dec enc front input t read writes)
    (src : ClientReader) :
    Keeps crypto dec enc front input { t with src, phase := .finished } read
      writes :=
  ⟨kept.given, kept.forwarded, kept.readPart, fun goesOn => absurd rfl goesOn,
    fun goesOn => absurd rfl goesOn, fun goesOn => absurd rfl goesOn⟩

theorem Keeps.forwardData (kept : Keeps crypto dec enc front input t read writes)
    (reading : t.phase = .reading) {data : Bytes} {src : ClientReader}
    (reads : ∃ left : ClientInput, ∃ arrived, src = left.reader arrived ∧
      read ++ data ++ left.clientBytes = input.clientBytes)
    (writeRaises aboveHighWater : Bool) :
    ∃ writes, Keeps crypto dec enc front input
      (forwardData crypto { t with src } data writeRaises aboveHighWater)
      (read ++ data) writes := by
  have goesOn : t.phase ≠ .finished := by
    rw [reading]
    nofun
  obtain ⟨isDec, isEnc⟩ := kept.ciphers goesOn
  have whole := kept.whole goesOn
  have extended : enc.apply crypto (dec.apply crypto (read ++ data)) =
      writes.flatten ++ t.enc.apply crypto (t.dec.apply crypto data) := by
    rw [AesCtr.apply_append, AesCtr.apply_append, AesCtr.length_apply, whole,
      isDec, isEnc]
  have readPart : read ++ data <+: input.clientBytes := by
    obtain ⟨left, arrived, -, split⟩ := reads
    exact ⟨left.clientBytes, split⟩
  simp only [Forward.forwardData, AesCtr.update_eq, AesCtr.length_apply]
  cases writeRaises with
  | true =>
      refine ⟨writes, kept.given, ?_, readPart, fun goesOn => absurd rfl goesOn,
        fun goesOn => absurd rfl goesOn, fun goesOn => absurd rfl goesOn⟩
      simp only [extended]
      exact List.prefix_append _ _
  | false =>
      refine ⟨writes ++ [t.enc.apply crypto (t.dec.apply crypto data)], ?_, ?_,
        readPart, fun _ => ?_, fun _ => ⟨?_, ?_⟩, fun _ => reads⟩
      · have given := kept.given
        simp [given]
      · simp [extended]
      · simp [extended]
      · exact (congrArg (AesCtr.advance · data.length) isDec).trans
          (AesCtr.advance_append _ _ _)
      · exact (congrArg (AesCtr.advance · data.length) isEnc).trans
          (AesCtr.advance_append _ _ _)

theorem Keeps.readReturns (kept : Keeps crypto dec enc front input t read writes)
    (reading : t.phase = .reading) (writeRaises aboveHighWater : Bool) :
    ∃ writes, Keeps crypto dec enc front input
      (t.readReturns crypto writeRaises aboveHighWater)
      (read ++ t.src.returned 65536) writes := by
  have goesOn : t.phase ≠ .finished := by
    rw [reading]
    nofun
  obtain ⟨left, arrived, isReader, split⟩ := kept.reads goesOn
  unfold Forward.readReturns ClientReader.returned
  by_cases none : left.clientBytes = []
  · obtain ⟨empty, raises⟩ := left.read_none arrived none
    by_cases ends : left.EndsEmpty
    · obtain ⟨later, reads⟩ := empty ends
      simp only [isReader, reads, if_true, List.append_nil]
      exact ⟨writes, kept.finish later⟩
    · obtain ⟨error, reads⟩ := raises ends
      simp only [isReader, reads, List.append_nil]
      rw [← isReader]
      exact ⟨writes, kept.finish t.src⟩
  · obtain ⟨piece, later, next, reads, whole, nonempty, -⟩ :=
      left.read_some arrived none
    simp only [isReader, reads, if_neg nonempty]
    apply kept.forwardData reading
    refine ⟨later, next, rfl, ?_⟩
    rw [List.append_assoc, ← whole, split]

/-- A resumption of the task keeps what it has done in order. -/
theorem Keeps.step (kept : Keeps crypto dec enc front input t read writes)
    (event : ForwardEvent) :
    ∃ writes, Keeps crypto dec enc front input (t.step crypto event)
      (read ++ t.returned event) writes := by
  cases event with
  | readReturns writeRaises aboveHighWater =>
      by_cases resumed : t.phase = .reading ∧ t.cancelled = false
      · simp only [Forward.step, Forward.returned, if_pos resumed]
        exact kept.readReturns resumed.1 writeRaises aboveHighWater
      · simp only [Forward.step, Forward.returned, if_neg resumed,
          List.append_nil]
        exact ⟨writes, kept⟩
  | drainReturns =>
      rw [Forward.returned, List.append_nil]
      by_cases resumed : t.phase = .draining ∧ t.cancelled = false
      · have goesOn : t.phase ≠ .finished := by
          rw [resumed.1]
          nofun
        simp only [Forward.step, if_pos resumed]
        exact ⟨writes, kept.given, kept.forwarded, kept.readPart,
          fun _ => kept.whole goesOn, fun _ => kept.ciphers goesOn,
          fun _ => kept.reads goesOn⟩
      · simp only [Forward.step, if_neg resumed]
        exact ⟨writes, kept⟩
  | raises =>
      rw [Forward.returned, List.append_nil]
      exact ⟨writes, kept.finish t.src⟩
  | stops =>
      simp only [Forward.step, Forward.returned, List.append_nil]
      split
      · exact ⟨writes, kept.finish t.src⟩
      · exact ⟨writes, kept⟩

theorem Keeps.cancel (kept : Keeps crypto dec enc front input t read writes) :
    Keeps crypto dec enc front input t.cancel read writes :=
  ⟨kept.given, kept.forwarded, kept.readPart, kept.whole, kept.ciphers,
    kept.reads⟩

theorem step_writer (crypto : Primitives) (t : Forward) (event : ForwardEvent) :
    (t.step crypto event).writer = t.writer := by
  cases event with
  | readReturns writeRaises aboveHighWater =>
      simp only [Forward.step]
      split
      · simp only [Forward.readReturns]
        split
        · rfl
        · split
          · rfl
          · cases writeRaises <;> rfl
      · rfl
  | drainReturns =>
      simp only [Forward.step]
      split <;> rfl
  | raises => rfl
  | stops =>
      simp only [Forward.step]
      split <;> rfl

/-- A step at whose end not all was read leaves the task forwarding. -/
theorem Keeps.goesOn (kept : Keeps crypto dec enc front input t read writes)
    (forwards : t.Forwards crypto) {event : ForwardEvent}
    (goesOn : event.GoesOn) :
    read ++ t.returned event = input.clientBytes ∨
      (t.step crypto event).Forwards crypto := by
  obtain ⟨running, active⟩ := forwards_iff.mp forwards
  cases event with
  | readReturns writeRaises aboveHighWater =>
      obtain rfl : writeRaises = false := goesOn
      by_cases resumed : t.phase = .reading ∧ t.cancelled = false
      · obtain ⟨left, arrived, isReader, split⟩ := kept.reads active
        simp only [Forward.step, Forward.returned, if_pos resumed,
          Forward.readReturns, ClientReader.returned]
        by_cases none : left.clientBytes = []
        · obtain ⟨empty, raises⟩ := left.read_none arrived none
          rw [none, List.append_nil] at split
          left
          by_cases ends : left.EndsEmpty
          · obtain ⟨later, reads⟩ := empty ends
            simpa only [isReader, reads, List.append_nil] using split
          · obtain ⟨error, reads⟩ := raises ends
            simpa only [isReader, reads, List.append_nil] using split
        · obtain ⟨piece, later, next, reads, -, nonempty, -⟩ :=
            left.read_some arrived none
          right
          simp only [isReader, reads, if_neg nonempty]
          refine forwards_iff.mpr ⟨running, ?_⟩
          cases aboveHighWater <;> nofun
      · simp only [Forward.step, if_neg resumed]
        exact .inr forwards
  | drainReturns =>
      simp only [Forward.step]
      split
      · exact .inr (forwards_iff.mpr ⟨running, nofun⟩)
      · exact .inr forwards
  | raises => exact goesOn.elim
  | stops =>
      simp only [Forward.step, running, Bool.false_eq_true, if_false]
      exact .inr forwards

/-- A cancelled task writes nothing more. -/
theorem step_cancelled {t : Forward} (cancelled : t.cancelled = true)
    (event : ForwardEvent) :
    (t.step crypto event).given = t.given ∧
      (t.step crypto event).cancelled = true := by
  cases event with
  | readReturns writeRaises aboveHighWater =>
      simp [Forward.step, cancelled]
  | drainReturns => simp [Forward.step, cancelled]
  | raises => exact ⟨rfl, cancelled⟩
  | stops => simp [Forward.step, cancelled]

end Keeps

/-- A task which has ended does nothing more. -/
theorem step_finished {crypto : Primitives} {t : Forward}
    (finished : t.phase = .finished) (event : ForwardEvent) :
    (t.step crypto event).phase = .finished := by
  cases event with
  | readReturns writeRaises aboveHighWater =>
      simp [Forward.step, finished]
  | drainReturns => simp [Forward.step, finished]
  | raises => rfl
  | stops =>
      simp only [Forward.step]
      split
      · rfl
      · exact finished

end Forward

namespace TcpBridge

/-- The call waits, and both tasks forward. -/
structure Forwards (crypto : Primitives) (s : TcpBridge) : Prop where
  waiting : s.main = .waiting
  up : s.up.Forwards crypto
  down : s.down.Forwards crypto

section Runs

variable {crypto : Primitives} {session : CryptoCtx} {relayInit : Bytes}
  {input : ClientInput} {answer : Bytes} {writer : ClientWriter}
  {s : TcpBridge} {upRead downRead : Bytes}

/-- Each direction keeps its own order, whatever the other one and the call
do. -/
structure Kept (crypto : Primitives) (session : CryptoCtx) (relayInit : Bytes)
    (input : ClientInput) (answer : Bytes) (writer : ClientWriter)
    (s : TcpBridge) (upRead downRead : Bytes) : Prop where
  remoteWriter : s.up.writer = .plain
  clientWriter : s.down.writer = writer
  up : ∃ writes, s.up.Keeps crypto session.cltDec session.tgEnc relayInit input
    upRead writes
  down : ∃ writes, s.down.Keeps crypto session.tgDec session.cltEnc []
    (.plain answer) downRead writes

theorem Kept.goOn
    (kept : Kept crypto session relayInit input answer writer s upRead
      downRead) :
    Kept crypto session relayInit input answer writer s.goOn upRead
      downRead := by
  obtain ⟨remoteWriter, clientWriter, ⟨upWrites, up⟩, ⟨downWrites, down⟩⟩ := kept
  unfold TcpBridge.goOn
  split
  · exact ⟨remoteWriter, clientWriter, ⟨upWrites, up.cancel⟩,
      ⟨downWrites, down.cancel⟩⟩
  all_goals
    exact ⟨remoteWriter, clientWriter, ⟨upWrites, up⟩, ⟨downWrites, down⟩⟩

theorem Kept.step {s : RecordedTcpBridge}
    (kept : Kept crypto session relayInit input answer writer s.toTcpBridge
      s.upRead s.downRead) (event : TcpBridgeEvent) :
    let next := s.step crypto event
    Kept crypto session relayInit input answer writer next.toTcpBridge
      next.upRead next.downRead := by
  cases event with
  | up event =>
      obtain ⟨writes, up⟩ := kept.up
      exact ⟨(Forward.step_writer crypto s.up event).trans kept.remoteWriter,
        kept.clientWriter, up.step event, kept.down⟩
  | down event =>
      obtain ⟨writes, down⟩ := kept.down
      exact ⟨kept.remoteWriter,
        (Forward.step_writer crypto s.down event).trans kept.clientWriter,
        kept.up, down.step event⟩
  | wakes =>
      simp only [RecordedTcpBridge.step, TcpBridge.step]
      split
      · exact kept.goOn
      · exact kept
  | cancelled =>
      simp only [RecordedTcpBridge.step, TcpBridge.step]
      split
      · exact kept.goOn
      · exact kept

/-- The bridge which is started, before its first event. -/
theorem start_kept (crypto : Primitives) (writer : ClientWriter)
    {handshake secret relayInit : Bytes} {request : ClientRequest}
    (handshakeSize : handshake.length = 64)
    (accepted : tryHandshake crypto handshake secret = .ok (some request))
    (relaySize : relayInit.length = 64) (input : ClientInput)
    (arrived : Nat → Nat) (answer : Bytes) (answerArrived : Nat → Nat) :
    ∃ s, start crypto request secret relayInit (input.reader arrived)
        ((ClientInput.plain answer).reader answerArrived) writer = .ok s ∧
      Kept crypto (sessionCiphers crypto secret handshake relayInit) relayInit
        input answer writer s [] [] ∧
      s.Forwards crypto := by
  rw [tryHandshake_eq crypto secret handshakeSize, Except.ok.injEq] at accepted
  obtain ⟨-, known⟩ := requestOf_eq_some accepted
  have keys : request.decPrekeyIv = slice handshake 8 56 := by
    rw [known]
  have ciphers := @buildCryptoCtx_eq crypto handshake relayInit secret
    (by omega) (by omega)
  have begins (cipher : AesCtr) : cipher = cipher.advance 0 := rfl
  let session := sessionCiphers crypto secret handshake relayInit
  let remote := (ClientInput.plain answer).reader answerArrived
  refine ⟨⟨⟨.reading, false, input.reader arrived, .plain, session.cltDec,
      session.tgEnc, relayInit⟩,
    ⟨.reading, false, remote, writer, session.tgDec, session.cltEnc, []⟩,
    .waiting, false, false⟩, ?_, ⟨rfl, rfl, ⟨[], ?_⟩, ⟨[], ?_⟩⟩,
    ⟨rfl, ⟨rfl, rfl⟩, ⟨rfl, rfl⟩⟩⟩
  · simp only [start, keys, ciphers, bind, Except.bind, pure, Except.pure]
    rfl
  · exact ⟨(List.append_nil _).symm, List.nil_prefix, List.nil_prefix,
      fun _ => rfl, fun _ => ⟨begins _, begins _⟩,
      fun _ => ⟨input, arrived, rfl, rfl⟩⟩
  · exact ⟨rfl, List.nil_prefix, List.nil_prefix, fun _ => rfl,
      fun _ => ⟨begins _, begins _⟩,
      fun _ => ⟨.plain answer, answerArrived, rfl, rfl⟩⟩

/-- Both tasks forward, unless one of them has read all there is. -/
def GoesOn (crypto : Primitives) (input : ClientInput) (answer : Bytes)
    (s : RecordedTcpBridge) : Prop :=
  s.upRead = input.clientBytes ∨ s.downRead = answer ∨ s.Forwards crypto

theorem GoesOn.step {s : RecordedTcpBridge}
    (goesOn : GoesOn crypto input answer s)
    (kept : Kept crypto session relayInit input answer writer s.toTcpBridge
      s.upRead s.downRead) {event : TcpBridgeEvent} (quiet : event.GoesOn) :
    GoesOn crypto input answer (s.step crypto event) := by
  obtain ⟨-, -, ⟨upNext, up⟩, ⟨downNext, down⟩⟩ := kept.step event
  rcases goesOn with all | all | forwards
  · have grows : s.upRead <+: (s.step crypto event).upRead := by
      cases event with
      | up event => exact List.prefix_append _ _
      | down event | wakes | cancelled => exact List.prefix_refl _
    rw [all] at grows
    exact .inl (up.readPart.eq_of_length_le grows.length_le)
  · have grows : s.downRead <+: (s.step crypto event).downRead := by
      cases event with
      | down event => exact List.prefix_append _ _
      | up event | wakes | cancelled => exact List.prefix_refl _
    rw [all] at grows
    exact .inr (.inl (down.readPart.eq_of_length_le grows.length_le))
  · obtain ⟨waiting, upForwards, downForwards⟩ := forwards
    cases event with
    | up event =>
        obtain ⟨writes, before⟩ := kept.up
        rcases before.goesOn upForwards quiet with all | next
        · exact .inl all
        · exact .inr (.inr ⟨waiting, next, downForwards⟩)
    | down event =>
        obtain ⟨writes, before⟩ := kept.down
        rcases before.goesOn downForwards quiet with all | next
        · exact .inr (.inl all)
        · exact .inr (.inr ⟨waiting, upForwards, next⟩)
    | wakes =>
        -- no task has ended, so the call is not resumed
        have waits : ¬ s.Awakes := by
          simp only [TcpBridge.Awakes, waiting]
          rintro (finished | finished)
          · exact (Forward.forwards_iff.mp upForwards).2 finished
          · exact (Forward.forwards_iff.mp downForwards).2 finished
        simp only [RecordedTcpBridge.step, TcpBridge.step, if_neg waits]
        exact .inr (.inr ⟨waiting, upForwards, downForwards⟩)
    | cancelled => exact quiet.elim

theorem GoesOn.run {s : RecordedTcpBridge}
    (goesOn : GoesOn crypto input answer s)
    (kept : Kept crypto session relayInit input answer writer s.toTcpBridge
      s.upRead s.downRead) {events : List TcpBridgeEvent}
    (quiet : ∀ event ∈ events, event.GoesOn) :
    GoesOn crypto input answer
      (Lib.run (RecordedTcpBridge.step crypto) s events) := by
  have preserved (s : RecordedTcpBridge) (event : TcpBridgeEvent)
      (holds : Kept crypto session relayInit input answer writer s.toTcpBridge
          s.upRead s.downRead ∧ GoesOn crypto input answer s)
      (quiet : event.GoesOn) :=
    And.intro (holds.1.step event) (holds.2.step holds.1 quiet)
  exact (run_invariant_of_forall preserved ⟨kept, goesOn⟩ quiet).2

end Runs

end TcpBridge

/-- What the data centre was given: the relay header and an initial part of
the client's plaintext.  While the task goes on, what was read and what its
reader still has make up the stream, and it is all that was read. -/
def RecordedTcpBridge.DeliversUp (crypto : Primitives)
    (secret handshake relayInit stream : Bytes) (s : RecordedTcpBridge) : Prop :=
  ∃ sent, s.up.given = relayInit ++ sent ∧
    (s.up.phase ≠ .finished → ∃ left : ClientInput, ∃ arrived,
      s.up.src = left.reader arrived ∧ s.upRead ++ left.clientBytes = stream) ∧
    ∀ plain, stream <+: clientUpstream crypto secret handshake plain →
      relayPlain crypto relayInit sent <+: plain ∧
      (s.up.phase ≠ .finished →
        relayPlain crypto relayInit sent = plain.take s.upRead.length)

/-- What the client was given, in the same way. -/
def RecordedTcpBridge.DeliversDown (crypto : Primitives) (writer : ClientWriter)
    (secret handshake relayInit answer : Bytes) (s : RecordedTcpBridge) : Prop :=
  ∃ sent, writer.Carries s.down.given sent ∧
    (s.down.phase ≠ .finished → ∃ left : ClientInput, ∃ arrived,
      s.down.src = left.reader arrived ∧
        s.downRead ++ left.clientBytes = answer) ∧
    ∀ plain, answer <+: telegramDownstream crypto relayInit plain →
      clientDownPlain crypto secret handshake sent <+: plain ∧
      (s.down.phase ≠ .finished →
        clientDownPlain crypto secret handshake sent =
          plain.take s.downRead.length)

namespace TcpBridge

theorem clientDownPlain_prefix (crypto : Primitives) (secret handshake : Bytes)
    {front whole : Bytes} (initialPart : front <+: whole) :
    clientDownPlain crypto secret handshake front <+:
      clientDownPlain crypto secret handshake whole := by
  obtain ⟨back, rfl⟩ := initialPart
  simp only [clientDownPlain, crypto.ctrXor_append]
  exact List.prefix_append _ _

section Delivery

variable {crypto : Primitives} {secret handshake relayInit : Bytes}
  {input : ClientInput} {answer : Bytes} {writer : ClientWriter}
  {s : RecordedTcpBridge}

theorem Kept.deliversUp
    (kept : Kept crypto (sessionCiphers crypto secret handshake relayInit)
      relayInit input answer writer s.toTcpBridge s.upRead s.downRead) :
    s.DeliversUp crypto secret handshake relayInit input.clientBytes := by
  obtain ⟨writes, up⟩ := kept.up
  refine ⟨writes.flatten, ?_, up.reads, fun plain initialPart => ?_⟩
  · have given := up.given
    rw [kept.remoteWriter] at given
    exact given.trans (congrArg (relayInit ++ ·)
      (congrArg List.flatten (List.map_id' writes)))
  · have plainRead := relayPlain_reencryptedUp crypto secret handshake relayInit
      (up.readPart.trans initialPart)
    refine ⟨?_, fun goesOn => ?_⟩
    · have part := relayPlain_prefix crypto relayInit up.forwarded
      exact part.trans (plainRead ▸ List.take_prefix _ plain)
    · rw [up.whole goesOn]
      exact plainRead

theorem Kept.deliversDown
    (kept : Kept crypto (sessionCiphers crypto secret handshake relayInit)
      relayInit input answer writer s.toTcpBridge s.upRead s.downRead) :
    s.DeliversDown crypto writer secret handshake relayInit answer := by
  obtain ⟨writes, down⟩ := kept.down
  refine ⟨writes.flatten, ?_, down.reads, fun plain initialPart => ?_⟩
  · have given := down.given
    rw [kept.clientWriter, List.nil_append] at given
    rw [given]
    exact writer.carries_writes writes
  · have plainRead := clientDownPlain_reencryptedDown crypto secret handshake
      relayInit (down.readPart.trans initialPart)
    refine ⟨?_, fun goesOn => ?_⟩
    · have part := clientDownPlain_prefix crypto secret handshake down.forwarded
      exact part.trans (plainRead ▸ List.take_prefix _ plain)
    · rw [down.whole goesOn]
      exact plainRead

end Delivery

/-! ### The end of the call -/

/-- The number of `await`s which the call has behind it. -/
def awaited (s : TcpBridge) : Nat :=
  match s.main with
  | .waiting => 0
  | .awaitingUp => 1
  | .awaitingDown => 2
  | .closingClient => 3
  | .closingRemote => 4
  | .ended => 5

/-- How far the `finally` clause has come, and what is behind it. -/
structure Orderly (s : TcpBridge) : Prop where
  cancelled : 1 ≤ s.awaited → s.up.cancelled = true ∧ s.down.cancelled = true
  upFinished : 2 ≤ s.awaited → s.up.phase = .finished
  downFinished : 3 ≤ s.awaited → s.down.phase = .finished
  writerClosed : s.writerClosed = decide (3 ≤ s.awaited)
  remoteClosed : s.remoteClosed = decide (4 ≤ s.awaited)

section Orderly

variable {s : TcpBridge}

/-- A resumption of the call, by where it waits. -/
theorem Orderly.goOn (orderly : Orderly s)
    (awakes : s.main = .waiting ∨ s.Awakes) : Orderly s.goOn := by
  obtain ⟨cancelled, upFinished, downFinished, writerClosed, remoteClosed⟩ :=
    orderly
  cases main : s.main with
  | waiting =>
      simp only [awaited, main] at writerClosed remoteClosed
      simp only [TcpBridge.goOn, main]
      exact ⟨fun _ => ⟨rfl, rfl⟩, nofun, nofun, writerClosed, remoteClosed⟩
  | awaitingUp =>
      simp only [awaited, main] at cancelled writerClosed remoteClosed
      have ends : s.up.phase = .finished := by
        simpa only [TcpBridge.Awakes, main, reduceCtorEq, false_or] using awakes
      simp only [TcpBridge.goOn, main]
      exact ⟨fun _ => cancelled le_rfl, fun _ => ends, nofun, writerClosed,
        remoteClosed⟩
  | awaitingDown =>
      simp only [awaited, main] at cancelled upFinished remoteClosed
      have ends : s.down.phase = .finished := by
        simpa only [TcpBridge.Awakes, main, reduceCtorEq, false_or] using awakes
      simp only [TcpBridge.goOn, main]
      exact ⟨fun _ => cancelled (by decide), fun _ => upFinished le_rfl,
        fun _ => ends, rfl, remoteClosed⟩
  | closingClient =>
      simp only [awaited, main] at cancelled upFinished downFinished writerClosed
      simp only [TcpBridge.goOn, main]
      exact ⟨fun _ => cancelled (by decide), fun _ => upFinished (by decide),
        fun _ => downFinished le_rfl, writerClosed, rfl⟩
  | closingRemote =>
      simp only [awaited, main] at cancelled upFinished downFinished
      simp only [awaited, main] at writerClosed remoteClosed
      simp only [TcpBridge.goOn, main]
      exact ⟨fun _ => cancelled (by decide), fun _ => upFinished (by decide),
        fun _ => downFinished (by decide), writerClosed, remoteClosed⟩
  | ended =>
      simp only [TcpBridge.goOn, main]
      exact ⟨cancelled, upFinished, downFinished, writerClosed, remoteClosed⟩

theorem Orderly.step (crypto : Primitives) (orderly : Orderly s)
    (event : TcpBridgeEvent) : Orderly (s.step crypto event) := by
  cases event with
  | up event =>
      refine ⟨fun late => ⟨?_, (orderly.cancelled late).2⟩, fun late => ?_,
        orderly.downFinished, orderly.writerClosed, orderly.remoteClosed⟩
      · exact (Forward.step_cancelled (orderly.cancelled late).1 event).2
      · exact Forward.step_finished (orderly.upFinished late) event
  | down event =>
      refine ⟨fun late => ⟨(orderly.cancelled late).1, ?_⟩, orderly.upFinished,
        fun late => ?_, orderly.writerClosed, orderly.remoteClosed⟩
      · exact (Forward.step_cancelled (orderly.cancelled late).2 event).2
      · exact Forward.step_finished (orderly.downFinished late) event
  | wakes =>
      simp only [TcpBridge.step]
      split
      · rename_i awakes
        exact orderly.goOn (.inr awakes)
      · exact orderly
  | cancelled =>
      simp only [TcpBridge.step]
      split
      · rename_i awakes
        exact orderly.goOn awakes
      · exact orderly

theorem awaited_pos : 1 ≤ s.awaited ↔ s.main ≠ .waiting := by
  unfold awaited
  split <;> simp_all

theorem start_orderly {crypto : Primitives} {request : ClientRequest}
    {secret relayInit : Bytes} {reader remote : ClientReader}
    {writer : ClientWriter}
    (started : start crypto request secret relayInit reader remote writer =
      .ok s) : Orderly s := by
  unfold start at started
  cases ciphers : buildCryptoCtx crypto request.decPrekeyIv secret relayInit with
  | error error =>
      rw [ciphers] at started
      cases started
  | ok ctx =>
      rw [ciphers] at started
      cases started
      exact ⟨nofun, nofun, nofun, rfl, rfl⟩

/-! What brings the call to its end. -/

theorem awaited_goOn (s : TcpBridge) :
    s.goOn.awaited = min 5 (s.awaited + 1) := by
  cases main : s.main <;> simp [goOn, awaited, main, cancelTasks]

theorem awaited_step (crypto : Primitives) (s : TcpBridge)
    (event : TcpBridgeEvent) : s.awaited ≤ (s.step crypto event).awaited := by
  have goesOn : s.awaited ≤ s.goOn.awaited := by
    have bound : s.awaited ≤ 5 := by
      unfold awaited
      split <;> decide
    rw [awaited_goOn]
    omega
  cases event with
  | up event => exact le_rfl
  | down event => exact le_rfl
  | wakes =>
      simp only [TcpBridge.step]
      split
      · exact goesOn
      · exact le_rfl
  | cancelled =>
      simp only [TcpBridge.step]
      split
      · exact goesOn
      · exact le_rfl

theorem given_goOn (s : TcpBridge) :
    s.goOn.up.given = s.up.given ∧ s.goOn.down.given = s.down.given := by
  unfold goOn
  split <;> exact ⟨rfl, rfl⟩

theorem Orderly.given_step (crypto : Primitives) (orderly : Orderly s)
    (late : 1 ≤ s.awaited) (event : TcpBridgeEvent) :
    (s.step crypto event).up.given = s.up.given ∧
      (s.step crypto event).down.given = s.down.given := by
  obtain ⟨up, down⟩ := orderly.cancelled late
  cases event with
  | up event => exact ⟨(Forward.step_cancelled up event).1, rfl⟩
  | down event => exact ⟨rfl, (Forward.step_cancelled down event).1⟩
  | wakes | cancelled =>
      simp only [TcpBridge.step]
      split
      · exact given_goOn s
      · exact ⟨rfl, rfl⟩

/-- Once the call has been resumed. -/
theorem Orderly.silent (crypto : Primitives) (orderly : Orderly s)
    (late : 1 ≤ s.awaited) (events : List TcpBridgeEvent) :
    let next := Lib.run (TcpBridge.step crypto) s events
    next.up.given = s.up.given ∧ next.down.given = s.down.given := by
  induction events generalizing s with
  | nil => exact ⟨rfl, rfl⟩
  | cons event events induction =>
      have later := induction (orderly.step crypto event)
        (late.trans (awaited_step crypto s event))
      obtain ⟨up, down⟩ := later
      obtain ⟨upStep, downStep⟩ := orderly.given_step crypto late event
      exact ⟨up.trans upStep, down.trans downStep⟩

/-- The call is in its `finally` clause, or about to be. -/
def Ends (s : TcpBridge) : Prop :=
  1 ≤ s.awaited ∨ s.up.phase = .finished ∨ s.down.phase = .finished

theorem up_goOn (s : TcpBridge) : s.goOn.up.phase = s.up.phase := by
  unfold goOn
  split <;> rfl

theorem down_goOn (s : TcpBridge) : s.goOn.down.phase = s.down.phase := by
  unfold goOn
  split <;> rfl

theorem up_step_finished (crypto : Primitives)
    (finished : s.up.phase = .finished) (event : TcpBridgeEvent) :
    (s.step crypto event).up.phase = .finished := by
  cases event with
  | up event => exact Forward.step_finished finished event
  | down event => exact finished
  | wakes | cancelled =>
      simp only [TcpBridge.step]
      split
      · exact (up_goOn s).trans finished
      · exact finished

theorem down_step_finished (crypto : Primitives)
    (finished : s.down.phase = .finished) (event : TcpBridgeEvent) :
    (s.step crypto event).down.phase = .finished := by
  cases event with
  | up event => exact finished
  | down event => exact Forward.step_finished finished event
  | wakes | cancelled =>
      simp only [TcpBridge.step]
      split
      · exact (down_goOn s).trans finished
      · exact finished

theorem Ends.step (crypto : Primitives) (ends : Ends s)
    (event : TcpBridgeEvent) : Ends (s.step crypto event) := by
  rcases ends with late | upEnds | downEnds
  · exact .inl (late.trans (awaited_step crypto s event))
  · exact .inr (.inl (up_step_finished crypto upEnds event))
  · exact .inr (.inr (down_step_finished crypto downEnds event))

theorem Ends.wakes (crypto : Primitives) (ends : Ends s) :
    1 ≤ (s.step crypto .wakes).awaited := by
  rcases ends with late | finished
  · exact late.trans (awaited_step crypto s .wakes)
  · by_cases waiting : s.main = .waiting
    · have awakes : s.Awakes := by
        simpa only [TcpBridge.Awakes, waiting] using finished
      simp only [TcpBridge.step, if_pos awakes, awaited_goOn]
      omega
    · have late : 1 ≤ s.awaited := by
        unfold awaited
        split <;> simp_all
      exact late.trans (awaited_step crypto s .wakes)

/-- A resumption of the call once both tasks have ended. -/
theorem awaited_wakes (crypto : Primitives) (up : s.up.phase = .finished)
    (down : s.down.phase = .finished) :
    min 5 (s.awaited + 1) ≤ (s.step crypto .wakes).awaited := by
  by_cases awakes : s.Awakes
  · simp only [TcpBridge.step, if_pos awakes, awaited_goOn]
    exact le_rfl
  · have ended : s.main = .ended := by
      unfold TcpBridge.Awakes at awakes
      split at awakes <;> simp_all
    have all : s.awaited = 5 := by
      simp only [awaited, ended]
    exact (Nat.min_le_left 5 _).trans
      (all ▸ awaited_step crypto s .wakes)

theorem Orderly.stops (crypto : Primitives) (orderly : Orderly s)
    (late : 1 ≤ s.awaited) :
    (s.step crypto (.up .stops)).up.phase = .finished ∧
      (s.step crypto (.down .stops)).down.phase = .finished := by
  obtain ⟨up, down⟩ := orderly.cancelled late
  simp only [TcpBridge.step, Forward.step, up, down, if_true, and_self]

theorem Orderly.run (crypto : Primitives) (orderly : Orderly s)
    (events : List TcpBridgeEvent) :
    Orderly (Lib.run (TcpBridge.step crypto) s events) := by
  have kept (s : TcpBridge) (event : TcpBridgeEvent) (orderly : Orderly s) :
      Orderly (s.step crypto event) := orderly.step crypto event
  exact run_invariant kept events orderly

/-- The schedules under which the call ends. -/
theorem Orderly.run_ends (crypto : Primitives) (orderly : Orderly s)
    (ends : Ends s) {first settling closing : List TcpBridgeEvent}
    (wakes : .wakes ∈ first) (upStops : .up .stops ∈ settling)
    (downStops : .down .stops ∈ settling) (often : 5 ≤ closing.count .wakes) :
    (Lib.run (TcpBridge.step crypto) s
      (first ++ settling ++ closing)).main = .ended := by
  have kept (s : TcpBridge) (event : TcpBridgeEvent) (orderly : Orderly s) :
      Orderly (s.step crypto event) := orderly.step crypto event
  have upStays (s : TcpBridge) (event : TcpBridgeEvent)
      (up : s.up.phase = .finished) :
      (s.step crypto event).up.phase = .finished :=
    up_step_finished crypto up event
  have downStays (s : TcpBridge) (event : TcpBridgeEvent)
      (down : s.down.phase = .finished) :
      (s.step crypto event).down.phase = .finished :=
    down_step_finished crypto down event
  have last := le_rank_run_of_stages kept (awaited_step crypto)
    (fun _ event ends => Ends.step crypto ends event)
    (fun _ ends => Ends.wakes crypto ends)
    (fun _ orderly late => (Orderly.stops crypto orderly late).1) upStays
    (fun _ orderly late => (Orderly.stops crypto orderly late).2) downStays
    (fun _ _ up down => awaited_wakes crypto up down) orderly ends wakes upStops
    downStops often
  unfold awaited at last
  split at last <;> simp_all

end Orderly

end TcpBridge

/-- Whatever the two connections bring, whatever raises and wherever the call
is cancelled.  Where nothing raises and nobody cancels, both tasks forward until
one of them has read all there is. -/
theorem tcpBridge_endToEnd (crypto : Primitives) (writer : ClientWriter)
    {handshake secret relayInit : Bytes} {request : ClientRequest}
    (handshakeSize : handshake.length = 64)
    (accepted : tryHandshake crypto handshake secret = .ok (some request))
    (relaySize : relayInit.length = 64) (input : ClientInput)
    (arrived : Nat → Nat) (answer : Bytes) (answerArrived : Nat → Nat) :
    ∃ start, TcpBridge.start crypto request secret relayInit
        (input.reader arrived)
        ((ClientInput.plain answer).reader answerArrived) writer = .ok start ∧
      ∀ events,
        let s := run (RecordedTcpBridge.step crypto) (.start start) events
        s.DeliversUp crypto secret handshake relayInit input.clientBytes ∧
        s.DeliversDown crypto writer secret handshake relayInit answer ∧
        ((∀ event ∈ events, event.GoesOn) →
          s.upRead = input.clientBytes ∨ s.downRead = answer ∨
            s.Forwards crypto) := by
  obtain ⟨start, started, kept, forwards⟩ := TcpBridge.start_kept crypto writer
    handshakeSize accepted relaySize input arrived answer answerArrived
  have initial : TcpBridge.Kept crypto
      (sessionCiphers crypto secret handshake relayInit) relayInit input answer
      writer (RecordedTcpBridge.start start).toTcpBridge [] [] := kept
  refine ⟨start, started, fun events => ?_⟩
  have preserved (s : RecordedTcpBridge) (event : TcpBridgeEvent)
      (kept : TcpBridge.Kept crypto
        (sessionCiphers crypto secret handshake relayInit) relayInit input answer
        writer s.toTcpBridge s.upRead s.downRead) := kept.step event
  have reached := run_invariant preserved events initial
  refine ⟨reached.deliversUp, reached.deliversDown, fun quiet => ?_⟩
  exact TcpBridge.GoesOn.run (.inr (.inr forwards)) initial quiet

theorem tcpBridge_endToEnd_recorded :
    ∃ start, TcpBridge.start recordedCrypto
        ⟨2, true, protoTagIntermediate, slice recordedHandshake 8 56⟩
        recordedSecret recordedDraw (recordedInput.reader fun _ => 1)
        ((ClientInput.plain [0x60, 0x70]).reader fun _ => 1) .fakeTls =
          .ok start ∧
      ∀ events,
        let s := run (RecordedTcpBridge.step recordedCrypto) (.start start) events
        s.DeliversUp recordedCrypto recordedSecret recordedHandshake
          recordedDraw recordedInput.clientBytes ∧
        s.DeliversDown recordedCrypto .fakeTls recordedSecret recordedHandshake
          recordedDraw [0x60, 0x70] ∧
        ((∀ event ∈ events, event.GoesOn) →
          s.upRead = recordedInput.clientBytes ∨ s.downRead = [0x60, 0x70] ∨
            s.Forwards recordedCrypto) :=
  tcpBridge_endToEnd recordedCrypto .fakeTls (by decide +kernel)
    (by decide +kernel) (by decide +kernel) recordedInput (fun _ => 1)
    [0x60, 0x70] (fun _ => 1)

/-- No writer is closed while a task can write to it, nothing is written once
the call has been resumed, and it ends: when the tasks are resumed with their
cancellation, and the call for each of its `await`s. -/
theorem tcpBridge_closes (crypto : Primitives) (writer : ClientWriter)
    {handshake secret relayInit : Bytes} {request : ClientRequest}
    (handshakeSize : handshake.length = 64)
    (accepted : tryHandshake crypto handshake secret = .ok (some request))
    (relaySize : relayInit.length = 64) (input : ClientInput)
    (arrived : Nat → Nat) (answer : Bytes) (answerArrived : Nat → Nat) :
    ∃ start, TcpBridge.start crypto request secret relayInit
        (input.reader arrived)
        ((ClientInput.plain answer).reader answerArrived) writer = .ok start ∧
      ∀ events,
        let s := run (TcpBridge.step crypto) start events
        (s.writerClosed ∨ s.remoteClosed →
          s.up.phase = .finished ∧ s.down.phase = .finished) ∧
        (s.main = .ended → s.writerClosed ∧ s.remoteClosed) ∧
        (s.main ≠ .waiting → ∀ later,
          let next := run (TcpBridge.step crypto) s later
          next.up.given = s.up.given ∧ next.down.given = s.down.given) ∧
        (s.main ≠ .waiting ∨ s.up.phase = .finished ∨
            s.down.phase = .finished →
          ∀ first settling closing, .wakes ∈ first →
            .up .stops ∈ settling → .down .stops ∈ settling →
            5 ≤ closing.count .wakes →
            (run (TcpBridge.step crypto) s
              (first ++ settling ++ closing)).main = .ended) := by
  obtain ⟨start, started, -⟩ := TcpBridge.start_kept crypto writer
    handshakeSize accepted relaySize input arrived answer answerArrived
  refine ⟨start, started, fun events => ?_⟩
  have orderly := (TcpBridge.start_orderly started).run crypto events
  generalize run (TcpBridge.step crypto) start events = s at orderly
  refine ⟨?_, ?_, ?_, ?_⟩
  · rintro (closed | closed)
    · have late := of_decide_eq_true (orderly.writerClosed.symm.trans closed)
      exact ⟨orderly.upFinished (by omega), orderly.downFinished late⟩
    · have late := of_decide_eq_true (orderly.remoteClosed.symm.trans closed)
      exact ⟨orderly.upFinished (by omega), orderly.downFinished (by omega)⟩
  · intro ended
    rw [orderly.writerClosed, orderly.remoteClosed, TcpBridge.awaited, ended]
    exact ⟨rfl, rfl⟩
  · intro resumed later
    exact orderly.silent crypto (TcpBridge.awaited_pos.mpr resumed) later
  · intro ends first settling closing wakes upStops downStops often
    have isEnding : TcpBridge.Ends s :=
      ends.imp_left TcpBridge.awaited_pos.mpr
    exact orderly.run_ends crypto isEnding wakes upStops downStops often

theorem tcpBridge_closes_recorded :
    ∃ start, TcpBridge.start recordedCrypto
        ⟨2, true, protoTagIntermediate, slice recordedHandshake 8 56⟩
        recordedSecret recordedDraw (recordedInput.reader fun _ => 1)
        ((ClientInput.plain [0x60, 0x70]).reader fun _ => 1) .fakeTls =
          .ok start ∧
      ∀ events,
        let s := run (TcpBridge.step recordedCrypto) start events
        (s.writerClosed ∨ s.remoteClosed →
          s.up.phase = .finished ∧ s.down.phase = .finished) ∧
        (s.main = .ended → s.writerClosed ∧ s.remoteClosed) ∧
        (s.main ≠ .waiting → ∀ later,
          let next := run (TcpBridge.step recordedCrypto) s later
          next.up.given = s.up.given ∧ next.down.given = s.down.given) ∧
        (s.main ≠ .waiting ∨ s.up.phase = .finished ∨
            s.down.phase = .finished →
          ∀ first settling closing, .wakes ∈ first →
            .up .stops ∈ settling → .down .stops ∈ settling →
            5 ≤ closing.count .wakes →
            (run (TcpBridge.step recordedCrypto) s
              (first ++ settling ++ closing)).main = .ended) :=
  @tcpBridge_closes recordedCrypto .fakeTls recordedHandshake recordedSecret
    recordedDraw _ (by decide +kernel) (by decide +kernel) (by decide +kernel)
    recordedInput (fun _ => 1) [0x60, 0x70] (fun _ => 1)

end TgWsProxy.Python
