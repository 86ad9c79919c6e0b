import TgWsProxy.Python.ApplyConfig
import TgWsProxy.Lib.Runs
import TgWsProxy.Lib.Slots

/-!
# The count of the active connections

`_handle_client` of `proxy/tg_ws_proxy.py` as a task: it counts itself in
`stats.connections_active`, sets the options of the socket, runs its body in a
`try` and closes the writer in the `finally`, where it takes itself off the count
first.  What the body does has no effect on the count; it is left by a return, by
an exception of its own, or by a cancellation at one of its `await`s.
-/

namespace TgWsProxy.Python

open Lib

inductive SockError where
  | osError
  | attributeError
  | overflowError
deriving DecidableEq, Repr

/-- The socket of a transport: the options which it refuses. -/
structure ClientSocket where
  /-- `_socket` has `TCP_NODELAY`. -/
  hasNodelay : Bool
  refusesNodelay : Bool
  refusesRcvbuf : Bool
  refusesSndbuf : Bool
deriving DecidableEq, Repr

/-- The value is one of a C `int`. -/
def fitsCInt (value : Int) : Bool :=
  decide (-2147483648 ≤ value ∧ value < 2147483648)

/-- `sock.setsockopt` with a number, which is converted to an `int` first. -/
def setsockopt (refused : Bool) (value : Int) : Except SockError Unit :=
  if fitsCInt value then
    if refused then .error .osError else .ok ()
  else .error .overflowError

/-- `try: … except …: pass`. -/
def passing (caught : SockError → Bool) (body : Except SockError Unit) :
    Except SockError Unit :=
  match body with
  | .error error => if caught error then .ok () else .error error
  | .ok () => .ok ()

/-- `set_sock_opts`, with the socket which the transport has. -/
def setSockOpts (sock : Option ClientSocket) (bufferSize : Int) :
    Except SockError Unit :=
  match sock with
  | none => .ok ()
  | some sock => do
      passing (fun error => error == .osError || error == .attributeError)
        (if sock.hasNodelay then setsockopt sock.refusesNodelay 1
          else .error .attributeError)
      passing (· == .osError) do
        setsockopt sock.refusesRcvbuf bufferSize
        setsockopt sock.refusesSndbuf bufferSize

/-- `max(4, buf_kb) * 1024`. -/
def bufferSize (bufKb : Int) : Int := max 4 bufKb * 1024

/-- What may be raised in the body of `_handle_client`. -/
inductive HandlerException where
  | timeout
  | incompleteRead
  | cancelled
  | connectionReset
  | osError
  /-- Any other `Exception`. -/
  | exception
  /-- `KeyboardInterrupt`, `SystemExit` or `GeneratorExit`. -/
  | baseException
deriving DecidableEq, Repr

/-- One of the `except` clauses logs it. -/
def HandlerException.logged : HandlerException → Bool
  | .timeout | .incompleteRead | .cancelled | .connectionReset | .osError
  | .exception => true
  | .baseException => false

inductive HandlerPhase where
  /-- No line has run. -/
  | created
  /-- Within the `try`. -/
  | running
  /-- In `wait_closed`, with what is raised behind the `finally`. -/
  | closing (raises : Option HandlerException)
  | finished (raises : Option HandlerException) (writerClosed : Bool)
deriving DecidableEq, Repr

namespace HandlerPhase

/-- The handler has started and not finished; one which has left its body and
waits for its connection to close is unfinished until it ends, or not. -/
def counts (untilEnd : Bool) : HandlerPhase → Bool
  | .created | .finished _ _ => false
  | .running => true
  | .closing _ => untilEnd

/-- The writer is closed when the handler has finished. -/
def ClosesWriter : HandlerPhase → Prop
  | .finished _ writerClosed => writerClosed = true
  | _ => True

end HandlerPhase

structure HandlerTask where
  phase : HandlerPhase
  /-- `get_extra_info('socket')`. -/
  socket : Option ClientSocket
  /-- `connection_lost` of the protocol was called, for which `wait_closed`
  waits. -/
  connectionLost : Bool
deriving DecidableEq, Repr

inductive HandlerAction where
  /-- The first step of the task. -/
  | starts
  | losesConnection
  /-- The body is left by `return`, or an exception. -/
  | leaves (raised : Option HandlerException)
  /-- `wait_closed` goes on. -/
  | resumes
  /-- `task.cancel()`; in the body it comes to an exception, or not. -/
  | cancels
deriving DecidableEq, Repr

namespace HandlerTask

/-- A step of the task, and what it adds to `connections_active`. -/
def act (task : HandlerTask) (bufferSize : Int) :
    HandlerAction → HandlerTask × Int
  | .starts =>
      match task.phase with
      | .created =>
          match setSockOpts task.socket bufferSize with
          | .ok () => ({ task with phase := .running }, 1)
          | .error _ =>
              ({ task with phase := .finished (some .exception) false }, 1)
      | _ => (task, 0)
  | .losesConnection => ({ task with connectionLost := true }, 0)
  | .leaves raised =>
      match task.phase with
      | .running =>
          let raises := raised.filter fun error => !error.logged
          if task.connectionLost then
            ({ task with phase := .finished raises true }, -1)
          else ({ task with phase := .closing raises }, -1)
      | _ => (task, 0)
  | .resumes =>
      match task.phase with
      | .closing raises =>
          if task.connectionLost then
            ({ task with phase := .finished raises true }, 0)
          else (task, 0)
      | _ => (task, 0)
  | .cancels =>
      match task.phase with
      | .created =>
          ({ task with phase := .finished (some .cancelled) false }, 0)
      | .closing raises => ({ task with phase := .finished raises true }, 0)
      | _ => (task, 0)

/-- The task starts with a buffer size which its socket can be given, it is not
cancelled before, and if it counts until its end then `wait_closed` has nothing
to wait for. -/
def Careful (untilEnd : Bool) (task : HandlerTask) (bufferSize : Int) :
    HandlerAction → Prop
  | .starts =>
      task.phase = .created →
        task.socket = none ∨ fitsCInt bufferSize = true
  | .leaves _ =>
      task.phase = .running → untilEnd = true → task.connectionLost = true
  | .cancels => task.phase ≠ .created
  | .losesConnection | .resumes => True

end HandlerTask

/-- `stats.connections_active`, and the handlers of a process. -/
structure ConnectionCount where
  bufferSize : Int
  connectionsActive : Int
  tasks : List HandlerTask
deriving DecidableEq, Repr

inductive ConnectionEvent where
  /-- `proxy_config.buffer_size` is assigned. -/
  | configures (bufKb : Int)
  /-- `client_cb` makes a task. -/
  | accepts (socket : Option ClientSocket)
  | acts (task : Nat) (action : HandlerAction)

namespace ConnectionCount

def initial : ConnectionCount := ⟨256 * 1024, 0, []⟩

def step (s : ConnectionCount) : ConnectionEvent → ConnectionCount
  | .configures bufKb => { s with bufferSize := Python.bufferSize bufKb }
  | .accepts socket => { s with tasks := s.tasks ++ [⟨.created, socket, false⟩] }
  | .acts task action =>
      match s.tasks[task]? with
      | none => s
      | some found =>
          let (next, added) := found.act s.bufferSize action
          { s with
            connectionsActive := s.connectionsActive + added
            tasks := s.tasks.set task next }

/-- The counter is the number of the handlers which count, and no handler has
finished with its writer open. -/
structure Accounted (untilEnd : Bool) (s : ConnectionCount) : Prop where
  active : s.connectionsActive =
    (s.tasks.countP fun task => task.phase.counts untilEnd : Nat)
  closed : ∀ task ∈ s.tasks, task.phase.ClosesWriter

def Careful (untilEnd : Bool) (s : ConnectionCount) : ConnectionEvent → Prop
  | .acts task action =>
      ∀ found, s.tasks[task]? = some found →
        found.Careful untilEnd s.bufferSize action
  | .configures _ | .accepts _ => True

end ConnectionCount

theorem setSockOpts_eq (sock : Option ClientSocket) (size : Int) :
    setSockOpts sock size =
      if sock = none ∨ fitsCInt size = true then .ok ()
      else .error .overflowError := by
  cases sock with
  | none => rfl
  | some sock =>
      have nodelay : passing
          (fun error => error == .osError || error == .attributeError)
          (if sock.hasNodelay then setsockopt sock.refusesNodelay 1
            else .error .attributeError) = .ok () := by
        cases sock.hasNodelay with
        | false => rfl
        | true =>
            cases sock.refusesNodelay with
            | false => rfl
            | true => rfl
      simp only [setSockOpts, nodelay]
      simp only [setsockopt, reduceCtorEq, false_or]
      cases fitsCInt size with
      | false => rfl
      | true =>
          cases sock.refusesRcvbuf with
          | true => rfl
          | false =>
              cases sock.refusesSndbuf with
              | false => rfl
              | true => rfl

/-- The sizes which are too large. -/
theorem fitsCInt_bufferSize_iff (bufKb : Int) :
    fitsCInt (bufferSize bufKb) = true ↔ bufKb < 2097152 := by
  simp only [fitsCInt, decide_eq_true_eq]
  simp only [bufferSize]
  omega

/-- The tray assigns the same size. -/
theorem bufferSizeOf_int (bufKb : Int) :
    bufferSizeOf (.int bufKb) = .ok (.int (bufferSize bufKb)) := by
  have sizeOf : bufferSizeOf (.int bufKb) =
      .ok (if (PyFloat.finite bufKb).above 4 then .int bufKb
        else .int 4 : JsonValue).kib := rfl
  rw [sizeOf, bufferSize]
  by_cases above : 4 < bufKb
  · have aboveRat : (4 : Rat) < bufKb := by exact_mod_cast above
    have kept : (PyFloat.finite bufKb).above 4 = true :=
      decide_eq_true aboveRat
    rw [if_pos kept, Int.max_eq_right (Int.le_of_lt above)]
    rfl
  · have raised : (PyFloat.finite bufKb).above 4 = false := by
      apply decide_eq_false
      intro aboveRat
      exact above (by exact_mod_cast aboveRat)
    rw [raised, Int.max_eq_left (Int.not_lt.mp above)]
    rfl

section Steps

variable {untilEnd : Bool}

/-- How often a handler counts. -/
def HandlerPhase.weight (untilEnd : Bool) (phase : HandlerPhase) : Nat :=
  if phase.counts untilEnd then 1 else 0

/-- No handler waits for its connection while it counts. -/
def HandlerPhase.NotLate (untilEnd : Bool) : HandlerPhase → Prop
  | .closing _ => untilEnd = false
  | _ => True

namespace HandlerTask

/-- A step of a handler moves the counter as the handler moves, and leaves no
writer open, exactly if it is careful. -/
theorem act_iff (task : HandlerTask) (size : Int) (action : HandlerAction)
    (closes : task.phase.ClosesWriter) (notLate : task.phase.NotLate untilEnd) :
    ((task.act size action).2 + task.phase.weight untilEnd =
          (task.act size action).1.phase.weight untilEnd ∧
        (task.act size action).1.phase.ClosesWriter) ↔
      task.Careful untilEnd size action := by
  obtain ⟨phase, socket, connectionLost⟩ := task
  cases action with
  | starts =>
      cases phase with
      | created =>
          simp only [act, setSockOpts_eq, Careful, true_imp_iff]
          by_cases fits : socket = none ∨ fitsCInt size = true
          · simp only [fits, iff_true]
            exact ⟨rfl, trivial⟩
          · simp only [fits, iff_false]
            intro ⟨_, closed⟩
            cases closed
      | running | closing raises | finished raises writerClosed =>
          exact ⟨fun _ => nofun, fun _ => ⟨Int.zero_add _, closes⟩⟩
  | losesConnection =>
      exact ⟨fun _ => trivial, fun _ => ⟨Int.zero_add _, closes⟩⟩
  | leaves raised =>
      cases phase with
      | running =>
          cases connectionLost with
          | true => exact ⟨fun _ _ _ => rfl, fun _ => ⟨rfl, rfl⟩⟩
          | false =>
              cases untilEnd with
              | false => exact ⟨fun _ _ => nofun, fun _ => ⟨rfl, trivial⟩⟩
              | true =>
                  constructor
                  · intro ⟨counted, _⟩
                    cases counted
                  · intro careful
                    cases careful rfl rfl
      | created | closing raises | finished raises writerClosed =>
          exact ⟨fun _ => nofun, fun _ => ⟨Int.zero_add _, closes⟩⟩
  | resumes =>
      cases phase with
      | closing raises =>
          cases notLate
          cases connectionLost with
          | false => exact ⟨fun _ => trivial, fun _ => ⟨rfl, trivial⟩⟩
          | true => exact ⟨fun _ => trivial, fun _ => ⟨rfl, rfl⟩⟩
      | created | running | finished raises writerClosed =>
          exact ⟨fun _ => trivial, fun _ => ⟨Int.zero_add _, closes⟩⟩
  | cancels =>
      cases phase with
      | created =>
          constructor
          · intro ⟨_, closed⟩
            cases closed
          · intro careful
            exact absurd rfl careful
      | closing raises =>
          cases notLate
          exact ⟨fun _ => nofun, fun _ => ⟨rfl, rfl⟩⟩
      | running | finished raises writerClosed =>
          exact ⟨fun _ => nofun, fun _ => ⟨Int.zero_add _, closes⟩⟩

theorem act_notLate (task : HandlerTask) (size : Int) (action : HandlerAction)
    (notLate : task.phase.NotLate untilEnd)
    (careful : task.Careful untilEnd size action) :
    (task.act size action).1.phase.NotLate untilEnd := by
  obtain ⟨phase, socket, connectionLost⟩ := task
  cases action with
  | starts =>
      cases phase with
      | created =>
          simp only [act, setSockOpts_eq]
          split
          · trivial
          · trivial
      | running | closing raises | finished raises writerClosed => exact notLate
  | losesConnection => exact notLate
  | leaves raised =>
      cases phase with
      | running =>
          cases connectionLost with
          | true => trivial
          | false =>
              apply Bool.eq_false_iff.mpr
              intro same
              cases careful rfl same
      | created | closing raises | finished raises writerClosed => exact notLate
  | resumes =>
      cases phase with
      | closing raises =>
          cases connectionLost with
          | false => exact notLate
          | true => trivial
      | created | running | finished raises writerClosed => exact notLate
  | cancels =>
      cases phase with
      | created | closing raises => trivial
      | running | finished raises writerClosed => exact notLate

end HandlerTask

namespace ConnectionCount

variable {s : ConnectionCount}

/-- The counter is right, and stays so while the handlers go on. -/
structure Settled (untilEnd : Bool) (s : ConnectionCount) : Prop
    extends s.Accounted untilEnd where
  notLate : ∀ task ∈ s.tasks, task.phase.NotLate untilEnd

theorem initial_settled : initial.Settled untilEnd where
  active := rfl
  closed _ member := absurd member List.not_mem_nil
  notLate _ member := absurd member List.not_mem_nil

/-- The steps behind which the counter is right are the careful ones. -/
theorem accounted_step_iff (settled : s.Settled untilEnd)
    (event : ConnectionEvent) :
    (s.step event).Accounted untilEnd ↔ s.Careful untilEnd event := by
  cases event with
  | configures bufKb =>
      exact ⟨fun _ => trivial, fun _ => ⟨settled.active, settled.closed⟩⟩
  | accepts socket =>
      refine ⟨fun _ => trivial, fun _ => ⟨?_, ?_⟩⟩
      · simp only [step, settled.active, List.countP_append, Int.natCast_add]
        exact (Int.add_zero _).symm
      · intro task member
        rcases List.mem_append.mp member with old | new
        · exact settled.closed task old
        · cases List.mem_singleton.mp new
          trivial
  | acts task action =>
      simp only [step, Careful]
      split
      · rename_i absent
        simp only [absent, reduceCtorEq, false_implies, implies_true, iff_true]
        exact settled.toAccounted
      · rename_i found present
        have member := List.mem_of_getElem? present
        simp only [present, Option.some.injEq, forall_eq']
        apply Iff.trans _ (found.act_iff s.bufferSize action
          (settled.closed found member) (settled.notLate found member))
        have moved := countP_set_add present (found.act s.bufferSize action).1
          fun task => task.phase.counts untilEnd
        have closes := forall_mem_set_iff present settled.closed
          (found.act s.bufferSize action).1
        have active := settled.active
        constructor
        · intro next
          refine ⟨?_, closes.mp next.closed⟩
          have nextActive := next.active
          simp only [HandlerPhase.weight]
          simp only at nextActive
          omega
        · intro ⟨counted, closed⟩
          refine ⟨?_, closes.mpr closed⟩
          simp only [HandlerPhase.weight] at counted ⊢
          omega

theorem settled_step (settled : s.Settled untilEnd) (event : ConnectionEvent)
    (careful : s.Careful untilEnd event) : (s.step event).Settled untilEnd := by
  refine ⟨(accounted_step_iff settled event).mpr careful, ?_⟩
  cases event with
  | configures bufKb => exact settled.notLate
  | accepts socket =>
      intro task member
      rcases List.mem_append.mp member with old | new
      · exact settled.notLate task old
      · cases List.mem_singleton.mp new
        trivial
  | acts task action =>
      simp only [step]
      split
      · exact settled.notLate
      · rename_i found present
        apply (forall_mem_set_iff present settled.notLate _).mpr
        exact found.act_notLate s.bufferSize action
          (settled.notLate found (List.mem_of_getElem? present))
          (careful found present)

/-- `connections_active` is the number of the handlers that have started and not
finished, whether or not they count while they wait for their connection to
close, and none has finished with its writer open, exactly as long as all steps
are careful.  The size of the buffers which is too large is the same for the
command line and for the tray. -/
theorem accounted_iff (untilEnd : Bool) (events : List ConnectionEvent) :
    ((∀ earlier, earlier <+: events →
        (run step initial earlier).Accounted untilEnd) ↔
      AllSteps step (Careful untilEnd) initial events) ∧
    ∀ bufKb, bufferSizeOf (.int bufKb) = .ok (.int (Python.bufferSize bufKb)) ∧
      (fitsCInt (Python.bufferSize bufKb) = true ↔ bufKb < 2097152) := by
  refine ⟨?_, fun bufKb =>
    ⟨bufferSizeOf_int bufKb, fitsCInt_bufferSize_iff bufKb⟩⟩
  apply safe_throughout_iff_allSteps
  · exact fun _ => Settled.toAccounted
  · exact fun _ event settled => accounted_step_iff settled event
  · exact fun _ event settled careful => settled_step settled event careful
  · exact initial_settled

/-- The handler of a client whose socket cannot take a buffer of 2 GiB is counted
for ever, and its writer is left open. -/
theorem large_buffer_leaks :
    let s := run step initial
      [.configures 2097152, .accepts (some ⟨true, false, false, false⟩),
        .acts 0 .starts]
    s.connectionsActive = 1 ∧
      s.tasks.map (·.phase) = [.finished (some .exception) false] ∧
      ¬ s.Accounted true ∧ ¬ s.Accounted false := by
  refine ⟨rfl, rfl, ?_, ?_⟩
  · intro accounted
    cases accounted.active
  · intro accounted
    cases accounted.active

end ConnectionCount

end Steps

end TgWsProxy.Python
