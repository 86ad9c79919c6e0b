import TgWsProxy.Bytes
import TgWsProxy.Lib.Runs

/-!
# The tray's proxy threads

`start_proxy`, `stop_proxy` and `restart_proxy` of `utils/tray_common.py` talk
to the proxy threads through two module variables, `_proxy_thread` and
`_async_stop`; `macos.py` has the same functions with another join timeout.
The calls of the user interface and the steps of any number of proxy threads
are interleaved: each event is one access to the shared variables.
-/

namespace TgWsProxy.Python

open Lib

/-- Where `_run_proxy_thread` stands. -/
inductive ThreadPhase where
  | started
  /-- In `_run`, after `_async_stop = (loop, stop_ev)`. -/
  | serving
  /-- In `_run`, after the stop event was set. -/
  | draining
  /-- At the `finally` clause. -/
  | closing
  /-- The loop is closed; `_async_stop = None` comes next. -/
  | clearing
  | finished
deriving DecidableEq, Repr

structure ProxyThread where
  phase : ThreadPhase
  /-- `stop_ev.set` was handed to the thread's loop. -/
  signalled : Bool
deriving DecidableEq, Repr

/-- Where the user interface stands in its current call. -/
inductive Control where
  | idle
  /-- At `if _proxy_thread and _proxy_thread.is_alive()`. -/
  | startChecking
  | startConfiguring
  | startSpawning
  /-- At `if _async_stop`; `restart` tells whether `start_proxy` follows. -/
  | stopChecking (restart : Bool)
  /-- At `loop, stop_ev = _async_stop`. -/
  | stopUnpacking (restart : Bool)
  /-- At `loop.call_soon_threadsafe(stop_ev.set)`. -/
  | stopSignalling (restart : Bool) (target : Nat)
  | stopJoining (restart : Bool)
  | stopForgetting (restart : Bool)
deriving DecidableEq, Repr

structure Tray where
  /-- The thread whose loop and event `_async_stop` holds. -/
  asyncStop : Option Nat
  proxyThread : Option Nat
  /-- All proxy threads, in the order of their start. -/
  threads : List ProxyThread
  control : Control
deriving DecidableEq, Repr

inductive TrayEvent where
  | startProxy
  | stopProxy
  | restartProxy
  /-- The current call goes on.  The choice tells whether the configuration is
  valid, or whether the join times out. -/
  | control (choice : Bool)
  /-- A proxy thread goes on, or its `_run` raises. -/
  | thread (id : Nat) (crashes : Bool)
deriving DecidableEq, Repr

namespace Tray

def initial : Tray := ⟨none, none, [], .idle⟩

/-- `is_alive()`. -/
def alive (s : Tray) (id : Nat) : Bool :=
  match s.threads[id]? with
  | none => false
  | some thread => decide (thread.phase ≠ .finished)

def loopClosed (s : Tray) (id : Nat) : Bool :=
  match s.threads[id]? with
  | none => false
  | some thread =>
      decide (thread.phase = .clearing ∨ thread.phase = .finished)

def signal (s : Tray) (id : Nat) : Tray :=
  { s with
    threads := s.threads.modify id fun thread =>
      { thread with signalled := true } }

/-- The next step of the current call. -/
def controlStep (s : Tray) (choice : Bool) : Tray :=
  match s.control with
  | .idle => s
  | .startChecking =>
      match s.proxyThread with
      | none => { s with control := .startConfiguring }
      | some id =>
          if s.alive id then { s with control := .idle }
          else { s with control := .startConfiguring }
  | .startConfiguring =>
      if choice then { s with control := .startSpawning }
      else { s with control := .idle }
  | .startSpawning =>
      { s with
        proxyThread := some s.threads.length
        threads := s.threads ++ [⟨.started, false⟩]
        control := .idle }
  | .stopChecking restart =>
      match s.asyncStop with
      | none => { s with control := .stopForgetting restart }
      | some _ => { s with control := .stopUnpacking restart }
  | .stopUnpacking restart =>
      match s.asyncStop with
      -- Unpacking `None` raises, which ends the call.
      | none => { s with control := .idle }
      | some target => { s with control := .stopSignalling restart target }
  | .stopSignalling restart target =>
      -- So does `call_soon_threadsafe` on a closed loop.
      if s.loopClosed target then { s with control := .idle }
      else { s.signal target with control := .stopJoining restart }
  | .stopJoining restart =>
      match s.proxyThread with
      | none => { s with control := .stopForgetting restart }
      | some id =>
          if s.alive id && !choice then s
          else { s with control := .stopForgetting restart }
  | .stopForgetting restart =>
      { s with
        proxyThread := none
        control := if restart then .startChecking else .idle }

/-- The next step of `_run_proxy_thread`, with what it does to `_async_stop`. -/
def threadStep (thread : ProxyThread) (id : Nat) (crashes : Bool)
    (asyncStop : Option Nat) : ProxyThread × Option Nat :=
  match thread.phase with
  | .started => ({ thread with phase := .serving }, some id)
  | .serving =>
      if crashes then ({ thread with phase := .closing }, asyncStop)
      else if thread.signalled then
        ({ thread with phase := .draining }, asyncStop)
      else (thread, asyncStop)
  | .draining => ({ thread with phase := .closing }, asyncStop)
  | .closing => ({ thread with phase := .clearing }, asyncStop)
  | .clearing => ({ thread with phase := .finished }, none)
  | .finished => (thread, asyncStop)

def step (s : Tray) : TrayEvent → Tray
  | .startProxy =>
      if s.control = .idle then { s with control := .startChecking } else s
  | .stopProxy =>
      if s.control = .idle then { s with control := .stopChecking false } else s
  | .restartProxy =>
      if s.control = .idle then { s with control := .stopChecking true } else s
  | .control choice => s.controlStep choice
  | .thread id crashes =>
      match s.threads[id]? with
      | none => s
      | some thread =>
          let next := threadStep thread id crashes s.asyncStop
          { s with
            threads := s.threads.set id next.1
            asyncStop := next.2 }

/-- The thread serves: it has published its stop event and does not drain. -/
def Serving (s : Tray) (id : Nat) : Prop :=
  ∃ thread, s.threads[id]? = some thread ∧ thread.phase = .serving

def SomeServing (s : Tray) : Prop :=
  ∃ id, s.Serving id

/-- `_async_stop` refers to every thread which serves. -/
def Reaches (s : Tray) : Prop :=
  ∀ id, s.Serving id → s.asyncStop = some id

/-- The step does not write `_async_stop` while a thread serves. -/
def Undisturbed (s : Tray) : TrayEvent → Prop
  | .thread id _ =>
      ∀ thread, s.threads[id]? = some thread →
        thread.phase = .started ∨ thread.phase = .clearing →
        ¬ s.SomeServing
  | _ => True

/-- Where the thread stands, once it was started. -/
def phaseAt (s : Tray) (id : Nat) : Option ThreadPhase :=
  s.threads[id]?.map (·.phase)

section ControlSteps

theorem serving_iff (s : Tray) (id : Nat) :
    s.Serving id ↔ s.phaseAt id = some .serving := by
  simp [Serving, phaseAt]

theorem alive_iff (s : Tray) (id : Nat) :
    s.alive id = true ↔ ∃ phase, s.phaseAt id = some phase ∧ phase ≠ .finished := by
  unfold alive phaseAt
  cases s.threads[id]? with
  | none => simp
  | some thread => simp

theorem signal_phaseAt (s : Tray) (target id : Nat) :
    (s.signal target).phaseAt id = s.phaseAt id := by
  simp only [signal, phaseAt, List.getElem?_modify]
  cases s.threads[id]? with
  | none => rfl
  | some thread =>
      by_cases isTarget : target = id
      · simp [isTarget]
      · simp [isTarget]

theorem spawn_phaseAt {s : Tray} (spawning : s.control = .startSpawning)
    (choice : Bool) (id : Nat) :
    (s.controlStep choice).phaseAt id =
      if id = s.threads.length then some .started else s.phaseAt id := by
  rw [controlStep, spawning]
  simp only [phaseAt, List.getElem?_append]
  by_cases isNew : id = s.threads.length
  · rw [if_pos isNew, isNew, if_neg (Nat.lt_irrefl _), Nat.sub_self]
    rfl
  · rw [if_neg isNew]
    by_cases earlier : id < s.threads.length
    · rw [if_pos earlier]
    · have beyond : s.threads.length < id := by omega
      have outside : ([⟨.started, false⟩] : List ProxyThread)[id -
          s.threads.length]? = none := by
        apply List.getElem?_eq_none
        exact Nat.sub_pos_of_lt beyond
      rw [if_neg earlier, outside,
        List.getElem?_eq_none (Nat.le_of_lt beyond)]

/-- Otherwise the user interface neither starts a thread nor moves one on. -/
theorem controlStep_phaseAt {s : Tray} (notSpawning : s.control ≠ .startSpawning)
    (choice : Bool) (id : Nat) :
    (s.controlStep choice).phaseAt id = s.phaseAt id := by
  cases control : s.control with
  | startSpawning => exact absurd control notSpawning
  | stopSignalling restart target =>
      rw [controlStep, control]
      by_cases closed : s.loopClosed target = true
      · simp only [closed, if_true]
        rfl
      · simp only [closed]
        exact signal_phaseAt s target id
  | idle | startChecking | startConfiguring | stopChecking | stopUnpacking
  | stopJoining | stopForgetting =>
      simp only [controlStep, control]
      repeat' split
      all_goals rfl

theorem controlStep_asyncStop (s : Tray) (choice : Bool) :
    (s.controlStep choice).asyncStop = s.asyncStop := by
  unfold controlStep
  repeat' split
  all_goals rfl

theorem controlStep_serving (s : Tray) (choice : Bool) (id : Nat) :
    (s.controlStep choice).Serving id ↔ s.Serving id := by
  rw [serving_iff, serving_iff]
  by_cases spawning : s.control = .startSpawning
  · rw [spawn_phaseAt spawning]
    by_cases isNew : id = s.threads.length
    · rw [if_pos isNew, isNew]
      simp [phaseAt]
    · rw [if_neg isNew]
  · rw [controlStep_phaseAt spawning]

/-- The user interface neither writes `_async_stop` nor makes a thread serve. -/
theorem controlStep_reaches (s : Tray) (choice : Bool) :
    (s.controlStep choice).Reaches ↔ s.Reaches := by
  simp only [Reaches, controlStep_serving, controlStep_asyncStop]

end ControlSteps

section ThreadSteps

variable {s : Tray} {id : Nat} {thread : ProxyThread}

theorem set_phaseAt (present : s.threads[id]? = some thread)
    (next : ProxyThread) (asyncStop : Option Nat) (other : Nat) :
    phaseAt { s with threads := s.threads.set id next, asyncStop := asyncStop }
        other =
      if other = id then some next.phase else s.phaseAt other := by
  obtain ⟨inside, _⟩ := List.getElem?_eq_some_iff.mp present
  by_cases isOwn : other = id
  · subst isOwn
    rw [if_pos rfl]
    simp [phaseAt, List.getElem?_set_self inside]
  · rw [if_neg isOwn]
    simp [phaseAt, List.getElem?_set_ne (Ne.symm isOwn)]

theorem set_serving (present : s.threads[id]? = some thread)
    (next : ProxyThread) (asyncStop : Option Nat) (other : Nat) :
    Serving { s with threads := s.threads.set id next, asyncStop := asyncStop }
        other ↔
      if other = id then next.phase = .serving else s.Serving other := by
  rw [serving_iff, set_phaseAt present]
  by_cases isOwn : other = id
  · rw [if_pos isOwn, if_pos isOwn, Option.some.injEq]
  · rw [if_neg isOwn, if_neg isOwn, serving_iff]

/-- A step which leaves `_async_stop` alone and starts no service. -/
theorem quiet_reaches (present : s.threads[id]? = some thread)
    (next : ProxyThread)
    (quiet : next.phase = .serving → thread.phase = .serving)
    (reaches : s.Reaches) :
    Reaches { s with threads := s.threads.set id next } := by
  intro other serving
  apply reaches other
  have before := (set_serving present next s.asyncStop other).mp serving
  by_cases isOwn : other = id
  · rw [if_pos isOwn] at before
    rw [isOwn]
    exact ⟨thread, present, quiet before⟩
  · rw [if_neg isOwn] at before
    exact before

/-- A step which writes `_async_stop` leaves every other serving thread
unreferenced. -/
theorem write_reaches_iff (present : s.threads[id]? = some thread)
    (silent : thread.phase ≠ .serving) (next : ProxyThread)
    {asyncStop : Option Nat} (own : next.phase = .serving → asyncStop = some id)
    (notOther : ∀ other, asyncStop = some other → other = id) :
    Reaches { s with threads := s.threads.set id next, asyncStop := asyncStop } ↔
      ¬ s.SomeServing := by
  constructor
  · intro reaches ⟨other, serving⟩
    have differs : other ≠ id := by
      intro isOwn
      obtain ⟨found, atOther, phase⟩ := serving
      rw [isOwn, present] at atOther
      cases atOther
      exact silent phase
    have after : Serving { s with
        threads := s.threads.set id next, asyncStop := asyncStop } other := by
      rw [set_serving present, if_neg differs]
      exact serving
    exact differs (notOther other (reaches other after))
  · intro noneServing other serving
    have before := (set_serving present next asyncStop other).mp serving
    by_cases isOwn : other = id
    · rw [if_pos isOwn] at before
      rw [isOwn]
      exact own before
    · rw [if_neg isOwn] at before
      exact absurd ⟨other, before⟩ noneServing

theorem threadStep_reaches_iff (present : s.threads[id]? = some thread)
    (crashes : Bool) (reaches : s.Reaches) :
    Reaches { s with
        threads := s.threads.set id (threadStep thread id crashes s.asyncStop).1
        asyncStop := (threadStep thread id crashes s.asyncStop).2 } ↔
      (thread.phase = .started ∨ thread.phase = .clearing → ¬ s.SomeServing) := by
  have quiet (next : ProxyThread)
      (serves : next.phase = .serving → thread.phase = .serving)
      (writes : ¬ (thread.phase = .started ∨ thread.phase = .clearing)) :
      Reaches { s with threads := s.threads.set id next } ↔
        (thread.phase = .started ∨ thread.phase = .clearing →
          ¬ s.SomeServing) :=
    ⟨fun _ written => absurd written writes,
      fun _ => quiet_reaches present next serves reaches⟩
  cases phase : thread.phase with
  | started =>
      simp only [threadStep, phase, true_or, true_imp_iff]
      apply write_reaches_iff present
      · simp [phase]
      · intro _
        rfl
      · intro other refers
        exact (Option.some.inj refers).symm
  | clearing =>
      simp only [threadStep, phase, or_true, true_imp_iff]
      apply write_reaches_iff present
      · simp [phase]
      · intro serves
        cases serves
      · intro other refers
        cases refers
  | serving =>
      rw [← phase]
      by_cases crash : crashes = true
      · simp only [threadStep, phase, crash, if_true]
        simpa [phase] using quiet _ (by simp) (by simp [phase])
      · by_cases signalled : thread.signalled = true
        · simp only [threadStep, phase, crash, signalled, if_true]
          simpa [phase] using quiet _ (by simp) (by simp [phase])
        · simp only [threadStep, phase, crash, signalled]
          simpa [phase] using quiet thread (by simp) (by simp [phase])
  | draining | closing | finished =>
      simp only [threadStep, phase]
      simpa [phase] using quiet _ (by simp [phase]) (by simp [phase])

/-- One step keeps `_async_stop` right exactly when it is `Undisturbed`. -/
theorem step_reaches_iff (s : Tray) (event : TrayEvent) (reaches : s.Reaches) :
    (s.step event).Reaches ↔ s.Undisturbed event := by
  cases event with
  | startProxy | stopProxy | restartProxy =>
      rw [step]
      split
      · simp only [Undisturbed, iff_true]
        exact reaches
      · simp only [Undisturbed, iff_true]
        exact reaches
  | control choice =>
      simp only [Undisturbed, iff_true]
      exact (controlStep_reaches s choice).mpr reaches
  | thread id crashes =>
      simp only [step, Undisturbed]
      cases present : s.threads[id]? with
      | none => simp [reaches]
      | some thread =>
          simp only [Option.some.injEq, forall_eq']
          exact threadStep_reaches_iff present crashes reaches

end ThreadSteps

theorem initial_reaches : initial.Reaches := by
  intro id ⟨thread, present, _⟩
  cases present

/-- A thread which `_async_stop` refers to is signalled by `stop_proxy`. -/
theorem stop_signals {s : Tray} {id : Nat} (reaches : s.Reaches)
    (serving : s.Serving id) (idle : s.control = .idle) (choice : Bool) :
    ∃ thread,
      (run step s [.stopProxy, .control choice, .control choice,
        .control choice]).threads[id]? = some thread ∧
        thread.signalled = true := by
  have refers := reaches id serving
  obtain ⟨thread, present, phase⟩ := serving
  have opened : s.loopClosed id = false := by
    simp [loopClosed, present, phase]
  have signals : (run step s [.stopProxy, .control choice, .control choice,
      .control choice]).threads = (s.signal id).threads := by
    have openedLater (control : Control) :
        loopClosed { s with asyncStop := some id, control := control } id =
          false := opened
    simp only [run_cons, run_nil, step, idle, if_true, controlStep, refers,
      openedLater, Bool.false_eq_true, if_false]
    rfl
  refine ⟨{ thread with signalled := true }, ?_, rfl⟩
  rw [signals]
  simp [signal, present]

section OneThread

/-- `stop_proxy` forgets its thread only once every thread has finished. -/
def ForgetsFinished (s : Tray) : TrayEvent → Prop
  | .control _ => ∀ restart, s.control = .stopForgetting restart →
      ∀ id, s.alive id = false
  | _ => True

/-- Only the thread in `_proxy_thread` can be alive, and none is alive while
another one is about to be started. -/
structure OneThread (s : Tray) : Prop where
  only : ∀ id, s.alive id = true → s.proxyThread = some id
  starting : s.control = .startConfiguring ∨ s.control = .startSpawning →
    ∀ id, s.alive id = false

variable {s : Tray}

theorem alive_of_phaseAt {id : Nat} {phase : ThreadPhase}
    (present : s.phaseAt id = some phase) (unfinished : phase ≠ .finished) :
    s.alive id = true :=
  (alive_iff s id).mpr ⟨phase, present, unfinished⟩

theorem controlStep_alive (notSpawning : s.control ≠ .startSpawning)
    (choice : Bool) (id : Nat) :
    (s.controlStep choice).alive id = s.alive id := by
  rw [Bool.eq_iff_iff, alive_iff, alive_iff, controlStep_phaseAt notSpawning]

theorem controlStep_proxyThread (notSpawning : s.control ≠ .startSpawning)
    (notForgetting : ∀ restart, s.control ≠ .stopForgetting restart)
    (choice : Bool) :
    (s.controlStep choice).proxyThread = s.proxyThread := by
  cases control : s.control with
  | startSpawning => exact absurd control notSpawning
  | stopForgetting restart => exact absurd control (notForgetting restart)
  | idle | startChecking | startConfiguring | stopChecking | stopUnpacking
  | stopSignalling | stopJoining =>
      simp only [controlStep, control]
      repeat' split
      all_goals rfl

/-- `start_proxy` gets past its first test only without a live thread. -/
theorem controlStep_starting {choice : Bool}
    (next : (s.controlStep choice).control = .startConfiguring ∨
      (s.controlStep choice).control = .startSpawning) :
    s.control = .startConfiguring ∨
      ∀ id, s.proxyThread = some id → s.alive id = false := by
  cases control : s.control with
  | startConfiguring => exact .inl rfl
  | startChecking =>
      right
      intro id owner
      rw [controlStep, control, owner] at next
      by_cases alive : s.alive id = true
      · simp [alive] at next
      · exact Bool.eq_false_iff.mpr alive
  | idle | startSpawning | stopChecking | stopUnpacking | stopSignalling
  | stopJoining | stopForgetting =>
      exfalso
      simp only [controlStep, control] at next
      revert next
      repeat' split
      all_goals simp [control]

theorem OneThread.spawn (one : s.OneThread) (spawning : s.control = .startSpawning)
    (choice : Bool) : (s.controlStep choice).OneThread := by
  have phaseAt := spawn_phaseAt spawning choice
  constructor
  · intro id alive
    obtain ⟨phase, present, unfinished⟩ := (alive_iff _ id).mp alive
    rw [phaseAt] at present
    by_cases isNew : id = s.threads.length
    · rw [isNew, Tray.controlStep, spawning]
    · rw [if_neg isNew] at present
      have stopped := one.starting (.inr spawning) id
      rw [alive_of_phaseAt present unfinished] at stopped
      cases stopped
  · intro next
    rw [Tray.controlStep, spawning] at next
    simp at next

theorem OneThread.controlStep (one : s.OneThread) (choice : Bool)
    (forgets : s.ForgetsFinished (.control choice)) :
    (s.controlStep choice).OneThread := by
  by_cases spawning : s.control = .startSpawning
  · exact one.spawn spawning choice
  have sameAlive := controlStep_alive spawning choice
  constructor
  · intro id alive
    rw [sameAlive] at alive
    have notForgetting (restart : Bool) :
        s.control ≠ .stopForgetting restart := by
      intro forgetting
      rw [forgets restart forgetting id] at alive
      cases alive
    rw [controlStep_proxyThread spawning notForgetting]
    exact one.only id alive
  · intro next id
    rw [sameAlive]
    rcases controlStep_starting next with configuring | ownFinished
    · exact one.starting (.inl configuring) id
    · apply Bool.eq_false_iff.mpr
      intro alive
      rw [ownFinished id (one.only id alive)] at alive
      cases alive

/-- A finished thread stays finished. -/
theorem threadStep_finished {thread : ProxyThread} (id : Nat) (crashes : Bool)
    (asyncStop : Option Nat) (finished : thread.phase = .finished) :
    (threadStep thread id crashes asyncStop).1.phase = .finished := by
  simp [threadStep, finished]

theorem OneThread.threadStep {id : Nat} {thread : ProxyThread}
    (one : s.OneThread) (present : s.threads[id]? = some thread)
    (crashes : Bool) :
    OneThread { s with
      threads := s.threads.set id (Tray.threadStep thread id crashes s.asyncStop).1
      asyncStop := (Tray.threadStep thread id crashes s.asyncStop).2 } := by
  have before (other : Nat)
      (alive : Tray.alive { s with
        threads := s.threads.set id (Tray.threadStep thread id crashes s.asyncStop).1
        asyncStop := (Tray.threadStep thread id crashes s.asyncStop).2 }
          other = true) : s.alive other = true := by
    obtain ⟨phase, after, unfinished⟩ := (alive_iff _ other).mp alive
    rw [set_phaseAt present] at after
    by_cases isOwn : other = id
    · rw [if_pos isOwn, Option.some.injEq] at after
      have own : s.phaseAt other = some thread.phase := by
        rw [isOwn, phaseAt, present, Option.map_some]
      apply alive_of_phaseAt own
      intro finished
      apply unfinished
      rw [← after]
      exact threadStep_finished id crashes s.asyncStop finished
    · rw [if_neg isOwn] at after
      exact alive_of_phaseAt after unfinished
  constructor
  · intro other alive
    exact one.only other (before other alive)
  · intro starting other
    apply Bool.eq_false_iff.mpr
    intro alive
    have stopped := one.starting starting other
    rw [before other alive] at stopped
    cases stopped

theorem OneThread.step (one : s.OneThread) {event : TrayEvent}
    (forgets : s.ForgetsFinished event) : (s.step event).OneThread := by
  cases event with
  | startProxy | stopProxy | restartProxy =>
      rw [Tray.step]
      split
      · exact ⟨one.only, by simp⟩
      · exact one
  | control choice => exact one.controlStep choice forgets
  | thread id crashes =>
      rw [Tray.step]
      cases present : s.threads[id]? with
      | none => exact one
      | some thread => exact one.threadStep present crashes

/-- The thread in `_proxy_thread` disturbs no other one. -/
theorem OneThread.undisturbed (one : s.OneThread) (event : TrayEvent) :
    s.Undisturbed event := by
  cases event with
  | startProxy | stopProxy | restartProxy | control choice => trivial
  | thread id crashes =>
      intro thread present writes ⟨other, serving⟩
      have own : s.phaseAt id = some thread.phase := by
        rw [phaseAt, present, Option.map_some]
      have notFinished : thread.phase ≠ .finished := by
        rcases writes with started | clearing
        · simp [started]
        · simp [clearing]
      rw [serving_iff] at serving
      have ownThread := one.only id (alive_of_phaseAt own notFinished)
      have otherThread := one.only other (alive_of_phaseAt serving (by simp))
      rw [ownThread, Option.some.injEq] at otherThread
      rw [← otherThread, own, Option.some.injEq] at serving
      rcases writes with started | clearing
      · rw [started] at serving
        cases serving
      · rw [clearing] at serving
        cases serving

theorem initial_oneThread : initial.OneThread := by
  constructor
  · intro id alive
    cases alive
  · intro starting
    simp [initial] at starting

/-- Were `stop_proxy` to return only after the drain, `_async_stop` would
always refer to the thread which serves. -/
theorem forgetsFinished_reaches {events : List TrayEvent}
    (met : AllSteps Tray.step ForgetsFinished initial events) :
    (run Tray.step initial events).OneThread ∧
      (run Tray.step initial events).Reaches := by
  have preserved (s : Tray) (event : TrayEvent)
      (kept : s.OneThread ∧ s.Reaches) (forgets : s.ForgetsFinished event) :
      (s.step event).OneThread ∧ (s.step event).Reaches :=
    ⟨kept.1.step forgets,
      (step_reaches_iff s event kept.2).mpr (kept.1.undisturbed event)⟩
  exact @AllSteps.invariant _ _ _ _ (fun s => s.OneThread ∧ s.Reaches)
    preserved _ _ ⟨initial_oneThread, initial_reaches⟩ met

end OneThread

/-- `_async_stop` refers to the serving threads throughout a run exactly when
no thread publishes its handle, or clears `_async_stop`, while another one
serves; as it always would if `stop_proxy` returned only after the drain.  Where
it does, `stop_proxy` signals the thread. -/
theorem reaches_throughout_iff (events : List TrayEvent) :
    ((∀ earlier, earlier <+: events → (run step initial earlier).Reaches) ↔
      AllSteps step Undisturbed initial events) ∧
    (AllSteps step ForgetsFinished initial events →
      (run step initial events).OneThread ∧ (run step initial events).Reaches) ∧
    ∀ (s : Tray) (id : Nat) (choice : Bool), s.Reaches → s.Serving id →
      s.control = .idle →
        ∃ thread,
          (run step s [.stopProxy, .control choice, .control choice,
            .control choice]).threads[id]? = some thread ∧
            thread.signalled = true := by
  refine ⟨?_, forgetsFinished_reaches, ?_⟩
  · exact invariant_throughout_iff_allSteps step_reaches_iff initial_reaches
      events
  · intro s id choice reaches serving idle
    exact stop_signals reaches serving idle choice

/-- A thread which still drains when `stop_proxy` gives up on it clears the
handle of its successor. -/
theorem late_cleanup_forgets_successor :
    ¬ ∀ events : List TrayEvent, (run step initial events).Reaches := by
  intro always
  have refers := always
    ([.startProxy, .control true, .control true, .control true, .thread 0 false,
      .stopProxy, .control true, .control true, .control true, .thread 0 false,
      .control true, .control true,
      .startProxy, .control true, .control true, .control true, .thread 1 false,
      .thread 0 false, .thread 0 false, .thread 0 false])
    1 ⟨⟨.serving, false⟩, rfl, rfl⟩
  cases refers

end Tray

end TgWsProxy.Python
