import TgWsProxy.Bytes
import TgWsProxy.Lib.Runs

/-!
# The domain refresher across restarts

`start_cfproxy_domain_refresh` of `proxy/config.py` keeps its task and its stop
event in module variables, which outlive the event loop of a run.  A run has
its own loop, numbered by the run; `_run_proxy_thread` closes it when the run
ends, with the refresh task wherever it is then suspended.
-/

namespace TgWsProxy.Python

open Lib

/-- Where the `_loop` of a refresh task stands. -/
inductive RefreshStage where
  | created
  /-- In `run_in_executor(None, refresh_cfproxy_domains)`. -/
  | fetching
  /-- In `wait_for(stop.wait(), timeout=3600)`. -/
  | waiting
  | finished
  | failed
  | cancelled
deriving DecidableEq, Repr

structure RefreshTask where
  loop : Nat
  stage : RefreshStage
deriving DecidableEq, Repr

namespace RefreshTask

def done (task : RefreshTask) : Bool :=
  match task.stage with
  | .created | .fetching | .waiting => false
  | .finished | .failed | .cancelled => true

/-- `cancel()`. -/
def cancel (task : RefreshTask) : RefreshTask :=
  if task.done then task else { task with stage := .cancelled }

/-- `await asyncio.wait_for(task, timeout=5)` on the given loop.  A task of
this loop runs on meanwhile, and it ends in time or not. -/
def waitFor (task : RefreshTask) (loop : Nat) (finishesInTime : Bool) :
    Except PyError Unit × RefreshTask :=
  if task.stage = .failed then (.error .runtimeError, task)
  else if task.stage = .cancelled then (.error .cancelledError, task)
  else if task.stage = .finished then (.ok (), task)
  else if task.loop ≠ loop then (.error .runtimeError, task)
  else if finishesInTime then (.ok (), { task with stage := .finished })
  else (.error .timeoutError, task.cancel)

end RefreshTask

/-- A future on which `Event.wait` is suspended. -/
structure Waiter where
  loop : Nat
  done : Bool
  hasCallbacks : Bool
deriving DecidableEq, Repr

/-- `set_result(True)`: scheduling a callback on a closed loop raises, after
the future was completed. -/
def Waiter.setResult (closed : Nat → Bool) (waiter : Waiter) :
    Except PyError Unit × Waiter :=
  (if waiter.hasCallbacks && closed waiter.loop then .error .runtimeError
    else .ok (),
    { waiter with done := true, hasCallbacks := false })

/-- The loop of `Event.set` over its waiters. -/
def completeWaiters (closed : Nat → Bool) :
    List Waiter → Except PyError Unit × List Waiter
  | [] => (.ok (), [])
  | waiter :: waiters =>
      if waiter.done then
        let (result, waiters) := completeWaiters closed waiters
        (result, waiter :: waiters)
      else
        match waiter.setResult closed with
        | (.error error, waiter) => (.error error, waiter :: waiters)
        | (.ok (), waiter) =>
            let (result, waiters) := completeWaiters closed waiters
            (result, waiter :: waiters)

/-- `asyncio.Event`. -/
structure StopEvent where
  value : Bool
  waiters : List Waiter
deriving DecidableEq, Repr

namespace StopEvent

def new : StopEvent := ⟨false, []⟩

/-- `set()`. -/
def set (closed : Nat → Bool) (event : StopEvent) :
    Except PyError Unit × StopEvent :=
  if event.value then (.ok (), event)
  else
    let (result, waiters) := completeWaiters closed event.waiters
    (result, ⟨true, waiters⟩)

end StopEvent

/-- The module variables, with the tasks which were replaced. -/
structure RefreshModule where
  refreshStop : StopEvent
  refreshTask : Option RefreshTask
  replaced : List RefreshTask
deriving DecidableEq, Repr

namespace RefreshModule

/-- The module after its import. -/
def initial : RefreshModule := ⟨.new, none, []⟩

/-- The end of `start_cfproxy_domain_refresh`: a new event and a new task. -/
def launch (s : RefreshModule) (loop : Nat) : RefreshModule :=
  { refreshStop := .new
    refreshTask := some ⟨loop, .created⟩
    replaced := s.replaced ++ s.refreshTask.toList }

/-- `start_cfproxy_domain_refresh`, on the running loop `loop`. -/
def startCfproxyDomainRefresh (closed : Nat → Bool) (loop : Nat)
    (finishesInTime : Bool) (s : RefreshModule) :
    Except PyError Unit × RefreshModule :=
  match s.refreshTask with
  | none => (.ok (), s.launch loop)
  | some task =>
      match s.refreshStop.set closed with
      | (.error error, refreshStop) => (.error error, { s with refreshStop })
      | (.ok (), refreshStop) =>
          match task.waitFor loop finishesInTime with
          | (.ok (), task) =>
              (.ok (),
                launch { s with refreshStop, refreshTask := some task } loop)
          | (.error .timeoutError, task) | (.error .cancelledError, task) =>
              (.ok (),
                launch { s with refreshStop, refreshTask := some task.cancel }
                  loop)
          | (.error error, task) =>
              (.error error, { s with refreshStop, refreshTask := some task })

end RefreshModule

/-- What lets `_loop` go on. -/
inductive RefreshEvent where
  | firstStep
  | fetched
  | executorFails
  | timedOut
  | stopSeen
deriving DecidableEq, Repr

namespace RefreshModule

/-- One resumption of `_loop`. -/
def taskStep (s : RefreshModule) (event : RefreshEvent) : RefreshModule :=
  match s.refreshTask with
  | none => s
  | some task =>
      let become (stage : RefreshStage) (waiters : List Waiter) :=
        { s with
          refreshTask := some { task with stage }
          refreshStop := { s.refreshStop with waiters } }
      match task.stage, event with
      | .created, .firstStep => become .fetching s.refreshStop.waiters
      | .fetching, .fetched =>
          if s.refreshStop.value then become .finished s.refreshStop.waiters
          else become .waiting [⟨task.loop, false, true⟩]
      | .fetching, .executorFails => become .failed s.refreshStop.waiters
      | .waiting, .timedOut => become .fetching []
      | .waiting, .stopSeen =>
          if s.refreshStop.value then become .finished [] else s
      | _, _ => s

def pendingTasks (s : RefreshModule) : List RefreshTask :=
  (s.replaced ++ s.refreshTask.toList).filter (!·.done)

end RefreshModule

/-- What the environment decides in one run. -/
structure RunChoices where
  finishesInTime : Bool
  events : List RefreshEvent
deriving DecidableEq, Repr

namespace RefreshModule

/-- The start of the refresher in run `index`; the earlier loops are closed. -/
def startRun (s : RefreshModule) (choices : RunChoices) (index : Nat) :
    Except PyError Unit × RefreshModule :=
  s.startCfproxyDomainRefresh (fun loop => decide (loop < index)) index
    choices.finishesInTime

/-- The module when run `index` has ended and its loop is closed. -/
def afterRun (s : RefreshModule) (choices : RunChoices) (index : Nat) :
    RefreshModule :=
  match s.startRun choices index with
  | (.ok (), s) => run taskStep s choices.events
  | (.error _, s) => s

/-- The module before run `index`. -/
def beforeRun (choices : Nat → RunChoices) : Nat → RefreshModule
  | 0 => initial
  | index + 1 => (beforeRun choices index).afterRun (choices index) index

end RefreshModule

/-- The refresher starts in run `index`, and there is one pending refresh task,
which belongs to the loop of this run. -/
def RunSucceeds (choices : Nat → RunChoices) (index : Nat) : Prop :=
  let started :=
    (RefreshModule.beforeRun choices index).startRun (choices index) index
  started.1 = .ok () ∧
    ∃ task, started.2.refreshTask = some task ∧ task.loop = index ∧
      started.2.pendingTasks = [task]

/-- The task of the first run can neither finish nor be cancelled any more. -/
structure Stranded (s : RefreshModule) (task : RefreshTask) : Prop where
  task_eq : s.refreshTask = some task
  loop_eq : task.loop = 0
  unfinished : task.stage ≠ .finished
  uncancelled : task.stage ≠ .cancelled

section Stranded

variable {s : RefreshModule} {task : RefreshTask}

theorem Stranded.waitFor (stranded : Stranded s task) {loop : Nat}
    (later : loop ≠ 0) (finishesInTime : Bool) :
    task.waitFor loop finishesInTime = (.error .runtimeError, task) := by
  have elsewhere : task.loop ≠ loop := by
    rw [stranded.loop_eq]
    exact Ne.symm later
  by_cases failed : task.stage = .failed
  · rw [RefreshTask.waitFor, if_pos failed]
  · rw [RefreshTask.waitFor, if_neg failed, if_neg stranded.uncancelled,
      if_neg stranded.unfinished, if_pos elsewhere]

/-- On a later loop the start raises and leaves the task where it is. -/
theorem Stranded.startRun (stranded : Stranded s task) (choices : RunChoices)
    {index : Nat} (later : index ≠ 0) :
    ∃ error s', s.startRun choices index = (.error error, s') ∧
      Stranded s' task := by
  have kept (s' : RefreshModule) (same : s'.refreshTask = some task) :
      Stranded s' task :=
    ⟨same, stranded.loop_eq, stranded.unfinished, stranded.uncancelled⟩
  simp only [RefreshModule.startRun, RefreshModule.startCfproxyDomainRefresh,
    stranded.task_eq, stranded.waitFor later]
  split
  · exact ⟨_, _, rfl, kept _ rfl⟩
  · exact ⟨_, _, rfl, kept _ rfl⟩

/-- During the first run the stop event is not set. -/
def Unstopped (s : RefreshModule) : Prop :=
  s.refreshStop.value = false ∧ ∃ task, Stranded s task

/-- So `_loop` does not return. -/
theorem taskStep_unstopped (s : RefreshModule) (event : RefreshEvent)
    (running : Unstopped s) : Unstopped (s.taskStep event) := by
  obtain ⟨unset, task, stranded⟩ := running
  have become (stage : RefreshStage) (waiters : List Waiter)
      (unfinished : stage ≠ .finished) (uncancelled : stage ≠ .cancelled) :
      Stranded
        { s with
          refreshTask := some { task with stage }
          refreshStop := { s.refreshStop with waiters } }
        { task with stage } :=
    ⟨rfl, stranded.loop_eq, unfinished, uncancelled⟩
  have notSet : ¬ s.refreshStop.value = true := by
    rw [unset]
    exact Bool.false_ne_true
  simp only [RefreshModule.taskStep, stranded.task_eq]
  split
  · exact ⟨unset, _, become _ _ (by simp) (by simp)⟩
  · rw [if_neg notSet]
    exact ⟨unset, _, become _ _ (by simp) (by simp)⟩
  · exact ⟨unset, _, become _ _ (by simp) (by simp)⟩
  · exact ⟨unset, _, become _ _ (by simp) (by simp)⟩
  · rw [if_neg notSet]
    exact ⟨unset, task, stranded⟩
  · exact ⟨unset, task, stranded⟩

end Stranded

section Runs

variable (choices : Nat → RunChoices)

/-- Before every run but the first, the first run's task is stranded. -/
theorem beforeRun_stranded (index : Nat) :
    ∃ task, Stranded (RefreshModule.beforeRun choices (index + 1)) task := by
  induction index with
  | zero =>
      have launched : Unstopped (RefreshModule.initial.launch 0) :=
        ⟨rfl, _, rfl, rfl, by simp, by simp⟩
      exact (run_invariant taskStep_unstopped (choices 0).events launched).2
  | succ index induction =>
      obtain ⟨task, stranded⟩ := induction
      obtain ⟨error, next, raised, kept⟩ := stranded.startRun
        (choices (index + 1)) (Nat.succ_ne_zero index)
      refine ⟨task, ?_⟩
      rw [RefreshModule.beforeRun, RefreshModule.afterRun, raised]
      exact kept

theorem runSucceeds_iff (index : Nat) :
    RunSucceeds choices index ↔ index = 0 := by
  cases index with
  | zero =>
      constructor
      · intro _
        rfl
      · intro _
        exact ⟨rfl, _, rfl, rfl, rfl⟩
  | succ index =>
      obtain ⟨task, stranded⟩ := beforeRun_stranded choices index
      obtain ⟨error, next, raised, -⟩ := stranded.startRun
        (choices (index + 1)) (Nat.succ_ne_zero index)
      constructor
      · rintro ⟨started, -⟩
        rw [raised] at started
        cases started
      · intro first
        cases first

end Runs

/-- The refresher survives `count` runs only if there is no restart. -/
theorem runs_succeed_iff (choices : Nat → RunChoices) (count : Nat) :
    (∀ index, index < count → RunSucceeds choices index) ↔ count ≤ 1 := by
  constructor
  · intro succeed
    by_contra more
    have second := (runSucceeds_iff choices 1).mp (succeed 1 (by omega))
    cases second
  · intro single index below
    apply (runSucceeds_iff choices index).mpr
    omega

/-- Two runs; the first ends while its task waits for the stop event, so the
start in the second raises in `_refresh_stop.set()`. -/
theorem second_run_fails_waiting :
    let choices : Nat → RunChoices := fun _ => ⟨true, [.firstStep, .fetched]⟩
    ((RefreshModule.beforeRun choices 1).startRun (choices 1) 1).1 =
        .error .runtimeError ∧
      ¬ ∀ index, index < 2 → RunSucceeds choices index := by
  refine ⟨by decide, ?_⟩
  intro succeed
  have started := (succeed 1 (by decide)).1
  revert started
  decide

end TgWsProxy.Python
