import TgWsProxy.Lib.Runs
import TgWsProxy.Lib.Slots

/-!
# The shutdown of the Python proxy

`_run` of `proxy/tg_ws_proxy.py` from the start of its server on, with a
`stop_event` and as long as nobody cancels it: `client_cb` makes a task for each
client, which is in `_client_tasks` until its callback runs, and a stop closes the
server, waits for the tasks, and cancels those which are left after
`shutdown_timeout`.
-/

namespace TgWsProxy.Python

open Lib

structure ClientTask where
  done : Bool
  /-- `cancel()` was called. -/
  cancelled : Bool
  /-- The transport of the client's connection is open. -/
  connected : Bool
deriving DecidableEq, Repr

/-- Where `_run` waits. -/
inductive ServerPhase where
  | serving
  /-- In `wait_closed`, behind `server.close()`. -/
  | closing
  | cancellingServe
  | draining (clientTasks : List Nat)
  | forcing (pending : List Nat)
  /-- In the `__aexit__` of the server. -/
  | leaving
  | ended
deriving DecidableEq, Repr

structure Server where
  phase : ServerPhase
  /-- The connections whose `client_cb` was not called yet. -/
  accepted : Nat
  /-- The tasks which `client_cb` has made. -/
  tasks : List ClientTask
  /-- `_client_tasks`, by their places in `tasks`. -/
  clientTasks : List Nat
deriving DecidableEq, Repr

inductive ServerEvent where
  /-- The transport of a new connection is made. -/
  | accepts
  | clientCb
  /-- `_handle_client` ends, by a return, an exception or its cancellation. -/
  | taskEnds (id : Nat)
  /-- The transport of a client is lost: its writer was closed, or the client has
  reset the connection. -/
  | connectionLost (id : Nat)
  /-- `_client_tasks.discard`, when the task has ended. -/
  | discards (id : Nat)
  /-- `stop_event` is set. -/
  | stop
  /-- What `_run` waits for has come. -/
  | wakes
  /-- `shutdown_timeout` is over. -/
  | timesOut
deriving DecidableEq, Repr

namespace Server

def start : Server := ⟨.serving, 0, [], []⟩

/-- The task at this place has the property. -/
def has (s : Server) (property : ClientTask → Bool) (id : Nat) : Bool :=
  s.tasks[id]?.any property

/-- `not t.done()`. -/
def alive (s : Server) (id : Nat) : Bool := s.has (!·.done) id

def connected (s : Server) (id : Nat) : Bool := s.has (·.connected) id

/-- Each connection had its task, and no task is left. -/
def Quiet (s : Server) : Prop :=
  s.accepted = 0 ∧ ∀ task ∈ s.tasks, task.done = true

/-- No connection is open. -/
def Unconnected (s : Server) : Prop :=
  s.accepted = 0 ∧ ∀ task ∈ s.tasks, task.connected = false

instance (s : Server) : Decidable s.Unconnected := by
  unfold Unconnected
  infer_instance

/-- What `_run` waits for.  `wait_closed` waits for the transports of the
connections since Python 3.12; a connection which was accepted before `close()`
is in `client_cb` before `serve_task` has ended. -/
def Awakes (waits : Bool) (s : Server) : Prop :=
  match s.phase with
  | .serving | .ended => False
  | .closing | .leaving => waits = true → s.Unconnected
  | .cancellingServe => s.accepted = 0
  | .draining ids | .forcing ids => ∀ id ∈ ids, s.alive id = false

instance (waits : Bool) (s : Server) : Decidable (s.Awakes waits) := by
  unfold Awakes
  split <;> infer_instance

def goOn (s : Server) : Server :=
  match s.phase with
  | .serving | .ended => s
  | .closing => { s with phase := .cancellingServe }
  | .cancellingServe =>
      if s.clientTasks = [] then { s with phase := .leaving }
      else { s with phase := .draining s.clientTasks }
  | .draining _ | .forcing _ => { s with phase := .leaving }
  | .leaving => { s with phase := .ended }

/-- `asyncio.wait` with its timeout. -/
def timesOut (s : Server) : Server :=
  match s.phase with
  | .draining ids =>
      let pending := ids.filter (s.alive ·)
      if pending = [] then { s with phase := .leaving }
      else
        { s with
          phase := .forcing pending
          tasks := s.tasks.mapIdx fun id task =>
            if id ∈ pending then { task with cancelled := true } else task }
  | _ => s

def step (waits : Bool) (s : Server) : ServerEvent → Server
  | .accepts =>
      if s.phase = .serving then { s with accepted := s.accepted + 1 } else s
  | .clientCb =>
      if s.accepted = 0 then s
      else
        { s with
          accepted := s.accepted - 1
          tasks := s.tasks ++ [⟨false, false, true⟩]
          clientTasks := s.clientTasks ++ [s.tasks.length] }
  | .taskEnds id =>
      { s with
        tasks := s.tasks.modify id fun task => { task with done := true } }
  | .connectionLost id =>
      { s with
        tasks := s.tasks.modify id fun task => { task with connected := false } }
  | .discards id =>
      if s.alive id = false then
        { s with clientTasks := s.clientTasks.filter (· ≠ id) }
      else s
  | .stop => if s.phase = .serving then { s with phase := .closing } else s
  | .wakes => if s.Awakes waits then s.goOn else s
  | .timesOut => s.timesOut

/-- The clients which `_run` takes to be left. -/
def known (s : Server) : Option (List Nat) :=
  match s.phase with
  | .serving | .closing | .cancellingServe => none
  | .draining ids | .forcing ids => some ids
  | .leaving | .ended => some []

/-- `shutdown_timeout` may be over. -/
def late (s : Server) : Bool :=
  match s.phase with
  | .forcing _ | .leaving | .ended => true
  | _ => false

structure Kept (s : Server) : Prop where
  tracked : ∀ id, s.alive id = true → id ∈ s.clientTasks
  known : ∀ ids, s.known = some ids →
    s.accepted = 0 ∧ ∀ id, s.alive id = true → id ∈ ids
  uncancelled : s.late = false → ∀ task ∈ s.tasks, task.cancelled = false

section Kept

variable {s : Server}

theorem start_kept : start.Kept :=
  ⟨nofun, nofun, nofun⟩

theorem alive_clientCb (s : Server) (accepted : Nat) (clientTasks : List Nat)
    (id : Nat) :
    alive { s with
      accepted, clientTasks, tasks := s.tasks ++ [⟨false, false, true⟩] } id =
        true ↔ s.alive id = true ∨ id = s.tasks.length := by
  unfold alive has
  rcases Nat.lt_trichotomy id s.tasks.length with below | rfl | above
  · simp [List.getElem?_append_left below, Nat.ne_of_lt below]
  · simp
  · have absent : s.tasks[id]? = none := List.getElem?_eq_none above.le
    have outside : (s.tasks ++ [⟨false, false, true⟩])[id]? = none := by
      apply List.getElem?_eq_none
      simp only [List.length_append, List.length_singleton]
      omega
    simp [absent, outside, Nat.ne_of_gt above]

/-- A change to one task which does not bring it back to life. -/
theorem alive_modify {change : ClientTask → ClientTask}
    (ends : ∀ task, task.done = true → (change task).done = true) {place id : Nat}
    (alive : alive { s with tasks := s.tasks.modify place change } id = true) :
    s.alive id = true := by
  obtain ⟨after, found, lives⟩ := (Option.any_eq_true _ _).mp alive
  rw [List.getElem?_modify] at found
  obtain ⟨task, wasThere, rfl⟩ := Option.map_eq_some_iff.mp found
  refine (Option.any_eq_true _ _).mpr ⟨task, wasThere, ?_⟩
  cases done : task.done with
  | false => rfl
  | true =>
      have ended := ends task done
      split at lives
      · simp [ended] at lives
      · simp [done] at lives

theorem alive_cancelling (s : Server) (phase : ServerPhase) (pending : List Nat)
    (id : Nat) :
    alive { s with
      phase
      tasks := s.tasks.mapIdx fun id task =>
        if id ∈ pending then { task with cancelled := true } else task } id =
      s.alive id := by
  unfold alive has
  simp only [List.getElem?_mapIdx]
  cases s.tasks[id]? with
  | none => rfl
  | some task =>
      simp only [Option.map_some, Option.any_some]
      split <;> rfl

theorem Kept.clientCb (kept : s.Kept) (some : s.accepted ≠ 0) :
    Kept { s with
      accepted := s.accepted - 1
      tasks := s.tasks ++ [⟨false, false, true⟩]
      clientTasks := s.clientTasks ++ [s.tasks.length] } := by
  refine ⟨fun id alive => ?_, fun ids known => ?_, fun early task member => ?_⟩
  · rcases (alive_clientCb s _ _ id).mp alive with before | rfl
    · exact List.mem_append_left _ (kept.tracked id before)
    · exact List.mem_append_right _ (List.mem_singleton_self _)
  · exact absurd (kept.known ids known).1 some
  · rcases List.mem_append.mp member with before | new
    · exact kept.uncancelled early task before
    · cases List.mem_singleton.mp new
      rfl

theorem Kept.modify (kept : s.Kept) {change : ClientTask → ClientTask}
    (ends : ∀ task, task.done = true → (change task).done = true)
    (spares : ∀ task, (change task).cancelled = task.cancelled) (place : Nat) :
    Kept { s with tasks := s.tasks.modify place change } := by
  refine ⟨fun id alive => ?_, fun ids known => ?_, fun early task member => ?_⟩
  · exact kept.tracked id (alive_modify ends alive)
  · obtain ⟨accepted, left⟩ := kept.known ids known
    exact ⟨accepted, fun id alive => left id (alive_modify ends alive)⟩
  · obtain ⟨id, found⟩ := List.mem_iff_getElem?.mp member
    rw [List.getElem?_modify] at found
    obtain ⟨old, wasThere, rfl⟩ := Option.map_eq_some_iff.mp found
    have uncancelled := kept.uncancelled early old
      (List.mem_of_getElem? wasThere)
    split
    · exact (spares old).trans uncancelled
    · exact uncancelled

theorem Kept.discards (kept : s.Kept) {ended : Nat}
    (done : s.alive ended = false) :
    Kept { s with clientTasks := s.clientTasks.filter (· ≠ ended) } := by
  refine ⟨fun id alive => ?_, kept.known, kept.uncancelled⟩
  refine List.mem_filter.mpr ⟨kept.tracked id alive, decide_eq_true ?_⟩
  rintro rfl
  exact Bool.false_ne_true (done.symm.trans alive)

/-- `_run` goes on with what it has waited for. -/
theorem Kept.goOn (kept : s.Kept) {waits : Bool} (awakes : s.Awakes waits) :
    s.goOn.Kept := by
  have leaves {ids : List Nat} (known : s.known = some ids)
      (ended : ∀ id ∈ ids, s.alive id = false) :
      Kept { s with phase := .leaving } := by
    obtain ⟨accepted, left⟩ := kept.known ids known
    refine ⟨kept.tracked, ?_, nofun⟩
    rintro _ ⟨⟩
    refine ⟨accepted, fun id alive => ?_⟩
    exact absurd alive (Bool.eq_false_iff.mp (ended id (left id alive)))
  unfold Server.goOn
  unfold Awakes at awakes
  cases phase : s.phase with
  | serving => exact kept
  | ended => exact kept
  | closing =>
      refine ⟨kept.tracked, nofun, fun _ => kept.uncancelled ?_⟩
      rw [late, phase]
  | cancellingServe =>
      rw [phase] at awakes
      have uncancelled := kept.uncancelled (by rw [late, phase])
      by_cases none : s.clientTasks = []
      · simp only [if_pos none]
        refine ⟨kept.tracked, ?_, nofun⟩
        rintro _ ⟨⟩
        exact ⟨awakes, fun id alive => none ▸ kept.tracked id alive⟩
      · simp only [if_neg none]
        refine ⟨kept.tracked, ?_, fun _ => uncancelled⟩
        rintro _ ⟨⟩
        exact ⟨awakes, kept.tracked⟩
  | draining ids =>
      rw [phase] at awakes
      exact leaves (by rw [Server.known, phase]) awakes
  | forcing ids =>
      rw [phase] at awakes
      exact leaves (by rw [Server.known, phase]) awakes
  | leaving =>
      refine ⟨kept.tracked, ?_, nofun⟩
      rintro _ ⟨⟩
      exact kept.known [] (by rw [Server.known, phase])

theorem Kept.timesOut (kept : s.Kept) : s.timesOut.Kept := by
  unfold Server.timesOut
  split
  · rename_i ids phase
    obtain ⟨accepted, left⟩ := kept.known ids (by rw [Server.known, phase])
    have pending (id : Nat) (alive : s.alive id = true) :
        id ∈ ids.filter (s.alive ·) :=
      List.mem_filter.mpr ⟨left id alive, alive⟩
    dsimp only
    split
    · rename_i none
      refine ⟨kept.tracked, ?_, nofun⟩
      rintro _ ⟨⟩
      exact ⟨accepted, fun id alive => none ▸ pending id alive⟩
    · refine ⟨fun id alive => ?_, ?_, nofun⟩
      · rw [alive_cancelling] at alive
        exact kept.tracked id alive
      · rintro _ ⟨⟩
        refine ⟨accepted, fun id alive => ?_⟩
        rw [alive_cancelling] at alive
        exact pending id alive
  · exact kept

theorem Kept.step (kept : s.Kept) (waits : Bool) (event : ServerEvent) :
    (s.step waits event).Kept := by
  cases event with
  | accepts =>
      simp only [Server.step]
      split
      · rename_i serving
        refine ⟨kept.tracked, fun ids known => ?_, kept.uncancelled⟩
        rw [Server.known, serving] at known
        cases known
      · exact kept
  | clientCb =>
      simp only [Server.step]
      split
      · exact kept
      · rename_i some
        exact kept.clientCb some
  | taskEnds place =>
      refine kept.modify ?_ ?_ place
      · exact fun _ _ => rfl
      · exact fun _ => rfl
  | connectionLost place =>
      refine kept.modify ?_ ?_ place
      · exact fun _ done => done
      · exact fun _ => rfl
  | discards id =>
      simp only [Server.step]
      split
      · rename_i done
        exact kept.discards done
      · exact kept
  | stop =>
      simp only [Server.step]
      split
      · rename_i serving
        refine ⟨kept.tracked, nofun, fun _ => kept.uncancelled ?_⟩
        rw [late, serving]
      · exact kept
  | wakes =>
      simp only [Server.step]
      split
      · rename_i awakes
        exact kept.goOn awakes
      · exact kept
  | timesOut => exact kept.timesOut

theorem Kept.run (kept : s.Kept) (waits : Bool) (events : List ServerEvent) :
    (Lib.run (Server.step waits) s events).Kept := by
  have preserved (s : Server) (event : ServerEvent) (kept : s.Kept) :
      (s.step waits event).Kept := kept.step waits event
  exact run_invariant preserved events kept

end Kept

/-! ### How far the shutdown has come -/

def progress (s : Server) : Nat :=
  match s.phase with
  | .serving => 0
  | .closing => 1
  | .cancellingServe => 2
  | .draining _ => 3
  | .forcing _ => 4
  | .leaving => 5
  | .ended => 6

section Progress

variable {s : Server} {waits : Bool}

theorem progress_le (s : Server) : s.progress ≤ 6 := by
  unfold progress
  split <;> decide

theorem one_le_progress (stopped : s.phase ≠ .serving) : 1 ≤ s.progress := by
  cases phase : s.phase with
  | serving => exact absurd phase stopped
  | cancellingServe | closing | draining | forcing | leaving | ended =>
      simp [progress, phase]

theorem progress_goOn (started : 1 ≤ s.progress) :
    min 6 (s.progress + 1) ≤ s.goOn.progress := by
  unfold goOn
  cases phase : s.phase with
  | serving => simp [progress, phase] at started
  | cancellingServe =>
      by_cases none : s.clientTasks = []
      · simp [progress, phase, none]
      · simp [progress, phase, none]
  | closing | draining | forcing | leaving | ended => simp [progress, phase]

theorem progress_timesOut (s : Server) : s.progress ≤ s.timesOut.progress := by
  unfold timesOut
  split
  · rename_i ids phase
    dsimp only
    split
    · simp [progress, phase]
    · simp [progress, phase]
  · exact le_rfl

theorem progress_step (s : Server) (waits : Bool) (event : ServerEvent) :
    s.progress ≤ (s.step waits event).progress := by
  cases event with
  | accepts | clientCb | discards =>
      simp only [Server.step]
      split <;> exact le_rfl
  | taskEnds id | connectionLost id => exact le_rfl
  | stop =>
      simp only [Server.step]
      split
      · rename_i serving
        simp [progress, serving]
      · exact le_rfl
  | wakes =>
      simp only [Server.step]
      split
      · rename_i awakes
        have bound := s.progress_le
        by_cases started : 1 ≤ s.progress
        · have next := progress_goOn started
          omega
        · omega
      · exact le_rfl
  | timesOut => exact s.progress_timesOut

theorem accepted_step (started : 1 ≤ s.progress) (event : ServerEvent) :
    (s.step waits event).accepted =
      s.accepted - if event = .clientCb then 1 else 0 := by
  cases event with
  | accepts =>
      have closed : s.phase ≠ .serving := by
        intro serving
        simp [progress, serving] at started
      simp [Server.step, closed]
  | clientCb =>
      simp only [Server.step]
      split
      · rename_i none
        simp [none]
      · rfl
  | taskEnds id | connectionLost id => rfl
  | discards id =>
      simp only [Server.step]
      split <;> rfl
  | stop =>
      simp only [Server.step]
      split <;> rfl
  | wakes =>
      simp only [Server.step]
      split
      · unfold goOn
        split
        · rfl
        · rfl
        · rfl
        · split <;> rfl
        · rfl
        · rfl
        · rfl
      · rfl
  | timesOut =>
      simp only [Server.step, Server.timesOut]
      split
      · split <;> rfl
      · rfl

/-- The connections which were accepted before the stop reach `client_cb`. -/
theorem accepted_run (started : 1 ≤ s.progress) (events : List ServerEvent) :
    (run (step waits) s events).accepted =
      s.accepted - events.count .clientCb := by
  induction events generalizing s with
  | nil => rfl
  | cons event events induction =>
      rw [run_cons, induction (started.trans (s.progress_step waits event)),
        accepted_step started, List.count_cons]
      by_cases made : event = .clientCb
      · subst made
        simp only [if_true, beq_self_eq_true]
        omega
      · simp [made]

/-- What a step can do to a task: only a wait for the tasks cancels it. -/
structure Becomes (s : Server) (before after : ClientTask) : Prop where
  done : before.done = true → after.done = true
  connected : after.connected = true → before.connected = true
  cancelled : after.cancelled = true →
    before.cancelled = true ∨ s.progress = 3

theorem Becomes.same (s : Server) (task : ClientTask) : s.Becomes task task :=
  ⟨id, id, .inl⟩

theorem tasks_goOn (s : Server) : s.goOn.tasks = s.tasks := by
  unfold goOn
  split
  case h_4 => split <;> rfl
  all_goals rfl

/-- Where a task after a step comes from. -/
theorem task_step {event : ServerEvent} {place : Nat} {after : ClientTask}
    (found : (s.step waits event).tasks[place]? = some after) :
    (s.accepted ≠ 0 ∧ after = ⟨false, false, true⟩) ∨
      ∃ before, s.tasks[place]? = some before ∧ s.Becomes before after := by
  have unchanged (found : s.tasks[place]? = some after) :
      ∃ before, s.tasks[place]? = some before ∧ s.Becomes before after :=
    ⟨after, found, .same s after⟩
  cases event with
  | accepts | discards | stop =>
      simp only [Server.step] at found
      split at found <;> exact .inr (unchanged found)
  | clientCb =>
      simp only [Server.step] at found
      split at found
      · exact .inr (unchanged found)
      · rename_i some
        rcases List.mem_append.mp (List.mem_of_getElem? found) with - | new
        · by_cases below : place < s.tasks.length
          · rw [List.getElem?_append_left below] at found
            exact .inr (unchanged found)
          · rw [List.getElem?_append_right (Nat.not_lt.mp below)] at found
            have new := List.mem_of_getElem? found
            exact .inl ⟨some, List.mem_singleton.mp new⟩
        · exact .inl ⟨some, List.mem_singleton.mp new⟩
  | taskEnds ended =>
      simp only [Server.step, List.getElem?_modify] at found
      obtain ⟨before, wasThere, rfl⟩ := Option.map_eq_some_iff.mp found
      refine .inr ⟨before, wasThere, ?_⟩
      split
      · exact ⟨fun _ => rfl, id, .inl⟩
      · exact .same s before
  | connectionLost lost =>
      simp only [Server.step, List.getElem?_modify] at found
      obtain ⟨before, wasThere, rfl⟩ := Option.map_eq_some_iff.mp found
      refine .inr ⟨before, wasThere, ?_⟩
      split
      · exact ⟨id, nofun, .inl⟩
      · exact .same s before
  | wakes =>
      simp only [Server.step] at found
      split at found
      · rw [tasks_goOn] at found
        exact .inr (unchanged found)
      · exact .inr (unchanged found)
  | timesOut =>
      simp only [Server.step, Server.timesOut] at found
      split at found
      · rename_i ids phase
        split at found
        · exact .inr (unchanged found)
        · rw [List.getElem?_mapIdx] at found
          obtain ⟨before, wasThere, rfl⟩ := Option.map_eq_some_iff.mp found
          have draining : s.progress = 3 := by rw [progress, phase]
          refine .inr ⟨before, wasThere, ?_⟩
          split
          · exact ⟨id, id, fun _ => .inr draining⟩
          · exact .same s before
      · exact .inr (unchanged found)

/-- A property which no step brings about. -/
def Falls (property : ClientTask → Bool) : Prop :=
  ∀ (s : Server) (before after : ClientTask), s.Becomes before after →
    property after = true → property before = true

theorem falls_alive : Falls (!·.done) := by
  intro s before after becomes alive
  cases done : before.done with
  | false => simp [done]
  | true => simp [becomes.done done] at alive

theorem falls_connected : Falls (·.connected) :=
  fun _ _ _ becomes => becomes.connected

/-- Where each connection had its task, no task is made. -/
theorem Falls.step {property : ClientTask → Bool} (falls : Falls property)
    (none : s.accepted = 0) {event : ServerEvent} {id : Nat}
    (has : (s.step waits event).has property id = true) :
    s.has property id = true := by
  obtain ⟨after, found, holds⟩ := (Option.any_eq_true _ _).mp has
  rcases task_step found with ⟨some, -⟩ | ⟨before, wasThere, becomes⟩
  · exact absurd none some
  · exact (Option.any_eq_true _ _).mpr
      ⟨before, wasThere, falls s before after becomes holds⟩

/-- No task is made any more. -/
structure Closed (s : Server) : Prop where
  started : 1 ≤ s.progress
  accepted : s.accepted = 0

theorem Closed.step (closed : s.Closed) (waits : Bool) (event : ServerEvent) :
    (s.step waits event).Closed := by
  refine ⟨closed.started.trans (s.progress_step waits event), ?_⟩
  rw [accepted_step closed.started, closed.accepted, Nat.zero_sub]

theorem progress_wakes (started : 1 ≤ s.progress) {bound : Nat}
    (least : bound ≤ 6) (awakes : s.progress < bound → s.Awakes waits) :
    min bound (s.progress + 1) ≤ (s.step waits .wakes).progress := by
  by_cases below : s.progress < bound
  · have next := progress_goOn started
    simp only [Server.step, if_pos (awakes below)]
    omega
  · have grows := s.progress_step waits .wakes
    omega

theorem Closed.run (closed : s.Closed) (waits : Bool)
    (events : List ServerEvent) :
    (Lib.run (Server.step waits) s events).Closed := by
  have preserved (s : Server) (event : ServerEvent) (closed : s.Closed) :
      (s.step waits event).Closed := closed.step waits event
  exact run_invariant preserved events closed

/-- Once the property is taken from each task which has it. -/
theorem Closed.run_clears (closed : s.Closed) {property : ClientTask → Bool}
    (falls : Falls property) {clearing : Nat → ServerEvent}
    (clears : ∀ s id,
      (Server.step waits s (clearing id)).has property id = false)
    {events : List ServerEvent}
    (each : ∀ id, s.has property id = true → clearing id ∈ events) (id : Nat) :
    (Lib.run (Server.step waits) s events).has property id = false := by
  have stays (s : Server) (event : ServerEvent)
      (holds : s.Closed ∧ s.has property id = false) :
      (s.step waits event).Closed ∧
        (s.step waits event).has property id = false := by
    refine ⟨holds.1.step waits event, Bool.eq_false_iff.mpr fun has => ?_⟩
    have before := falls.step holds.1.accepted has
    exact Bool.false_ne_true (holds.2.symm.trans before)
  by_cases has : s.has property id = true
  · have preserved (s : Server) (event : ServerEvent) (closed : s.Closed) :
        (s.step waits event).Closed := closed.step waits event
    have reached (s : Server) (closed : s.Closed) :
        (s.step waits (clearing id)).Closed ∧
          (s.step waits (clearing id)).has property id = false :=
      ⟨closed.step waits _, clears s id⟩
    exact (run_reaches preserved reached stays (each id has) closed).2
  · exact (run_invariant stays events ⟨closed, Bool.eq_false_iff.mpr has⟩).2

/-- `wait_closed` waits for nothing any more. -/
structure Freed (waits : Bool) (s : Server) : Prop extends s.Closed where
  unconnected : waits = true → s.Unconnected

theorem Unconnected.step (unconnected : s.Unconnected) (started : 1 ≤ s.progress)
    (event : ServerEvent) : (s.step waits event).Unconnected := by
  refine ⟨?_, fun after member => ?_⟩
  · rw [accepted_step started, unconnected.1, Nat.zero_sub]
  · obtain ⟨id, found⟩ := List.mem_iff_getElem?.mp member
    rcases task_step found with ⟨some, -⟩ | ⟨before, wasThere, becomes⟩
    · exact absurd unconnected.1 some
    · have lost := unconnected.2 before (List.mem_of_getElem? wasThere)
      exact Bool.eq_false_iff.mpr fun connected =>
        Bool.false_ne_true (lost.symm.trans (becomes.connected connected))

theorem Freed.step (freed : s.Freed waits) (event : ServerEvent) :
    (s.step waits event).Freed waits :=
  ⟨freed.toClosed.step waits event, fun waited =>
    (freed.unconnected waited).step freed.started event⟩

theorem Freed.run (freed : s.Freed waits) (events : List ServerEvent) :
    (Lib.run (Server.step waits) s events).Freed waits := by
  have preserved (s : Server) (event : ServerEvent) (freed : s.Freed waits) :
      (s.step waits event).Freed waits := freed.step event
  exact run_invariant preserved events freed

/-- Once each connection is lost. -/
theorem Closed.run_frees (closed : s.Closed) {events : List ServerEvent}
    (each : waits = true → ∀ id, s.connected id = true →
      .connectionLost id ∈ events) :
    (Lib.run (Server.step waits) s events).Freed waits := by
  refine ⟨closed.run waits events, fun waited => ?_⟩
  have clears (s : Server) (id : Nat) :
      (s.step waits (.connectionLost id)).has (·.connected) id = false := by
    cases found : s.tasks[id]? <;> simp [Server.step, has, found]
  have lost := closed.run_clears falls_connected clears (each waited)
  refine ⟨(closed.run waits events).accepted, fun task member => ?_⟩
  obtain ⟨id, found⟩ := List.mem_iff_getElem?.mp member
  have ended := lost id
  rwa [has, found, Option.any_some] at ended

/-- Up to the tasks of the clients. -/
theorem Freed.wakes (freed : s.Freed waits) :
    min 3 (s.progress + 1) ≤ (s.step waits .wakes).progress := by
  apply progress_wakes freed.started (by decide)
  intro below
  unfold Awakes
  cases phase : s.phase with
  | serving =>
      have started := freed.started
      simp [progress, phase] at started
  | closing => exact freed.unconnected
  | cancellingServe => exact freed.accepted
  | draining | forcing | leaving | ended => simp [progress, phase] at below

/-- Every client has ended. -/
structure Drained (waits : Bool) (s : Server) : Prop extends s.Freed waits where
  alive : ∀ id, s.alive id = false

theorem Drained.step (drained : s.Drained waits) (event : ServerEvent) :
    (s.step waits event).Drained waits := by
  refine ⟨drained.toFreed.step event, fun id => ?_⟩
  apply Bool.eq_false_iff.mpr
  intro alive
  have before := falls_alive.step drained.accepted alive
  exact Bool.false_ne_true ((drained.alive id).symm.trans before)

theorem Drained.wakes (drained : s.Drained waits) :
    min 6 (s.progress + 1) ≤ (s.step waits .wakes).progress := by
  apply progress_wakes drained.started le_rfl
  intro below
  unfold Awakes
  cases phase : s.phase with
  | serving =>
      have started := drained.started
      simp [progress, phase] at started
  | closing | leaving => exact drained.unconnected
  | cancellingServe => exact drained.accepted
  | draining ids | forcing ids => exact fun id _ => drained.alive id
  | ended => simp [progress, phase] at below

/-- Once each task has ended. -/
theorem Freed.run_ends (freed : s.Freed waits) {events : List ServerEvent}
    (each : ∀ id, s.alive id = true → .taskEnds id ∈ events) :
    (Lib.run (Server.step waits) s events).Drained waits := by
  refine ⟨freed.run events, ?_⟩
  have clears (s : Server) (id : Nat) :
      (s.step waits (.taskEnds id)).has (!·.done) id = false := by
    cases found : s.tasks[id]? <;> simp [Server.step, has, found]
  exact freed.toClosed.run_clears falls_alive clears each

/-- The timeout cancels the tasks which have not ended, and no others. -/
theorem Kept.cancels (kept : s.Kept) {ids : List Nat}
    (phase : s.phase = .draining ids) {id : Nat} {task : ClientTask}
    (found : s.tasks[id]? = some task) :
    s.timesOut.tasks[id]? = some { task with cancelled := !task.done } := by
  have uncancelled : task.cancelled = false :=
    kept.uncancelled (by rw [late, phase]) task (List.mem_of_getElem? found)
  have isAlive : s.alive id = !task.done := by
    rw [Server.alive, Server.has, found, Option.any_some]
  obtain ⟨-, left⟩ := kept.known ids (by rw [Server.known, phase])
  have inPending : id ∈ ids.filter (s.alive ·) ↔ task.done = false := by
    rw [List.mem_filter, isAlive, Bool.not_eq_true']
    refine ⟨And.right, fun alive => ⟨left id ?_, alive⟩⟩
    rw [isAlive, alive, Bool.not_false]
  obtain ⟨done, cancelled⟩ := task
  simp only at uncancelled inPending
  subst uncancelled
  unfold Server.timesOut
  simp only [phase]
  split
  · rename_i none
    rw [none] at inPending
    cases done with
    | true => exact found
    | false => cases inPending.mpr rfl
  · simp only [List.getElem?_mapIdx, found, Option.map_some, inPending]
    cases done <;> rfl

/-- With a wait for the connections. -/
structure Waited (s : Server) : Prop where
  unconnected : 2 ≤ s.progress → s.Unconnected
  spared : ∀ task ∈ s.tasks, task.cancelled = true → task.connected = false

/-- The wait for the connections. -/
theorem unconnected_of_passes {event : ServerEvent} (early : s.progress ≤ 1)
    (passes : 2 ≤ (s.step true event).progress) :
    s.Unconnected ∧ 1 ≤ s.progress := by
  cases event with
  | accepts | clientCb | discards =>
      simp only [Server.step] at passes
      split at passes <;> exact absurd (passes.trans early) (by decide)
  | taskEnds id | connectionLost id =>
      exact absurd (passes.trans early) (by decide)
  | stop =>
      simp only [Server.step] at passes
      split at passes
      · exact absurd passes (by simp [progress])
      · exact absurd (passes.trans early) (by decide)
  | timesOut =>
      simp only [Server.step, Server.timesOut] at passes
      split at passes
      · rename_i ids phase
        simp [progress, phase] at early
      · exact absurd (passes.trans early) (by decide)
  | wakes =>
      simp only [Server.step] at passes
      split at passes
      · rename_i awakes
        unfold Awakes at awakes
        cases phase : s.phase with
        | serving =>
            rw [phase] at awakes
            exact awakes.elim
        | closing =>
            rw [phase] at awakes
            exact ⟨awakes rfl, by simp [progress, phase]⟩
        | cancellingServe | draining | forcing | leaving | ended =>
            simp [progress, phase] at early
      · exact absurd (passes.trans early) (by decide)

theorem Waited.step (waited : s.Waited) (event : ServerEvent) :
    (s.step true event).Waited := by
  refine ⟨fun passes => ?_, fun after member cancelled => ?_⟩
  · by_cases early : s.progress ≤ 1
    · obtain ⟨unconnected, started⟩ := unconnected_of_passes early passes
      exact unconnected.step started event
    · exact (waited.unconnected (by omega)).step (by omega) event
  · obtain ⟨id, found⟩ := List.mem_iff_getElem?.mp member
    rcases task_step found with ⟨-, rfl⟩ | ⟨before, wasThere, becomes⟩
    · cases cancelled
    · have wasTask := List.mem_of_getElem? wasThere
      have lost : before.connected = false := by
        rcases becomes.cancelled cancelled with earlier | draining
        · exact waited.spared before wasTask earlier
        · exact (waited.unconnected (by omega)).2 before wasTask
      exact Bool.eq_false_iff.mpr fun connected =>
        Bool.false_ne_true (lost.symm.trans (becomes.connected connected))

theorem start_waited : start.Waited :=
  ⟨fun late => absurd late (by decide), nofun⟩

theorem waited_run (events : List ServerEvent) :
    (Lib.run (Server.step true) .start events).Waited := by
  have preserved (s : Server) (event : ServerEvent) (waited : s.Waited) :
      (s.step true event).Waited := waited.step event
  exact run_invariant preserved events start_waited

theorem timesOut_passes (draining : 3 ≤ s.progress) :
    4 ≤ s.timesOut.progress := by
  unfold Server.timesOut
  split
  · dsimp only
    split
    · simp [progress]
    · simp [progress]
  · rename_i other
    cases phase : s.phase with
    | draining ids => exact absurd phase (other ids)
    | serving | closing | cancellingServe => simp [progress, phase] at draining
    | forcing | leaving | ended => simp [progress, phase]

theorem run_progress (s : Server) (waits : Bool) (events : List ServerEvent) :
    s.progress ≤ (Lib.run (Server.step waits) s events).progress := by
  have grows (later : Server) (event : ServerEvent)
      (kept : s.progress ≤ later.progress) :
      s.progress ≤ (later.step waits event).progress :=
    kept.trans (later.progress_step waits event)
  exact run_invariant grows events le_rfl

/-- Up to the wait for the tasks. -/
theorem Freed.run_wakes (freed : s.Freed waits) {events : List ServerEvent}
    (resumed : 2 ≤ events.count .wakes) :
    3 ≤ (Lib.run (Server.step waits) s events).progress := by
  have preserved (s : Server) (event : ServerEvent) (freed : s.Freed waits) :
      (s.step waits event).Freed waits := freed.step event
  have grows (s : Server) (event : ServerEvent) :
      s.progress ≤ (s.step waits event).progress := s.progress_step waits event
  have raised (s : Server) (freed : s.Freed waits) :
      min 3 (s.progress + 1) ≤ (s.step waits .wakes).progress := freed.wakes
  have climbed := le_rank_run preserved grows raised events freed
  have started := freed.started
  omega

theorem run_timesOut (draining : 3 ≤ s.progress) (waits : Bool)
    {events : List ServerEvent} (out : .timesOut ∈ events) :
    4 ≤ (Lib.run (Server.step waits) s events).progress := by
  have kept (s : Server) (event : ServerEvent) (draining : 3 ≤ s.progress) :
      3 ≤ (s.step waits event).progress :=
    draining.trans (s.progress_step waits event)
  have reached (s : Server) (draining : 3 ≤ s.progress) :
      4 ≤ (s.step waits .timesOut).progress := timesOut_passes draining
  have stays (s : Server) (event : ServerEvent) (forcing : 4 ≤ s.progress) :
      4 ≤ (s.step waits event).progress :=
    forcing.trans (s.progress_step waits event)
  exact run_reaches kept reached stays out draining

/-- To the end, when no client is left. -/
theorem Drained.run_wakes (drained : s.Drained waits)
    (forcing : 4 ≤ s.progress) {events : List ServerEvent}
    (resumed : 2 ≤ events.count .wakes) :
    (Lib.run (Server.step waits) s events).phase = .ended := by
  have preserved (s : Server) (event : ServerEvent)
      (drained : s.Drained waits) : (s.step waits event).Drained waits :=
    drained.step event
  have grows (s : Server) (event : ServerEvent) :
      s.progress ≤ (s.step waits event).progress := s.progress_step waits event
  have raised (s : Server) (drained : s.Drained waits) :
      min 6 (s.progress + 1) ≤ (s.step waits .wakes).progress := drained.wakes
  have climbed := le_rank_run preserved grows raised events drained
  have last : 6 ≤ (Lib.run (Server.step waits) s events).progress := by
    omega
  unfold progress at last
  split at last
  case h_7 ended => exact ended
  all_goals exact absurd last (by decide)

end Progress

end Server

/-- In every run: when `_run` has left its server each connection had its task
and no task is left, and no connection is open either where `wait_closed` waits
for them; no client is cancelled before the timeout, and it cancels those which
have not ended, and no others. -/
theorem shutdown_drains (waits : Bool) (events : List ServerEvent) :
    let s := run (Server.step waits) .start events
    (s.phase = .leaving ∨ s.phase = .ended → s.Quiet) ∧
      (waits = true → s.phase = .leaving ∨ s.phase = .ended → s.Unconnected) ∧
      (s.late = false → ∀ task ∈ s.tasks, task.cancelled = false) ∧
      ∀ ids, s.phase = .draining ids → ∀ (id : Nat) (task : ClientTask),
        s.tasks[id]? = some task →
          (s.step waits .timesOut).tasks[id]? =
            some { task with cancelled := !task.done } := by
  have kept := Server.start_kept.run waits events
  have waited (waited : waits = true) := waited ▸ Server.waited_run events
  generalize run (Server.step waits) .start events = s at kept waited
  refine ⟨fun left => ?_, fun isWaiting left => ?_, kept.uncancelled,
    fun ids phase id task found => kept.cancels phase found⟩
  · have known : s.known = some [] := by
      rcases left with phase | phase <;> rw [Server.known, phase]
    obtain ⟨accepted, none⟩ := kept.known [] known
    refine ⟨accepted, fun task member => ?_⟩
    obtain ⟨id, found⟩ := List.mem_iff_getElem?.mp member
    have ended : ¬ s.alive id = true := fun alive => nomatch none id alive
    simpa [Server.alive, Server.has, found] using ended
  · apply (waited isWaiting).unconnected
    rcases left with phase | phase <;> simp [Server.progress, phase]

/-- Where `wait_closed` waits for the connections, `_run` comes no further than
that as long as one of them is open, and the timeout cancels only tasks whose
connection is lost; there are such runs.  In either case a shutdown ends under
every schedule which calls `client_cb` for the accepted connections, loses them
where `wait_closed` waits for it, resumes `_run` at each of its waits and lets the
timeout pass, if the tasks which are left then end. -/
theorem shutdown_timeout_applies :
    (∀ events,
      let s := run (Server.step true) .start events
      (s.phase = .serving ∨ s.phase = .closing ∨ s.Unconnected) ∧
        ∀ task ∈ s.tasks, task.cancelled = true → task.connected = false) ∧
    (∃ events, ∃ task ∈ (run (Server.step true) .start events).tasks,
      task.cancelled = true) ∧
    ∀ waits events,
      let s := run (Server.step waits) .start events
      s.phase ≠ .serving → ∀ made lost first late ends last,
        s.accepted ≤ made.count .clientCb →
        (waits = true → ∀ id,
          (run (Server.step waits) s made).connected id = true →
            .connectionLost id ∈ lost) →
        2 ≤ first.count .wakes → .timesOut ∈ late →
        (∀ id, (run (Server.step waits) s
            (made ++ lost ++ first ++ late)).alive id = true →
          .taskEnds id ∈ ends) →
        2 ≤ last.count .wakes →
        (run (Server.step waits) s
          (made ++ lost ++ first ++ late ++ (ends ++ last))).phase = .ended := by
  refine ⟨fun events => ?_, ?_, ?_⟩
  · have waited := Server.waited_run events
    generalize run (Server.step true) .start events = s at waited
    refine ⟨?_, waited.spared⟩
    cases phase : s.phase with
    | serving => exact .inl rfl
    | closing => exact .inr (.inl rfl)
    | cancellingServe | draining | forcing | leaving | ended =>
        refine .inr (.inr (waited.unconnected ?_))
        simp [Server.progress, phase]
  · -- a client which resets its connection while its task is busy
    exact ⟨[.accepts, .clientCb, .stop, .connectionLost 0, .wakes, .wakes,
      .timesOut], ⟨false, true, false⟩, by decide, rfl⟩
  · intro waits events s stopped made lost first late ends last called each
      resumed out ending resumedLast
    have started := Server.one_le_progress stopped
    have closed : (run (Server.step waits) s made).Closed := by
      refine ⟨started.trans (s.run_progress waits made), ?_⟩
      rw [Server.accepted_run started]
      omega
    rw [run_append, run_append, run_append] at ending
    rw [run_append, run_append, run_append, run_append, run_append]
    have freed := closed.run_frees each
    have draining := freed.run_wakes resumed
    have forcing := Server.run_timesOut draining waits out
    have drained := ((freed.run first).run late).run_ends ending
    exact drained.run_wakes
      (forcing.trans (Server.run_progress _ waits ends)) resumedLast

end TgWsProxy.Python
