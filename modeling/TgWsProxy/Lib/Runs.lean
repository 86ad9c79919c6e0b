import Mathlib.Data.List.Induction
import Mathlib.Data.List.Infix

/-!
# Runs of a step function

A run folds a total step function over a list of events.  Since every initial
segment of a run is a run, a statement about the last state of every run is a
statement about every state which can be reached.
-/

namespace Lib

section Runs

variable {State Event : Type*}

/-- The state reached from `start` by the listed events. -/
def run (step : State → Event → State) (start : State)
    (events : List Event) : State :=
  events.foldl step start

/-- Every step of the run meets `condition` in the state it is taken from. -/
def AllSteps (step : State → Event → State)
    (condition : State → Event → Prop) : State → List Event → Prop
  | _, [] => True
  | state, event :: events =>
      condition state event ∧
        AllSteps step condition (step state event) events

variable {step : State → Event → State}

@[simp] theorem run_nil (start : State) : run step start [] = start := rfl

@[simp] theorem run_cons (start : State) (event : Event)
    (events : List Event) :
    run step start (event :: events) = run step (step start event) events :=
  rfl

theorem run_append (start : State) (earlier later : List Event) :
    run step start (earlier ++ later) =
      run step (run step start earlier) later :=
  List.foldl_append

/-- An invariant preserved by each step which meets the condition holds at
the end of a run whose steps all meet it. -/
theorem AllSteps.invariant {condition : State → Event → Prop}
    {Invariant : State → Prop}
    (preserved : ∀ state event, Invariant state → condition state event →
      Invariant (step state event))
    {start : State} {events : List Event} (initial : Invariant start)
    (met : AllSteps step condition start events) :
    Invariant (run step start events) := by
  induction events generalizing start with
  | nil => exact initial
  | cons event events induction =>
      exact induction (preserved start event initial met.1) met.2

theorem run_invariant {Invariant : State → Prop}
    (preserved : ∀ state event, Invariant state →
      Invariant (step state event))
    {start : State} (events : List Event) (initial : Invariant start) :
    Invariant (run step start events) := by
  induction events generalizing start with
  | nil => exact initial
  | cons event events induction =>
      exact induction (preserved start event initial)

/-- The same where only the events decide whether a step preserves it. -/
theorem run_invariant_of_forall {condition : Event → Prop}
    {Invariant : State → Prop}
    (preserved : ∀ state event, Invariant state → condition event →
      Invariant (step state event))
    {start : State} {events : List Event} (initial : Invariant start)
    (met : ∀ event ∈ events, condition event) :
    Invariant (run step start events) := by
  induction events generalizing start with
  | nil => exact initial
  | cons event events induction =>
      obtain ⟨first, later⟩ := List.forall_mem_cons.mp met
      exact induction (preserved start event initial first) later

/-- What one event brings about and no event undoes. -/
theorem run_reaches {Before After : State → Prop} {event : Event}
    (kept : ∀ state event, Before state → Before (step state event))
    (reached : ∀ state, Before state → After (step state event))
    (stays : ∀ state event, After state → After (step state event))
    {start : State} {events : List Event} (occurs : event ∈ events)
    (initial : Before start) : After (run step start events) := by
  induction events generalizing start with
  | nil => cases occurs
  | cons first events induction =>
      cases occurs with
      | head => exact run_invariant stays events (reached start initial)
      | tail _ later => exact induction later (kept start first initial)

/-- If each step is, in a view of the states, a run of a coarser machine, then
so is each run. -/
theorem exists_coarse_run {Coarse CoarseEvent : Type*}
    {coarse : Coarse → CoarseEvent → Coarse} {view : State → Coarse}
    (simulates : ∀ state event, ∃ taken,
      view (step state event) = run coarse (view state) taken)
    (start : State) (events : List Event) :
    ∃ taken, view (run step start events) = run coarse (view start) taken := by
  induction events generalizing start with
  | nil => exact ⟨[], rfl⟩
  | cons event events induction =>
      obtain ⟨first, stepped⟩ := simulates start event
      obtain ⟨later, reached⟩ := induction (step start event)
      refine ⟨first ++ later, ?_⟩
      rw [run_cons, run_append, reached, stepped]

/-- A rank which no event lowers, and which one event raises up to a bound. -/
theorem le_rank_run [DecidableEq Event] {Invariant : State → Prop}
    {rank : State → Nat} {bound : Nat} {event : Event}
    (preserved : ∀ state event, Invariant state →
      Invariant (step state event))
    (grows : ∀ state event, rank state ≤ rank (step state event))
    (raised : ∀ state, Invariant state →
      min bound (rank state + 1) ≤ rank (step state event))
    {start : State} (events : List Event) (initial : Invariant start) :
    min bound (rank start + events.count event) ≤
      rank (run step start events) := by
  induction events generalizing start with
  | nil => exact Nat.min_le_right bound (rank start)
  | cons first events induction =>
      have later := induction (preserved start first initial)
      rw [run_cons]
      by_cases same : first = event
      · subst same
        have raisedOnce := raised start initial
        rw [List.count_cons_self]
        omega
      · have grown := grows start first
        rw [List.count_cons_of_ne same]
        omega

/-- A run which comes to its end in stages: `wake` ends the first one, `left` and
`right` stop two parts, in any order, and then each `wake` is one rank more. -/
theorem le_rank_run_of_stages [DecidableEq Event]
    {Invariant Begun Left Right : State → Prop} {rank : State → Nat}
    {bound : Nat} {wake left right : Event}
    (preserved : ∀ state event, Invariant state →
      Invariant (step state event))
    (grows : ∀ state event, rank state ≤ rank (step state event))
    (staysBegun : ∀ state event, Begun state → Begun (step state event))
    (resumes : ∀ state, Begun state → 1 ≤ rank (step state wake))
    (stopsLeft : ∀ state, Invariant state → 1 ≤ rank state →
      Left (step state left))
    (staysLeft : ∀ state event, Left state → Left (step state event))
    (stopsRight : ∀ state, Invariant state → 1 ≤ rank state →
      Right (step state right))
    (staysRight : ∀ state event, Right state → Right (step state event))
    (raised : ∀ state, 1 ≤ rank state → Left state → Right state →
      min bound (rank state + 1) ≤ rank (step state wake))
    {start : State} (initial : Invariant start) (begun : Begun start)
    {first settling closing : List Event} (wakes : wake ∈ first)
    (lefts : left ∈ settling) (rights : right ∈ settling)
    (often : bound ≤ closing.count wake) :
    bound ≤ rank (run step start (first ++ settling ++ closing)) := by
  have staysLate (state : State) (event : Event) (late : 1 ≤ rank state) :
      1 ≤ rank (step state event) := late.trans (grows state event)
  have late := run_reaches staysBegun resumes staysLate wakes begun
  have kept := run_invariant preserved first initial
  have stays (state : State) (event : Event)
      (holds : Invariant state ∧ 1 ≤ rank state) :
      Invariant (step state event) ∧ 1 ≤ rank (step state event) :=
    ⟨preserved state event holds.1, staysLate state event holds.2⟩
  have stoppedLeft := run_reaches stays
    (fun state holds => stopsLeft state holds.1 holds.2) staysLeft lefts
    ⟨kept, late⟩
  have stoppedRight := run_reaches stays
    (fun state holds => stopsRight state holds.1 holds.2) staysRight rights
    ⟨kept, late⟩
  have settled := run_invariant staysLate settling late
  have staysStopped (state : State) (event : Event)
      (stopped : 1 ≤ rank state ∧ Left state ∧ Right state) :
      1 ≤ rank (step state event) ∧ Left (step state event) ∧
        Right (step state event) :=
    ⟨staysLate state event stopped.1, staysLeft state event stopped.2.1,
      staysRight state event stopped.2.2⟩
  have climbed := le_rank_run staysStopped grows
    (fun state stopped => raised state stopped.1 stopped.2.1 stopped.2.2)
    closing ⟨settled, stoppedLeft, stoppedRight⟩
  rw [run_append, run_append]
  omega

/-- Two conditions which agree wherever an invariant holds that is kept by the
steps which meet them. -/
theorem allSteps_congr_of_kept {left right : State → Event → Prop}
    (Invariant : State → Prop)
    (agree : ∀ state event, Invariant state →
      (left state event ↔ right state event))
    (kept : ∀ state event, Invariant state → right state event →
      Invariant (step state event))
    {start : State} (initial : Invariant start) (events : List Event) :
    AllSteps step left start events ↔ AllSteps step right start events := by
  induction events generalizing start with
  | nil => exact Iff.rfl
  | cons event events induction =>
      constructor
      · rintro ⟨met, later⟩
        have same := (agree start event initial).mp met
        exact ⟨same, (induction (kept start event initial same)).mp later⟩
      · rintro ⟨met, later⟩
        exact ⟨(agree start event initial).mpr met,
          (induction (kept start event initial met)).mpr later⟩

/-- The same for an invariant which is kept by all steps. -/
theorem allSteps_congr {left right : State → Event → Prop}
    (Invariant : State → Prop)
    (preserved : ∀ state event, Invariant state →
      Invariant (step state event))
    (agree : ∀ state event, Invariant state →
      (left state event ↔ right state event))
    {start : State} (initial : Invariant start) (events : List Event) :
    AllSteps step left start events ↔ AllSteps step right start events :=
  allSteps_congr_of_kept Invariant agree
    (fun state event holds _ => preserved state event holds) initial events

/-- If the condition says exactly which steps keep the invariant, then the
runs which keep it throughout are the runs whose steps all meet it. -/
theorem invariant_throughout_iff_allSteps
    {condition : State → Event → Prop} {Invariant : State → Prop}
    (exact : ∀ state event, Invariant state →
      (Invariant (step state event) ↔ condition state event))
    {start : State} (initial : Invariant start) (events : List Event) :
    (∀ earlier, earlier <+: events → Invariant (run step start earlier)) ↔
      AllSteps step condition start events := by
  induction events generalizing start with
  | nil =>
      constructor
      · intro _
        trivial
      · intro _ earlier isPrefix
        rw [List.prefix_nil.mp isPrefix]
        exact initial
  | cons event events induction =>
      constructor
      · intro throughout
        have next : Invariant (step start event) :=
          throughout [event] (List.prefix_append [event] events)
        refine ⟨(exact start event initial).mp next, ?_⟩
        apply (induction next).mp
        intro earlier isPrefix
        exact throughout (event :: earlier)
          ((List.prefix_cons_inj event).mpr isPrefix)
      · rintro ⟨met, laterMet⟩ earlier isPrefix
        cases earlier with
        | nil => exact initial
        | cons first earlier =>
            obtain ⟨rfl, tailPrefix⟩ := List.cons_prefix_cons.mp isPrefix
            have next : Invariant (step start first) :=
              (exact start first initial).mpr met
            exact (induction next).mpr laterMet earlier tailPrefix

/-- The same for a property of the states which the invariant explains: the
invariant is kept by each step into a safe state. -/
theorem safe_throughout_iff_allSteps
    {condition : State → Event → Prop} {Invariant Safe : State → Prop}
    (safe : ∀ state, Invariant state → Safe state)
    (exact : ∀ state event, Invariant state →
      (Safe (step state event) ↔ condition state event))
    (kept : ∀ state event, Invariant state → condition state event →
      Invariant (step state event))
    {start : State} (initial : Invariant start) (events : List Event) :
    (∀ earlier, earlier <+: events → Safe (run step start earlier)) ↔
      AllSteps step condition start events := by
  have exactInvariant (state : State) (event : Event)
      (holds : Invariant state) :
      Invariant (step state event) ↔ condition state event :=
    ⟨fun next => (exact state event holds).mp (safe _ next),
      kept state event holds⟩
  constructor
  · intro throughout
    apply (invariant_throughout_iff_allSteps exactInvariant initial events).mp
    intro earlier isPrefix
    induction earlier using List.reverseRecOn with
    | nil => exact initial
    | append_singleton earlier event induction =>
        have before := induction ((List.prefix_append _ _).trans isPrefix)
        have next := throughout _ isPrefix
        rw [run_append, run_cons, run_nil] at next ⊢
        exact kept _ event before ((exact _ event before).mp next)
  · intro met earlier isPrefix
    apply safe
    exact (invariant_throughout_iff_allSteps exactInvariant initial events).mpr
      met earlier isPrefix

end Runs

end Lib
