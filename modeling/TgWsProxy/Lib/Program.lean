/-!
# Programs which call their surroundings

A program is done, or it makes a call and goes on with the reply.  The outcome
of a call is decided outside; it changes a state and gives the reply.  `Meets`
is the rule system for statements about all states which a program passes, and
about the state in which it ends.
-/

namespace Lib

inductive Program (Op : Type) (Reply : Op → Type) (Result : Type) where
  | done (result : Result)
  | call (op : Op) (next : Reply op → Program Op Reply Result)

/-- What the calls of a program act on. -/
structure Surroundings (Op : Type) (Reply : Op → Type) where
  State : Type
  Outcome : Op → Type
  perform : State → (op : Op) → Outcome op → Reply op × State

/-- A protocol of calls: what may be called at a stage, and the stage to which a
reply leads. -/
structure Protocol (Op : Type) (Reply : Op → Type) (Stage : Type) where
  allows : Stage → Op → Prop
  next : Stage → (op : Op) → Reply op → Stage

namespace Program

variable {Op : Type} {Reply : Op → Type} {Result Other : Type}

def bind (program : Program Op Reply Result)
    (next : Result → Program Op Reply Other) : Program Op Reply Other :=
  match program with
  | .done result => next result
  | .call op later => .call op fun reply => bind (later reply) next

instance : Monad (Program Op Reply) where
  pure := .done
  bind := bind

/-- Make a call and return the reply. -/
def perform (op : Op) : Program Op Reply (Reply op) :=
  .call op .done

/-- The state after the first `count` calls, or at the end of the program. -/
def stateAfter (world : Surroundings Op Reply) :
    Program Op Reply Result → (Nat → (op : Op) → world.Outcome op) →
      world.State → Nat → world.State
  | .done _, _, state, _ => state
  | .call _ _, _, state, 0 => state
  | .call op next, outcomes, state, count + 1 =>
      let performed := world.perform state op (outcomes 0 op)
      stateAfter world (next performed.1) (fun index => outcomes (index + 1))
        performed.2 count

/-- A call which was made, and the state before it. -/
structure Performed (world : Surroundings Op Reply) where
  before : world.State
  op : Op
  reply : Reply op

/-- The calls which the program makes. -/
def history (world : Surroundings Op Reply) :
    Program Op Reply Result → (Nat → (op : Op) → world.Outcome op) →
      world.State → List (Performed world)
  | .done _, _, _ => []
  | .call op next, outcomes, state =>
      let performed := world.perform state op (outcomes 0 op)
      ⟨state, op, performed.1⟩ :: history world (next performed.1)
        (fun index => outcomes (index + 1)) performed.2

/-- The result of the program, and the state in which it ends. -/
def finish (world : Surroundings Op Reply) :
    Program Op Reply Result → (Nat → (op : Op) → world.Outcome op) →
      world.State → Result × world.State
  | .done result, _, state => (result, state)
  | .call op next, outcomes, state =>
      let performed := world.perform state op (outcomes 0 op)
      finish world (next performed.1) (fun index => outcomes (index + 1))
        performed.2

/-- Every call which the program may make is allowed, whatever the replies. -/
def Calls (allowed : Op → Prop) : Program Op Reply Result → Prop
  | .done _ => True
  | .call op next => allowed op ∧ ∀ reply, Calls allowed (next reply)

/-- Whatever the outcomes, as far as they are allowed, the program makes a call
as wanted. -/
def Makes (world : Surroundings Op Reply)
    (allowed : (op : Op) → world.Outcome op → Prop)
    (wanted : Performed world → Prop) (program : Program Op Reply Result)
    (state : world.State) : Prop :=
  ∀ outcomes : Nat → (op : Op) → world.Outcome op,
    (∀ index op, allowed op (outcomes index op)) →
      ∃ performed ∈ program.history world outcomes state, wanted performed

/-- Whatever the outcomes, as far as they are allowed, the program ends as
wanted. -/
def Ends (world : Surroundings Op Reply)
    (allowed : (op : Op) → world.Outcome op → Prop)
    (Post : Result → world.State → Prop) (program : Program Op Reply Result)
    (state : world.State) : Prop :=
  ∀ outcomes : Nat → (op : Op) → world.Outcome op,
    (∀ index op, allowed op (outcomes index op)) →
      Post (program.finish world outcomes state).1
        (program.finish world outcomes state).2

/-- Whatever the outcomes, the program makes no call but the permitted ones. -/
def Only (world : Surroundings Op Reply) (permitted : Performed world → Prop)
    (program : Program Op Reply Result) (state : world.State) : Prop :=
  ∀ outcomes, ∀ performed ∈ program.history world outcomes state,
    permitted performed

/-- Every state which the program passes from `state` has the invariant, and
the state in which it ends has the postcondition too. -/
def Meets (world : Surroundings Op Reply) (Invariant : world.State → Prop)
    (Post : Result → world.State → Prop) :
    Program Op Reply Result → world.State → Prop
  | .done result, state => Invariant state ∧ Post result state
  | .call op next, state =>
      Invariant state ∧ ∀ outcome : world.Outcome op,
        Meets world Invariant Post
          (next (world.perform state op outcome).1)
          (world.perform state op outcome).2

/-- Every call is allowed at the stage at which the program makes it, and the
stage at which it ends has the postcondition. -/
def Obeys {Stage : Type} (protocol : Protocol Op Reply Stage)
    (Post : Result → Stage → Prop) : Program Op Reply Result → Stage → Prop
  | .done result, stage => Post result stage
  | .call op continuation, stage =>
      protocol.allows stage op ∧ ∀ reply, Obeys protocol Post
        (continuation reply) (protocol.next stage op reply)

section Calls

variable {allowed : Op → Prop} {program : Program Op Reply Result}

theorem Calls.pure (result : Result) :
    (Pure.pure result : Program Op Reply Result).Calls allowed :=
  trivial

theorem Calls.perform {op : Op} (permitted : allowed op) :
    (Program.perform op : Program Op Reply (Reply op)).Calls allowed :=
  ⟨permitted, fun _ => trivial⟩

theorem Calls.bind {next : Result → Program Op Reply Other}
    (first : program.Calls allowed)
    (later : ∀ result, (next result).Calls allowed) :
    (program >>= next).Calls allowed := by
  induction program with
  | done result => exact later result
  | call op continuation induction =>
      exact ⟨first.1, fun reply => induction reply (first.2 reply)⟩

theorem Calls.weaken {weaker : Op → Prop} (calls : program.Calls allowed)
    (implies : ∀ op, allowed op → weaker op) : program.Calls weaker := by
  induction program with
  | done result => trivial
  | call op continuation induction =>
      exact ⟨implies op calls.1, fun reply => induction reply (calls.2 reply)⟩

/-- An invariant which every allowed call keeps holds wherever the program is
stopped. -/
theorem Calls.stateAfter {world : Surroundings Op Reply}
    {Invariant : world.State → Prop}
    (kept : ∀ state op outcome, Invariant state → allowed op →
      Invariant (world.perform state op outcome).2)
    (calls : program.Calls allowed) {state : world.State}
    (initial : Invariant state)
    (outcomes : Nat → (op : Op) → world.Outcome op) (count : Nat) :
    Invariant (program.stateAfter world outcomes state count) := by
  induction program generalizing state outcomes count with
  | done result => exact initial
  | call op continuation induction =>
      cases count with
      | zero => exact initial
      | succ count =>
          apply induction _ (calls.2 _)
          exact kept state op (outcomes 0 op) initial calls.1

end Calls

section Histories

variable {world : Surroundings Op Reply}
  {allowed : (op : Op) → world.Outcome op → Prop}
  {wanted permitted : Performed world → Prop} {op : Op}
  {next : Reply op → Program Op Reply Result} {state : world.State}

theorem history_perform (outcomes : Nat → (op : Op) → world.Outcome op) :
    (Program.perform op >>= next).history world outcomes state =
      ⟨state, op, (world.perform state op (outcomes 0 op)).1⟩ ::
        (next (world.perform state op (outcomes 0 op)).1).history world
          (fun index => outcomes (index + 1))
          (world.perform state op (outcomes 0 op)).2 :=
  rfl

theorem finish_perform (outcomes : Nat → (op : Op) → world.Outcome op) :
    (Program.perform op >>= next).finish world outcomes state =
      (next (world.perform state op (outcomes 0 op)).1).finish world
        (fun index => outcomes (index + 1))
        (world.perform state op (outcomes 0 op)).2 :=
  rfl

/-- Behind the first part, the outcomes go on where it has ended. -/
theorem history_bind (program : Program Op Reply Result)
    (later : Result → Program Op Reply Other)
    (outcomes : Nat → (op : Op) → world.Outcome op) (state : world.State) :
    (program >>= later).history world outcomes state =
      program.history world outcomes state ++
        (later (program.finish world outcomes state).1).history world
          (fun index =>
            outcomes (index + (program.history world outcomes state).length))
          (program.finish world outcomes state).2 := by
  induction program generalizing outcomes state with
  | done result => rfl
  | call op continuation induction =>
      apply congrArg (List.cons _)
      exact induction _ _ _

theorem perform_bind_bind {Last : Type} (op : Op)
    (later : Reply op → Program Op Reply Other)
    (last : Other → Program Op Reply Last) :
    (Program.perform op >>= later) >>= last =
      Program.perform op >>= fun reply => later reply >>= last :=
  rfl

theorem Makes.here (meant : ∀ outcome, allowed op outcome →
      wanted ⟨state, op, (world.perform state op outcome).1⟩) :
    Makes world allowed wanted (Program.perform op >>= next) state := by
  intro outcomes lawful
  exact ⟨_, List.mem_cons_self, meant (outcomes 0 op) (lawful 0 op)⟩

theorem Makes.later (makes : ∀ outcome, allowed op outcome →
      Makes world allowed wanted (next (world.perform state op outcome).1)
        (world.perform state op outcome).2) :
    Makes world allowed wanted (Program.perform op >>= next) state := by
  intro outcomes lawful
  obtain ⟨performed, member, meant⟩ :=
    makes (outcomes 0 op) (lawful 0 op) (fun index => outcomes (index + 1))
      (fun index => lawful (index + 1))
  exact ⟨performed, List.mem_cons_of_mem _ member, meant⟩

theorem Ends.pure {Post : Result → world.State → Prop} {result : Result}
    (post : Post result state) :
    Ends world allowed Post (Pure.pure result) state := by
  intro outcomes _
  exact post

theorem Ends.perform {Post : Result → world.State → Prop}
    (later : ∀ outcome, allowed op outcome →
      Ends world allowed Post (next (world.perform state op outcome).1)
        (world.perform state op outcome).2) :
    Ends world allowed Post (Program.perform op >>= next) state := by
  intro outcomes lawful
  exact later (outcomes 0 op) (lawful 0 op) (fun index => outcomes (index + 1))
    (fun index => lawful (index + 1))

theorem Only.pure (result : Result) :
    Only world permitted (Pure.pure result) state := by
  intro outcomes performed member
  cases member

theorem Only.perform (first : ∀ outcome,
      permitted ⟨state, op, (world.perform state op outcome).1⟩)
    (later : ∀ outcome,
      Only world permitted (next (world.perform state op outcome).1)
        (world.perform state op outcome).2) :
    Only world permitted (Program.perform op >>= next) state := by
  intro outcomes performed member
  rw [history_perform] at member
  rcases List.mem_cons.mp member with rfl | after
  · exact first _
  · exact later _ _ performed after

/-- A program which may make some calls only makes no others. -/
theorem Only.of_calls {permittedOp : Op → Prop}
    {program : Program Op Reply Result} (calls : program.Calls permittedOp)
    (state : world.State) :
    Only world (fun performed => permittedOp performed.op) program state := by
  induction program generalizing state with
  | done result =>
      intro outcomes performed member
      cases member
  | call op continuation induction =>
      intro outcomes performed member
      rcases List.mem_cons.mp member with rfl | after
      · exact calls.1
      · exact induction _ (calls.2 _) _ _ performed after

end Histories

section Rules

variable {world : Surroundings Op Reply} {Invariant : world.State → Prop}
  {Post : Result → world.State → Prop} {program : Program Op Reply Result}
  {state : world.State}

theorem Meets.pure {result : Result} (invariant : Invariant state)
    (post : Post result state) :
    Meets world Invariant Post (Pure.pure result) state :=
  ⟨invariant, post⟩

theorem Meets.perform {op : Op}
    {Post : Reply op → world.State → Prop} (invariant : Invariant state)
    (next : ∀ outcome, Invariant (world.perform state op outcome).2 ∧
      Post (world.perform state op outcome).1
        (world.perform state op outcome).2) :
    Meets world Invariant Post (Program.perform op) state :=
  ⟨invariant, next⟩

/-- The rest of a program is started where the first part ends. -/
theorem Meets.bind {Later : Other → world.State → Prop}
    {next : Result → Program Op Reply Other}
    (first : Meets world Invariant Post program state)
    (later : ∀ result state, Post result state →
      Meets world Invariant Later (next result) state) :
    Meets world Invariant Later (program >>= next) state := by
  induction program generalizing state with
  | done result => exact later result state first.2
  | call op continuation induction =>
      refine ⟨first.1, fun outcome => ?_⟩
      exact induction _ (first.2 outcome)

theorem Meets.weaken {Weaker : Result → world.State → Prop}
    (met : Meets world Invariant Post program state)
    (weaker : ∀ result state, Post result state → Weaker result state) :
    Meets world Invariant Weaker program state := by
  induction program generalizing state with
  | done result => exact ⟨met.1, weaker result state met.2⟩
  | call op continuation induction =>
      refine ⟨met.1, fun outcome => ?_⟩
      exact induction _ (met.2 outcome)

/-- The invariant holds wherever the program is stopped. -/
theorem Meets.stateAfter (met : Meets world Invariant Post program state)
    (outcomes : Nat → (op : Op) → world.Outcome op) (count : Nat) :
    Invariant (program.stateAfter world outcomes state count) := by
  induction program generalizing state outcomes count with
  | done result => exact met.1
  | call op continuation induction =>
      cases count with
      | zero => exact met.1
      | succ count => exact induction _ (met.2 (outcomes 0 op)) _ count

end Rules

section Protocols

variable {Stage : Type} {protocol : Protocol Op Reply Stage}
  {Post : Result → Stage → Prop} {program : Program Op Reply Result}
  {stage : Stage}

theorem Obeys.pure {result : Result} (post : Post result stage) :
    (Pure.pure result : Program Op Reply Result).Obeys protocol Post stage :=
  post

theorem Obeys.perform {op : Op} {Post : Reply op → Stage → Prop}
    (allowed : protocol.allows stage op)
    (post : ∀ reply, Post reply (protocol.next stage op reply)) :
    (Program.perform op : Program Op Reply (Reply op)).Obeys protocol Post
      stage :=
  ⟨allowed, post⟩

theorem Obeys.bind {Later : Other → Stage → Prop}
    {next : Result → Program Op Reply Other}
    (first : program.Obeys protocol Post stage)
    (later : ∀ result stage, Post result stage →
      (next result).Obeys protocol Later stage) :
    (program >>= next).Obeys protocol Later stage := by
  induction program generalizing stage with
  | done result => exact later result stage first
  | call op continuation induction =>
      exact ⟨first.1, fun reply => induction reply (first.2 reply)⟩

/-- A first call, and what comes behind it. -/
theorem Obeys.call {op : Op} {Later : Other → Stage → Prop}
    {next : Reply op → Program Op Reply Other}
    (allowed : protocol.allows stage op)
    (later : ∀ reply, (next reply).Obeys protocol Later
      (protocol.next stage op reply)) :
    (Program.perform op >>= next).Obeys protocol Later stage :=
  ⟨allowed, later⟩

/-- A program which only makes calls that are allowed at a stage and lead to no
other. -/
theorem Obeys.of_calls {allowed : Op → Prop} (calls : program.Calls allowed)
    (allows : ∀ op, allowed op → protocol.allows stage op)
    (stays : ∀ op reply, allowed op → protocol.next stage op reply = stage)
    (post : ∀ result, Post result stage) :
    program.Obeys protocol Post stage := by
  induction program with
  | done result => exact post result
  | call op continuation induction =>
      refine ⟨allows op calls.1, fun reply => ?_⟩
      rw [stays op reply calls.1]
      exact induction reply (calls.2 reply)

end Protocols

end Program

end Lib
