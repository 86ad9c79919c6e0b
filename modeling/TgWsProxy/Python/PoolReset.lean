import TgWsProxy.Lib.Slots
import TgWsProxy.Python.PoolLookup

/-!
# A pool across resets

`reset` clears `_refilling` while the refills which are marked there go on.
When such a refill ends, its `finally` clause discards the mark of its key,
whoever has set it in the meantime.
-/

namespace TgWsProxy.Python

open Lib

/-- A pool, and how often `reset` had been called when each refill was
created. -/
structure EpochPool (Key : Type) where
  pool : Pool Key
  created : Nat → Nat

namespace EpochPool

section Epochs

variable {Key : Type}

def start : EpochPool Key := ⟨Pool.initial, fun _ => 0⟩

def step [DecidableEq Key] (hooks : PoolHooks Key) (poolSize : Nat) (s : EpochPool Key)
    (event : PoolEvent Key) : EpochPool Key :=
  { pool := s.pool.step hooks poolSize event
    created := fun id =>
      if id < s.pool.tasks.length then s.created id else s.pool.resets }

/-- A refill of the key which was created since the last `reset`, or has run
its first segment since, and has not ended. -/
def Running (s : EpochPool Key) (id : Nat) (key : Key) : Prop :=
  ∃ task, s.pool.tasks[id]? = some task ∧ task.key = key ∧
    task.phase ≠ .done ∧
    (s.created id = s.pool.resets ∨
      ∃ args pending, task.phase = .connecting s.pool.resets args pending)

/-- What the pool is to keep. -/
structure KeepsBounds (poolSize : Nat) (s : EpochPool Key) : Prop where
  one : ∀ key id other, s.Running id key → s.Running other key → id = other
  size : ∀ key, (s.pool.bucket key).length ≤ poolSize

/-- A refill from before the last `reset` has started since, and carries no
mark. -/
def OldRunning (s : EpochPool Key) (key : Key) : Prop :=
  ∃ id, s.created id < s.pool.resets ∧ s.Running id key

/-- A refill from before the last `reset` does not start or end while its key
is marked; and once it has started, no other refill of its key is begun until
it has ended. -/
def OldRefillsApart [DecidableEq Key] (hooks : PoolHooks Key) (s : EpochPool Key) :
    PoolEvent Key → Prop
  | .get key _ => key ∉ s.pool.refilling → ¬ s.OldRunning key
  | .activity .warmup =>
      ∀ refill ∈ hooks.allRefills, refill.1 ∉ s.pool.refilling →
        ¬ s.OldRunning refill.1
  | .activity (.startRefill id) =>
      ∀ task, s.pool.tasks[id]? = some task → task.phase = .scheduled →
        s.created id < s.pool.resets →
          task.key ∉ s.pool.refilling ∧ ¬ s.OldRunning task.key
  | .activity (.connected id _) =>
      ∀ task resets args pending, s.pool.tasks[id]? = some task →
        task.phase = .connecting resets args pending → pending ≤ 1 →
        s.created id < s.pool.resets → task.key ∉ s.pool.refilling
  | .activity (.cancelRefill id) =>
      ∀ task resets args pending, s.pool.tasks[id]? = some task →
        task.phase = .connecting resets args pending →
        s.created id < s.pool.resets → task.key ∉ s.pool.refilling
  | _ => True

/-- What is kept between two steps: a refill of this epoch has its mark, and
the live deque has room for what the running refill may still add. -/
structure Tidy (poolSize : Nat) (s : EpochPool Key) : Prop where
  created : ∀ id task, s.pool.tasks[id]? = some task →
    s.created id ≤ s.pool.resets
  connecting : ∀ id task resets args pending, s.pool.tasks[id]? = some task →
    task.phase = .connecting resets args pending →
      s.created id ≤ resets ∧ resets ≤ s.pool.resets ∧ 0 < pending
  later : ∀ resets key, s.pool.resets < resets → s.pool.deques resets key = []
  marked : ∀ id key, s.created id = s.pool.resets → s.Running id key →
    key ∈ s.pool.refilling
  one : ∀ key id other, s.Running id key → s.Running other key → id = other
  room : ∀ (id : Nat) task args pending, s.pool.tasks[id]? = some task →
    task.phase = .connecting s.pool.resets args pending →
      (s.pool.bucket task.key).length + pending ≤ poolSize
  size : ∀ key, (s.pool.bucket key).length ≤ poolSize

section Steps

variable {hooks : PoolHooks Key} {poolSize : Nat} {s : EpochPool Key}
  {key : Key} {id : Nat} {task : RefillTask Key}

theorem start_tidy (poolSize : Nat) : (start : EpochPool Key).Tidy poolSize where
  created := by simp [start, Pool.initial]
  connecting := by simp [start, Pool.initial]
  later _ _ _ := rfl
  marked := by simp [start, Pool.initial, Running]
  one := by simp [start, Pool.initial, Running]
  room := by simp [start, Pool.initial]
  size _ := Nat.zero_le _

/-- Only what was recorded about existing refills counts. -/
theorem running_of_created {created : Nat → Nat}
    (same : ∀ id < s.pool.tasks.length, created id = s.created id)
    (runs : Running ⟨s.pool, created⟩ id key) :
    s.Running id key ∧ created id = s.created id := by
  obtain ⟨task, found, isKey, unfinished, begun⟩ := runs
  have sameAt := same id (List.getElem?_eq_some_iff.mp found).1
  simp only [sameAt] at begun
  exact ⟨⟨task, found, isKey, unfinished, begun⟩, sameAt⟩

theorem Tidy.of_created (tidy : s.Tidy poolSize) {created : Nat → Nat}
    (same : ∀ id < s.pool.tasks.length, created id = s.created id) :
    Tidy poolSize ⟨s.pool, created⟩ := by
  have sameAt {id : Nat} {task : RefillTask Key}
      (found : s.pool.tasks[id]? = some task) : created id = s.created id :=
    same id (List.getElem?_eq_some_iff.mp found).1
  refine ⟨?_, ?_, tidy.later, ?_, ?_, tidy.room, tidy.size⟩
  · intro id task found
    simp only [sameAt found]
    exact tidy.created id task found
  · intro id task resets args pending found phase
    simp only [sameAt found]
    exact tidy.connecting id task resets args pending found phase
  · intro id key current runs
    obtain ⟨before, recorded⟩ := running_of_created same runs
    exact tidy.marked id key (recorded.symm.trans current) before
  · intro key id other runs otherRuns
    exact tidy.one key id other (running_of_created same runs).1
      (running_of_created same otherRuns).1

/-- The refills and their marks are as before, and no live deque is longer. -/
theorem Tidy.of_shorter (tidy : s.Tidy poolSize) {pool : Pool Key}
    (resets : pool.resets = s.pool.resets)
    (tasks : pool.tasks = s.pool.tasks)
    (refilling : pool.refilling = s.pool.refilling)
    (later : ∀ resets key, s.pool.resets < resets →
      pool.deques resets key = [])
    (shorter : ∀ key, (pool.bucket key).length ≤ (s.pool.bucket key).length) :
    Tidy poolSize ⟨pool, s.created⟩ := by
  have running {id : Nat} {key : Key}
      (runs : Running ⟨pool, s.created⟩ id key) : s.Running id key := by
    unfold Running at runs
    simp only [tasks, resets] at runs
    exact runs
  refine ⟨?_, ?_, ?_, ?_, ?_, ?_, ?_⟩
  · simp only [tasks, resets]
    exact tidy.created
  · simp only [tasks, resets]
    exact tidy.connecting
  · simp only [resets]
    exact later
  · intro id key current runs
    simp only [resets] at current
    simp only [refilling]
    exact tidy.marked id key current (running runs)
  · intro key id other runs otherRuns
    exact tidy.one key id other (running runs) (running otherRuns)
  · intro id task args pending found phase
    simp only [tasks, resets] at found phase
    have before := tidy.room id task args pending found phase
    have length := shorter task.key
    simp only
    omega
  · intro key
    exact (shorter key).trans (tidy.size key)

theorem found_setPhase {pool : Pool Key} {phase : RefillPhase} {other : Nat}
    (found : (pool.setPhase id phase).tasks[other]? = some task) :
    (other ≠ id ∧ pool.tasks[other]? = some task) ∨
      (other = id ∧ ∃ before, pool.tasks[id]? = some before ∧
        task = { before with phase := phase }) := by
  simp only [Pool.setPhase, List.getElem?_modify] at found
  by_cases isOwn : id = other
  · subst isOwn
    obtain ⟨before, present, changed⟩ := Option.map_eq_some_iff.mp found
    rw [if_pos rfl] at changed
    exact Or.inr ⟨rfl, before, present, changed.symm⟩
  · have unchanged : pool.tasks[other]? = some task := by
      simpa [isOwn] using found
    exact Or.inl ⟨fun same => isOwn same.symm, unchanged⟩

/-- A refill which runs no more is forgotten. -/
theorem Tidy.stop (tidy : s.Tidy poolSize) (id : Nat) :
    Tidy poolSize ⟨s.pool.setPhase id .done, s.created⟩ ∧
      ∀ other key,
        Running ⟨s.pool.setPhase id .done, s.created⟩ other key →
          other ≠ id ∧ s.Running other key := by
  have running (other : Nat) (key : Key)
      (runs : Running ⟨s.pool.setPhase id .done, s.created⟩ other key) :
      other ≠ id ∧ s.Running other key := by
    obtain ⟨task, found, isKey, unfinished, begun⟩ := runs
    rcases found_setPhase found with ⟨apart, before⟩ | ⟨-, before, -, rfl⟩
    · exact ⟨apart, task, before, isKey, unfinished, begun⟩
    · exact absurd rfl unfinished
  refine ⟨⟨?_, ?_, tidy.later, ?_, ?_, ?_, tidy.size⟩, running⟩
  · intro other task found
    rcases found_setPhase found with ⟨-, before⟩ | ⟨rfl, before, present, -⟩
    · exact tidy.created other task before
    · exact tidy.created other before present
  · intro other task resets args pending found phase
    rcases found_setPhase found with ⟨-, before⟩ | ⟨-, before, -, rfl⟩
    · exact tidy.connecting other task resets args pending before phase
    · cases phase
  · intro other key current runs
    exact tidy.marked other key current (running other key runs).2
  · intro key left right leftRuns rightRuns
    exact tidy.one key left right (running left key leftRuns).2
      (running right key rightRuns).2
  · intro other task args pending found phase
    rcases found_setPhase found with ⟨-, before⟩ | ⟨-, before, -, rfl⟩
    · exact tidy.room other task args pending before phase
    · cases phase

/-- `needed` connections are opened for the live deque. -/
theorem Tidy.begins (tidy : s.Tidy poolSize)
    (found : s.pool.tasks[id]? = some task) (scheduled : task.phase = .scheduled)
    (apart : s.created id < s.pool.resets →
      task.key ∉ s.pool.refilling ∧ ¬ s.OldRunning task.key)
    (args : List PyValue) {needed : Nat} (positive : 0 < needed)
    (room : (s.pool.bucket task.key).length + needed ≤ poolSize) :
    Tidy poolSize
      ⟨s.pool.setPhase id (.connecting s.pool.resets args needed),
        s.created⟩ := by
  have unfinished : task.phase ≠ .done := by
    rw [scheduled]
    exact fun finished => by cases finished
  have running {other : Nat} {key : Key}
      (runs : Running ⟨s.pool.setPhase id
        (.connecting s.pool.resets args needed), s.created⟩ other key) :
      (other ≠ id ∧ s.Running other key) ∨ (other = id ∧ key = task.key) := by
    obtain ⟨after, present, isKey, goesOn, begun⟩ := runs
    rcases found_setPhase present with ⟨other, before⟩ | ⟨own, before, same, rfl⟩
    · exact Or.inl ⟨other, after, before, isKey, goesOn, begun⟩
    · cases found.symm.trans same
      exact Or.inr ⟨own, isKey.symm⟩
  have ownRuns (current : s.created id = s.pool.resets) :
      s.Running id task.key := ⟨task, found, rfl, unfinished, Or.inl current⟩
  have alone (other : Nat) (isOther : other ≠ id) :
      ¬ s.Running other task.key := by
    intro runs
    rcases Nat.lt_or_eq_of_le (tidy.created id task found) with old | current
    · obtain ⟨unmarked, noOld⟩ := apart old
      have ⟨before, present, _⟩ := runs
      rcases Nat.lt_or_eq_of_le (tidy.created other before present) with
        otherOld | otherCurrent
      · exact noOld ⟨other, otherOld, runs⟩
      · exact unmarked (tidy.marked other task.key otherCurrent runs)
    · exact isOther (tidy.one task.key other id runs (ownRuns current))
  refine ⟨?_, ?_, tidy.later, ?_, ?_, ?_, tidy.size⟩
  · intro other after present
    rcases found_setPhase present with ⟨-, before⟩ | ⟨rfl, before, same, -⟩
    · exact tidy.created other after before
    · exact tidy.created other before same
  · intro other after resets afterArgs pending present phase
    rcases found_setPhase present with ⟨-, before⟩ | ⟨rfl, before, same, rfl⟩
    · exact tidy.connecting other after resets afterArgs pending before phase
    · cases phase
      exact ⟨tidy.created other before same, Nat.le_refl _, positive⟩
  · intro other key current runs
    rcases running runs with ⟨-, before⟩ | ⟨rfl, rfl⟩
    · exact tidy.marked other key current before
    · exact tidy.marked other task.key current (ownRuns current)
  · intro key left right leftRuns rightRuns
    rcases running leftRuns with ⟨leftOther, leftBefore⟩ | ⟨rfl, rfl⟩
    · rcases running rightRuns with ⟨-, rightBefore⟩ | ⟨rfl, rfl⟩
      · exact tidy.one key left right leftBefore rightBefore
      · exact absurd leftBefore (alone left leftOther)
    · rcases running rightRuns with ⟨rightOther, rightBefore⟩ | ⟨rfl, -⟩
      · exact absurd rightBefore (alone right rightOther)
      · rfl
  · intro other after afterArgs pending present phase
    rcases found_setPhase present with ⟨-, before⟩ | ⟨-, before, same, rfl⟩
    · exact tidy.room other after afterArgs pending before phase
    · cases found.symm.trans same
      cases phase
      exact room

/-- One connection fewer is awaited. -/
theorem Tidy.lower (tidy : s.Tidy poolSize) {resets pending : Nat}
    {args : List PyValue} (found : s.pool.tasks[id]? = some task)
    (connecting : task.phase = .connecting resets args pending)
    (more : 1 < pending) :
    Tidy poolSize
      ⟨s.pool.setPhase id (.connecting resets args (pending - 1)),
        s.created⟩ := by
  have unfinished : task.phase ≠ .done := by
    rw [connecting]
    exact fun finished => by cases finished
  have running {other : Nat} {key : Key}
      (runs : Running ⟨s.pool.setPhase id
        (.connecting resets args (pending - 1)), s.created⟩ other key) :
      s.Running other key := by
    obtain ⟨after, present, isKey, goesOn, begun⟩ := runs
    rcases found_setPhase present with ⟨-, before⟩ | ⟨rfl, before, same, rfl⟩
    · exact ⟨after, before, isKey, goesOn, begun⟩
    · cases found.symm.trans same
      refine ⟨task, found, isKey, unfinished, ?_⟩
      rcases begun with current | ⟨_, _, phase⟩
      · exact Or.inl current
      · have current : resets = s.pool.resets :=
          (RefillPhase.connecting.inj phase).1
        rw [current] at connecting
        exact Or.inr ⟨args, pending, connecting⟩
  refine ⟨?_, ?_, tidy.later, ?_, ?_, ?_, tidy.size⟩
  · intro other after present
    rcases found_setPhase present with ⟨-, before⟩ | ⟨rfl, before, same, -⟩
    · exact tidy.created other after before
    · exact tidy.created other before same
  · intro other after _ _ _ present phase
    rcases found_setPhase present with ⟨-, before⟩ | ⟨rfl, before, same, rfl⟩
    · exact tidy.connecting other after _ _ _ before phase
    · cases found.symm.trans same
      cases phase
      obtain ⟨early, late, -⟩ :=
        tidy.connecting other task resets args pending found connecting
      exact ⟨early, late, by omega⟩
  · intro other key current runs
    exact tidy.marked other key current (running runs)
  · intro key left right leftRuns rightRuns
    exact tidy.one key left right (running leftRuns) (running rightRuns)
  · intro other after _ _ present phase
    rcases found_setPhase present with ⟨-, before⟩ | ⟨-, before, same, rfl⟩
    · exact tidy.room other after _ _ before phase
    · cases found.symm.trans same
      obtain ⟨current, -, rfl⟩ := RefillPhase.connecting.inj phase
      have current : resets = s.pool.resets := current
      rw [current] at connecting
      have before := tidy.room id task args pending found connecting
      change (s.pool.bucket task.key).length + (pending - 1) ≤ poolSize
      omega

theorem running_of_connecting {pending : Nat} {args : List PyValue}
    (found : s.pool.tasks[id]? = some task)
    (connecting : task.phase = .connecting s.pool.resets args pending) :
    s.Running id task.key := by
  refine ⟨task, found, rfl, ?_, Or.inr ⟨args, pending, connecting⟩⟩
  rw [connecting]
  exact fun finished => by cases finished

/-- There is room for one more connection of the key. -/
def HasRoom (poolSize : Nat) (s : EpochPool Key) (key : Key) : Prop :=
  (s.pool.bucket key).length + 1 ≤ poolSize ∧
    ∀ (id : Nat) task args pending, s.pool.tasks[id]? = some task →
      task.phase = .connecting s.pool.resets args pending → task.key = key →
        (s.pool.bucket key).length + 1 + pending ≤ poolSize

/-- One awaited connection of several. -/
theorem Tidy.hasRoom_lowered (tidy : s.Tidy poolSize) {pending : Nat}
    {args : List PyValue} (found : s.pool.tasks[id]? = some task)
    (connecting : task.phase = .connecting s.pool.resets args pending)
    (more : 1 < pending) :
    HasRoom poolSize
      ⟨s.pool.setPhase id (.connecting s.pool.resets args (pending - 1)),
        s.created⟩ task.key := by
  have room := tidy.room id task args pending found connecting
  refine ⟨?_, ?_⟩
  · change (s.pool.bucket task.key).length + 1 ≤ poolSize
    omega
  · intro other after afterArgs afterPending present phase sameKey
    change (s.pool.bucket task.key).length + 1 + afterPending ≤ poolSize
    rcases found_setPhase present with ⟨isOther, before⟩ | ⟨-, before, same, rfl⟩
    · exfalso
      apply isOther
      have otherRuns := running_of_connecting before phase
      rw [sameKey] at otherRuns
      exact tidy.one task.key other id otherRuns
        (running_of_connecting found connecting)
    · obtain ⟨-, -, rfl⟩ := RefillPhase.connecting.inj phase
      omega

/-- No refill of the new epoch is there yet, and its deques are empty. -/
theorem Tidy.reset (tidy : s.Tidy poolSize) :
    Tidy poolSize ⟨s.pool.reset, s.created⟩ := by
  have none (id : Nat) (key : Key) :
      ¬ Running ⟨s.pool.reset, s.created⟩ id key := by
    rintro ⟨task, found, -, -, current | ⟨args, pending, phase⟩⟩
    · have early := tidy.created id task found
      change s.created id = s.pool.resets + 1 at current
      omega
    · have early := (tidy.connecting id task _ args pending found phase).2.1
      change s.pool.resets + 1 ≤ s.pool.resets at early
      omega
  have empty (key : Key) : s.pool.reset.bucket key = [] :=
    tidy.later _ key (Nat.lt_succ_self _)
  refine ⟨?_, ?_, ?_, ?_, ?_, ?_, ?_⟩
  · intro id task found
    exact Nat.le_succ_of_le (tidy.created id task found)
  · intro id task resets args pending found phase
    obtain ⟨early, late, positive⟩ :=
      tidy.connecting id task resets args pending found phase
    exact ⟨early, Nat.le_succ_of_le late, positive⟩
  · intro resets key beyond
    exact tidy.later resets key ((Nat.lt_succ_self _).trans beyond)
  · intro id key _ runs
    exact absurd runs (none id key)
  · intro key id other runs _
    exact absurd runs (none id key)
  · intro id task args pending found phase
    exact absurd (running_of_connecting found phase) (none id task.key)
  · intro key
    simp only [empty key]
    exact Nat.zero_le _

theorem Tidy.quietClose (tidy : s.Tidy poolSize) :
    Tidy poolSize ⟨s.pool.quietClose, s.created⟩ := by
  rw [Pool.quietClose]
  split
  · exact tidy
  · exact tidy.of_shorter rfl rfl rfl tidy.later fun _ => Nat.le_refl _

variable [DecidableEq Key]

theorem scheduleRefill_resets (pool : Pool Key) (key : Key)
    (args : List PyValue) :
    (pool.scheduleRefill key args).resets = pool.resets := by
  rw [Pool.scheduleRefill]
  split
  · rfl
  · rfl

theorem found_scheduleRefill {pool : Pool Key} {args : List PyValue}
    (found : (pool.scheduleRefill key args).tasks[id]? = some task) :
    pool.tasks[id]? = some task ∨
      (id = pool.tasks.length ∧ task = ⟨key, args, .scheduled⟩) := by
  rw [Pool.scheduleRefill] at found
  split at found
  · exact Or.inl found
  · exact found_concat found

theorem running_scheduleRefill {args : List PyValue} {other : Key}
    (runs : Running ⟨s.pool.scheduleRefill key args, s.created⟩ id other) :
    s.Running id other ∨ (id = s.pool.tasks.length ∧ other = key) := by
  obtain ⟨task, found, isKey, unfinished, begun⟩ := runs
  simp only [scheduleRefill_resets] at begun
  rcases found_scheduleRefill found with before | ⟨last, rfl⟩
  · exact Or.inl ⟨task, before, isKey, unfinished, begun⟩
  · exact Or.inr ⟨last, isKey.symm⟩

/-- A new refill is marked, and no other one of its key is running. -/
theorem Tidy.scheduleRefill (tidy : s.Tidy poolSize)
    (fresh : s.created s.pool.tasks.length = s.pool.resets)
    (apart : key ∉ s.pool.refilling → ¬ s.OldRunning key)
    (args : List PyValue) :
    Tidy poolSize ⟨s.pool.scheduleRefill key args, s.created⟩ := by
  by_cases isMarked : key ∈ s.pool.refilling
  · rw [Pool.scheduleRefill, if_pos isMarked]
    exact tidy
  have alone : ∀ id, ¬ s.Running id key := by
    intro id runs
    have ⟨task, found, _⟩ := runs
    rcases Nat.lt_or_eq_of_le (tidy.created id task found) with old | current
    · exact apart isMarked ⟨id, old, runs⟩
    · exact isMarked (tidy.marked id key current runs)
  have running {id : Nat} {other : Key}
      (runs : Running ⟨s.pool.scheduleRefill key args, s.created⟩ id other) :
      s.Running id other ∨ (id = s.pool.tasks.length ∧ other = key) :=
    running_scheduleRefill runs
  have resets := scheduleRefill_resets s.pool key args
  have marks : (s.pool.scheduleRefill key args).refilling =
      insert key s.pool.refilling := by
    rw [Pool.scheduleRefill, if_neg isMarked]
  refine ⟨?_, ?_, ?_, ?_, ?_, ?_, ?_⟩
  · intro id task found
    simp only [resets]
    rcases found_scheduleRefill found with before | ⟨rfl, -⟩
    · exact tidy.created id task before
    · exact Nat.le_of_eq fresh
  · intro id task _ _ _ found phase
    simp only [resets]
    rcases found_scheduleRefill found with before | ⟨-, rfl⟩
    · exact tidy.connecting id task _ _ _ before phase
    · cases phase
  · simp only [resets, Pool.scheduleRefill_deques]
    exact tidy.later
  · intro id other current runs
    simp only [resets] at current
    simp only [marks]
    rcases running runs with before | ⟨-, rfl⟩
    · exact Finset.mem_insert_of_mem (tidy.marked id other current before)
    · exact Finset.mem_insert_self _ _
  · intro other left right leftRuns rightRuns
    rcases running leftRuns with leftBefore | ⟨rfl, rfl⟩
    · rcases running rightRuns with rightBefore | ⟨rfl, rfl⟩
      · exact tidy.one other left right leftBefore rightBefore
      · exact absurd leftBefore (alone left)
    · rcases running rightRuns with rightBefore | ⟨rfl, -⟩
      · exact absurd rightBefore (alone right)
      · rfl
  · intro id task _ _ found phase
    simp only [resets] at phase
    simp only [Pool.bucket, resets, Pool.scheduleRefill_deques]
    rcases found_scheduleRefill found with before | ⟨-, rfl⟩
    · exact tidy.room id task _ _ before phase
    · cases phase
  · simp only [Pool.bucket, resets, Pool.scheduleRefill_deques]
    exact tidy.size

/-- The mark of a key without a refill of this epoch is discarded. -/
theorem Tidy.discard (tidy : s.Tidy poolSize)
    (none : ∀ id, s.created id = s.pool.resets → ¬ s.Running id key) :
    Tidy poolSize
      ⟨{ s.pool with refilling := s.pool.refilling.erase key }, s.created⟩ := by
  refine ⟨tidy.created, tidy.connecting, tidy.later, ?_, tidy.one, tidy.room,
    tidy.size⟩
  intro id other current runs
  rw [Finset.mem_erase]
  refine ⟨?_, tidy.marked id other current runs⟩
  rintro rfl
  exact none id current runs

/-- The end of a refill discards its own mark. -/
theorem Tidy.finishRefill (tidy : s.Tidy poolSize)
    (found : s.pool.tasks[id]? = some task) (unfinished : task.phase ≠ .done)
    (apart : s.created id < s.pool.resets → task.key ∉ s.pool.refilling) :
    Tidy poolSize ⟨s.pool.finishRefill id task.key, s.created⟩ := by
  obtain ⟨stopped, running⟩ := tidy.stop id
  apply stopped.discard
  intro other current runs
  obtain ⟨isOther, before⟩ := running other task.key runs
  rcases Nat.lt_or_eq_of_le (tidy.created id task found) with old | own
  · exact apart old (tidy.marked other task.key current before)
  · exact isOther (tidy.one task.key other id before
      ⟨task, found, rfl, unfinished, Or.inl own⟩)

theorem Tidy.startRefill (tidy : s.Tidy poolSize)
    (apart : s.OldRefillsApart hooks (.activity (.startRefill id))) :
    Tidy poolSize ⟨s.pool.startRefill hooks poolSize id, s.created⟩ := by
  rw [Pool.startRefill]
  split
  · rename_i key args found
    have scheduled : (RefillTask.mk key args .scheduled).phase ≠ .done :=
      fun finished => by cases finished
    have ends := tidy.finishRefill found scheduled fun old =>
      (apart _ found rfl old).1
    dsimp only
    split
    · exact ends
    · split
      · exact ends
      · rename_i opened _
        apply tidy.begins found rfl (apart _ found rfl)
        · omega
        · change (s.pool.bucket key).length +
            (poolSize - (s.pool.bucket key).length) ≤ poolSize
          omega
  · exact tidy

/-- A connection goes to the deque of its epoch. -/
theorem Tidy.receive (tidy : s.Tidy poolSize) {pool : Pool Key} {resets : Nat}
    {entry : Entry} (sameResets : pool.resets = s.pool.resets)
    (tasks : pool.tasks = s.pool.tasks)
    (refilling : pool.refilling = s.pool.refilling)
    (deques : ∀ epoch other, pool.deques epoch other =
      if epoch = resets ∧ other = key then
        s.pool.deques resets key ++ [entry]
      else s.pool.deques epoch other)
    (early : resets ≤ s.pool.resets)
    (room : resets = s.pool.resets → s.HasRoom poolSize key) :
    Tidy poolSize ⟨pool, s.created⟩ := by
  have running {id : Nat} {key : Key}
      (runs : Running ⟨pool, s.created⟩ id key) : s.Running id key := by
    unfold Running at runs
    simp only [tasks, sameResets] at runs
    exact runs
  have bucketOther {other : Key}
      (unlike : ¬ (s.pool.resets = resets ∧ other = key)) :
      pool.bucket other = s.pool.bucket other := by
    rw [Pool.bucket, deques, sameResets, if_neg unlike]
    rfl
  have bucketOwn (current : s.pool.resets = resets) :
      (pool.bucket key).length = (s.pool.bucket key).length + 1 := by
    rw [Pool.bucket, deques, sameResets, if_pos ⟨current, rfl⟩, Pool.bucket,
      List.length_append, current]
    rfl
  refine ⟨?_, ?_, ?_, ?_, ?_, ?_, ?_⟩
  · simp only [tasks, sameResets]
    exact tidy.created
  · simp only [tasks, sameResets]
    exact tidy.connecting
  · simp only [sameResets]
    intro later other beyond
    have notOwn : ¬ (later = resets ∧ other = key) := by
      rintro ⟨rfl, -⟩
      exact absurd beyond (Nat.not_lt.mpr early)
    rw [deques, if_neg notOwn]
    exact tidy.later later other beyond
  · intro id other current runs
    simp only [sameResets] at current
    simp only [refilling]
    exact tidy.marked id other current (running runs)
  · intro other left right leftRuns rightRuns
    exact tidy.one other left right (running leftRuns) (running rightRuns)
  · intro id task args pending found phase
    simp only [tasks, sameResets] at found phase
    by_cases same : s.pool.resets = resets ∧ task.key = key
    · obtain ⟨current, rfl⟩ := same
      simp only [bucketOwn current]
      exact (room current.symm).2 id task args pending found phase rfl
    · simp only [bucketOther same]
      exact tidy.room id task args pending found phase
  · intro other
    by_cases same : s.pool.resets = resets ∧ other = key
    · obtain ⟨current, rfl⟩ := same
      simp only [bucketOwn current]
      exact (room current.symm).1
    · simp only [bucketOther same]
      exact tidy.size other

/-- The last awaited connection: the refill ends. -/
theorem Tidy.hasRoom_finished (tidy : s.Tidy poolSize) {pending : Nat}
    {args : List PyValue} (found : s.pool.tasks[id]? = some task)
    (connecting : task.phase = .connecting s.pool.resets args pending) :
    HasRoom poolSize ⟨s.pool.finishRefill id task.key, s.created⟩ task.key := by
  have room := tidy.room id task args pending found connecting
  have positive := (tidy.connecting id task _ args pending found connecting).2.2
  refine ⟨?_, ?_⟩
  · change (s.pool.bucket task.key).length + 1 ≤ poolSize
    omega
  · intro other after afterArgs afterPending present phase sameKey
    exfalso
    rcases found_setPhase present with ⟨isOther, before⟩ | ⟨-, before, -, rfl⟩
    · apply isOther
      have otherRuns := running_of_connecting before phase
      rw [sameKey] at otherRuns
      exact tidy.one task.key other id otherRuns
        (running_of_connecting found connecting)
    · cases phase

theorem Tidy.connected (tidy : s.Tidy poolSize) {ws : Option Socket}
    (apart : s.OldRefillsApart hooks (.activity (.connected id ws))) :
    Tidy poolSize ⟨s.pool.connected id ws, s.created⟩ := by
  rw [Pool.connected]
  split
  · rename_i key scheduledArgs resets args pending found
    obtain ⟨-, early, positive⟩ :=
      tidy.connecting id _ resets args pending found rfl
    have unfinished : (RefillTask.mk key scheduledArgs
        (.connecting resets args pending)).phase ≠ .done :=
      fun finished => by cases finished
    by_cases last : pending ≤ 1
    · have finished := tidy.finishRefill found unfinished
        (apart _ resets args pending found rfl last)
      simp only [if_pos last]
      cases ws with
      | none => exact finished
      | some ws =>
          refine finished.receive rfl rfl rfl (fun _ _ => rfl) early ?_
          intro current
          have own : resets = s.pool.resets := current
          subst own
          exact tidy.hasRoom_finished found rfl
    · have lowered := tidy.lower found rfl (Nat.lt_of_not_le last)
      simp only [if_neg last]
      cases ws with
      | none => exact lowered
      | some ws =>
          refine lowered.receive rfl rfl rfl (fun _ _ => rfl) early ?_
          intro current
          have own : resets = s.pool.resets := current
          subst own
          exact tidy.hasRoom_lowered found rfl (Nat.lt_of_not_le last)
  · exact tidy

theorem Tidy.cancelRefill (tidy : s.Tidy poolSize)
    (apart : s.OldRefillsApart hooks (.activity (.cancelRefill id))) :
    Tidy poolSize ⟨s.pool.cancelRefill id, s.created⟩ := by
  rw [Pool.cancelRefill]
  split
  · exact (tidy.stop id).1
  · rename_i found
    exact tidy.finishRefill found (fun finished => by cases finished)
      (apart _ _ _ _ found rfl)
  · exact tidy

theorem bucket_setDeque (pool : Pool Key) (key other : Key)
    (entries : List Entry) :
    (pool.setDeque pool.resets key entries).bucket other =
      if other = key then entries else pool.bucket other := by
  simp [Pool.bucket, Pool.setDeque]

/-- A lookup shortens the deque of its key. -/
theorem Tidy.taken (tidy : s.Tidy poolSize) {pool : Pool Key}
    {entries : List Entry} (sameResets : pool.resets = s.pool.resets)
    (tasks : pool.tasks = s.pool.tasks)
    (refilling : pool.refilling = s.pool.refilling)
    (deques : pool.deques =
      (s.pool.setDeque s.pool.resets key entries).deques)
    (shorter : entries.length ≤ (s.pool.bucket key).length) :
    Tidy poolSize ⟨pool, s.created⟩ := by
  apply tidy.of_shorter sameResets tasks refilling
  · intro later other beyond
    have notOwn : ¬ (later = s.pool.resets ∧ other = key) := by
      rintro ⟨rfl, -⟩
      exact Nat.lt_irrefl _ beyond
    rw [deques]
    exact (if_neg notOwn).trans (tidy.later later other beyond)
  · intro other
    have bucket := bucket_setDeque s.pool key other entries
    rw [Pool.bucket, sameResets, deques]
    change ((s.pool.setDeque s.pool.resets key entries).bucket other).length ≤ _
    rw [bucket]
    split
    · rename_i same
      rw [same]
      exact shorter
    · exact Nat.le_refl _

theorem Tidy.get (tidy : s.Tidy poolSize)
    (fresh : s.created s.pool.tasks.length = s.pool.resets)
    {args : List PyValue} (apart : s.OldRefillsApart hooks (.get key args)) :
    Tidy poolSize ⟨(s.pool.get hooks key args).2, s.created⟩ := by
  have rest : ((s.pool.bucket key).dropWhile (!s.pool.usable ·)).length ≤
      (s.pool.bucket key).length :=
    (List.dropWhile_suffix _).length_le
  have dropped (hits misses : Nat) (quietCloses : List Nat)
      {entries : List Entry}
      (shorter : entries.length ≤ (s.pool.bucket key).length) :
      Tidy poolSize
        ⟨{ s.pool.setDeque s.pool.resets key entries with
            quietCloses, hits, misses }, s.created⟩ :=
    tidy.taken rfl rfl rfl rfl shorter
  unfold Pool.get
  simp only [Pool.popUnusable]
  cases split : (s.pool.bucket key).dropWhile (!s.pool.usable ·) with
  | nil =>
      exact (dropped s.pool.hits (s.pool.misses + 1) _
        (Nat.zero_le _)).scheduleRefill fresh apart args
  | cons entry entries =>
      have shorter : entries.length ≤ (s.pool.bucket key).length := by
        rw [split, List.length_cons] at rest
        omega
      have taken := dropped (s.pool.hits + 1) s.pool.misses
        (s.pool.quietCloses ++ ((s.pool.bucket key).takeWhile
          (!s.pool.usable ·)).map Entry.ws) shorter
      cases hooks.logPrefix key with
      | error error => exact taken
      | ok text => exact taken.scheduleRefill fresh apart args

/-- A warmup schedules the refills of its keys one after the other. -/
theorem Tidy.scheduleAll (tidy : s.Tidy poolSize)
    {refills : List (Key × List PyValue)}
    (fresh : ∀ id, s.pool.tasks.length ≤ id → s.created id = s.pool.resets)
    (apart : ∀ refill ∈ refills, refill.1 ∉ s.pool.refilling →
      ¬ s.OldRunning refill.1) :
    Tidy poolSize ⟨refills.foldl
      (fun pool refill => pool.scheduleRefill refill.1 refill.2) s.pool,
        s.created⟩ := by
  induction refills generalizing s with
  | nil => exact tidy
  | cons refill refills induction =>
      have next := tidy.scheduleRefill (fresh _ (Nat.le_refl _))
        (apart refill List.mem_cons_self) refill.2
      have length_le : s.pool.tasks.length ≤
          (s.pool.scheduleRefill refill.1 refill.2).tasks.length := by
        unfold Pool.scheduleRefill
        split
        · exact Nat.le_refl _
        · simp
      have marks {key : Key} (isMarked : key ∈ s.pool.refilling) :
          key ∈ (s.pool.scheduleRefill refill.1 refill.2).refilling := by
        unfold Pool.scheduleRefill
        split
        · exact isMarked
        · exact Finset.mem_insert_of_mem isMarked
      refine induction next ?_ ?_
      · intro id beyond
        rw [scheduleRefill_resets]
        exact fresh id (length_le.trans beyond)
      · intro other member unmarked old
        refine apart other (List.mem_cons_of_mem _ member)
          (fun isMarked => unmarked (marks isMarked)) ?_
        obtain ⟨id, early, runs⟩ := old
        simp only [scheduleRefill_resets] at early
        rcases running_scheduleRefill runs with before | ⟨rfl, -⟩
        · exact ⟨id, early, before⟩
        · rw [fresh _ (Nat.le_refl _)] at early
          exact absurd early (Nat.lt_irrefl _)

theorem OldRefillsApart.of_created {event : PoolEvent Key}
    {created : Nat → Nat} (apart : s.OldRefillsApart hooks event)
    (same : ∀ id < s.pool.tasks.length, created id = s.created id) :
    OldRefillsApart hooks ⟨s.pool, created⟩ event := by
  have sameAt {id : Nat} {task : RefillTask Key}
      (found : s.pool.tasks[id]? = some task) : created id = s.created id :=
    same id (List.getElem?_eq_some_iff.mp found).1
  have earlier {key : Key} (old : OldRunning ⟨s.pool, created⟩ key) :
      s.OldRunning key := by
    obtain ⟨id, early, runs⟩ := old
    obtain ⟨before, recorded⟩ := running_of_created same runs
    exact ⟨id, recorded.symm.trans_lt early, before⟩
  cases event with
  | get key args => exact fun unmarked old => apart unmarked (earlier old)
  | activity activity =>
      cases activity with
      | warmup =>
          intro refill member unmarked old
          exact apart refill member unmarked (earlier old)
      | startRefill id =>
          intro task found scheduled old
          simp only [sameAt found] at old
          obtain ⟨unmarked, alone⟩ := apart task found scheduled old
          exact ⟨unmarked, fun others => alone (earlier others)⟩
      | connected id ws =>
          intro task resets args pending found phase last old
          simp only [sameAt found] at old
          exact apart task resets args pending found phase last old
      | cancelRefill id =>
          intro task resets args pending found phase old
          simp only [sameAt found] at old
          exact apart task resets args pending found phase old
      | reset | quietClose | drop | elapse => trivial

theorem Tidy.step (tidy : s.Tidy poolSize) {event : PoolEvent Key}
    (apart : s.OldRefillsApart hooks event) :
    (s.step hooks poolSize event).Tidy poolSize := by
  -- What is recorded about the refills which the step creates.
  have same (id : Nat) (inside : id < s.pool.tasks.length) :
      (s.step hooks poolSize event).created id = s.created id := if_pos inside
  have fresh (id : Nat) (beyond : s.pool.tasks.length ≤ id) :
      (s.step hooks poolSize event).created id = s.pool.resets :=
    if_neg (Nat.not_lt.mpr beyond)
  have recorded := tidy.of_created same
  have apart := apart.of_created same
  cases event with
  | get key args => exact recorded.get (fresh _ (Nat.le_refl _)) apart
  | activity activity =>
      cases activity with
      | warmup => exact recorded.scheduleAll fresh apart
      | reset => exact recorded.reset
      | startRefill id => exact recorded.startRefill apart
      | connected id ws => exact recorded.connected apart
      | cancelRefill id => exact recorded.cancelRefill apart
      | quietClose => exact recorded.quietClose
      | drop ws =>
          exact recorded.of_shorter rfl rfl rfl recorded.later
            fun _ => Nat.le_refl _
      | elapse duration =>
          exact recorded.of_shorter rfl rfl rfl recorded.later
            fun _ => Nat.le_refl _

end Steps

/-- In every run in which the refills from before a `reset` keep apart from
those after it, the pool keeps its bounds. -/
theorem resets_keep_bounds (hooks : PoolHooks Key) (poolSize : Nat)
    [DecidableEq Key] {events : List (PoolEvent Key)}
    (apart : AllSteps (step hooks poolSize) (OldRefillsApart hooks) start
      events) :
    (run (step hooks poolSize) start events).KeepsBounds poolSize := by
  have tidy : (run (step hooks poolSize) start events).Tidy poolSize :=
    AllSteps.invariant (fun _ _ tidy apart => tidy.step apart)
      (start_tidy poolSize) apart
  exact ⟨tidy.one, tidy.size⟩

end Epochs

end EpochPool

/-- A refill of DC 2 begins, and then `reset` is called. -/
def resetDuringRefill : List (PoolEvent (PoolKey Bool)) :=
  [.get (.pair 2 false) [], .activity (.startRefill 0), .activity .reset]

/-- A second refill begins; the first one ends and discards the mark; and a
third one begins. -/
def thirdRefill : List (PoolEvent (PoolKey Bool)) :=
  resetDuringRefill ++
    [.get (.pair 2 false) [], .activity (.startRefill 1),
      .activity (.connected 0 none), .get (.pair 2 false) [],
      .activity (.startRefill 2)]

/-- Both of them connect. -/
def bothConnect : List (PoolEvent (PoolKey Bool)) :=
  thirdRefill ++
    [.activity (.connected 1 (some ⟨false, false⟩)),
      .activity (.connected 2 (some ⟨false, false⟩))]

/-- The hooks of the pool with one connection for DC 2. -/
def oneConnection : PoolHooks (PoolKey Bool) :=
  WsPool.hooks ⟨[(2, some "149.154.167.220")], 1, []⟩

theorem resets_keep_bounds_oneRefill :
    (run (EpochPool.step oneConnection 1) EpochPool.start
      resetDuringRefill).KeepsBounds 1 := by
  apply EpochPool.resets_keep_bounds oneConnection 1
  refine ⟨?_, ?_, trivial, trivial⟩
  · rintro - ⟨id, old, -⟩
    exact absurd old (Nat.not_lt_zero _)
  · intro task found scheduled old
    exact absurd old (Nat.not_lt_zero _)

/-- Two refills of this epoch run, and fill the deque twice. -/
theorem reset_breaks_bounds :
    ¬ (run (EpochPool.step oneConnection 1) EpochPool.start
        thirdRefill).KeepsBounds 1 ∧
      ¬ (run (EpochPool.step oneConnection 1) EpochPool.start
        bothConnect).KeepsBounds 1 := by
  constructor
  · intro kept
    have second : (run (EpochPool.step oneConnection 1) EpochPool.start
        thirdRefill).Running 1 (.pair 2 false) :=
      ⟨_, rfl, rfl, (fun done => by cases done), Or.inl rfl⟩
    have third : (run (EpochPool.step oneConnection 1) EpochPool.start
        thirdRefill).Running 2 (.pair 2 false) :=
      ⟨_, rfl, rfl, (fun done => by cases done), Or.inl rfl⟩
    cases kept.one _ 1 2 second third
  · intro kept
    have bound := kept.size (.pair 2 false)
    revert bound
    decide

end TgWsProxy.Python
