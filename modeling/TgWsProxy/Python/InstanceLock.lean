import Mathlib.Algebra.Order.Ring.Rat
import TgWsProxy.Lib.Dictionary
import TgWsProxy.Lib.Runs
import TgWsProxy.Lib.Text

/-!
# The lock of a single instance

`acquire_lock` of `utils/tray_common.py`, run by packaged processes which start
at the same time.  A process lists the lock files, reads them one by one, unlinks
those of processes which are gone, and writes a file of its own; each of these is
one event, and the events of the processes come in any order.
-/

namespace TgWsProxy.Python

open Lib

/-- What `_same_process` finds in a lock file. -/
inductive LockText where
  /-- Nothing can be read, or there is no `create_time`. -/
  | noTime
  | time (createTime : Rat)
  /-- It is JSON in which `create_time` is no number. -/
  | broken
deriving DecidableEq, Repr

/-- What `psutil` reports of a process. -/
structure LockProcess where
  createTime : Rat
  /-- Its name contains `APP_NAME`. -/
  named : Bool

/-- `_same_process` of a packaged application. -/
def sameProcess (proc : LockProcess) : LockText → Bool
  | .noTime => proc.named
  | .time lockCt =>
      if 0 < lockCt ∧ 1 < |lockCt - proc.createTime| then false
      else proc.named
  | .broken => false

/-- The processes by their pids, and `int` of the stem of a file name. -/
structure LockMachine where
  process : Nat → LockProcess
  int : String → Option Int
  int_pid : ∀ pid : Nat, int (toString pid) = some (pid : Int)

/-- Where a process stands in `acquire_lock`.  `listedAt` counts the locks which
had been created when it listed the directory. -/
inductive LockPhase where
  | idle
  | scanning (listedAt : Nat) (files : List String)
  /-- The file is to be unlinked; it was the lock with this number when it was
  read. -/
  | unlinking (listedAt : Nat) (file : String) (stamp : Nat)
      (files : List String)
  /-- The own file is open for writing. -/
  | opened (listedAt : Nat)
  /-- `write_text` has raised. -/
  | touching (listedAt : Nat)
  | returned (acquired : Bool)
deriving DecidableEq, Repr

/-- The directory, by the stems of its lock files, and the processes.  The locks
created in the run are numbered from one. -/
structure LockDir where
  dir : Dictionary String LockText
  phase : Nat → LockPhase
  created : Nat
  stamp : String → Nat

/-- The order in which `glob` finds the files. -/
abbrev GlobOrder :=
  (files : List String) → { order : List String // order.Perm files }

/-- A step of a process in the file system. -/
inductive LockEvent where
  | lists (pid : Nat) (order : GlobOrder)
  /-- A file is read and its process looked up; `running` is what a process
  would be taken for which has not come to `acquire_lock`. -/
  | reads (pid : Nat) (readable running : Bool)
  | unlinks (pid : Nat) (works : Bool)
  | opens (pid : Nat) (works : Bool)
  | writes (pid : Nat) (works : Bool)
  | touches (pid : Nat) (works : Bool)

namespace LockDir

def initial (dir : Dictionary String LockText) : LockDir :=
  ⟨dir, fun _ => .idle, 0, fun _ => 0⟩

def enters (s : LockDir) (pid : Nat) (phase : LockPhase) : LockDir :=
  { s with phase := Function.update s.phase pid phase }

/-- What can be read of a file. -/
def textOf (s : LockDir) (file : String) (readable : Bool) : LockText :=
  if readable then (s.dir.lookup file).getD .noTime else .noTime

/-- Whether `_same_process` is true of the pid; none is negative. -/
def isRunning (machine : LockMachine) (s : LockDir) (text : LockText)
    (running : Bool) : Int → Bool
  | .ofNat pid =>
      if s.phase pid = .idle then running
      else sameProcess (machine.process pid) text
  | .negSucc _ => false

/-- The empty file of the process has come into being. -/
def creates (s : LockDir) (pid : Nat) : LockDir :=
  { s with
    dir := s.dir.insert (toString pid) .noTime
    created := s.created + 1
    stamp := Function.update s.stamp (toString pid) (s.created + 1) }

/-- The text goes to the file unless it has been unlinked. -/
def fills (s : LockDir) (pid : Nat) (text : LockText) : LockDir :=
  if toString pid ∈ s.dir then
    { s with dir := s.dir.insert (toString pid) text }
  else s

def step (machine : LockMachine) (s : LockDir) : LockEvent → LockDir
  | .lists pid order =>
      match s.phase pid with
      | .idle => s.enters pid (.scanning s.created (order s.dir.keys).val)
      | _ => s
  | .reads pid readable running =>
      match s.phase pid with
      | .scanning listedAt (file :: files) =>
          let stale := .unlinking listedAt file (s.stamp file) files
          match machine.int file with
          | none => s.enters pid stale
          | some number =>
              let text := s.textOf file readable
              if s.isRunning machine text running number then
                s.enters pid (.returned false)
              else s.enters pid stale
      | _ => s
  | .unlinks pid works =>
      match s.phase pid with
      | .unlinking listedAt file _ files =>
          let s := if works then { s with dir := s.dir.erase file } else s
          s.enters pid (.scanning listedAt files)
      | _ => s
  | .opens pid works =>
      match s.phase pid with
      | .scanning listedAt [] =>
          if works then (s.creates pid).enters pid (.opened listedAt)
          else s.enters pid (.touching listedAt)
      | _ => s
  | .writes pid works =>
      match s.phase pid with
      | .opened listedAt =>
          if works then
            (s.fills pid (.time (machine.process pid).createTime)).enters pid
              (.returned true)
          else s.enters pid (.touching listedAt)
      | _ => s
  | .touches pid works =>
      match s.phase pid with
      | .touching _ =>
          let s :=
            if works = true ∧ toString pid ∉ s.dir then s.creates pid else s
          s.enters pid (.returned true)
      | _ => s

/-- A process creates its lock while none has been created since it listed the
directory, unlinks no lock which has been created since it read the file, does
not return without a lock of its own, and is known by its name. -/
def Careful (machine : LockMachine) (s : LockDir) : LockEvent → Prop
  | .lists pid _ => (machine.process pid).named = true
  | .reads _ _ _ => True
  | .unlinks pid _ =>
      match s.phase pid with
      | .unlinking _ file stamp _ => s.stamp file = stamp
      | _ => True
  | .opens pid works =>
      match s.phase pid with
      | .scanning listedAt [] => works = true → s.created = listedAt
      | _ => True
  | .writes _ _ => True
  | .touches pid works =>
      match s.phase pid with
      | .touching listedAt =>
          if toString pid ∈ s.dir then s.stamp (toString pid) ≠ 0
          else works = true ∧ s.created = listedAt
      | _ => True

end LockDir

/-- The phases of the processes before the first lock is created. -/
def LockPhase.Early : LockPhase → Prop
  | .idle => True
  | .scanning listedAt _ => listedAt = 0
  | .unlinking listedAt _ stamp _ => listedAt = 0 ∧ stamp = 0
  | .opened _ => False
  | .touching listedAt => listedAt = 0
  | .returned acquired => acquired = false

/-- The phases of the other processes once there is a lock: those which listed
the directory after that have the lock still to read. -/
def LockPhase.Shut (lock : String) : LockPhase → Prop
  | .idle => True
  | .scanning listedAt files => listedAt = 0 ∨ lock ∈ files
  | .unlinking listedAt _ stamp files =>
      (listedAt = 0 ∨ lock ∈ files) ∧ stamp = 0
  | .opened _ => False
  | .touching listedAt => listedAt = 0
  | .returned acquired => acquired = false

/-- The phases of the process which has created the lock. -/
def LockPhase.Owns : LockPhase → Prop
  | .opened _ => True
  | .touching _ => True
  | .returned acquired => acquired = true
  | _ => False

theorem LockPhase.Early.shut {phase : LockPhase} {lock : String}
    (early : phase.Early) : phase.Shut lock := by
  cases phase with
  | idle => exact early
  | scanning listedAt files => exact Or.inl early
  | unlinking listedAt file stamp files => exact ⟨Or.inl early.1, early.2⟩
  | opened listedAt => exact early
  | touching listedAt => exact early
  | returned acquired => exact early

namespace LockDir

structure Free (s : LockDir) : Prop where
  created : s.created = 0
  stamps : ∀ file, s.stamp file = 0
  early : ∀ pid, (s.phase pid).Early

structure HeldBy (machine : LockMachine) (s : LockDir) (holder : Nat) : Prop where
  created : s.created = 1
  stamps : ∀ file, s.stamp file = if file = toString holder then 1 else 0
  present : ∃ text, s.dir.lookup (toString holder) = some text ∧
    sameProcess (machine.process holder) text = true
  owns : (s.phase holder).Owns
  shut : ∀ pid, pid ≠ holder → (s.phase pid).Shut (toString holder)

/-- There is at most one lock, whose process is known to the others. -/
structure Exclusive (machine : LockMachine) (s : LockDir) : Prop where
  named : ∀ pid, s.phase pid ≠ .idle → (machine.process pid).named = true
  held : s.Free ∨ ∃ holder, s.HeldBy machine holder

section Moves

variable {machine : LockMachine} {s : LockDir} {pid holder : Nat}
  {phase : LockPhase}

theorem phase_enters_self : (s.enters pid phase).phase pid = phase := by
  simp only [enters, Function.update_self]

theorem phase_enters_ne {other : Nat} (different : other ≠ pid) :
    (s.enters pid phase).phase other = s.phase other := by
  simp only [enters, Function.update_of_ne different]

theorem toString_injective (machine : LockMachine) {pid other : Nat}
    (same : toString pid = toString other) : pid = other := by
  have numbers := machine.int_pid pid
  rw [same, machine.int_pid other] at numbers
  exact Int.ofNat.inj (Option.some.inj numbers).symm

theorem named_enters
    (named : ∀ pid, s.phase pid ≠ .idle → (machine.process pid).named = true)
    (own : (machine.process pid).named = true) :
    ∀ other, (s.enters pid phase).phase other ≠ .idle →
      (machine.process other).named = true := by
  intro other active
  by_cases same : other = pid
  · rw [same]
    exact own
  · rw [phase_enters_ne same] at active
    exact named other active

theorem Free.enters (free : s.Free) (early : phase.Early) :
    (s.enters pid phase).Free := by
  refine ⟨free.created, free.stamps, ?_⟩
  intro other
  by_cases same : other = pid
  · rw [same, phase_enters_self]
    exact early
  · rw [phase_enters_ne same]
    exact free.early other

theorem HeldBy.enters (held : s.HeldBy machine holder) (other : pid ≠ holder)
    (shut : phase.Shut (toString holder)) :
    (s.enters pid phase).HeldBy machine holder := by
  refine ⟨held.created, held.stamps, held.present, ?_, ?_⟩
  · rw [phase_enters_ne other.symm]
    exact held.owns
  · intro another notHolder
    by_cases same : another = pid
    · rw [same, phase_enters_self]
      exact shut
    · rw [phase_enters_ne same]
      exact held.shut another notHolder

theorem HeldBy.enters_own (held : s.HeldBy machine holder)
    (owns : phase.Owns) : (s.enters holder phase).HeldBy machine holder := by
  refine ⟨held.created, held.stamps, held.present, ?_, ?_⟩
  · rw [phase_enters_self]
    exact owns
  · intro another notHolder
    rw [phase_enters_ne notHolder]
    exact held.shut another notHolder

/-- The first lock belongs to its process. -/
theorem Free.creates (free : s.Free)
    (named : (machine.process pid).named = true) (owns : phase.Owns) :
    ((s.creates pid).enters pid phase).HeldBy machine pid := by
  constructor
  · simp only [LockDir.enters, LockDir.creates, free.created]
  · intro file
    simp only [LockDir.enters, LockDir.creates, free.created]
    by_cases own : file = toString pid
    · rw [own, Function.update_self, if_pos rfl]
    · rw [Function.update_of_ne own, if_neg own]
      exact free.stamps file
  · refine ⟨.noTime, ?_, named⟩
    exact AList.lookup_insert s.dir
  · rw [phase_enters_self]
    exact owns
  · intro other notHolder
    rw [phase_enters_ne notHolder]
    exact (free.early other).shut

/-- The lock stays unless its own file is unlinked. -/
theorem HeldBy.erase (held : s.HeldBy machine holder) {file : String}
    (notLock : file ≠ toString holder) :
    ({ s with dir := s.dir.erase file } : LockDir).HeldBy machine holder := by
  obtain ⟨text, found, running⟩ := held.present
  refine ⟨held.created, held.stamps, ⟨text, ?_, running⟩, held.owns, held.shut⟩
  change (s.dir.erase file).lookup (toString holder) = some text
  rw [AList.lookup_erase_ne notLock.symm]
  exact found

theorem HeldBy.fills (held : s.HeldBy machine holder) {text : LockText}
    (running : sameProcess (machine.process holder) text = true) :
    (s.fills holder text).HeldBy machine holder := by
  unfold LockDir.fills
  split
  · refine ⟨held.created, held.stamps, ⟨text, ?_, running⟩, held.owns,
      held.shut⟩
    exact AList.lookup_insert s.dir
  · exact held

theorem sameProcess_own (proc : LockProcess) (named : proc.named = true) :
    sameProcess proc (.time proc.createTime) = true := by
  have near : ¬ (1 : Rat) < |proc.createTime - proc.createTime| := by
    rw [sub_self, abs_zero]
    decide
  simp only [sameProcess, near, and_false, if_false]
  exact named

end Moves

section Steps

variable {machine : LockMachine} {s : LockDir} {pid holder : Nat}

/-- A process which is not the holder has not created a lock. -/
theorem HeldBy.active (held : s.HeldBy machine holder) :
    s.phase holder ≠ .idle := by
  intro idle
  have owns := held.owns
  rw [idle] at owns
  exact owns

theorem HeldBy.ne_of_not_owns (held : s.HeldBy machine holder)
    (not_owns : ¬ (s.phase pid).Owns) : pid ≠ holder := by
  intro same
  rw [same] at not_owns
  exact not_owns held.owns

theorem Exclusive.enters_free {phase : LockPhase}
    (exclusive : s.Exclusive machine)
    (named : (machine.process pid).named = true) (free : s.Free)
    (early : phase.Early) : (s.enters pid phase).Exclusive machine :=
  ⟨named_enters exclusive.named named, Or.inl (free.enters early)⟩

theorem Exclusive.enters_held {phase : LockPhase}
    (exclusive : s.Exclusive machine)
    (named : (machine.process pid).named = true)
    (held : s.HeldBy machine holder) (other : pid ≠ holder)
    (shut : phase.Shut (toString holder)) :
    (s.enters pid phase).Exclusive machine :=
  ⟨named_enters exclusive.named named,
    Or.inr ⟨holder, held.enters other shut⟩⟩

theorem Exclusive.lists (exclusive : s.Exclusive machine) (order : GlobOrder)
    (named : (machine.process pid).named = true) :
    (s.step machine (.lists pid order)).Exclusive machine := by
  simp only [LockDir.step]
  split
  · rename_i idle
    rcases exclusive.held with free | ⟨holder, held⟩
    · exact exclusive.enters_free named free free.created
    · have other : pid ≠ holder := by
        apply held.ne_of_not_owns
        rw [idle]
        exact not_false
      obtain ⟨text, found, -⟩ := held.present
      have listed : toString holder ∈ s.dir.keys := by
        rw [← AList.mem_keys, ← AList.lookup_isSome, found]
        rfl
      apply exclusive.enters_held named held other
      right
      exact (order s.dir.keys).property.mem_iff.mpr listed
  · exact exclusive

/-- The lock of the holder is taken for that of a process which runs. -/
theorem HeldBy.isRunning (held : s.HeldBy machine holder)
    (named : (machine.process holder).named = true) (readable running : Bool) :
    s.isRunning machine (s.textOf (toString holder) readable) running holder =
      true := by
  obtain ⟨text, found, alive⟩ := held.present
  change (if s.phase holder = .idle then running
    else sameProcess (machine.process holder) _) = true
  rw [if_neg held.active, LockDir.textOf, found, Option.getD_some]
  split
  · exact alive
  · exact named

theorem Exclusive.reads (exclusive : s.Exclusive machine)
    (readable running : Bool) :
    (s.step machine (.reads pid readable running)).Exclusive machine := by
  simp only [LockDir.step]
  split
  · rename_i listedAt file files scanning
    have named := exclusive.named pid (by rw [scanning]; exact nofun)
    rcases exclusive.held with free | ⟨holder, held⟩
    · have early := free.early pid
      rw [scanning] at early
      have stale : (LockPhase.unlinking listedAt file (s.stamp file)
          files).Early := ⟨early, free.stamps file⟩
      split
      · exact exclusive.enters_free named free stale
      · split
        · exact exclusive.enters_free named free rfl
        · exact exclusive.enters_free named free stale
    · have other : pid ≠ holder := by
        apply held.ne_of_not_owns
        rw [scanning]
        exact not_false
      have shut := held.shut pid other
      rw [scanning] at shut
      -- Any file but the lock leaves the lock among those still to read.
      have stale (notLock : file ≠ toString holder) :
          (LockPhase.unlinking listedAt file (s.stamp file) files).Shut
            (toString holder) := by
        refine ⟨shut.imp_right ?_, ?_⟩
        · intro listed
          exact (List.mem_cons.mp listed).resolve_left notLock.symm
        · rw [held.stamps, if_neg notLock]
      split
      · rename_i junk
        have notLock : file ≠ toString holder := by
          intro same
          rw [same, machine.int_pid] at junk
          cases junk
        exact exclusive.enters_held named held other (stale notLock)
      · rename_i number parsed
        split
        · exact exclusive.enters_held named held other rfl
        · rename_i gone
          have notLock : file ≠ toString holder := by
            intro same
            rw [same, machine.int_pid] at parsed
            rw [same, ← Option.some.inj parsed] at gone
            exact gone (held.isRunning (exclusive.named holder held.active)
              readable running)
          exact exclusive.enters_held named held other (stale notLock)
  · exact exclusive

theorem Exclusive.unlinks (exclusive : s.Exclusive machine) (works : Bool)
    (careful : s.Careful machine (.unlinks pid works)) :
    (s.step machine (.unlinks pid works)).Exclusive machine := by
  simp only [Careful] at careful
  simp only [LockDir.step]
  split
  · rename_i listedAt file stamp files unlinking
    have named := exclusive.named pid (by rw [unlinking]; exact nofun)
    rw [unlinking] at careful
    rcases exclusive.held with free | ⟨holder, held⟩
    · have early := free.early pid
      rw [unlinking] at early
      split
      · exact ⟨named_enters exclusive.named named,
          Or.inl (Free.enters ⟨free.created, free.stamps, free.early⟩ early.1)⟩
      · exact exclusive.enters_free named free early.1
    · have other : pid ≠ holder := by
        apply held.ne_of_not_owns
        rw [unlinking]
        exact not_false
      have shut := held.shut pid other
      rw [unlinking] at shut
      have notLock : file ≠ toString holder := by
        intro same
        have fresh := held.stamps file
        rw [careful, shut.2, if_pos same] at fresh
        cases fresh
      split
      · exact ⟨named_enters exclusive.named named,
          Or.inr ⟨holder, (held.erase notLock).enters other shut.1⟩⟩
      · exact exclusive.enters_held named held other shut.1
  · exact exclusive

theorem Exclusive.opens (exclusive : s.Exclusive machine) (works : Bool)
    (careful : s.Careful machine (.opens pid works)) :
    (s.step machine (.opens pid works)).Exclusive machine := by
  simp only [Careful] at careful
  simp only [LockDir.step]
  split
  · rename_i listedAt scanning
    have named := exclusive.named pid (by rw [scanning]; exact nofun)
    rw [scanning] at careful
    rcases exclusive.held with free | ⟨holder, held⟩
    · have early := free.early pid
      rw [scanning] at early
      split
      · exact ⟨named_enters exclusive.named named,
          Or.inr ⟨pid, free.creates named trivial⟩⟩
      · exact exclusive.enters_free named free early
    · have other : pid ≠ holder := by
        apply held.ne_of_not_owns
        rw [scanning]
        exact not_false
      have shut := held.shut pid other
      rw [scanning] at shut
      have early : listedAt = 0 := shut.resolve_right List.not_mem_nil
      split
      · rename_i works
        have none := (careful works).symm.trans held.created
        rw [early] at none
        cases none
      · exact exclusive.enters_held named held other early
  · exact exclusive

theorem Exclusive.writes (exclusive : s.Exclusive machine) (works : Bool) :
    (s.step machine (.writes pid works)).Exclusive machine := by
  simp only [LockDir.step]
  split
  · rename_i listedAt opened
    have named := exclusive.named pid (by rw [opened]; exact nofun)
    rcases exclusive.held with free | ⟨holder, held⟩
    · have early := free.early pid
      rw [opened] at early
      exact early.elim
    · have own : pid = holder := by
        by_contra other
        have shut := held.shut pid other
        rw [opened] at shut
        exact shut
      subst own
      split
      · refine ⟨named_enters ?_ named, Or.inr ⟨pid, ?_⟩⟩
        · unfold LockDir.fills
          split
          · exact exclusive.named
          · exact exclusive.named
        · exact (held.fills (sameProcess_own _ named)).enters_own rfl
      · exact ⟨named_enters exclusive.named named,
          Or.inr ⟨pid, held.enters_own trivial⟩⟩
  · exact exclusive

theorem Exclusive.touches (exclusive : s.Exclusive machine) (works : Bool)
    (careful : s.Careful machine (.touches pid works)) :
    (s.step machine (.touches pid works)).Exclusive machine := by
  simp only [Careful] at careful
  simp only [LockDir.step]
  split
  · rename_i listedAt touching
    have named := exclusive.named pid (by rw [touching]; exact nofun)
    rw [touching] at careful
    rcases exclusive.held with free | ⟨holder, held⟩
    · by_cases present : toString pid ∈ s.dir
      · simp only [if_pos present] at careful
        exact absurd (free.stamps (toString pid)) careful
      · simp only [if_neg present] at careful
        rw [if_pos ⟨careful.1, present⟩]
        exact ⟨named_enters exclusive.named named,
          Or.inr ⟨pid, free.creates named rfl⟩⟩
    · by_cases own : pid = holder
      · subst own
        obtain ⟨text, found, -⟩ := held.present
        have present : toString pid ∈ s.dir := by
          rw [← AList.lookup_isSome, found]
          rfl
        rw [if_neg (fun missing => missing.2 present)]
        exact ⟨named_enters exclusive.named named,
          Or.inr ⟨pid, held.enters_own rfl⟩⟩
      · have early := held.shut pid own
        rw [touching] at early
        have notLock : toString pid ≠ toString holder :=
          fun same => own (toString_injective machine same)
        by_cases present : toString pid ∈ s.dir
        · simp only [if_pos present, held.stamps, if_neg notLock] at careful
          exact absurd rfl careful
        · simp only [if_neg present, held.created] at careful
          have none := careful.2.trans early
          cases none
  · exact exclusive

/-- A careful step keeps the lock with one process. -/
theorem Exclusive.step (exclusive : s.Exclusive machine) {event : LockEvent}
    (careful : s.Careful machine event) :
    (s.step machine event).Exclusive machine := by
  cases event with
  | lists pid order => exact exclusive.lists order careful
  | reads pid readable running => exact exclusive.reads readable running
  | unlinks pid works => exact exclusive.unlinks works careful
  | opens pid works => exact exclusive.opens works careful
  | writes pid works => exact exclusive.writes works
  | touches pid works => exact exclusive.touches works careful

theorem initial_exclusive (dir : Dictionary String LockText) :
    (initial dir).Exclusive machine := by
  constructor
  · intro pid active
    exact absurd rfl active
  · left
    exact ⟨rfl, fun _ => rfl, fun _ => trivial⟩

theorem Exclusive.unique (exclusive : s.Exclusive machine) {other : Nat}
    (acquired : s.phase pid = .returned true)
    (acquiredToo : s.phase other = .returned true) : pid = other := by
  rcases exclusive.held with free | ⟨holder, held⟩
  · have early := free.early pid
    rw [acquired] at early
    cases early
  · have isHolder (own : Nat) (owned : s.phase own = .returned true) :
        own = holder := by
      by_contra different
      have shut := held.shut own different
      rw [owned] at shut
      cases shut
    rw [isHolder pid acquired, isHolder other acquiredToo]

end Steps

/-- Whatever the directory holds and however the steps of the processes come,
only one of them acquires the lock if all of them are careful. -/
theorem one_acquires (machine : LockMachine) (dir : Dictionary String LockText)
    (events : List LockEvent)
    (careful : AllSteps (step machine) (Careful machine) (initial dir) events)
    (pid other : Nat) :
    let s := run (step machine) (initial dir) events
    s.phase pid = .returned true → s.phase other = .returned true →
      pid = other := by
  intro s acquired acquiredToo
  have preserved (s : LockDir) (event : LockEvent)
      (exclusive : s.Exclusive machine) (careful : s.Careful machine event) :
      (s.step machine event).Exclusive machine := exclusive.step careful
  have exclusive := careful.invariant preserved (initial_exclusive dir)
  exact exclusive.unique acquired acquiredToo

/-- `int` of decimal numerals, and processes which are all of the application. -/
def plainMachine : LockMachine where
  process pid := ⟨pid, true⟩
  int text :=
    if text.toList.all Char.isDigit then
      some (Nat.ofDigitChars 10 text.toList 0)
    else none
  int_pid pid := by
    have digits : (toString pid).toList.all Char.isDigit = true := by
      rw [List.all_eq_true]
      exact fun digit => isDigit_of_mem_toString
    rw [if_pos digits, ofDigitChars_toString]

def asListed : GlobOrder := fun files => ⟨files, List.Perm.refl files⟩

/-- The second process reads the lock of the first one. -/
theorem one_acquires_in_turn :
    let s := run (step plainMachine) (initial ∅)
      [.lists 1 asListed, .opens 1 true, .writes 1 true, .lists 2 asListed,
        .reads 2 true false]
    s.phase 1 = .returned true ∧ s.phase 2 = .returned false ∧
      ∀ other, s.phase other = .returned true → 1 = other := by
  refine ⟨by decide +kernel, by decide +kernel, ?_⟩
  intro other acquired
  apply one_acquires plainMachine ∅ _ _ 1 other (by decide +kernel) acquired
  exact ⟨rfl, fun _ => rfl, trivial, rfl, trivial, trivial⟩

/-- Two processes which both list the directory before either creates its lock
both acquire it. -/
theorem two_acquire :
    let s := run (step plainMachine) (initial ∅)
      [.lists 1 asListed, .lists 2 asListed, .opens 1 true, .writes 1 true,
        .opens 2 true, .writes 2 true]
    s.phase 1 = .returned true ∧ s.phase 2 = .returned true :=
  ⟨rfl, rfl⟩

end LockDir

end TgWsProxy.Python
