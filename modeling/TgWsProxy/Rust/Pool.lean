import TgWsProxy.Session
import TgWsProxy.Lib.Runs
import TgWsProxy.Lib.Slots
import Mathlib.Data.Finset.Basic

/-!
# The Rust connection pools

`WsPool` and `CfWorkerPool` of `pool.rs`, over an arbitrary key.  The idle
connections and the set of refilling keys have a lock each.  An event is what
one thread does while it holds a lock, the end of a connection task, or what the
callers and the clock do.
-/

namespace TgWsProxy.Rust

open Lib

/-- 120 seconds, in nanoseconds. -/
def poolMaxAge : Nat := 120 * 10 ^ 9

/-- An idle connection, by its place in `Pool.opened`, and when it was put
in. -/
structure IdleEntry where
  ws : Nat
  created : Nat
deriving DecidableEq, Repr

/-- A task which a refill has spawned: it connects, or its handle gives what has
come of it. -/
inductive ConnectTask where
  | connecting
  | joined (ws : Option Nat)
deriving DecidableEq, Repr

inductive RefillPhase where
  | spawned
  | awaiting (handles : List ConnectTask)
  | done
deriving DecidableEq, Repr

structure Refill (Key Args : Type) where
  key : Key
  args : Args
  phase : RefillPhase
deriving DecidableEq, Repr

/-- A connection which `get` has taken, as it was then. -/
structure Handout where
  ws : Nat
  created : Nat
  closed : Bool
deriving DecidableEq, Repr

/-- Where a call of `get` stands. -/
inductive GetPhase where
  | begun
  /-- The lock of `idle` is released, and `schedule_refill` comes next. -/
  | popped (ws : Option Handout)
  | returned (ws : Option Handout)
deriving DecidableEq, Repr

structure GetCall (Key Args : Type) where
  key : Key
  args : Args
  now : Nat
  phase : GetPhase
deriving DecidableEq, Repr

/-- A connection which a refill has opened. -/
structure PooledWs (Key Target : Type) where
  refill : Nat
  key : Key
  target : Target
  closed : Bool
deriving DecidableEq, Repr

structure Pool (Key Args Target : Type) where
  /-- A key which is not in the map has the empty bucket. -/
  idle : Key → List IdleEntry
  refilling : Finset Key
  refills : List (Refill Key Args)
  calls : List (GetCall Key Args)
  /-- The keys which each call of `warmup` has still to schedule. -/
  warmups : List (List (Key × Args))
  opened : List (PooledWs Key Target)
  /-- The connections given to `quiet_close`. -/
  closing : List Nat
  hits : Nat
  misses : Nat
  now : Nat

/-- What the two pools do differently: what their connection tasks open, and
whether they succeed when each `RawWebSocket::connect` comes to what it does. -/
structure PoolKind (Key Args Target : Type) where
  target : Key → Args → Target
  connects : Target → (String → Except ConnectError Unit) → Bool

inductive PoolEvent (Key Args : Type) where
  /-- `get` is called and takes the time. -/
  | callGet (key : Key) (args : Args)
  /-- `get` holds the lock of `idle`. -/
  | popIdle (call : Nat)
  /-- `get` calls `schedule_refill` and returns. -/
  | scheduleAfterGet (call : Nat)
  | callWarmup (keys : List (Key × Args))
  | scheduleWarmup (warmup : Nat)
  /-- The refill counts the idle connections and spawns its tasks. -/
  | countIdle (refill : Nat)
  /-- A task of the refill comes to its end. -/
  | connectEnds (refill index : Nat)
      (connect : String → Except ConnectError Unit)
  /-- The refill awaits its next handle and puts the connection in. -/
  | joinNext (refill : Nat)
  /-- The refill removes its key from `refilling`. -/
  | finishRefill (refill : Nat)
  | dropConnection (ws : Nat)
  | elapse (duration : Nat)

/-- `connect_one`: whether a connection is returned. -/
def connectOne (connect : String → Except ConnectError Unit) :
    List String → Bool
  | [] => false
  | domain :: domains =>
      match connect domain with
      | .ok () => true
      | .error .redirect => connectOne connect domains
      | .error _ => false

/-- `WS_POOL`: the key is the DC and whether it is for media, and the arguments
are the address and the domains. -/
def wsPool : PoolKind (UInt32 × Bool) (String × List String)
    (String × List String) :=
  ⟨fun _ args => args, fun target connect => connectOne connect target.2⟩

/-- `CF_WORKER_POOL`: the key is the DC and the worker, and the argument is the
destination. -/
def cfWorkerPool : PoolKind (UInt32 × String) String (String × String) :=
  ⟨fun key fallbackDst =>
      (key.2, "/apiws?dst=" ++ fallbackDst ++ "&dc=" ++ toString key.1.toNat),
    fun target connect => (connect target.1).isOk⟩

/-- The connections which a refill holds and has not put in yet. -/
def ConnectTask.held : ConnectTask → List Nat
  | .joined (some ws) => [ws]
  | _ => []

def RefillPhase.held : RefillPhase → List Nat
  | .awaiting handles => handles.flatMap ConnectTask.held
  | _ => []

/-- The connection which a call of `get` has taken. -/
def GetPhase.taken : GetPhase → Option Handout
  | .begun => none
  | .popped ws => ws
  | .returned ws => ws

namespace Pool

section Steps

variable {Key Args Target : Type}

def initial : Pool Key Args Target :=
  ⟨fun _ => [], ∅, [], [], [], [], [], 0, 0, 0⟩

/-- Not idle for too long, and not closed. -/
def usable (pool : Pool Key Args Target) (now : Nat) (entry : IdleEntry) :
    Bool :=
  match pool.opened[entry.ws]? with
  | none => false
  | some ws => decide (now - entry.created ≤ poolMaxAge) && !ws.closed

def setRefill (pool : Pool Key Args Target) (id : Nat)
    (refill : Refill Key Args) : Pool Key Args Target :=
  { pool with refills := pool.refills.set id refill }

def setCall (pool : Pool Key Args Target) (id : Nat)
    (call : GetCall Key Args) : Pool Key Args Target :=
  { pool with calls := pool.calls.set id call }

variable [DecidableEq Key]

def setIdle (pool : Pool Key Args Target) (key : Key)
    (bucket : List IdleEntry) : Pool Key Args Target :=
  { pool with
    idle := fun other => if other = key then bucket else pool.idle other }

/-- `schedule_refill`, which holds the lock of `refilling` to its end. -/
def scheduleRefill (pool : Pool Key Args Target) (key : Key) (args : Args) :
    Pool Key Args Target :=
  if key ∈ pool.refilling then pool
  else
    { pool with
      refilling := insert key pool.refilling
      refills := pool.refills ++ [⟨key, args, .spawned⟩] }

/-- The `while let` loop of `get`: what it drops is closed, and what comes next
is taken. -/
def popIdle (pool : Pool Key Args Target) (id : Nat) : Pool Key Args Target :=
  match pool.calls[id]? with
  | some ⟨key, args, now, .begun⟩ =>
      let dropped := (pool.idle key).takeWhile (!pool.usable now ·)
      let closing := pool.closing ++ dropped.map IdleEntry.ws
      match (pool.idle key).dropWhile (!pool.usable now ·) with
      | [] =>
          { (pool.setIdle key []).setCall id ⟨key, args, now, .popped none⟩ with
            closing, misses := pool.misses + 1 }
      | entry :: rest =>
          let handout : Handout :=
            ⟨entry.ws, entry.created,
              (pool.opened[entry.ws]?.map PooledWs.closed).getD true⟩
          { (pool.setIdle key rest).setCall id
              ⟨key, args, now, .popped (some handout)⟩ with
            closing, hits := pool.hits + 1 }
  | _ => pool

def scheduleAfterGet (pool : Pool Key Args Target) (id : Nat) :
    Pool Key Args Target :=
  match pool.calls[id]? with
  | some ⟨key, args, now, .popped ws⟩ =>
      (pool.scheduleRefill key args).setCall id ⟨key, args, now, .returned ws⟩
  | _ => pool

def scheduleWarmup (pool : Pool Key Args Target) (id : Nat) :
    Pool Key Args Target :=
  match pool.warmups[id]? with
  | some ((key, args) :: rest) =>
      { pool.scheduleRefill key args with warmups := pool.warmups.set id rest }
  | _ => pool

def countIdle (poolSize : Nat) (pool : Pool Key Args Target) (id : Nat) :
    Pool Key Args Target :=
  match pool.refills[id]? with
  | some ⟨key, args, .spawned⟩ =>
      let needed := poolSize - (pool.idle key).length
      pool.setRefill id
        ⟨key, args, .awaiting (List.replicate needed .connecting)⟩
  | _ => pool

def connectEnds (kind : PoolKind Key Args Target) (pool : Pool Key Args Target)
    (id index : Nat) (connect : String → Except ConnectError Unit) :
    Pool Key Args Target :=
  match pool.refills[id]? with
  | some ⟨key, args, .awaiting handles⟩ =>
      if handles[index]? = some .connecting then
        let target := kind.target key args
        if kind.connects target connect then
          { pool.setRefill id
              ⟨key, args, .awaiting
                (handles.set index (.joined (some pool.opened.length)))⟩ with
            opened := pool.opened ++ [⟨id, key, target, false⟩] }
        else
          pool.setRefill id
            ⟨key, args, .awaiting (handles.set index (.joined none))⟩
      else pool
  | _ => pool

def joinNext (pool : Pool Key Args Target) (id : Nat) : Pool Key Args Target :=
  match pool.refills[id]? with
  | some ⟨key, args, .awaiting (.joined none :: handles)⟩ =>
      pool.setRefill id ⟨key, args, .awaiting handles⟩
  | some ⟨key, args, .awaiting (.joined (some ws) :: handles)⟩ =>
      (pool.setIdle key (pool.idle key ++ [⟨ws, pool.now⟩])).setRefill id
        ⟨key, args, .awaiting handles⟩
  | _ => pool

def finishRefill (pool : Pool Key Args Target) (id : Nat) :
    Pool Key Args Target :=
  match pool.refills[id]? with
  | some ⟨key, args, .awaiting []⟩ =>
      { pool.setRefill id ⟨key, args, .done⟩ with
        refilling := pool.refilling.erase key }
  | _ => pool

def step (kind : PoolKind Key Args Target) (poolSize : Nat)
    (pool : Pool Key Args Target) : PoolEvent Key Args → Pool Key Args Target
  | .callGet key args =>
      { pool with calls := pool.calls ++ [⟨key, args, pool.now, .begun⟩] }
  | .popIdle call => pool.popIdle call
  | .scheduleAfterGet call => pool.scheduleAfterGet call
  | .callWarmup keys => { pool with warmups := pool.warmups ++ [keys] }
  | .scheduleWarmup warmup => pool.scheduleWarmup warmup
  | .countIdle refill => pool.countIdle poolSize refill
  | .connectEnds refill index connect =>
      pool.connectEnds kind refill index connect
  | .joinNext refill => pool.joinNext refill
  | .finishRefill refill => pool.finishRefill refill
  | .dropConnection ws =>
      { pool with
        opened := pool.opened.modify ws fun ws => { ws with closed := true } }
  | .elapse duration => { pool with now := pool.now + duration }

end Steps

section Books

variable {Key Args Target : Type}

/-- A refill of the key which was spawned and has not ended. -/
def InFlight (pool : Pool Key Args Target) (id : Nat) (key : Key) : Prop :=
  ∃ refill, pool.refills[id]? = some refill ∧ refill.key = key ∧
    refill.phase ≠ .done

/-- How many connections a refill may still put in. -/
def mayAdd (poolSize : Nat) (pool : Pool Key Args Target)
    (refill : Refill Key Args) : Nat :=
  match refill.phase with
  | .spawned => poolSize - (pool.idle refill.key).length
  | .awaiting handles => handles.length
  | .done => 0

def heldCount (pool : Pool Key Args Target) (ws : Nat) : Nat :=
  (pool.refills.flatMap fun refill => refill.phase.held).count ws

def idleCount (pool : Pool Key Args Target) (key : Key) (ws : Nat) : Nat :=
  ((pool.idle key).map IdleEntry.ws).count ws

def takenCount (pool : Pool Key Args Target) (ws : Nat) : Nat :=
  (pool.calls.flatMap fun call =>
    call.phase.taken.toList.map Handout.ws).count ws

/-- A connection is in one place: with the refill which has opened it, idle
under its key, with a caller who has asked for its key, or being closed. -/
structure Accounted (pool : Pool Key Args Target) (ws : Nat)
    (pooled : PooledWs Key Target) : Prop where
  once : pool.heldCount ws + pool.idleCount pooled.key ws +
    pool.takenCount ws + pool.closing.count ws = 1
  held : ∀ (id : Nat) refill, pool.refills[id]? = some refill →
    ws ∈ refill.phase.held → id = pooled.refill ∧ refill.key = pooled.key
  idle : ∀ key, ∀ entry ∈ pool.idle key, entry.ws = ws → key = pooled.key
  taken : ∀ call ∈ pool.calls, ∀ handout ∈ call.phase.taken,
    handout.ws = ws → call.key = pooled.key

/-- The books of a pool. -/
structure BooksKept (poolSize : Nat) (pool : Pool Key Args Target) :
    Prop where
  refilling : ∀ key, key ∈ pool.refilling ↔ ∃ id, pool.InFlight id key
  oneRefill : ∀ key id other, pool.InFlight id key → pool.InFlight other key →
    id = other
  size : ∀ key, (pool.idle key).length ≤ poolSize
  room : ∀ refill ∈ pool.refills,
    (pool.idle refill.key).length + pool.mayAdd poolSize refill ≤ poolSize
  accounted : ∀ (ws : Nat) pooled, pool.opened[ws]? = some pooled →
    pool.Accounted ws pooled
  fresh : ∀ call ∈ pool.calls, ∀ handout ∈ call.phase.taken,
    call.now - handout.created ≤ poolMaxAge ∧ handout.closed = false

/-- The books, and that a connection which was not opened is in no place. -/
structure Kept (poolSize : Nat) (pool : Pool Key Args Target) : Prop where
  books : pool.BooksKept poolSize
  unopened : ∀ ws, pool.opened.length ≤ ws →
    pool.heldCount ws = 0 ∧ (∀ key, pool.idleCount key ws = 0) ∧
      pool.takenCount ws = 0 ∧ pool.closing.count ws = 0

variable {pool : Pool Key Args Target} {poolSize : Nat} {ws id : Nat}

theorem initial_kept (poolSize : Nat) :
    (initial : Pool Key Args Target).Kept poolSize := by
  refine ⟨⟨?_, ?_, fun _ => Nat.zero_le _, ?_, ?_, ?_⟩, ?_⟩
  · intro key
    refine iff_of_false (Finset.notMem_empty key) ?_
    rintro ⟨id, refill, found, -⟩
    cases found
  · rintro key id other ⟨refill, found, -⟩
    cases found
  · intro refill member
    cases member
  · intro ws pooled found
    cases found
  · intro call member
    cases member
  · intro ws _
    exact ⟨rfl, fun _ => rfl, rfl, rfl⟩

theorem heldCount_setRefill {old : Refill Key Args}
    (found : pool.refills[id]? = some old) (new : Refill Key Args) (ws : Nat) :
    (pool.setRefill id new).heldCount ws + old.phase.held.count ws =
      pool.heldCount ws + new.phase.held.count ws :=
  count_flatMap_set (fun refill : Refill Key Args => refill.phase.held) found
    new ws

theorem takenCount_setCall {old : GetCall Key Args}
    (found : pool.calls[id]? = some old) (new : GetCall Key Args) (ws : Nat) :
    (pool.setCall id new).takenCount ws +
        (old.phase.taken.toList.map Handout.ws).count ws =
      pool.takenCount ws + (new.phase.taken.toList.map Handout.ws).count ws :=
  count_flatMap_set
    (fun call : GetCall Key Args => call.phase.taken.toList.map Handout.ws)
    found new ws

theorem idleCount_eq_zero {key : Key}
    (notIn : ∀ entry ∈ pool.idle key, entry.ws ≠ ws) :
    pool.idleCount key ws = 0 := by
  rw [idleCount, List.count_eq_zero]
  intro among
  obtain ⟨entry, member, isWs⟩ := List.mem_map.mp among
  exact notIn entry member isWs

/-- The refill stays in flight, or stays done. -/
theorem inFlight_setRefill {old new : Refill Key Args} {other : Nat}
    {key : Key} (found : pool.refills[id]? = some old)
    (sameKey : new.key = old.key) (unfinished : old.phase ≠ .done)
    (stays : new.phase ≠ .done) :
    (pool.setRefill id new).InFlight other key ↔ pool.InFlight other key := by
  have inside := (List.getElem?_eq_some_iff.mp found).1
  constructor
  · rintro ⟨refill, present, isKey, goesOn⟩
    rcases found_set present with ⟨rfl, rfl⟩ | ⟨-, before⟩
    · exact ⟨old, found, sameKey.symm.trans isKey, unfinished⟩
    · exact ⟨refill, before, isKey, goesOn⟩
  · rintro ⟨refill, present, isKey, goesOn⟩
    by_cases own : other = id
    · subst own
      cases found.symm.trans present
      exact ⟨new, List.getElem?_set_self inside, sameKey.trans isKey, stays⟩
    · refine ⟨refill, ?_, isKey, goesOn⟩
      rw [← present]
      exact List.getElem?_set_ne fun same => own same.symm

/-- No other refill of the key may add anything. -/
theorem BooksKept.mayAdd_other (books : pool.BooksKept poolSize)
    {refill other : Refill Key Args} {otherId : Nat}
    (found : pool.refills[id]? = some refill) (unfinished : refill.phase ≠ .done)
    (foundOther : pool.refills[otherId]? = some other) (differs : otherId ≠ id)
    (sameKey : other.key = refill.key) : other.phase = .done := by
  by_contra goesOn
  exact differs (books.oneRefill refill.key otherId id
    ⟨other, foundOther, sameKey, goesOn⟩ ⟨refill, found, rfl, unfinished⟩)

/-- The state of the refills and of the marks is as before. -/
theorem BooksKept.marks (books : pool.BooksKept poolSize)
    {after : Pool Key Args Target}
    (inFlight : ∀ id key, after.InFlight id key ↔ pool.InFlight id key)
    (refilling : after.refilling = pool.refilling) :
    (∀ key, key ∈ after.refilling ↔ ∃ id, after.InFlight id key) ∧
      ∀ key id other, after.InFlight id key → after.InFlight other key →
        id = other := by
  constructor
  · intro key
    simp only [refilling, inFlight]
    exact books.refilling key
  · intro key id other first second
    exact books.oneRefill key id other ((inFlight id key).mp first)
      ((inFlight other key).mp second)

/-- A call of `get` goes on with the connection which it has. -/
theorem Kept.setCall (kept : pool.Kept poolSize) {old new : GetCall Key Args}
    (found : pool.calls[id]? = some old) (sameKey : new.key = old.key)
    (sameNow : new.now = old.now) (same : new.phase.taken = old.phase.taken) :
    (pool.setCall id new).Kept poolSize := by
  obtain ⟨books, unopened⟩ := kept
  have taken (ws : Nat) : (pool.setCall id new).takenCount ws =
      pool.takenCount ws := by
    have counts := takenCount_setCall found new ws
    rw [same] at counts
    omega
  have member : old ∈ pool.calls := List.mem_of_getElem? found
  refine ⟨⟨books.refilling, books.oneRefill, books.size, books.room, ?_, ?_⟩, ?_⟩
  · intro ws pooled opened
    have before := books.accounted ws pooled opened
    refine ⟨?_, before.held, before.idle, ?_⟩
    · rw [taken]
      exact before.once
    · intro call among handout isTaken isWs
      rcases mem_set_cases among with rfl | ⟨other, -, present⟩
      · rw [same] at isTaken
        rw [sameKey]
        exact before.taken old member handout isTaken isWs
      · exact before.taken call (List.mem_of_getElem? present) handout isTaken
          isWs
  · intro call among handout isTaken
    rcases mem_set_cases among with rfl | ⟨other, -, present⟩
    · rw [same] at isTaken
      rw [sameNow]
      exact books.fresh old member handout isTaken
    · exact books.fresh call (List.mem_of_getElem? present) handout isTaken
  · intro ws beyond
    rw [taken]
    exact unopened ws beyond

/-- A refill goes on: it holds what it held, and adds no more than before. -/
theorem Kept.setRefill (kept : pool.Kept poolSize) {old new : Refill Key Args}
    (found : pool.refills[id]? = some old) (sameKey : new.key = old.key)
    (unfinished : old.phase ≠ .done) (goesOn : new.phase ≠ .done)
    (held : ∀ ws, new.phase.held.count ws = old.phase.held.count ws)
    (adds : pool.mayAdd poolSize new ≤ pool.mayAdd poolSize old) :
    (pool.setRefill id new).Kept poolSize := by
  obtain ⟨books, unopened⟩ := kept
  have sameHeld (ws : Nat) : (pool.setRefill id new).heldCount ws =
      pool.heldCount ws := by
    have counts := heldCount_setRefill found new ws
    rw [held] at counts
    omega
  obtain ⟨refilling, oneRefill⟩ := books.marks
    (fun _ _ => inFlight_setRefill found sameKey unfinished goesOn) rfl
  refine ⟨⟨refilling, oneRefill, books.size, ?_, ?_, books.fresh⟩, ?_⟩
  · intro refill member
    rcases mem_set_cases member with rfl | ⟨other, -, present⟩
    · have before := books.room old (List.mem_of_getElem? found)
      change (pool.idle refill.key).length + pool.mayAdd poolSize refill ≤ _
      rw [sameKey]
      omega
    · exact books.room refill (List.mem_of_getElem? present)
  · intro ws pooled opened
    have before := books.accounted ws pooled opened
    refine ⟨?_, ?_, before.idle, before.taken⟩
    · rw [sameHeld]
      exact before.once
    · intro other refill present holds
      rcases found_set present with ⟨rfl, rfl⟩ | ⟨-, earlier⟩
      · have holdsBefore : ws ∈ old.phase.held := by
          rw [← List.count_pos_iff, ← held]
          exact List.count_pos_iff.mpr holds
        rw [sameKey]
        exact before.held other old found holdsBefore
      · exact before.held other refill earlier holds
  · intro ws beyond
    rw [sameHeld]
    exact unopened ws beyond

theorem held_replicate (count : Nat) :
    (RefillPhase.awaiting (List.replicate count .connecting)).held = [] := by
  induction count with
  | zero => rfl
  | succ count induction => exact induction

theorem Kept.countIdle (kept : pool.Kept poolSize) (id : Nat) :
    (pool.countIdle poolSize id).Kept poolSize := by
  rw [Pool.countIdle]
  split
  · rename_i key args found
    apply Kept.setRefill kept found
    · rfl
    · exact fun done => by cases done
    · exact fun done => by cases done
    · intro ws
      rw [held_replicate]
      rfl
    · simp [mayAdd]
  · exact kept

variable {key : Key} {args : Args} {now : Nat}

/-- A task which comes to its end adds what it holds. -/
theorem count_held_set {handles : List ConnectTask} {index : Nat}
    (connecting : handles[index]? = some .connecting) (task : ConnectTask)
    (ws : Nat) :
    (RefillPhase.awaiting (handles.set index task)).held.count ws =
      (RefillPhase.awaiting handles).held.count ws + task.held.count ws := by
  have counts := count_flatMap_set ConnectTask.held connecting task ws
  have nothing : ConnectTask.connecting.held.count ws = 0 := rfl
  rw [nothing, Nat.add_zero] at counts
  exact counts

theorem count_held_le_heldCount {refill : Refill Key Args}
    (found : pool.refills[id]? = some refill) (ws : Nat) :
    refill.phase.held.count ws ≤ pool.heldCount ws := by
  have counts := heldCount_setRefill found { refill with phase := .done } ws
  have none : (RefillPhase.done).held.count ws = 0 := rfl
  simp only [none] at counts
  omega

theorem not_mem_held_of_unopened {refill : Refill Key Args}
    (found : pool.refills[id]? = some refill) (none : pool.heldCount ws = 0) :
    ws ∉ refill.phase.held := by
  intro holds
  have positive := List.count_pos_iff.mpr holds
  have bound := count_held_le_heldCount found ws
  omega

theorem not_mem_idle_of_unopened {key : Key}
    (none : pool.idleCount key ws = 0) :
    ∀ entry ∈ pool.idle key, entry.ws ≠ ws := by
  intro entry member isWs
  apply List.count_eq_zero.mp none
  exact List.mem_map.mpr ⟨entry, member, isWs⟩

theorem not_taken_of_unopened {call : GetCall Key Args}
    (among : call ∈ pool.calls) (none : pool.takenCount ws = 0) :
    ∀ handout ∈ call.phase.taken, handout.ws ≠ ws := by
  intro handout taken isWs
  obtain ⟨id, found⟩ := List.mem_iff_getElem?.mp among
  have counts := takenCount_setCall found { call with phase := .begun } ws
  have positive : 0 < (call.phase.taken.toList.map Handout.ws).count ws := by
    rw [List.count_pos_iff]
    exact List.mem_map.mpr ⟨handout, Option.mem_toList.mpr taken, isWs⟩
  have empty : (GetPhase.begun.taken.toList.map Handout.ws).count ws = 0 := rfl
  simp only [empty] at counts
  omega

/-- What changes when a task of a refill connects. -/
structure Connected (pool after : Pool Key Args Target) (id : Nat) (key : Key)
    (args : Args) (handles : List ConnectTask) (index : Nat) (target : Target) :
    Prop where
  found : pool.refills[id]? = some ⟨key, args, .awaiting handles⟩
  connecting : handles[index]? = some .connecting
  idle : after.idle = pool.idle
  refilling : after.refilling = pool.refilling
  refills : after.refills = pool.refills.set id ⟨key, args, .awaiting
    (handles.set index (.joined (some pool.opened.length)))⟩
  opened : after.opened = pool.opened ++ [⟨id, key, target, false⟩]
  calls : after.calls = pool.calls
  closing : after.closing = pool.closing

section Connected

variable {after : Pool Key Args Target} {handles : List ConnectTask}
  {index : Nat} {target : Target}

theorem Connected.inFlight_iff
    (connected : Connected pool after id key args handles index target)
    (otherId : Nat) (other : Key) :
    after.InFlight otherId other ↔ pool.InFlight otherId other := by
  have same : after.InFlight otherId other ↔
      (pool.setRefill id ⟨key, args, .awaiting (handles.set index
        (.joined (some pool.opened.length)))⟩).InFlight otherId other := by
    simp only [InFlight, connected.refills, setRefill]
  exact same.trans (inFlight_setRefill connected.found rfl
    (fun done => by cases done) (fun done => by cases done))

theorem Connected.held
    (connected : Connected pool after id key args handles index target)
    (ws : Nat) : after.heldCount ws =
      pool.heldCount ws + [pool.opened.length].count ws := by
  have counts := heldCount_setRefill connected.found ⟨key, args, .awaiting
    (handles.set index (.joined (some pool.opened.length)))⟩ ws
  have ofRefill := count_held_set connected.connecting
    (.joined (some pool.opened.length)) ws
  have own : (ConnectTask.joined (some pool.opened.length)).held =
      [pool.opened.length] := rfl
  have same : after.heldCount ws =
      (pool.setRefill id ⟨key, args, .awaiting (handles.set index
        (.joined (some pool.opened.length)))⟩).heldCount ws := by
    simp only [heldCount, connected.refills, setRefill]
  simp only [ofRefill, own] at counts
  omega

theorem Connected.held_ne
    (connected : Connected pool after id key args handles index target)
    (differs : ws ≠ pool.opened.length) :
    after.heldCount ws = pool.heldCount ws := by
  have other : [pool.opened.length].count ws = 0 := by
    rw [List.count_eq_zero, List.mem_singleton]
    exact differs
  rw [connected.held, other, Nat.add_zero]

theorem Connected.room
    (connected : Connected pool after id key args handles index target)
    (books : pool.BooksKept poolSize) {refill : Refill Key Args}
    (among : refill ∈ after.refills) :
    (after.idle refill.key).length + after.mayAdd poolSize refill ≤ poolSize := by
  rw [connected.refills] at among
  simp only [connected.idle, mayAdd]
  rcases mem_set_cases among with rfl | ⟨other, -, present⟩
  · have before := books.room _ (List.mem_of_getElem? connected.found)
    simpa only [mayAdd, List.length_set] using before
  · exact books.room refill (List.mem_of_getElem? present)

/-- The new connection is with its refill only. -/
theorem Connected.accounted_new
    (connected : Connected pool after id key args handles index target)
    (kept : pool.Kept poolSize) :
    after.Accounted pool.opened.length ⟨id, key, target, false⟩ := by
  obtain ⟨noHeld, noIdle, noTaken, noClosing⟩ :=
    kept.unopened pool.opened.length (Nat.le_refl _)
  refine ⟨?_, ?_, ?_, ?_⟩
  · have held := connected.held pool.opened.length
    rw [noHeld, List.count_singleton_self] at held
    have idle : after.idleCount key pool.opened.length = 0 := by
      rw [← noIdle key, idleCount, connected.idle, idleCount]
    have taken : after.takenCount pool.opened.length = 0 := by
      rw [← noTaken, takenCount, connected.calls, takenCount]
    rw [connected.closing, held, idle, taken, noClosing]
  · intro otherId refill present holds
    rw [connected.refills] at present
    rcases found_set present with ⟨rfl, rfl⟩ | ⟨-, earlier⟩
    · exact ⟨rfl, rfl⟩
    · exact absurd holds (not_mem_held_of_unopened earlier noHeld)
  · intro other entry member isWs
    rw [connected.idle] at member
    exact absurd isWs (not_mem_idle_of_unopened (noIdle other) entry member)
  · intro call among handout taken isWs
    rw [connected.calls] at among
    exact absurd isWs (not_taken_of_unopened among noTaken handout taken)

theorem Connected.accounted_earlier
    (connected : Connected pool after id key args handles index target)
    {pooled : PooledWs Key Target} (differs : ws ≠ pool.opened.length)
    (before : pool.Accounted ws pooled) : after.Accounted ws pooled := by
  refine ⟨?_, ?_, ?_, ?_⟩
  · rw [connected.held_ne differs, idleCount, connected.idle, takenCount,
      connected.calls, connected.closing]
    exact before.once
  · intro otherId refill present holds
    rw [connected.refills] at present
    rcases found_set present with ⟨rfl, rfl⟩ | ⟨-, earlier⟩
    · apply before.held otherId _ connected.found
      have ofRefill := count_held_set connected.connecting
        (.joined (some pool.opened.length)) ws
      have other : (ConnectTask.joined (some pool.opened.length)).held.count ws =
          0 := by
        rw [List.count_eq_zero]
        exact fun isNew => differs (List.mem_singleton.mp isNew)
      rw [other, Nat.add_zero] at ofRefill
      rw [← List.count_pos_iff] at holds ⊢
      rwa [ofRefill] at holds
    · exact before.held otherId refill earlier holds
  · intro other entry member
    rw [connected.idle] at member
    exact before.idle other entry member
  · intro call among
    rw [connected.calls] at among
    exact before.taken call among

theorem Kept.of_connected (kept : pool.Kept poolSize)
    (connected : Connected pool after id key args handles index target) :
    after.Kept poolSize := by
  obtain ⟨refilling, oneRefill⟩ :=
    kept.books.marks connected.inFlight_iff connected.refilling
  refine ⟨⟨refilling, oneRefill, ?_, fun _ => connected.room kept.books, ?_, ?_⟩,
    ?_⟩
  · rw [connected.idle]
    exact kept.books.size
  · intro ws pooled present
    rw [connected.opened] at present
    rcases found_concat present with before | ⟨rfl, rfl⟩
    · have inside := (List.getElem?_eq_some_iff.mp before).1
      exact connected.accounted_earlier (Nat.ne_of_lt inside)
        (kept.books.accounted ws pooled before)
    · exact connected.accounted_new kept
  · rw [connected.calls]
    exact kept.books.fresh
  · intro ws beyond
    rw [connected.opened, List.length_append, List.length_singleton] at beyond
    obtain ⟨noHeld, noIdle, noTaken, noClosing⟩ := kept.unopened ws (by omega)
    refine ⟨(connected.held_ne (by omega)).trans noHeld, ?_, ?_, ?_⟩
    · intro other
      rw [idleCount, connected.idle]
      exact noIdle other
    · rw [takenCount, connected.calls]
      exact noTaken
    · rw [connected.closing]
      exact noClosing

end Connected

theorem Kept.connectEnds (kept : pool.Kept poolSize)
    (kind : PoolKind Key Args Target) (id index : Nat)
    (connect : String → Except ConnectError Unit) :
    (pool.connectEnds kind id index connect).Kept poolSize := by
  rw [Pool.connectEnds]
  split
  · rename_i key args handles found
    split
    · rename_i connecting
      simp only
      split
      · exact kept.of_connected
          ⟨found, connecting, rfl, rfl, rfl, rfl, rfl, rfl⟩
      · apply Kept.setRefill kept found
        · rfl
        · exact fun done => by cases done
        · exact fun done => by cases done
        · exact count_held_set connecting (.joined none)
        · simp [mayAdd]
    · exact kept
  · exact kept

/-- What `get` changes under the lock of `idle`: of the bucket of its key, the
front goes to `quiet_close`, and what comes next to the caller. -/
structure Popped (pool after : Pool Key Args Target) (key : Key)
    (dropped : List IdleEntry) (entry : Option IdleEntry)
    (call : GetCall Key Args) : Prop where
  bucket : pool.idle key = dropped ++ entry.toList ++ after.idle key
  others : ∀ other, other ≠ key → after.idle other = pool.idle other
  refilling : after.refilling = pool.refilling
  refills : after.refills = pool.refills
  opened : after.opened = pool.opened
  calls : ∀ other ∈ after.calls, other = call ∨ other ∈ pool.calls
  taken : ∀ ws, after.takenCount ws =
    pool.takenCount ws + (entry.toList.map IdleEntry.ws).count ws
  closing : after.closing = pool.closing ++ dropped.map IdleEntry.ws

section Popped

variable {after : Pool Key Args Target} {dropped : List IdleEntry}
  {entry : Option IdleEntry} {call : GetCall Key Args}

theorem Popped.idle_suffix (popped : Popped pool after key dropped entry call)
    (other : Key) : after.idle other <:+ pool.idle other := by
  by_cases own : other = key
  · rw [own, popped.bucket]
    exact List.suffix_append _ _
  · rw [popped.others other own]

theorem Popped.held (popped : Popped pool after key dropped entry call)
    (ws : Nat) : after.heldCount ws = pool.heldCount ws := by
  rw [heldCount, popped.refills]
  rfl

theorem Popped.apart (popped : Popped pool after key dropped entry call)
    {other : Key} (differs : other ≠ key) (ws : Nat) :
    after.idleCount other ws = pool.idleCount other ws := by
  rw [idleCount, popped.others other differs]
  rfl

/-- What leaves the bucket is taken or closed. -/
theorem Popped.moved (popped : Popped pool after key dropped entry call)
    (ws : Nat) :
    pool.idleCount key ws + pool.takenCount ws + pool.closing.count ws =
      after.idleCount key ws + after.takenCount ws + after.closing.count ws := by
  simp only [idleCount, popped.bucket, popped.taken ws, popped.closing,
    List.map_append, List.count_append]
  omega

theorem Popped.inFlight_iff (popped : Popped pool after key dropped entry call)
    (id : Nat) (other : Key) : after.InFlight id other ↔ pool.InFlight id other := by
  simp only [InFlight, popped.refills]

/-- A shorter bucket leaves as much room. -/
theorem Popped.room (popped : Popped pool after key dropped entry call)
    (books : pool.BooksKept poolSize) {refill : Refill Key Args}
    (among : refill ∈ pool.refills) :
    (after.idle refill.key).length + after.mayAdd poolSize refill ≤ poolSize := by
  have before := books.room refill among
  have length := (popped.idle_suffix refill.key).length_le
  have size := books.size refill.key
  unfold mayAdd at before ⊢
  cases phase : refill.phase with
  | spawned =>
      simp only
      omega
  | awaiting handles =>
      simp only [phase] at before ⊢
      omega
  | done =>
      simp only
      omega

theorem Popped.once (popped : Popped pool after key dropped entry call)
    {pooled : PooledWs Key Target} (before : pool.Accounted ws pooled) :
    after.heldCount ws + after.idleCount pooled.key ws + after.takenCount ws +
      after.closing.count ws = 1 := by
  have once := before.once
  have moves := popped.moved ws
  by_cases own : pooled.key = key
  · rw [own] at once ⊢
    rw [popped.held]
    omega
  · have notIn : ∀ left ∈ pool.idle key, left.ws ≠ ws :=
      fun left among isWs => own (before.idle key left among isWs).symm
    have none := idleCount_eq_zero notIn
    have noneAfter := @idleCount_eq_zero _ _ _ after ws key
      fun left among => notIn left ((popped.idle_suffix key).subset among)
    rw [popped.held, popped.apart own]
    omega

theorem Popped.accounted (popped : Popped pool after key dropped entry call)
    (sameKey : call.key = key)
    (same : call.phase.taken.map Handout.ws = entry.map IdleEntry.ws)
    {pooled : PooledWs Key Target} (before : pool.Accounted ws pooled) :
    after.Accounted ws pooled := by
  refine ⟨popped.once before, ?_, ?_, ?_⟩
  · intro id refill present holds
    rw [popped.refills] at present
    exact before.held id refill present holds
  · intro other left among isWs
    exact before.idle other left ((popped.idle_suffix other).subset among) isWs
  · intro other among handout isTaken isWs
    rcases popped.calls other among with rfl | earlier
    · rw [Option.mem_def.mp isTaken] at same
      obtain ⟨left, rfl, sameWs⟩ := Option.map_eq_some_iff.mp same.symm
      rw [sameKey]
      apply before.idle key left
      · rw [popped.bucket]
        simp
      · exact sameWs.trans isWs
    · exact before.taken other earlier handout isTaken isWs

/-- A connection which was in no place is in none. -/
theorem Popped.unopened (popped : Popped pool after key dropped entry call)
    (noHeld : pool.heldCount ws = 0) (noIdle : ∀ other, pool.idleCount other ws = 0)
    (noTaken : pool.takenCount ws = 0) (noClosing : pool.closing.count ws = 0) :
    after.heldCount ws = 0 ∧ (∀ other, after.idleCount other ws = 0) ∧
      after.takenCount ws = 0 ∧ after.closing.count ws = 0 := by
  have moves := popped.moved ws
  rw [noIdle key, noTaken, noClosing] at moves
  refine ⟨(popped.held ws).trans noHeld, ?_, by omega, by omega⟩
  intro other
  by_cases own : other = key
  · rw [own]
    omega
  · rw [popped.apart own]
    exact noIdle other

theorem Kept.of_popped (kept : pool.Kept poolSize)
    (popped : Popped pool after key dropped entry call) (sameKey : call.key = key)
    (same : call.phase.taken.map Handout.ws = entry.map IdleEntry.ws)
    (fresh : ∀ handout ∈ call.phase.taken,
      call.now - handout.created ≤ poolMaxAge ∧ handout.closed = false) :
    after.Kept poolSize := by
  obtain ⟨books, unopened⟩ := kept
  obtain ⟨refilling, oneRefill⟩ :=
    books.marks popped.inFlight_iff popped.refilling
  refine ⟨⟨refilling, oneRefill, ?_, ?_, ?_, ?_⟩, ?_⟩
  · intro other
    exact (popped.idle_suffix other).length_le.trans (books.size other)
  · intro refill among
    rw [popped.refills] at among
    exact popped.room books among
  · intro ws pooled present
    rw [popped.opened] at present
    exact popped.accounted sameKey same (books.accounted ws pooled present)
  · intro other among handout isTaken
    rcases popped.calls other among with rfl | earlier
    · exact fresh handout isTaken
    · exact books.fresh other earlier handout isTaken
  · intro ws beyond
    rw [popped.opened] at beyond
    obtain ⟨noHeld, noIdle, noTaken, noClosing⟩ := unopened ws beyond
    exact popped.unopened noHeld noIdle noTaken noClosing

end Popped

/-- What a refill changes when it puts in a connection which it holds. -/
structure PutIn (pool after : Pool Key Args Target) (id : Nat) (key : Key)
    (args : Args) (entry : IdleEntry) (handles : List ConnectTask) : Prop where
  found : pool.refills[id]? =
    some ⟨key, args, .awaiting (.joined (some entry.ws) :: handles)⟩
  bucket : after.idle key = pool.idle key ++ [entry]
  others : ∀ other, other ≠ key → after.idle other = pool.idle other
  refilling : after.refilling = pool.refilling
  refills : after.refills = pool.refills.set id ⟨key, args, .awaiting handles⟩
  opened : after.opened = pool.opened
  calls : after.calls = pool.calls
  closing : after.closing = pool.closing

section PutIn

variable {after : Pool Key Args Target} {entry : IdleEntry}
  {handles : List ConnectTask}

theorem mem_held_joined (ws : Nat) (handles : List ConnectTask) :
    ws ∈ (RefillPhase.awaiting (.joined (some ws) :: handles)).held :=
  List.mem_cons_self

theorem PutIn.inFlight_iff (put : PutIn pool after id key args entry handles)
    (otherId : Nat) (other : Key) :
    after.InFlight otherId other ↔ pool.InFlight otherId other := by
  have same : after.InFlight otherId other ↔
      (pool.setRefill id ⟨key, args, .awaiting handles⟩).InFlight otherId other := by
    simp only [InFlight, put.refills, setRefill]
  exact same.trans (inFlight_setRefill put.found rfl
    (fun done => by cases done) (fun done => by cases done))

/-- The connection goes from the refill to the bucket. -/
theorem PutIn.held (put : PutIn pool after id key args entry handles)
    (ws : Nat) : after.heldCount ws + [entry.ws].count ws = pool.heldCount ws := by
  have counts := heldCount_setRefill put.found ⟨key, args, .awaiting handles⟩ ws
  have split : (RefillPhase.awaiting
      (.joined (some entry.ws) :: handles)).held =
    [entry.ws] ++ (RefillPhase.awaiting handles).held := rfl
  have same : after.heldCount ws =
      (pool.setRefill id ⟨key, args, .awaiting handles⟩).heldCount ws := by
    simp only [heldCount, put.refills, setRefill]
  simp only [split, List.count_append] at counts
  omega

theorem PutIn.idleCount_own (put : PutIn pool after id key args entry handles)
    (ws : Nat) : after.idleCount key ws =
      pool.idleCount key ws + [entry.ws].count ws := by
  simp only [idleCount, put.bucket, List.map_append, List.map_singleton,
    List.count_append]

theorem PutIn.idleCount_other (put : PutIn pool after id key args entry handles)
    {other : Key} (differs : other ≠ key) (ws : Nat) :
    after.idleCount other ws = pool.idleCount other ws := by
  simp only [idleCount, put.others other differs]

theorem PutIn.taken (put : PutIn pool after id key args entry handles)
    (ws : Nat) : after.takenCount ws = pool.takenCount ws := by
  simp only [takenCount, put.calls]

/-- The room which the refill had for the connection. -/
theorem PutIn.size (put : PutIn pool after id key args entry handles)
    (books : pool.BooksKept poolSize) :
    (after.idle key).length + handles.length ≤ poolSize := by
  have room := books.room _ (List.mem_of_getElem? put.found)
  simp only [mayAdd, List.length_cons] at room
  rw [put.bucket, List.length_append, List.length_singleton]
  omega

theorem PutIn.room (put : PutIn pool after id key args entry handles)
    (books : pool.BooksKept poolSize) {refill : Refill Key Args}
    (among : refill ∈ after.refills) :
    (after.idle refill.key).length + after.mayAdd poolSize refill ≤ poolSize := by
  have size := put.size books
  rw [put.refills] at among
  rcases mem_set_cases among with rfl | ⟨otherId, differs, present⟩
  · exact size
  · by_cases own : refill.key = key
    · -- The other refills of the key have ended.
      have ended := books.mayAdd_other put.found (fun done => by cases done)
        present differs own
      simp only [mayAdd, ended, own]
      omega
    · have before := books.room refill (List.mem_of_getElem? present)
      simp only [mayAdd, put.others _ own] at before ⊢
      exact before

theorem PutIn.once (put : PutIn pool after id key args entry handles)
    {pooled : PooledWs Key Target} (before : pool.Accounted ws pooled) :
    after.heldCount ws + after.idleCount pooled.key ws + after.takenCount ws +
      after.closing.count ws = 1 := by
  have once := before.once
  have heldBefore := put.held ws
  rw [put.taken, put.closing]
  by_cases own : pooled.key = key
  · rw [own] at once ⊢
    rw [put.idleCount_own]
    omega
  · have elsewhere : [entry.ws].count ws = 0 := by
      rw [List.count_eq_zero, List.mem_singleton]
      rintro rfl
      exact own (before.held id _ put.found (mem_held_joined _ _)).2.symm
    rw [put.idleCount_other own]
    omega

theorem PutIn.accounted (put : PutIn pool after id key args entry handles)
    {pooled : PooledWs Key Target} (before : pool.Accounted ws pooled) :
    after.Accounted ws pooled := by
  refine ⟨put.once before, ?_, ?_, ?_⟩
  · intro otherId refill present holds
    rw [put.refills] at present
    rcases found_set present with ⟨rfl, rfl⟩ | ⟨-, earlier⟩
    · apply before.held otherId _ put.found
      exact List.mem_cons_of_mem _ holds
    · exact before.held otherId refill earlier holds
  · intro other left member isWs
    by_cases own : other = key
    · rw [own] at member ⊢
      rw [put.bucket, List.mem_append, List.mem_singleton] at member
      rcases member with earlier | rfl
      · exact before.idle key left earlier isWs
      · obtain rfl : left.ws = ws := isWs
        exact (before.held id _ put.found (mem_held_joined _ _)).2
    · rw [put.others other own] at member
      exact before.idle other left member isWs
  · intro call among
    rw [put.calls] at among
    exact before.taken call among

theorem PutIn.unopened (put : PutIn pool after id key args entry handles)
    (noHeld : pool.heldCount ws = 0) (noIdle : ∀ other, pool.idleCount other ws = 0)
    (noTaken : pool.takenCount ws = 0) (noClosing : pool.closing.count ws = 0) :
    after.heldCount ws = 0 ∧ (∀ other, after.idleCount other ws = 0) ∧
      after.takenCount ws = 0 ∧ after.closing.count ws = 0 := by
  have heldBefore := put.held ws
  refine ⟨by omega, ?_, (put.taken ws).trans noTaken, ?_⟩
  · intro other
    by_cases own : other = key
    · rw [own, put.idleCount_own, noIdle]
      omega
    · rw [put.idleCount_other own]
      exact noIdle other
  · rw [put.closing]
    exact noClosing

theorem Kept.of_putIn (kept : pool.Kept poolSize)
    (put : PutIn pool after id key args entry handles) : after.Kept poolSize := by
  obtain ⟨books, unopened⟩ := kept
  obtain ⟨refilling, oneRefill⟩ := books.marks put.inFlight_iff put.refilling
  refine ⟨⟨refilling, oneRefill, ?_, fun _ => put.room books, ?_, ?_⟩, ?_⟩
  · intro other
    by_cases own : other = key
    · rw [own]
      exact Nat.le_of_add_right_le (put.size books)
    · rw [put.others other own]
      exact books.size other
  · intro ws pooled present
    rw [put.opened] at present
    exact put.accounted (books.accounted ws pooled present)
  · intro call among
    rw [put.calls] at among
    exact books.fresh call among
  · intro ws beyond
    rw [put.opened] at beyond
    obtain ⟨noHeld, noIdle, noTaken, noClosing⟩ := unopened ws beyond
    exact put.unopened noHeld noIdle noTaken noClosing

end PutIn

/-- The refill which is spawned is in flight, and those of before. -/
theorem inFlight_spawn {after : Pool Key Args Target}
    (refills : after.refills = pool.refills ++ [⟨key, args, .spawned⟩])
    (id : Nat) (other : Key) : after.InFlight id other ↔
      pool.InFlight id other ∨ (id = pool.refills.length ∧ other = key) := by
  unfold InFlight
  rw [refills]
  constructor
  · rintro ⟨refill, found, isKey, goesOn⟩
    rcases found_concat found with before | ⟨last, rfl⟩
    · exact Or.inl ⟨refill, before, isKey, goesOn⟩
    · exact Or.inr ⟨last, isKey.symm⟩
  · rintro (⟨refill, found, isKey, goesOn⟩ | ⟨rfl, rfl⟩)
    · have inside := (List.getElem?_eq_some_iff.mp found).1
      exact ⟨refill, (List.getElem?_append_left inside).trans found, isKey,
        goesOn⟩
    · exact ⟨⟨other, args, .spawned⟩, List.getElem?_concat_length, rfl,
        fun done => by cases done⟩

/-- The refill which has ended is not in flight, and the others are as before. -/
theorem inFlight_end (id other : Nat) (otherKey : Key) :
    (pool.setRefill id ⟨key, args, .done⟩).InFlight other otherKey ↔
      other ≠ id ∧ pool.InFlight other otherKey := by
  constructor
  · rintro ⟨refill, present, isKey, goesOn⟩
    rcases found_set present with ⟨-, rfl⟩ | ⟨differs, before⟩
    · exact absurd rfl goesOn
    · exact ⟨differs, refill, before, isKey, goesOn⟩
  · rintro ⟨differs, refill, present, isKey, goesOn⟩
    refine ⟨refill, ?_, isKey, goesOn⟩
    rw [← present]
    exact List.getElem?_set_ne fun same => differs same.symm

theorem Kept.callGet (kept : pool.Kept poolSize) (key : Key) (args : Args) :
    Kept poolSize
      { pool with calls := pool.calls ++ [⟨key, args, pool.now, .begun⟩] } := by
  obtain ⟨books, unopened⟩ := kept
  have taken (ws : Nat) : takenCount
      { pool with calls := pool.calls ++ [⟨key, args, pool.now, .begun⟩] } ws =
        pool.takenCount ws := by
    simp [takenCount, GetPhase.taken]
  refine ⟨⟨books.refilling, books.oneRefill, books.size, books.room, ?_, ?_⟩, ?_⟩
  · intro ws pooled present
    have before := books.accounted ws pooled present
    refine ⟨?_, before.held, before.idle, ?_⟩
    · rw [taken]
      exact before.once
    · intro call among handout isTaken isWs
      rcases List.mem_append.mp among with earlier | last
      · exact before.taken call earlier handout isTaken isWs
      · rw [List.mem_singleton.mp last] at isTaken
        cases isTaken
  · intro call among handout isTaken
    rcases List.mem_append.mp among with earlier | last
    · exact books.fresh call earlier handout isTaken
    · rw [List.mem_singleton.mp last] at isTaken
      cases isTaken
  · intro ws beyond
    rw [taken]
    exact unopened ws beyond

/-- The books do not look at the flags of the connections. -/
theorem Kept.dropConnection (kept : pool.Kept poolSize) (dropped : Nat) :
    Kept poolSize { pool with
      opened := pool.opened.modify dropped fun ws =>
        { ws with closed := true } } := by
  obtain ⟨books, unopened⟩ := kept
  refine ⟨⟨books.refilling, books.oneRefill, books.size, books.room, ?_,
    books.fresh⟩, ?_⟩
  · intro ws pooled present
    change (pool.opened.modify dropped _)[ws]? = _ at present
    rw [List.getElem?_modify] at present
    obtain ⟨earlier, found, same⟩ := Option.map_eq_some_iff.mp present
    have before := books.accounted ws earlier found
    split at same
    · cases same
      exact ⟨before.once, before.held, before.idle, before.taken⟩
    · cases same
      exact ⟨before.once, before.held, before.idle, before.taken⟩
  · intro ws beyond
    apply unopened ws
    simpa only [List.length_modify] using beyond

/-- The books look neither at the clock nor at the warmups. -/
theorem Kept.unbooked (kept : pool.Kept poolSize)
    (warmups : List (List (Key × Args))) (now : Nat) :
    Kept poolSize { pool with warmups, now } := by
  obtain ⟨books, unopened⟩ := kept
  refine ⟨⟨books.refilling, books.oneRefill, books.size, books.room, ?_,
    books.fresh⟩, unopened⟩
  intro ws pooled present
  have before := books.accounted ws pooled present
  exact ⟨before.once, before.held, before.idle, before.taken⟩

variable [DecidableEq Key]

/-- A refill which is spawned for an unmarked key is the only one. -/
theorem Kept.scheduleRefill (kept : pool.Kept poolSize) (key : Key)
    (args : Args) : (pool.scheduleRefill key args).Kept poolSize := by
  rw [Pool.scheduleRefill]
  split
  · exact kept
  rename_i unmarked
  obtain ⟨books, unopened⟩ := kept
  have none (id : Nat) : ¬ pool.InFlight id key := fun flies =>
    unmarked ((books.refilling key).mpr ⟨id, flies⟩)
  have inFlight (id : Nat) (other : Key) :
      InFlight { pool with
        refilling := insert key pool.refilling
        refills := pool.refills ++ [⟨key, args, .spawned⟩] } id other ↔
      pool.InFlight id other ∨ (id = pool.refills.length ∧ other = key) :=
    inFlight_spawn rfl id other
  have held (ws : Nat) : heldCount { pool with
        refilling := insert key pool.refilling
        refills := pool.refills ++ [⟨key, args, .spawned⟩] } ws =
      pool.heldCount ws := by
    simp [heldCount, RefillPhase.held]
  refine ⟨⟨?_, ?_, books.size, ?_, ?_, books.fresh⟩, ?_⟩
  · intro other
    simp only [inFlight, Finset.mem_insert, books.refilling other, exists_or]
    constructor
    · rintro (rfl | flies)
      · exact Or.inr ⟨_, rfl, rfl⟩
      · exact Or.inl flies
    · rintro (flies | ⟨-, -, same⟩)
      · exact Or.inr flies
      · exact Or.inl same
  · intro other left right first second
    rcases (inFlight left other).mp first with before | ⟨rfl, rfl⟩
    · rcases (inFlight right other).mp second with beforeToo | ⟨rfl, rfl⟩
      · exact books.oneRefill other left right before beforeToo
      · exact absurd before (none left)
    · rcases (inFlight right other).mp second with before | ⟨rfl, -⟩
      · exact absurd before (none right)
      · rfl
  · intro refill member
    rcases List.mem_append.mp member with before | last
    · exact books.room refill before
    · rw [List.mem_singleton.mp last]
      have size := books.size key
      simp only [mayAdd]
      omega
  · intro ws pooled found
    have before := books.accounted ws pooled found
    refine ⟨?_, ?_, before.idle, before.taken⟩
    · rw [held]
      exact before.once
    · intro id refill present holds
      rcases found_concat present with earlier | ⟨-, rfl⟩
      · exact before.held id refill earlier holds
      · cases holds
  · intro ws beyond
    rw [held]
    exact unopened ws beyond

theorem Kept.scheduleAfterGet (kept : pool.Kept poolSize) (id : Nat) :
    (pool.scheduleAfterGet id).Kept poolSize := by
  rw [Pool.scheduleAfterGet]
  split
  · rename_i key args now ws found
    have calls : (pool.scheduleRefill key args).calls = pool.calls := by
      unfold Pool.scheduleRefill
      split
      · rfl
      · rfl
    rw [← calls] at found
    exact (kept.scheduleRefill key args).setCall found rfl rfl rfl
  · exact kept

/-- The lock of `idle` in `get`, whichever of its ends the loop comes to. -/
theorem Kept.pop (kept : pool.Kept poolSize) {dropped rest : List IdleEntry}
    {entry : Option IdleEntry} {handout : Option Handout}
    (found : pool.calls[id]? = some ⟨key, args, now, .begun⟩)
    (bucket : pool.idle key = dropped ++ entry.toList ++ rest)
    (same : handout.map Handout.ws = entry.map IdleEntry.ws)
    (fresh : ∀ taken ∈ handout,
      now - taken.created ≤ poolMaxAge ∧ taken.closed = false)
    (hits misses : Nat) :
    Kept poolSize
      { (pool.setIdle key rest).setCall id ⟨key, args, now, .popped handout⟩ with
        closing := pool.closing ++ dropped.map IdleEntry.ws, hits, misses } := by
  apply @Kept.of_popped _ _ _ pool poolSize key _ dropped entry
    ⟨key, args, now, .popped handout⟩ kept _ rfl same fresh
  refine ⟨?_, ?_, rfl, rfl, rfl, ?_, ?_, rfl⟩
  · simp only [Pool.setCall, setIdle, if_pos, bucket]
  · exact fun other differs => if_neg differs
  · intro other among
    rcases mem_set_cases among with last | ⟨position, -, present⟩
    · exact Or.inl last
    · exact Or.inr (List.mem_of_getElem? present)
  · intro ws
    have counts := takenCount_setCall found ⟨key, args, now, .popped handout⟩ ws
    have taken : (GetPhase.popped handout).taken.toList.map Handout.ws =
        entry.toList.map IdleEntry.ws := by
      change handout.toList.map Handout.ws = _
      rw [← Option.toList_map, same, Option.toList_map]
    rw [taken] at counts
    exact counts

theorem Kept.popIdle (kept : pool.Kept poolSize) (id : Nat) :
    (pool.popIdle id).Kept poolSize := by
  rw [Pool.popIdle]
  split
  · rename_i key args now found
    have bucket := @List.takeWhile_append_dropWhile _ (!pool.usable now ·)
      (pool.idle key)
    cases split : (pool.idle key).dropWhile (!pool.usable now ·) with
    | nil =>
        rw [split] at bucket
        simp only
        refine @Kept.pop _ _ _ pool poolSize id key args now _ kept _ [] none
          none found ?_ rfl ?_ pool.hits (pool.misses + 1)
        · rw [List.append_nil]
          exact bucket.symm
        · intro taken none
          cases none
    | cons entry rest =>
        rw [split] at bucket
        have isUsable : pool.usable now entry = true := by
          have first := List.head?_dropWhile_not (!pool.usable now ·)
            (pool.idle key)
          rw [split] at first
          simpa using first
        simp only
        refine @Kept.pop _ _ _ pool poolSize id key args now _ kept _ rest
          (some entry) (some ⟨entry.ws, entry.created, _⟩) found ?_ rfl ?_
          (pool.hits + 1) pool.misses
        · rw [List.append_assoc]
          exact bucket.symm
        · intro taken same
          cases same
          unfold Pool.usable at isUsable
          cases opened : pool.opened[entry.ws]? with
          | none => simp [opened] at isUsable
          | some pooled => simpa [opened] using isUsable
  · exact kept

theorem Kept.putIn {handles : List ConnectTask} (kept : pool.Kept poolSize)
    (found : pool.refills[id]? = some
      ⟨key, args, .awaiting (.joined (some ws) :: handles)⟩) :
    ((pool.setIdle key (pool.idle key ++ [⟨ws, pool.now⟩])).setRefill id
      ⟨key, args, .awaiting handles⟩).Kept poolSize := by
  apply kept.of_putIn
  exact ⟨found, if_pos rfl, fun other differs => if_neg differs, rfl, rfl, rfl,
    rfl, rfl⟩

theorem Kept.joinNext (kept : pool.Kept poolSize) (id : Nat) :
    (pool.joinNext id).Kept poolSize := by
  rw [Pool.joinNext]
  split
  · rename_i key args handles found
    apply Kept.setRefill kept found
    · rfl
    · exact fun done => by cases done
    · exact fun done => by cases done
    · exact fun ws => rfl
    · simp [mayAdd]
  · rename_i key args ws handles found
    exact kept.putIn found
  · exact kept

/-- The mark goes when the only refill of its key has ended. -/
theorem Kept.finishRefill (kept : pool.Kept poolSize) (id : Nat) :
    (pool.finishRefill id).Kept poolSize := by
  rw [Pool.finishRefill]
  split
  · rename_i key args found
    obtain ⟨books, unopened⟩ := kept
    have flies : pool.InFlight id key :=
      ⟨_, found, rfl, fun done => by cases done⟩
    have held (ws : Nat) : (pool.setRefill id ⟨key, args, .done⟩).heldCount ws =
        pool.heldCount ws := by
      have counts := heldCount_setRefill found ⟨key, args, .done⟩ ws
      have same : (RefillPhase.awaiting []).held = RefillPhase.done.held := rfl
      simp only [same] at counts
      omega
    refine ⟨⟨?_, ?_, books.size, ?_, ?_, books.fresh⟩, ?_⟩
    · intro other
      change other ∈ pool.refilling.erase key ↔ ∃ otherId,
        (pool.setRefill id ⟨key, args, .done⟩).InFlight otherId other
      simp only [inFlight_end, Finset.mem_erase, books.refilling]
      constructor
      · rintro ⟨differs, otherId, present⟩
        refine ⟨otherId, ?_, present⟩
        rintro rfl
        obtain ⟨refill, presentHere, isKey, -⟩ := present
        cases found.symm.trans presentHere
        exact differs isKey.symm
      · rintro ⟨otherId, differs, present⟩
        refine ⟨?_, otherId, present⟩
        rintro rfl
        exact differs (books.oneRefill other otherId id present flies)
    · intro other left right first second
      exact books.oneRefill other left right
        ((inFlight_end id left other).mp first).2
        ((inFlight_end id right other).mp second).2
    · intro refill member
      rcases mem_set_cases member with rfl | ⟨other, -, present⟩
      · exact books.size key
      · exact books.room refill (List.mem_of_getElem? present)
    · intro ws pooled present
      have before := books.accounted ws pooled present
      refine ⟨?_, ?_, before.idle, before.taken⟩
      · change (pool.setRefill id ⟨key, args, .done⟩).heldCount ws + _ + _ + _ = 1
        rw [held]
        exact before.once
      · intro other refill presentRefill holds
        rcases found_set presentRefill with ⟨-, rfl⟩ | ⟨-, earlier⟩
        · cases holds
        · exact before.held other refill earlier holds
    · intro ws beyond
      change (pool.setRefill id ⟨key, args, .done⟩).heldCount ws = 0 ∧ _
      rw [held]
      exact unopened ws beyond
  · exact kept

theorem Kept.scheduleWarmup (kept : pool.Kept poolSize) (id : Nat) :
    (pool.scheduleWarmup id).Kept poolSize := by
  rw [Pool.scheduleWarmup]
  split
  · rename_i key args rest found
    exact (kept.scheduleRefill key args).unbooked _ _
  · exact kept

/-- What one thread does while it holds a lock keeps the books. -/
theorem Kept.step (kept : pool.Kept poolSize) (kind : PoolKind Key Args Target)
    (event : PoolEvent Key Args) :
    (pool.step kind poolSize event).Kept poolSize := by
  cases event with
  | callGet key args => exact kept.callGet key args
  | popIdle call => exact kept.popIdle call
  | scheduleAfterGet call => exact kept.scheduleAfterGet call
  | callWarmup keys => exact kept.unbooked _ _
  | scheduleWarmup warmup => exact kept.scheduleWarmup warmup
  | countIdle refill => exact kept.countIdle refill
  | connectEnds refill index connect =>
      exact kept.connectEnds kind refill index connect
  | joinNext refill => exact kept.joinNext refill
  | finishRefill refill => exact kept.finishRefill refill
  | dropConnection ws => exact kept.dropConnection ws
  | elapse duration => exact kept.unbooked _ _

theorem run_kept (kind : PoolKind Key Args Target) (poolSize : Nat)
    (events : List (PoolEvent Key Args)) :
    (run (step kind poolSize) initial events).Kept poolSize :=
  @run_invariant _ _ (step kind poolSize) (Kept poolSize)
    (fun _ event kept => Kept.step kept kind event) _ events
    (initial_kept poolSize)

end Books

end Pool

/-- Both pools keep their books, whatever their callers and their connection
tasks do. -/
theorem pools_keep_books :
    (∀ poolSize events, Pool.BooksKept poolSize
      (run (Pool.step wsPool poolSize) Pool.initial events)) ∧
    (∀ poolSize events, Pool.BooksKept poolSize
      (run (Pool.step cfWorkerPool poolSize) Pool.initial events)) := by
  constructor
  · intro poolSize events
    exact (Pool.run_kept wsPool poolSize events).books
  · intro poolSize events
    exact (Pool.run_kept cfWorkerPool poolSize events).books

end TgWsProxy.Rust
