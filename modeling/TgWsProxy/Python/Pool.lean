import TgWsProxy.Utils
import TgWsProxy.Lib.Runs
import Mathlib.Data.Finset.Basic

/-!
# The connection pools

`_BasePool` of `proxy/pool.py` over an arbitrary key, and its subclasses
`_WsPool` and `_CfWorkerPool`.  The pool is shared by the sessions, which call
`get`, and by the refill tasks, whose segments between two `await`s are the
events of the model.
-/

namespace TgWsProxy.Python

open Lib

/-- `WS_POOL_MAX_AGE`, in nanoseconds. -/
def wsPoolMaxAge : Int := 120 * 10 ^ 9

/-- A positional argument which `_BasePool` passes on. -/
inductive PyValue where
  | none
  | bool (value : Bool)
  | int (value : Int)
  | str (value : String)
  | strs (values : List String)
deriving DecidableEq, Repr

/-- What `get` reads of a `RawWebSocket`. -/
structure Socket where
  closed : Bool
  transportClosing : Bool
deriving DecidableEq, Repr

/-- A pooled connection, by its place in `Pool.sockets`, and the time it was
put in. -/
structure Entry where
  ws : Nat
  created : Int
deriving DecidableEq, Repr

/-- Where `_refill` stands. -/
inductive RefillPhase where
  | scheduled
  /-- Awaits the first of `pending` connections, each opened by
  `_connect_one(*args)`, for the deque which `_idle` held after `resets`
  calls of `reset`. -/
  | connecting (resets : Nat) (args : List PyValue) (pending : Nat)
  | done
deriving DecidableEq, Repr

structure RefillTask (Key : Type) where
  key : Key
  args : List PyValue
  phase : RefillPhase
deriving DecidableEq, Repr

structure Pool (Key : Type) where
  resets : Nat
  /-- The deque of a key, for each number of calls of `reset`: `reset` drops
  the deques from `_idle`, and a running refill keeps its own.  A key which is
  not in `_idle` has the empty deque that `get` and `_refill` would store. -/
  deques : Nat → Key → List Entry
  refilling : Finset Key
  tasks : List (RefillTask Key)
  hits : Nat
  misses : Nat
  sockets : List Socket
  /-- The `_quiet_close` tasks which did not run yet. -/
  quietCloses : List Nat
  /-- `time.monotonic()`. -/
  now : Int

/-- What a subclass overrides. -/
structure PoolHooks (Key : Type) where
  logPrefix : Key → Except PyError String
  refillArgs : Key → Except PyError (List PyValue)
  /-- The refills which `_schedule_all_refills` asks for, in order. -/
  allRefills : List (Key × List PyValue)

/-- Everything that happens to a pool besides `get`. -/
inductive PoolActivity where
  | warmup
  | reset
  | startRefill (id : Nat)
  /-- The awaited connection of a refill is there, or has failed. -/
  | connected (id : Nat) (ws : Option Socket)
  /-- The loop cancels the task of a refill. -/
  | cancelRefill (id : Nat)
  | quietClose
  /-- The peer closes a connection. -/
  | drop (ws : Nat)
  | elapse (duration : Nat)
deriving DecidableEq, Repr

inductive PoolEvent (Key : Type) where
  | get (key : Key) (args : List PyValue)
  | activity (activity : PoolActivity)
deriving DecidableEq, Repr

namespace Pool

section BasePool

variable {Key : Type} [DecidableEq Key]

def initial : Pool Key :=
  ⟨0, fun _ _ => [], ∅, [], 0, 0, [], [], 0⟩

/-- `_idle[key]`. -/
def bucket (pool : Pool Key) (key : Key) : List Entry :=
  pool.deques pool.resets key

def setDeque (pool : Pool Key) (resets : Nat) (key : Key)
    (entries : List Entry) : Pool Key :=
  { pool with
    deques := fun otherResets other =>
      if otherResets = resets ∧ other = key then entries
      else pool.deques otherResets other }

/-- Neither too old nor closed. -/
def usable (pool : Pool Key) (entry : Entry) : Bool :=
  match pool.sockets[entry.ws]? with
  | none => false
  | some ws =>
      decide (pool.now - entry.created ≤ wsPoolMaxAge) &&
        !ws.closed && !ws.transportClosing

def scheduleRefill (pool : Pool Key) (key : Key) (args : List PyValue) :
    Pool Key :=
  if key ∈ pool.refilling then pool
  else
    { pool with
      refilling := insert key pool.refilling
      tasks := pool.tasks ++ [⟨key, args, .scheduled⟩] }

/-- The `while` loop of `get`: the connections it drops, and the rest. -/
def popUnusable (pool : Pool Key) (key : Key) : List Entry × List Entry :=
  ((pool.bucket key).takeWhile (!pool.usable ·),
    (pool.bucket key).dropWhile (!pool.usable ·))

def get (hooks : PoolHooks Key) (pool : Pool Key) (key : Key)
    (args : List PyValue) : Except PyError (Option Nat) × Pool Key :=
  let (dropped, rest) := pool.popUnusable key
  let pool : Pool Key :=
    { pool with quietCloses := pool.quietCloses ++ dropped.map Entry.ws }
  match rest with
  | [] =>
      let pool := { pool.setDeque pool.resets key [] with
        misses := pool.misses + 1 }
      (.ok none, pool.scheduleRefill key args)
  | entry :: rest =>
      let pool := { pool.setDeque pool.resets key rest with
        hits := pool.hits + 1 }
      match hooks.logPrefix key with
      | .error error => (.error error, pool)
      | .ok _ => (.ok (some entry.ws), pool.scheduleRefill key args)

/-- `_schedule_all_refills`. -/
def scheduleAllRefills (hooks : PoolHooks Key) (pool : Pool Key) : Pool Key :=
  hooks.allRefills.foldl
    (fun pool refill => pool.scheduleRefill refill.1 refill.2) pool

def reset (pool : Pool Key) : Pool Key :=
  { pool with resets := pool.resets + 1, refilling := ∅ }

def setPhase (pool : Pool Key) (id : Nat) (phase : RefillPhase) : Pool Key :=
  { pool with
    tasks := pool.tasks.modify id fun task => { task with phase := phase } }

/-- The `finally` clause of `_refill`. -/
def finishRefill (pool : Pool Key) (id : Nat) (key : Key) : Pool Key :=
  { pool.setPhase id .done with refilling := pool.refilling.erase key }

/-- `_refill` up to its first `await`. -/
def startRefill (hooks : PoolHooks Key) (poolSize : Nat) (pool : Pool Key)
    (id : Nat) : Pool Key :=
  match pool.tasks[id]? with
  | some ⟨key, _, .scheduled⟩ =>
      let needed := poolSize - (pool.bucket key).length
      if needed = 0 then pool.finishRefill id key
      else
        match hooks.refillArgs key with
        | .error _ => pool.finishRefill id key
        | .ok args => pool.setPhase id (.connecting pool.resets args needed)
  | _ => pool

/-- `_refill` from one `await t` to the next. -/
def connected (pool : Pool Key) (id : Nat) (ws : Option Socket) : Pool Key :=
  match pool.tasks[id]? with
  | some ⟨key, _, .connecting resets args pending⟩ =>
      let pool :=
        match ws with
        | none => pool
        | some ws =>
            { pool.setDeque resets key
                (pool.deques resets key ++
                  [Entry.mk pool.sockets.length pool.now]) with
              sockets := pool.sockets ++ [ws] }
      -- After the last one, `_log_prefix` may raise, and `finally` runs.
      if pending ≤ 1 then pool.finishRefill id key
      else pool.setPhase id (.connecting resets args (pending - 1))
  | _ => pool

/-- A task which never ran does not reach its `finally` clause. -/
def cancelRefill (pool : Pool Key) (id : Nat) : Pool Key :=
  match pool.tasks[id]? with
  | some ⟨_, _, .scheduled⟩ => pool.setPhase id .done
  | some ⟨key, _, .connecting _ _ _⟩ => pool.finishRefill id key
  | _ => pool

def quietClose (pool : Pool Key) : Pool Key :=
  match pool.quietCloses with
  | [] => pool
  | ws :: quietCloses =>
      { pool with
        sockets := pool.sockets.modify ws fun _ => Socket.mk true true
        quietCloses := quietCloses }

def act (hooks : PoolHooks Key) (poolSize : Nat) (pool : Pool Key) :
    PoolActivity → Pool Key
  | .warmup => pool.scheduleAllRefills hooks
  | .reset => pool.reset
  | .startRefill id => pool.startRefill hooks poolSize id
  | .connected id ws => pool.connected id ws
  | .cancelRefill id => pool.cancelRefill id
  | .quietClose => pool.quietClose
  | .drop ws =>
      { pool with
        sockets := pool.sockets.modify ws fun socket =>
          { socket with transportClosing := true } }
  | .elapse duration => { pool with now := pool.now + duration }

def step (hooks : PoolHooks Key) (poolSize : Nat) (pool : Pool Key) :
    PoolEvent Key → Pool Key
  | .get key args => (pool.get hooks key args).2
  | .activity activity => pool.act hooks poolSize activity

/-- The calls of `_connect_one` which the refill of a key makes now. -/
def refillConnects (hooks : PoolHooks Key) (poolSize : Nat) (pool : Pool Key)
    (key : Key) : List (List PyValue) :=
  match hooks.refillArgs key with
  | .error _ => []
  | .ok args => List.replicate (poolSize - (pool.bucket key).length) args

/-- The calls of `_connect_one` which the refill still awaits. -/
def awaited (pool : Pool Key) (id : Nat) : List (List PyValue) :=
  match pool.tasks[id]? with
  | some ⟨_, _, .connecting _ args pending⟩ => List.replicate pending args
  | _ => []

/-- No connection is filed under a key whose `_refill_args` raises, and every
running refill opens the connections of its key. -/
structure FiledByKey (hooks : PoolHooks Key) (pool : Pool Key) : Prop where
  deques : ∀ resets key error, hooks.refillArgs key = .error error →
    pool.deques resets key = []
  tasks : ∀ task ∈ pool.tasks, ∀ resets args pending,
    task.phase = .connecting resets args pending →
      hooks.refillArgs task.key = .ok args

section Steps

variable {hooks : PoolHooks Key} {pool : Pool Key}

@[simp] theorem scheduleRefill_deques (pool : Pool Key) (key : Key)
    (args : List PyValue) :
    (pool.scheduleRefill key args).deques = pool.deques := by
  unfold scheduleRefill
  split
  · rfl
  · rfl

theorem mem_scheduleRefill {key : Key} {args : List PyValue}
    {task : RefillTask Key} (member : task ∈ (pool.scheduleRefill key args).tasks) :
    task ∈ pool.tasks ∨ task = ⟨key, args, .scheduled⟩ := by
  unfold scheduleRefill at member
  split at member
  · exact Or.inl member
  · simpa using member

omit [DecidableEq Key] in
theorem mem_setPhase {id : Nat} {phase : RefillPhase} {task : RefillTask Key}
    (member : task ∈ (pool.setPhase id phase).tasks) :
    task ∈ pool.tasks ∨
      ∃ old, pool.tasks[id]? = some old ∧ task = { old with phase := phase } := by
  obtain ⟨index, present⟩ := List.mem_iff_getElem?.mp member
  simp only [setPhase, List.getElem?_modify] at present
  by_cases isOwn : id = index
  · subst isOwn
    obtain ⟨old, found, changed⟩ := Option.map_eq_some_iff.mp present
    rw [if_pos rfl] at changed
    exact Or.inr ⟨old, found, changed.symm⟩
  · have unchanged : pool.tasks[index]? = some task := by
      simpa [isOwn] using present
    exact Or.inl (List.mem_of_getElem? unchanged)

theorem FiledByKey.scheduleRefill (filed : pool.FiledByKey hooks) (key : Key)
    (args : List PyValue) : (pool.scheduleRefill key args).FiledByKey hooks := by
  constructor
  · rw [scheduleRefill_deques]
    exact filed.deques
  · intro task member resets opened pending phase
    cases mem_scheduleRefill member with
    | inl earlier => exact filed.tasks task earlier resets opened pending phase
    | inr scheduled =>
        rw [scheduled] at phase
        cases phase

omit [DecidableEq Key] in
theorem FiledByKey.setPhase (filed : pool.FiledByKey hooks) {id : Nat}
    {phase : RefillPhase}
    (opens : ∀ task resets args pending, pool.tasks[id]? = some task →
      phase = .connecting resets args pending →
        hooks.refillArgs task.key = .ok args) :
    (pool.setPhase id phase).FiledByKey hooks := by
  constructor
  · exact filed.deques
  · intro task member resets args pending connecting
    cases mem_setPhase member with
    | inl earlier => exact filed.tasks task earlier resets args pending connecting
    | inr changed =>
        obtain ⟨old, found, rfl⟩ := changed
        exact opens old resets args pending found connecting

theorem FiledByKey.finishRefill (filed : pool.FiledByKey hooks) (id : Nat)
    (key : Key) : (pool.finishRefill id key).FiledByKey hooks := by
  have done : (pool.setPhase id .done).FiledByKey hooks := by
    apply filed.setPhase
    intro _ _ _ _ _ impossible
    cases impossible
  exact ⟨done.deques, done.tasks⟩

theorem FiledByKey.setDeque (filed : pool.FiledByKey hooks) (resets : Nat)
    (key : Key) (entries : List Entry)
    (fillable : ∀ error, hooks.refillArgs key = .error error → entries = []) :
    (pool.setDeque resets key entries).FiledByKey hooks := by
  constructor
  · intro otherResets other error raises
    simp only [Pool.setDeque]
    by_cases same : otherResets = resets ∧ other = key
    · rw [if_pos same]
      rw [same.2] at raises
      exact fillable error raises
    · rw [if_neg same]
      exact filed.deques otherResets other error raises
  · exact filed.tasks

theorem FiledByKey.get (filed : pool.FiledByKey hooks) (key : Key)
    (args : List PyValue) : (pool.get hooks key args).2.FiledByKey hooks := by
  have taken (entries : List Entry)
      (kept : (pool.bucket key = [] → entries = [])) :
      (pool.setDeque pool.resets key entries).FiledByKey hooks :=
    filed.setDeque _ _ _ fun error raises =>
      kept (filed.deques pool.resets key error raises)
  unfold Pool.get
  cases rest : (pool.bucket key).dropWhile (!pool.usable ·) with
  | nil =>
      simp only [popUnusable, rest]
      apply FiledByKey.scheduleRefill
      have emptied := taken [] fun _ => rfl
      exact ⟨emptied.deques, emptied.tasks⟩
  | cons entry entries =>
      simp only [popUnusable, rest]
      have shortened := taken entries (by
        intro empty
        rw [empty] at rest
        cases rest)
      cases hooks.logPrefix key with
      | error error => exact ⟨shortened.deques, shortened.tasks⟩
      | ok text =>
          apply FiledByKey.scheduleRefill
          exact ⟨shortened.deques, shortened.tasks⟩

theorem FiledByKey.scheduleAllRefills (filed : pool.FiledByKey hooks) :
    (pool.scheduleAllRefills hooks).FiledByKey hooks := by
  unfold Pool.scheduleAllRefills
  generalize hooks.allRefills = refills
  induction refills generalizing pool with
  | nil => exact filed
  | cons refill refills induction =>
      exact induction (filed.scheduleRefill refill.1 refill.2)

theorem FiledByKey.startRefill (filed : pool.FiledByKey hooks)
    (poolSize id : Nat) :
    (pool.startRefill hooks poolSize id).FiledByKey hooks := by
  unfold Pool.startRefill
  split
  next key args found =>
    dsimp only
    split
    · exact filed.finishRefill id key
    · split
      · exact filed.finishRefill id key
      next opened fills =>
        apply filed.setPhase
        intro task resets args pending present connecting
        rw [found] at present
        cases present
        cases connecting
        exact fills
  · exact filed

theorem FiledByKey.connected (filed : pool.FiledByKey hooks) (id : Nat)
    (ws : Option Socket) : (pool.connected id ws).FiledByKey hooks := by
  unfold Pool.connected
  split
  next key scheduledArgs resets args pending found =>
    have fills : hooks.refillArgs key = .ok args :=
      filed.tasks _ (List.mem_of_getElem? found) resets args pending rfl
    have received : FiledByKey hooks
        (match ws with
        | none => pool
        | some ws =>
            { pool.setDeque resets key
                (pool.deques resets key ++
                  [Entry.mk pool.sockets.length pool.now]) with
              sockets := pool.sockets ++ [ws] }) := by
      cases ws with
      | none => exact filed
      | some ws =>
          have appended := filed.setDeque resets key
            (pool.deques resets key ++ [Entry.mk pool.sockets.length pool.now])
            (by
              intro error raises
              rw [fills] at raises
              cases raises)
          exact ⟨appended.deques, appended.tasks⟩
    dsimp only
    split
    · exact received.finishRefill id key
    · apply received.setPhase
      intro task _ _ _ present connecting
      have same : pool.tasks[id]? = some task := by
        cases ws with
        | none => exact present
        | some ws => exact present
      rw [found] at same
      cases same
      cases connecting
      exact fills
  · exact filed

theorem FiledByKey.cancelRefill (filed : pool.FiledByKey hooks) (id : Nat) :
    (pool.cancelRefill id).FiledByKey hooks := by
  unfold Pool.cancelRefill
  split
  · apply filed.setPhase
    intro _ _ _ _ _ impossible
    cases impossible
  · exact filed.finishRefill id _
  · exact filed

omit [DecidableEq Key] in
theorem FiledByKey.quietClose (filed : pool.FiledByKey hooks) :
    pool.quietClose.FiledByKey hooks := by
  unfold Pool.quietClose
  split
  · exact filed
  · exact ⟨filed.deques, filed.tasks⟩

theorem FiledByKey.step (filed : pool.FiledByKey hooks) (poolSize : Nat)
    (event : PoolEvent Key) : (pool.step hooks poolSize event).FiledByKey hooks := by
  cases event with
  | get key args => exact filed.get key args
  | activity activity =>
      cases activity with
      | warmup => exact filed.scheduleAllRefills
      | startRefill id => exact filed.startRefill poolSize id
      | connected id ws => exact filed.connected id ws
      | cancelRefill id => exact filed.cancelRefill id
      | quietClose => exact filed.quietClose
      | reset | drop | elapse => exact ⟨filed.deques, filed.tasks⟩

/-- A refill opens the connections of its key, as many as are missing. -/
theorem startRefill_awaited {poolSize id : Nat} {key : Key}
    {args : List PyValue}
    (scheduled : pool.tasks[id]? = some ⟨key, args, .scheduled⟩) :
    (pool.startRefill hooks poolSize id).awaited id =
      pool.refillConnects hooks poolSize key := by
  have awaitedAfter (phase : RefillPhase) :
      (pool.setPhase id phase).awaited id =
        (match phase with
        | .connecting _ args pending => List.replicate pending args
        | _ => []) := by
    simp only [awaited, setPhase, List.getElem?_modify_eq, scheduled]
    cases phase <;> rfl
  have finished (key : Key) : (pool.finishRefill id key).awaited id = [] :=
    awaitedAfter .done
  simp only [startRefill, scheduled, refillConnects]
  cases hooks.refillArgs key with
  | error error =>
      split
      · exact finished key
      · exact finished key
  | ok args =>
      by_cases full : poolSize - (pool.bucket key).length = 0
      · rw [if_pos full, full]
        exact finished key
      · rw [if_neg full]
        exact awaitedAfter _

theorem get_of_bucket_nil {key : Key} (empty : pool.bucket key = [])
    (args : List PyValue) : (pool.get hooks key args).1 = .ok none := by
  simp only [get, popUnusable, empty, List.dropWhile_nil]

end Steps

omit [DecidableEq Key] in
theorem initial_filedByKey (hooks : PoolHooks Key) :
    (initial : Pool Key).FiledByKey hooks := by
  constructor
  · intro _ _ _ _
    rfl
  · intro task member
    cases member

end BasePool

end Pool

/-- What the pools read of `proxy_config`. -/
structure ProxyConfig where
  dcRedirects : List (Int × Option String)
  poolSize : Nat
  cfproxyWorkerDomains : List String
deriving DecidableEq, Repr

/-- A pool key as it occurs in `pool.py` and at the calls of `get`. -/
inductive PoolKey (Second : Type) where
  | dc (dc : Int)
  | pair (dc : Int) (second : Second)
deriving DecidableEq, Repr

def optionalStr : Option String → PyValue
  | none => .none
  | some value => .str value

namespace WsPool

def logPrefix : PoolKey Bool → Except PyError String
  | .dc _ => .error .typeError
  | .pair dc isMedia =>
      .ok ("DC" ++ toString dc ++ if isMedia then "m" else "")

def refillArgs (config : ProxyConfig) :
    PoolKey Bool → Except PyError (List PyValue)
  | .dc _ => .error .typeError
  | .pair dc isMedia =>
      match config.dcRedirects.lookup dc with
      | none => .error .keyError
      | some targetIp =>
          .ok [optionalStr targetIp, .strs (wsDomains dc isMedia)]

def allRefills (config : ProxyConfig) :
    List (PoolKey Bool × List PyValue) :=
  config.dcRedirects.flatMap fun (dc, targetIp) =>
    match targetIp with
    | none => []
    | some targetIp =>
        [false, true].map fun isMedia =>
          (.pair dc isMedia, [.str targetIp, .strs (wsDomains dc isMedia)])

def hooks (config : ProxyConfig) : PoolHooks (PoolKey Bool) :=
  ⟨logPrefix, refillArgs config, allRefills config⟩

/-- What `_handle_client` passes to `ws_pool.get`. -/
def sessionGet (config : ProxyConfig) (dc : Int) (isMedia : Bool) :
    Option (PoolKey Bool × List PyValue) :=
  match config.dcRedirects.lookup dc with
  | none => none
  | some target =>
      some (.dc dc,
        [.bool isMedia, optionalStr target, .strs (wsDomains dc isMedia)])

end WsPool

namespace CfWorkerPool

def logPrefix : PoolKey String → Except PyError String
  | .dc _ => .error .typeError
  | .pair dc _ => .ok ("DC" ++ toString dc)

def refillArgs : PoolKey String → Except PyError (List PyValue)
  | .dc _ => .error .typeError
  | .pair dc workerDomain =>
      .ok [.str workerDomain, .str ((dcDefaultIps.lookup dc).getD ""), .int dc]

def allRefills (config : ProxyConfig) :
    List (PoolKey String × List PyValue) :=
  let cfFallbacks := dcDefaultIps.filter fun (dc, _) =>
    (config.dcRedirects.lookup dc).isNone
  config.cfproxyWorkerDomains.flatMap fun workerDomain =>
    cfFallbacks.map fun (dc, fallbackDst) =>
      (.pair dc workerDomain,
        [.str workerDomain, .str fallbackDst, .int dc])

def hooks (config : ProxyConfig) : PoolHooks (PoolKey String) :=
  ⟨logPrefix, refillArgs, allRefills config⟩

/-- What `_cfproxy_worker_fallback`, which `do_fallback` calls for a DC with a
default address, passes to `cf_worker_pool.get`. -/
def sessionGet (config : ProxyConfig) (dc : Int) (workerDomain : String) :
    Option (PoolKey String × List PyValue) :=
  match dcDefaultIps.lookup dc with
  | none => none
  | some fallbackDst =>
      if workerDomain ∈ config.cfproxyWorkerDomains then
        some (.dc dc, [.str workerDomain, .str fallbackDst])
      else none

end CfWorkerPool

end TgWsProxy.Python
