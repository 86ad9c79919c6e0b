import TgWsProxy.Python.Pool

/-!
# The lookups of the sessions

`_handle_client` and `_cfproxy_worker_fallback` call `get(dc, is_media, ...)`
and `get(dc, worker_domain, ...)`.  The first argument alone is the key, while
the refills file their connections under pairs.
-/

namespace TgWsProxy.Python

open Lib

/-- A pool of the program with the lookups which its sessions make. -/
structure SessionPool (Second : Type) where
  hooks : PoolHooks (PoolKey Second)
  poolSize : Nat
  sessionGet : Int → Second → Option (PoolKey Second × List PyValue)

inductive SessionEvent (Second : Type) where
  | lookup (dc : Int) (second : Second)
  | activity (activity : PoolActivity)

namespace SessionPool

section Lookups

variable {Second : Type} [DecidableEq Second] (sessions : SessionPool Second)

def step (pool : Pool (PoolKey Second)) :
    SessionEvent Second → Pool (PoolKey Second)
  | .lookup dc second =>
      match sessions.sessionGet dc second with
      | none => pool
      | some (key, args) => (pool.get sessions.hooks key args).2
  | .activity activity => pool.act sessions.hooks sessions.poolSize activity

/-- A lookup finds what was warmed for it, and a refill scheduled by a lookup
opens the connections of the pair looked up. -/
def Serves (pool : Pool (PoolKey Second)) : SessionEvent Second → Prop
  | .lookup dc second =>
      ∀ key args, sessions.sessionGet dc second = some (key, args) →
        (∃ entry ∈ pool.bucket (.pair dc second), pool.usable entry = true) →
        ∃ entry ∈ pool.bucket (.pair dc second),
          (pool.get sessions.hooks key args).1 = .ok (some entry.ws)
  | .activity (.startRefill id) =>
      ∀ dc second key args, sessions.sessionGet dc second = some (key, args) →
        pool.tasks[id]? = some ⟨key, args, .scheduled⟩ →
        (pool.startRefill sessions.hooks sessions.poolSize id).awaited id =
          pool.refillConnects sessions.hooks sessions.poolSize (.pair dc second)
  | _ => True

/-- The warmed deque has nothing for the lookup, and lacks nothing when the
refill starts. -/
def NothingAtStake (pool : Pool (PoolKey Second)) : SessionEvent Second → Prop
  | .lookup dc second =>
      (sessions.sessionGet dc second).isSome = true →
        ∀ entry ∈ pool.bucket (.pair dc second), pool.usable entry = false
  | .activity (.startRefill id) =>
      ∀ dc second key args, sessions.sessionGet dc second = some (key, args) →
        pool.tasks[id]? = some ⟨key, args, .scheduled⟩ →
        sessions.poolSize ≤ (pool.bucket (.pair dc second)).length
  | _ => True

/-- The sessions look up a key for which `_refill_args` raises, and mean a
pair for which it does not. -/
structure LooksUpBareDc : Prop where
  bare : ∀ dc second key args, sessions.sessionGet dc second = some (key, args) →
    ∃ error, sessions.hooks.refillArgs key = .error error
  warmed : ∀ dc second key args,
    sessions.sessionGet dc second = some (key, args) →
      ∃ opened, sessions.hooks.refillArgs (.pair dc second) = .ok opened

variable {sessions} {pool : Pool (PoolKey Second)}

theorem step_filedByKey (filed : pool.FiledByKey sessions.hooks)
    (event : SessionEvent Second) :
    (sessions.step pool event).FiledByKey sessions.hooks := by
  cases event with
  | lookup dc second =>
      simp only [step]
      split
      · exact filed
      next key args _ => exact filed.get key args
  | activity activity =>
      exact filed.step sessions.poolSize (.activity activity)

theorem lookup_serves_iff (looksUp : sessions.LooksUpBareDc)
    (filed : pool.FiledByKey sessions.hooks) (dc : Int) (second : Second) :
    sessions.Serves pool (.lookup dc second) ↔
      sessions.NothingAtStake pool (.lookup dc second) := by
  simp only [Serves, NothingAtStake]
  cases lookup : sessions.sessionGet dc second with
  | none => simp
  | some passed =>
      obtain ⟨key, args⟩ := passed
      obtain ⟨error, raises⟩ := looksUp.bare dc second key args lookup
      have empty : pool.bucket key = [] :=
        filed.deques pool.resets key error raises
      constructor
      · intro serves _ entry member
        by_contra isUsable
        obtain ⟨_, _, returned⟩ := serves key args rfl
          ⟨entry, member, by simpa using isUsable⟩
        rw [Pool.get_of_bucket_nil empty] at returned
        cases returned
      · intro nothing _ _ _ ⟨entry, member, isUsable⟩
        rw [nothing rfl entry member] at isUsable
        cases isUsable

theorem startRefill_serves_iff (looksUp : sessions.LooksUpBareDc) (id : Nat) :
    sessions.Serves pool (.activity (.startRefill id)) ↔
      sessions.NothingAtStake pool (.activity (.startRefill id)) := by
  simp only [Serves, NothingAtStake]
  refine forall_congr' fun dc => forall_congr' fun second =>
    forall_congr' fun key => forall_congr' fun args =>
    forall_congr' fun lookup => forall_congr' fun scheduled => ?_
  obtain ⟨error, raises⟩ := looksUp.bare dc second key args lookup
  obtain ⟨opened, fills⟩ := looksUp.warmed dc second key args lookup
  have opensNothing :
      (pool.startRefill sessions.hooks sessions.poolSize id).awaited id = [] := by
    rw [Pool.startRefill_awaited scheduled, Pool.refillConnects, raises]
  rw [opensNothing, Pool.refillConnects, fills, eq_comm]
  simp only [List.replicate_eq_nil_iff, Nat.sub_eq_zero_iff_le]

theorem serves_iff (looksUp : sessions.LooksUpBareDc)
    (filed : pool.FiledByKey sessions.hooks) (event : SessionEvent Second) :
    sessions.Serves pool event ↔ sessions.NothingAtStake pool event := by
  cases event with
  | lookup dc second => exact lookup_serves_iff looksUp filed dc second
  | activity activity =>
      cases activity with
      | startRefill id => exact startRefill_serves_iff looksUp id
      | warmup | reset | connected | cancelRefill | quietClose | drop
      | elapse => exact Iff.rfl

/-- A run serves its lookups exactly as far as nothing is at stake. -/
theorem allSteps_serves_iff (looksUp : sessions.LooksUpBareDc)
    (events : List (SessionEvent Second)) :
    AllSteps sessions.step sessions.Serves Pool.initial events ↔
      AllSteps sessions.step sessions.NothingAtStake Pool.initial events := by
  apply allSteps_congr (Pool.FiledByKey sessions.hooks)
  · intro pool event filed
    exact step_filedByKey filed event
  · intro pool event filed
    exact serves_iff looksUp filed event
  · exact Pool.initial_filedByKey sessions.hooks

end Lookups

end SessionPool

/-- `ws_pool` with the lookups of `_handle_client`. -/
def wsPool (config : ProxyConfig) : SessionPool Bool :=
  ⟨WsPool.hooks config, config.poolSize, WsPool.sessionGet config⟩

/-- `cf_worker_pool` with the lookups of `_cfproxy_worker_fallback`. -/
def cfWorkerPool (config : ProxyConfig) : SessionPool String :=
  ⟨CfWorkerPool.hooks config, config.poolSize, CfWorkerPool.sessionGet config⟩

theorem wsPool_looksUpBareDc (config : ProxyConfig) :
    (wsPool config).LooksUpBareDc := by
  constructor
  · intro dc isMedia key args lookup
    simp only [wsPool, WsPool.sessionGet] at lookup
    split at lookup
    · cases lookup
    · cases lookup
      exact ⟨.typeError, rfl⟩
  · intro dc isMedia key args lookup
    simp only [wsPool, WsPool.sessionGet] at lookup
    split at lookup
    · cases lookup
    next target found =>
      refine ⟨[optionalStr target, .strs (wsDomains dc isMedia)], ?_⟩
      simp only [wsPool, WsPool.hooks, WsPool.refillArgs, found]

theorem cfWorkerPool_looksUpBareDc (config : ProxyConfig) :
    (cfWorkerPool config).LooksUpBareDc := by
  constructor
  · intro dc workerDomain key args lookup
    simp only [cfWorkerPool, CfWorkerPool.sessionGet] at lookup
    split at lookup
    · cases lookup
    · split at lookup
      · cases lookup
        exact ⟨.typeError, rfl⟩
      · cases lookup
  · intro dc workerDomain key args lookup
    exact ⟨_, rfl⟩

/-- A run of either pool serves its sessions as it was warmed to do exactly
when its lookups find nothing to serve in the warmed deques, and the refills
they schedule find nothing missing there. -/
theorem pools_serve_iff (config : ProxyConfig) :
    (∀ events, AllSteps (wsPool config).step (wsPool config).Serves
        Pool.initial events ↔
      AllSteps (wsPool config).step (wsPool config).NothingAtStake
        Pool.initial events) ∧
    (∀ events, AllSteps (cfWorkerPool config).step (cfWorkerPool config).Serves
        Pool.initial events ↔
      AllSteps (cfWorkerPool config).step (cfWorkerPool config).NothingAtStake
        Pool.initial events) :=
  ⟨SessionPool.allSteps_serves_iff (wsPool_looksUpBareDc config),
    SessionPool.allSteps_serves_iff (cfWorkerPool_looksUpBareDc config)⟩

/-- The first refill of the warmup opens a connection for DC 2, and the next
session for DC 2 misses it. -/
theorem warmed_connection_missed :
    ¬ ∀ events, AllSteps (wsPool ⟨[(2, some "149.154.167.220")], 4, []⟩).step
      (wsPool ⟨[(2, some "149.154.167.220")], 4, []⟩).Serves
      Pool.initial events := by
  intro always
  have served := always
    [.activity .warmup, .activity (.startRefill 0),
      .activity (.connected 0 (some ⟨false, false⟩)), .lookup 2 false]
  obtain ⟨_, _, _, lookup, _⟩ := served
  obtain ⟨_, _, returned⟩ := lookup _ _ rfl ⟨⟨0, 0⟩, by decide, by decide⟩
  cases returned

end TgWsProxy.Python
