import TgWsProxy.Lib.Ledger
import TgWsProxy.Python.Pool

/-!
# Where the connections of a Python pool are

Every connection which a refill puts into a pool is in one place: in a deque of
the key it was opened for, handed out, about to be closed, closed, or lost in a
`get` which raises.  A `reset` drops the deques with what is in them.
-/

namespace TgWsProxy.Python

open Lib

/-- A pool and its history. -/
structure BookedPool (Key : Type) where
  pool : Pool Key
  /-- For each connection, the key of the refill which opened it. -/
  opened : List Key
  /-- What `get` returned, and for which key. -/
  handed : List (Key × Nat)
  /-- What `_quiet_close` closed. -/
  closed : List Nat
  /-- What `get` had taken when it raised. -/
  lost : List Nat

inductive PoolPlace (Key : Type) where
  | idle (resets : Nat) (key : Key)
  | closing
  | closed
  | handed
  | lost
deriving DecidableEq

namespace BookedPool

variable {Key : Type}

def start : BookedPool Key := ⟨.initial, [], [], [], []⟩

def contents (s : BookedPool Key) : PoolPlace Key → List Nat
  | .idle resets key => (s.pool.deques resets key).map Entry.ws
  | .closing => s.pool.quietCloses
  | .closed => s.closed
  | .handed => s.handed.map Prod.snd
  | .lost => s.lost

section Step

variable [DecidableEq Key]

/-- The keys of the connections which are opened. -/
def opens (pool : Pool Key) : PoolEvent Key → List Key
  | .activity (.connected id (some _)) =>
      match pool.tasks[id]? with
      | some ⟨key, _, .connecting _ _ _⟩ => [key]
      | _ => []
  | _ => []

def hands (hooks : PoolHooks Key) (pool : Pool Key) :
    PoolEvent Key → List (Key × Nat)
  | .get key args =>
      match (pool.get hooks key args).1 with
      | .ok (some ws) => [(key, ws)]
      | _ => []
  | _ => []

def loses (hooks : PoolHooks Key) (pool : Pool Key) :
    PoolEvent Key → List Nat
  | .get key args =>
      match (pool.get hooks key args).1 with
      | .error _ => ((pool.popUnusable key).2.take 1).map Entry.ws
      | _ => []
  | _ => []

def closes (pool : Pool Key) : PoolEvent Key → List Nat
  | .activity .quietClose => pool.quietCloses.take 1
  | _ => []

def step (hooks : PoolHooks Key) (poolSize : Nat) (s : BookedPool Key)
    (event : PoolEvent Key) : BookedPool Key :=
  { pool := s.pool.step hooks poolSize event
    opened := s.opened ++ opens s.pool event
    handed := s.handed ++ hands hooks s.pool event
    closed := s.closed ++ closes s.pool event
    lost := s.lost ++ loses hooks s.pool event }

end Step

/-- The books of a pool. -/
structure Kept (s : BookedPool Key) : Prop where
  filed : Filed s.contents (· < s.pool.sockets.length)
  size : s.opened.length = s.pool.sockets.length
  idle : ∀ resets key, ∀ entry ∈ s.pool.deques resets key,
    s.opened[entry.ws]? = some key
  handed : ∀ key ws, (key, ws) ∈ s.handed → s.opened[ws]? = some key

section Kept

variable {s : BookedPool Key}

theorem start_kept : (start : BookedPool Key).Kept := by
  refine ⟨⟨?_, ?_, ?_⟩, rfl, nofun, nofun⟩
  · intro place
    cases place <;> exact List.nodup_nil
  · intro ws first second inFirst
    cases first <;> cases inFirst
  · intro ws
    constructor
    · intro impossible
      exact absurd impossible (Nat.not_lt_zero ws)
    · rintro ⟨place, member⟩
      cases place <;> cases member

/-- A step which moves no connection. -/
theorem Kept.of_same (kept : s.Kept) {pool : Pool Key}
    (deques : pool.deques = s.pool.deques)
    (quietCloses : pool.quietCloses = s.pool.quietCloses)
    (sockets : pool.sockets.length = s.pool.sockets.length) :
    Kept { s with pool } := by
  refine ⟨kept.filed.of_same ?_ ?_, ?_, ?_, kept.handed⟩
  · intro place
    cases place with
    | idle resets key => exact congrArg (fun deques =>
        (deques resets key).map Entry.ws) deques
    | closing => exact quietCloses
    | closed | handed | lost => rfl
  · intro ws
    exact iff_of_eq (congrArg (ws < ·) sockets)
  · exact kept.size.trans sockets.symm
  · intro resets key
    rw [deques]
    exact kept.idle resets key

variable [DecidableEq Key]

theorem deque_setDeque_ne (pool : Pool Key) {resets other : Nat}
    {key otherKey : Key} (entries : List Entry)
    (different : PoolPlace.idle other otherKey ≠ .idle resets key) :
    (pool.setDeque resets key entries).deques other otherKey =
      pool.deques other otherKey := by
  simp only [Pool.setDeque, ite_eq_right_iff]
  rintro ⟨rfl, rfl⟩
  exact absurd rfl different

theorem deque_setDeque (pool : Pool Key) (resets : Nat) (key : Key)
    (entries : List Entry) :
    (pool.setDeque resets key entries).deques resets key = entries := by
  simp only [Pool.setDeque, and_self, if_true]

theorem Kept.idle_setDeque (kept : s.Kept) {key : Key} {rest : List Entry}
    (fewer : ∀ entry ∈ rest, entry ∈ s.pool.bucket key) (resets : Nat)
    (other : Key) :
    ∀ entry ∈ (s.pool.setDeque s.pool.resets key rest).deques resets other,
      s.opened[entry.ws]? = some other := by
  intro entry member
  by_cases own : PoolPlace.idle resets other = .idle s.pool.resets key
  · cases own
    rw [deque_setDeque] at member
    exact kept.idle _ _ entry (fewer entry member)
  · rw [deque_setDeque_ne s.pool rest own] at member
    exact kept.idle _ _ entry member

omit [DecidableEq Key] in
theorem mem_bucket_of_front {key : Key} {front rest : List Entry}
    (split : s.pool.bucket key = front ++ rest) :
    ∀ entry ∈ rest, entry ∈ s.pool.bucket key := by
  intro entry member
  rw [split]
  exact List.mem_append_right _ member

omit [DecidableEq Key] in
theorem contents_bucket {key : Key} {front rest : List Entry}
    (split : s.pool.bucket key = front ++ rest) :
    s.contents (.idle s.pool.resets key) =
      front.map Entry.ws ++ rest.map Entry.ws :=
  (congrArg (List.map Entry.ws) split).trans List.map_append

/-- `get` drops the first connections. -/
theorem Kept.dropFront (kept : s.Kept) {key : Key} {dropped rest : List Entry}
    (split : s.pool.bucket key = dropped ++ rest) :
    Kept { s with
      pool := { s.pool.setDeque s.pool.resets key rest with
        quietCloses := s.pool.quietCloses ++ dropped.map Entry.ws } } := by
  refine ⟨?_, kept.size, kept.idle_setDeque (mem_bucket_of_front split),
    kept.handed⟩
  apply kept.filed.move (.idle s.pool.resets key) .closing
    (dropped.map Entry.ws) (rest.map Entry.ws) nofun (contents_bucket split)
  · exact congrArg (List.map Entry.ws) (deque_setDeque s.pool _ key rest)
  · rfl
  · intro place notSource notTarget
    cases place with
    | idle resets other =>
        exact congrArg (List.map Entry.ws)
          (deque_setDeque_ne s.pool rest notSource)
    | closing => exact absurd rfl notTarget
    | closed | handed | lost => rfl

/-- `get` returns a connection. -/
theorem Kept.hand (kept : s.Kept) {key : Key} {entry : Entry}
    {rest : List Entry} (split : s.pool.bucket key = entry :: rest) :
    Kept { s with
      pool := s.pool.setDeque s.pool.resets key rest
      handed := s.handed ++ [(key, entry.ws)] } := by
  have front : s.pool.bucket key = [entry] ++ rest := split
  refine ⟨?_, kept.size, kept.idle_setDeque (mem_bucket_of_front front), ?_⟩
  · apply kept.filed.move (.idle s.pool.resets key) .handed [entry.ws]
      (rest.map Entry.ws) nofun (contents_bucket front)
    · exact congrArg (List.map Entry.ws) (deque_setDeque s.pool _ key rest)
    · exact List.map_append
    · intro place notSource notTarget
      cases place with
      | idle resets other =>
          exact congrArg (List.map Entry.ws)
            (deque_setDeque_ne s.pool rest notSource)
      | handed => exact absurd rfl notTarget
      | closing | closed | lost => rfl
  · intro other ws member
    rcases List.mem_append.mp member with earlier | new
    · exact kept.handed other ws earlier
    · cases List.mem_singleton.mp new
      exact kept.idle s.pool.resets key entry
        (List.mem_of_mem_head? (congrArg List.head? split))

/-- `get` raises with a connection. -/
theorem Kept.lose (kept : s.Kept) {key : Key} {entry : Entry}
    {rest : List Entry} (split : s.pool.bucket key = entry :: rest) :
    Kept { s with
      pool := s.pool.setDeque s.pool.resets key rest
      lost := s.lost ++ [entry.ws] } := by
  have front : s.pool.bucket key = [entry] ++ rest := split
  refine ⟨?_, kept.size, kept.idle_setDeque (mem_bucket_of_front front),
    kept.handed⟩
  apply kept.filed.move (.idle s.pool.resets key) .lost [entry.ws]
    (rest.map Entry.ws) nofun (contents_bucket front)
  · exact congrArg (List.map Entry.ws) (deque_setDeque s.pool _ key rest)
  · rfl
  · intro place notSource notTarget
    cases place with
    | idle resets other =>
        exact congrArg (List.map Entry.ws)
          (deque_setDeque_ne s.pool rest notSource)
    | lost => exact absurd rfl notTarget
    | closing | closed | handed => rfl

omit [DecidableEq Key] in
theorem opened_append {ws : Nat} {key : Key} (keys : List Key)
    (found : s.opened[ws]? = some key) :
    (s.opened ++ keys)[ws]? = some key := by
  obtain ⟨below, -⟩ := List.getElem?_eq_some_iff.mp found
  exact (List.getElem?_append_left below).trans found

/-- A refill puts a connection in, maybe into a deque from before a `reset`. -/
theorem Kept.putIn (kept : s.Kept) (resets : Nat) (key : Key) (ws : Socket) :
    Kept { s with
      pool := { s.pool.setDeque resets key
          (s.pool.deques resets key ++
            [Entry.mk s.pool.sockets.length s.pool.now]) with
        sockets := s.pool.sockets ++ [ws] }
      opened := s.opened ++ [key] } := by
  have size : (s.pool.sockets ++ [ws]).length = s.pool.sockets.length + 1 :=
    List.length_append
  have newKey : (s.opened ++ [key])[s.pool.sockets.length]? = some key := by
    rw [← kept.size]
    exact List.getElem?_concat_length
  refine ⟨?_, ?_, ?_, fun other ws member =>
    opened_append [key] (kept.handed other ws member)⟩
  · apply kept.filed.put (.idle resets key) s.pool.sockets.length
      (Nat.lt_irrefl _)
    · exact (congrArg (List.map Entry.ws)
        (deque_setDeque s.pool resets key _)).trans List.map_append
    · intro place different
      cases place with
      | idle other otherKey =>
          exact congrArg (List.map Entry.ws)
            (deque_setDeque_ne s.pool _ different)
      | closing | closed | handed | lost => rfl
    · intro other
      simp only [size]
      omega
  · simp only [size, List.length_append, kept.size, List.length_singleton]
  · intro other otherKey entry member
    by_cases own : PoolPlace.idle other otherKey = .idle resets key
    · cases own
      simp only [deque_setDeque] at member
      rcases List.mem_append.mp member with earlier | new
      · exact opened_append [key] (kept.idle resets key entry earlier)
      · cases List.mem_singleton.mp new
        exact newKey
    · simp only [deque_setDeque_ne s.pool _ own] at member
      exact opened_append [key] (kept.idle other otherKey entry member)

omit [DecidableEq Key] in
/-- `_quiet_close` runs. -/
theorem Kept.close (kept : s.Kept) {ws : Nat} {quietCloses : List Nat}
    (split : s.pool.quietCloses = ws :: quietCloses) :
    Kept { s with
      pool := { s.pool with
        sockets := s.pool.sockets.modify ws fun _ => Socket.mk true true
        quietCloses := quietCloses }
      closed := s.closed ++ [ws] } := by
  have size : (s.pool.sockets.modify ws fun _ => Socket.mk true true).length =
      s.pool.sockets.length := List.length_modify _ _ _
  refine ⟨?_, kept.size.trans size.symm, kept.idle, kept.handed⟩
  simp only [size]
  apply kept.filed.move .closing .closed [ws] quietCloses nofun split rfl rfl
  intro place notSource notTarget
  cases place with
  | closing => exact absurd rfl notSource
  | closed => exact absurd rfl notTarget
  | idle | handed | lost => rfl

theorem setDeque_setDeque (pool : Pool Key) (resets : Nat) (key : Key)
    (first second : List Entry) :
    ((pool.setDeque resets key first).setDeque resets key second).deques =
      (pool.setDeque resets key second).deques := by
  funext other otherKey
  simp only [Pool.setDeque]
  split <;> rfl

theorem scheduleRefill_kept (pool : Pool Key) (key : Key)
    (args : List PyValue) :
    (pool.scheduleRefill key args).quietCloses = pool.quietCloses ∧
      (pool.scheduleRefill key args).sockets = pool.sockets := by
  unfold Pool.scheduleRefill
  split <;> exact ⟨rfl, rfl⟩

theorem Kept.scheduleRefill (kept : s.Kept) (key : Key)
    (args : List PyValue) :
    Kept { s with pool := s.pool.scheduleRefill key args } := by
  obtain ⟨quietCloses, sockets⟩ := scheduleRefill_kept s.pool key args
  exact kept.of_same (Pool.scheduleRefill_deques s.pool key args) quietCloses
    (congrArg List.length sockets)

theorem Kept.get (kept : s.Kept) (hooks : PoolHooks Key) (poolSize : Nat)
    (key : Key) (args : List PyValue) :
    Kept (s.step hooks poolSize (.get key args)) := by
  have split : s.pool.bucket key =
      (s.pool.bucket key).takeWhile (!s.pool.usable ·) ++
        (s.pool.bucket key).dropWhile (!s.pool.usable ·) :=
    List.takeWhile_append_dropWhile.symm
  have dropped := kept.dropFront split
  simp only [step, opens, closes, hands, loses, Pool.step, Pool.get,
    Pool.popUnusable, List.append_nil]
  cases rest : (s.pool.bucket key).dropWhile (!s.pool.usable ·) with
  | nil =>
      rw [rest] at dropped
      simp only [List.append_nil]
      refine @Kept.scheduleRefill Key ⟨_, _, _, _, _⟩ _ ?_ key args
      exact dropped.of_same rfl rfl rfl
  | cons entry entries =>
      rw [rest] at dropped
      have front := deque_setDeque s.pool s.pool.resets key (entry :: entries)
      have shorter := setDeque_setDeque s.pool s.pool.resets key
        (entry :: entries) entries
      cases hooks.logPrefix key with
      | error error =>
          simp only [List.append_nil]
          exact (dropped.lose front).of_same shorter.symm rfl rfl
      | ok label =>
          simp only [List.append_nil]
          refine @Kept.scheduleRefill Key ⟨_, _, _, _, _⟩ _ ?_ key args
          exact (dropped.hand front).of_same shorter.symm rfl rfl

theorem Kept.scheduleAllRefills (kept : s.Kept) (hooks : PoolHooks Key) :
    Kept { s with pool := s.pool.scheduleAllRefills hooks } := by
  unfold Pool.scheduleAllRefills
  generalize hooks.allRefills = refills
  induction refills generalizing s with
  | nil => exact kept
  | cons refill refills induction =>
      exact induction (kept.scheduleRefill refill.1 refill.2)

omit [DecidableEq Key] in
theorem Kept.setPhase (kept : s.Kept) (id : Nat) (phase : RefillPhase) :
    Kept { s with pool := s.pool.setPhase id phase } :=
  kept.of_same rfl rfl rfl

theorem Kept.finishRefill (kept : s.Kept) (id : Nat) (key : Key) :
    Kept { s with pool := s.pool.finishRefill id key } :=
  kept.of_same rfl rfl rfl

theorem Kept.startRefill (kept : s.Kept) (hooks : PoolHooks Key)
    (poolSize id : Nat) :
    Kept { s with pool := s.pool.startRefill hooks poolSize id } := by
  unfold Pool.startRefill
  split
  next key args found =>
    dsimp only
    split
    · exact kept.finishRefill id key
    · split
      · exact kept.finishRefill id key
      · exact kept.setPhase id _
  · exact kept

theorem Kept.cancelRefill (kept : s.Kept) (id : Nat) :
    Kept { s with pool := s.pool.cancelRefill id } := by
  unfold Pool.cancelRefill
  split
  · exact kept.setPhase id .done
  · exact kept.finishRefill id _
  · exact kept

theorem Kept.connected (kept : s.Kept) (hooks : PoolHooks Key)
    (poolSize id : Nat) (ws : Option Socket) :
    Kept (s.step hooks poolSize (.activity (.connected id ws))) := by
  simp only [step, closes, hands, loses, Pool.step, Pool.act, Pool.connected,
    List.append_nil]
  split
  next key scheduledArgs resets args pending found =>
    cases ws with
    | none =>
        simp only [opens, List.append_nil]
        split
        · exact kept.finishRefill id key
        · exact kept.setPhase id _
    | some ws =>
        have received := kept.putIn resets key ws
        simp only [opens, found]
        split
        · exact received.finishRefill id key
        · exact received.setPhase id _
  next other =>
    have opensNone : opens s.pool (.activity (.connected id ws)) = [] := by
      unfold opens
      split
      next id' ws' same =>
        cases same
        split
        next key scheduledArgs resets args pending found =>
          exact absurd found (other key scheduledArgs resets args pending)
        · rfl
      · rfl
    rw [opensNone, List.append_nil]
    exact kept

theorem Kept.quietClose (kept : s.Kept) (hooks : PoolHooks Key)
    (poolSize : Nat) :
    Kept (s.step hooks poolSize (.activity .quietClose)) := by
  simp only [step, opens, closes, hands, loses, Pool.step, Pool.act,
    Pool.quietClose, List.append_nil]
  cases split : s.pool.quietCloses with
  | nil =>
      simp only [List.take_nil, List.append_nil]
      exact kept
  | cons ws quietCloses => exact kept.close split

theorem Kept.step (kept : s.Kept) (hooks : PoolHooks Key) (poolSize : Nat)
    (event : PoolEvent Key) : Kept (s.step hooks poolSize event) := by
  cases event with
  | get key args => exact kept.get hooks poolSize key args
  | activity activity =>
      cases activity with
      | connected id ws => exact kept.connected hooks poolSize id ws
      | quietClose => exact kept.quietClose hooks poolSize
      | warmup =>
          simp only [BookedPool.step, opens, closes, hands, loses,
            List.append_nil]
          exact kept.scheduleAllRefills hooks
      | startRefill id =>
          simp only [BookedPool.step, opens, closes, hands, loses,
            List.append_nil]
          exact kept.startRefill hooks poolSize id
      | cancelRefill id =>
          simp only [BookedPool.step, opens, closes, hands, loses,
            List.append_nil]
          exact kept.cancelRefill id
      | reset | elapse =>
          simp only [BookedPool.step, opens, closes, hands, loses,
            List.append_nil]
          exact kept.of_same rfl rfl rfl
      | drop ws =>
          simp only [BookedPool.step, opens, closes, hands, loses,
            List.append_nil]
          exact kept.of_same rfl rfl (List.length_modify _ _ _)

theorem Kept.run (kept : s.Kept) (hooks : PoolHooks Key) (poolSize : Nat)
    (events : List (PoolEvent Key)) :
    Kept (Lib.run (BookedPool.step hooks poolSize) s events) := by
  have preserved (s : BookedPool Key) (event : PoolEvent Key) (kept : s.Kept) :
      Kept (s.step hooks poolSize event) := kept.step hooks poolSize event
  exact run_invariant preserved events kept

end Kept

/-! ### Over a reset -/

section Reset

variable [DecidableEq Key]

/-- The deques of earlier resets lose nothing. -/
structure KeepsOld (pool after : Pool Key) : Prop where
  resets : pool.resets ≤ after.resets
  deques : ∀ resets < pool.resets, ∀ key,
    pool.deques resets key <+: after.deques resets key

omit [DecidableEq Key] in
theorem KeepsOld.of_same {pool after : Pool Key}
    (resets : after.resets = pool.resets) (deques : after.deques = pool.deques) :
    KeepsOld pool after := by
  refine ⟨Nat.le_of_eq resets.symm, fun old _ key => ?_⟩
  rw [deques]

omit [DecidableEq Key] in
theorem KeepsOld.trans {first second third : Pool Key}
    (earlier : KeepsOld first second) (later : KeepsOld second third) :
    KeepsOld first third :=
  ⟨earlier.resets.trans later.resets, fun resets old key =>
    (earlier.deques resets old key).trans
      (later.deques resets (Nat.lt_of_lt_of_le old earlier.resets) key)⟩

theorem keepsOld_scheduleRefill (pool : Pool Key) (key : Key)
    (args : List PyValue) : KeepsOld pool (pool.scheduleRefill key args) := by
  unfold Pool.scheduleRefill
  split <;> exact .of_same rfl rfl

theorem keepsOld_scheduleAllRefills (hooks : PoolHooks Key) (pool : Pool Key) :
    KeepsOld pool (pool.scheduleAllRefills hooks) := by
  unfold Pool.scheduleAllRefills
  generalize hooks.allRefills = refills
  induction refills generalizing pool with
  | nil => exact .of_same rfl rfl
  | cons refill refills induction =>
      exact (keepsOld_scheduleRefill pool refill.1 refill.2).trans
        (induction _)

/-- `get` and the refills change the live deques at the front, and the old ones
at the end. -/
theorem keepsOld_setDeque (pool : Pool Key) (resets : Nat) (key : Key)
    (entries : List Entry)
    (grows : resets = pool.resets ∨ pool.deques resets key <+: entries) :
    KeepsOld pool (pool.setDeque resets key entries) := by
  refine ⟨Nat.le_refl _, fun old isOld other => ?_⟩
  by_cases own : PoolPlace.idle old other = .idle resets key
  · cases own
    rw [deque_setDeque]
    exact grows.resolve_left (Nat.ne_of_lt isOld)
  · rw [deque_setDeque_ne pool entries own]

theorem keepsOld_get (hooks : PoolHooks Key) (pool : Pool Key) (key : Key)
    (args : List PyValue) : KeepsOld pool (pool.get hooks key args).2 := by
  have taken (quietCloses : List Nat) (entries : List Entry) :
      KeepsOld pool (({ pool with quietCloses : Pool Key }).setDeque pool.resets
        key entries) := by
    have kept := keepsOld_setDeque pool pool.resets key entries (.inl rfl)
    exact ⟨kept.resets, kept.deques⟩
  unfold Pool.get
  cases rest : (pool.bucket key).dropWhile (!pool.usable ·) with
  | nil =>
      simp only [Pool.popUnusable, rest]
      refine KeepsOld.trans ?_ (keepsOld_scheduleRefill _ key args)
      exact (taken _ []).trans (.of_same rfl rfl)
  | cons entry entries =>
      simp only [Pool.popUnusable, rest]
      cases hooks.logPrefix key with
      | error error => exact (taken _ entries).trans (.of_same rfl rfl)
      | ok label =>
          refine KeepsOld.trans ?_ (keepsOld_scheduleRefill _ key args)
          exact (taken _ entries).trans (.of_same rfl rfl)

theorem keepsOld_connected (pool : Pool Key) (id : Nat) (ws : Option Socket) :
    KeepsOld pool (pool.connected id ws) := by
  unfold Pool.connected
  split
  next key scheduledArgs resets args pending found =>
    dsimp only
    cases ws with
    | none => split <;> exact .of_same rfl rfl
    | some ws =>
        have put := keepsOld_setDeque pool resets key _
          (.inr (List.prefix_append (pool.deques resets key)
            [Entry.mk pool.sockets.length pool.now]))
        split <;> exact ⟨put.resets, put.deques⟩
  · exact .of_same rfl rfl

theorem keepsOld_step (hooks : PoolHooks Key) (poolSize : Nat)
    (pool : Pool Key) (event : PoolEvent Key) :
    KeepsOld pool (pool.step hooks poolSize event) := by
  cases event with
  | get key args => exact keepsOld_get hooks pool key args
  | activity activity =>
      cases activity with
      | warmup => exact keepsOld_scheduleAllRefills hooks pool
      | reset =>
          exact ⟨Nat.le_succ _, fun resets _ key => List.prefix_refl _⟩
      | startRefill id =>
          simp only [Pool.step, Pool.act, Pool.startRefill]
          split
          · split
            · exact .of_same rfl rfl
            · split <;> exact .of_same rfl rfl
          · exact .of_same rfl rfl
      | connected id ws => exact keepsOld_connected pool id ws
      | cancelRefill id =>
          simp only [Pool.step, Pool.act, Pool.cancelRefill]
          split <;> exact .of_same rfl rfl
      | quietClose =>
          simp only [Pool.step, Pool.act, Pool.quietClose]
          split <;> exact .of_same rfl rfl
      | drop | elapse => exact .of_same rfl rfl

end Reset

theorem run_keepsOld [DecidableEq Key] (hooks : PoolHooks Key) (poolSize : Nat)
    (s : BookedPool Key) (events : List (PoolEvent Key)) :
    KeepsOld s.pool (run (step hooks poolSize) s events).pool := by
  induction events generalizing s with
  | nil => exact .of_same rfl rfl
  | cons event events induction =>
      exact (keepsOld_step hooks poolSize s.pool event).trans
        (induction (s.step hooks poolSize event))

theorem get_usable [DecidableEq Key] {hooks : PoolHooks Key} {pool : Pool Key}
    {key : Key} {args : List PyValue} {ws : Nat}
    (returned : (pool.get hooks key args).1 = .ok (some ws)) :
    ∃ entry ∈ pool.bucket key, entry.ws = ws ∧ pool.usable entry = true := by
  unfold Pool.get at returned
  cases rest : (pool.bucket key).dropWhile (!pool.usable ·) with
  | nil =>
      simp only [Pool.popUnusable, rest] at returned
      cases returned
  | cons entry entries =>
      simp only [Pool.popUnusable, rest] at returned
      have first := List.head?_dropWhile_not (!pool.usable ·) (pool.bucket key)
      simp only [rest, List.head?_cons, Bool.not_eq_false'] at first
      have member : entry ∈ pool.bucket key := by
        apply (List.dropWhile_suffix (!pool.usable ·)).mem
        rw [rest]
        exact List.mem_cons_self
      cases label : hooks.logPrefix key with
      | error error =>
          rw [label] at returned
          cases returned
      | ok text =>
          rw [label] at returned
          cases returned
          exact ⟨entry, member, rfl, first⟩

end BookedPool

/-- In every run: no connection is in two places or twice in one, what is
handed out was opened for the key which was asked for, and it is open and young
when it is handed out. -/
theorem poolBooks_kept {Key : Type} [DecidableEq Key] (hooks : PoolHooks Key)
    (poolSize : Nat) (events : List (PoolEvent Key)) :
    let s := run (BookedPool.step hooks poolSize) .start events
    Filed s.contents (· < s.pool.sockets.length) ∧
      (∀ resets key ws, ws ∈ s.contents (.idle resets key) →
        s.opened[ws]? = some key) ∧
      (∀ key ws, (key, ws) ∈ s.handed → s.opened[ws]? = some key) ∧
      ∀ key args ws, (s.pool.get hooks key args).1 = .ok (some ws) →
        s.pool.sockets[ws]? = some ⟨false, false⟩ ∧
          ∃ created, ⟨ws, created⟩ ∈ s.pool.bucket key ∧
            s.pool.now - created ≤ wsPoolMaxAge := by
  have kept := BookedPool.start_kept.run hooks poolSize events
  refine ⟨kept.filed, ?_, kept.handed, ?_⟩
  · intro resets key ws member
    obtain ⟨entry, isIdle, rfl⟩ := List.mem_map.mp member
    exact kept.idle resets key entry isIdle
  · intro key args ws returned
    obtain ⟨⟨_, created⟩, member, rfl, usable⟩ :=
      BookedPool.get_usable returned
    unfold Pool.usable at usable
    split at usable
    · cases usable
    · rename_i socket found
      obtain ⟨closed, transportClosing⟩ := socket
      simp only [Bool.and_eq_true, decide_eq_true_eq, Bool.not_eq_true']
        at usable
      obtain ⟨⟨young, rfl⟩, rfl⟩ := usable
      exact ⟨found, created, member, young⟩

/-- What a `reset` has dropped stays where it was: the pool never hands it out,
and never closes it. -/
theorem reset_drops {Key : Type} [DecidableEq Key] (hooks : PoolHooks Key)
    (poolSize : Nat) (events later : List (PoolEvent Key)) :
    let s := run (BookedPool.step hooks poolSize) .start events
    let after := run (BookedPool.step hooks poolSize) s later
    ∀ resets key ws, resets < s.pool.resets →
      ws ∈ s.contents (.idle resets key) →
      ws ∈ after.contents (.idle resets key) ∧
        (∀ place, ws ∈ after.contents place → place = .idle resets key) ∧
        ∀ other args, (after.pool.get hooks other args).1 ≠ .ok (some ws) := by
  intro s after resets key ws old member
  have kept := (BookedPool.start_kept.run hooks poolSize events).run hooks
    poolSize later
  have keepsOld := BookedPool.run_keepsOld hooks poolSize s later
  have stays : ws ∈ after.contents (.idle resets key) := by
    obtain ⟨entry, isIdle, rfl⟩ := List.mem_map.mp member
    exact List.mem_map_of_mem ((keepsOld.deques resets old key).mem isIdle)
  have only (place : PoolPlace Key) (other : ws ∈ after.contents place) :
      place = .idle resets key := kept.filed.apart other stays
  refine ⟨stays, only, fun other args returned => ?_⟩
  obtain ⟨entry, live, rfl, -⟩ := BookedPool.get_usable returned
  have isLive := only (.idle after.pool.resets other) (List.mem_map_of_mem live)
  cases isLive
  exact Nat.lt_irrefl _ (Nat.lt_of_lt_of_le old keepsOld.resets)

end TgWsProxy.Python
