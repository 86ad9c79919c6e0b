import TgWsProxy.Lib.Runs
import TgWsProxy.Lib.Slots
import Mathlib.Data.List.Basic

/-!
# The shared list of CF workers

`_cfproxy_worker_fallback` of `proxy/bridge.py` for any number of sessions.
Each shuffles `proxy_config.cfproxy_worker_domains` in place and then iterates
over the same list, which others may shuffle whenever a connection is awaited:
a `for` loop keeps an index, and reads the list when it needs the next item.
-/

namespace TgWsProxy.Python

open Lib

/-- Where a session stands in `_cfproxy_worker_fallback`. -/
inductive WorkerPhase where
  /-- A connection is awaited.  When it fails, the loop goes on at the index. -/
  | connecting (next : Nat)
  /-- A worker was found, and `ws.send` and the bridge are awaited. -/
  | sending
  | returned (ok : Bool)
  | raised
deriving DecidableEq, Repr

structure WorkerSession where
  /-- The workers which the loop has tried, in order. -/
  attempted : List String
  phase : WorkerPhase
deriving DecidableEq, Repr

structure WorkerFallbacks where
  workerDomains : List String
  sessions : List WorkerSession
deriving DecidableEq, Repr

/-- What `random.shuffle` may do to a list. -/
abbrev Shuffle :=
  (workerDomains : List String) →
    { order : List String // order.Perm workerDomains }

/-- `cf_worker_pool.get` does not suspend, so each event says whether the next
worker has a connection in the pool. -/
inductive WorkerEvent where
  | begins (shuffle : Shuffle) (pooled : Bool)
  | connectEnds (session : Nat) (connected pooled : Bool)
  | sendEnds (session : Nat) (sent : Bool)

namespace WorkerFallbacks

def initial (workerDomains : List String) : WorkerFallbacks :=
  ⟨workerDomains, []⟩

/-- The next turn of the loop, up to where it suspends. -/
def nextWorker (workerDomains attempted : List String) (index : Nat)
    (pooled : Bool) : WorkerSession :=
  match workerDomains[index]? with
  | none => ⟨attempted, .returned false⟩
  | some workerDomain =>
      ⟨attempted ++ [workerDomain],
        if pooled then .sending else .connecting (index + 1)⟩

def begins (fallbacks : WorkerFallbacks) (shuffle : Shuffle) (pooled : Bool) :
    WorkerFallbacks :=
  if fallbacks.workerDomains = [] then
    { fallbacks with sessions := fallbacks.sessions ++ [⟨[], .returned false⟩] }
  else
    let workerDomains := (shuffle fallbacks.workerDomains).1
    { workerDomains
      sessions := fallbacks.sessions ++ [nextWorker workerDomains [] 0 pooled] }

def connectEnds (fallbacks : WorkerFallbacks) (id : Nat)
    (connected pooled : Bool) : WorkerFallbacks :=
  match fallbacks.sessions[id]? with
  | some ⟨attempted, .connecting next⟩ =>
      let session :=
        if connected then ⟨attempted, .sending⟩
        else nextWorker fallbacks.workerDomains attempted next pooled
      { fallbacks with sessions := fallbacks.sessions.set id session }
  | _ => fallbacks

def sendEnds (fallbacks : WorkerFallbacks) (id : Nat) (sent : Bool) :
    WorkerFallbacks :=
  match fallbacks.sessions[id]? with
  | some ⟨attempted, .sending⟩ =>
      let phase := if sent then .returned true else .raised
      { fallbacks with
        sessions := fallbacks.sessions.set id ⟨attempted, phase⟩ }
  | _ => fallbacks

def step (fallbacks : WorkerFallbacks) : WorkerEvent → WorkerFallbacks
  | .begins shuffle pooled => fallbacks.begins shuffle pooled
  | .connectEnds session connected pooled =>
      fallbacks.connectEnds session connected pooled
  | .sendEnds session sent => fallbacks.sendEnds session sent

/-- A shuffle leaves to each session which is in its loop, in the places which
it has passed, the workers which it has passed. -/
def KeepsPassed (fallbacks : WorkerFallbacks) : WorkerEvent → Prop
  | .begins shuffle _ => ∀ session ∈ fallbacks.sessions, ∀ next,
      session.phase = .connecting next →
        ((shuffle fallbacks.workerDomains).1.take next).Perm
          (fallbacks.workerDomains.take next)
  | _ => True

section Tried

/-- In its loop a session has tried the workers in the places which it has
passed, and behind the loop all of them. -/
def Tried (workerDomains : List String) (session : WorkerSession) : Prop :=
  match session.phase with
  | .connecting next =>
      session.attempted.Perm (workerDomains.take next)
  | .returned false => session.attempted.Perm workerDomains
  | _ => True

structure Kept (configured : List String) (fallbacks : WorkerFallbacks) :
    Prop where
  sameDomains : fallbacks.workerDomains.Perm configured
  tried : ∀ session ∈ fallbacks.sessions,
    Tried fallbacks.workerDomains session

variable {configured workerDomains attempted : List String}
  {fallbacks : WorkerFallbacks} {index : Nat}

theorem nextWorker_tried
    (passed : attempted.Perm (workerDomains.take index)) (pooled : Bool) :
    Tried workerDomains (nextWorker workerDomains attempted index pooled) := by
  rw [nextWorker]
  split
  · rename_i beyond
    rw [List.take_of_length_le (List.getElem?_eq_none_iff.mp beyond)] at passed
    exact passed
  · rename_i workerDomain found
    cases pooled with
    | true => trivial
    | false =>
        change (attempted ++ [workerDomain]).Perm
          (workerDomains.take (index + 1))
        rw [List.take_add_one, found]
        exact passed.append_right _

/-- A shuffle which keeps what a session has passed keeps what was said of the
session. -/
theorem Tried.shuffled {session : WorkerSession} {order : List String}
    (tried : Tried workerDomains session) (perm : order.Perm workerDomains)
    (keeps : ∀ next, session.phase = .connecting next →
      (order.take next).Perm (workerDomains.take next)) :
    Tried order session := by
  obtain ⟨attempted, phase⟩ := session
  cases phase with
  | connecting next => exact List.Perm.trans tried (keeps next rfl).symm
  | sending => trivial
  | returned ok =>
      cases ok with
      | true => trivial
      | false => exact List.Perm.trans tried perm.symm
  | raised => trivial

theorem Kept.begins (kept : fallbacks.Kept configured) (shuffle : Shuffle)
    (pooled : Bool)
    (keeps : fallbacks.KeepsPassed (.begins shuffle pooled)) :
    (fallbacks.begins shuffle pooled).Kept configured := by
  rw [WorkerFallbacks.begins]
  split
  · rename_i none
    refine ⟨kept.sameDomains, ?_⟩
    intro session member
    rcases List.mem_append.mp member with earlier | isLast
    · exact kept.tried session earlier
    · rw [List.mem_singleton.mp isLast]
      change List.Perm [] fallbacks.workerDomains
      rw [none]
  · have perm := (shuffle fallbacks.workerDomains).2
    refine ⟨perm.trans kept.sameDomains, ?_⟩
    intro session member
    rcases List.mem_append.mp member with earlier | isLast
    · exact (kept.tried session earlier).shuffled perm (keeps session earlier)
    · rw [List.mem_singleton.mp isLast]
      exact nextWorker_tried (List.Perm.refl []) pooled

theorem Kept.connectEnds (kept : fallbacks.Kept configured) (id : Nat)
    (connected pooled : Bool) :
    (fallbacks.connectEnds id connected pooled).Kept configured := by
  rw [WorkerFallbacks.connectEnds]
  split
  · rename_i attempted next found
    refine ⟨kept.sameDomains, ?_⟩
    intro session member
    rcases mem_set_cases member with rfl | ⟨other, -, earlier⟩
    · cases connected with
      | true => trivial
      | false =>
          exact nextWorker_tried
            (kept.tried _ (List.mem_of_getElem? found)) pooled
    · exact kept.tried session (List.mem_of_getElem? earlier)
  · exact kept

theorem Kept.sendEnds (kept : fallbacks.Kept configured) (id : Nat)
    (sent : Bool) : (fallbacks.sendEnds id sent).Kept configured := by
  rw [WorkerFallbacks.sendEnds]
  split
  · refine ⟨kept.sameDomains, ?_⟩
    intro session member
    rcases mem_set_cases member with rfl | ⟨other, -, earlier⟩
    · cases sent with
      | true => trivial
      | false => trivial
    · exact kept.tried session (List.mem_of_getElem? earlier)
  · exact kept

theorem Kept.step (kept : fallbacks.Kept configured) {event : WorkerEvent}
    (keeps : fallbacks.KeepsPassed event) :
    (fallbacks.step event).Kept configured := by
  cases event with
  | begins shuffle pooled => exact kept.begins shuffle pooled keeps
  | connectEnds session connected pooled =>
      exact kept.connectEnds session connected pooled
  | sendEnds session sent => exact kept.sendEnds session sent

end Tried

end WorkerFallbacks

open WorkerFallbacks

/-- While no shuffle changes what the sessions in their loops have passed, a
session which returns `False` has tried every worker once. -/
theorem workers_tried_once (workerDomains : List String)
    (events : List WorkerEvent)
    (keeps : AllSteps step KeepsPassed (initial workerDomains) events) :
    ∀ session ∈ (run step (initial workerDomains) events).sessions,
      session.phase = .returned false →
        session.attempted.Perm workerDomains := by
  have kept : (run step (initial workerDomains) events).Kept workerDomains := by
    apply AllSteps.invariant _ _ keeps
    · exact fun _ _ kept keeps => kept.step keeps
    · refine ⟨List.Perm.refl _, ?_⟩
      intro session member
      cases member
  rintro ⟨attempted, phase⟩ member returned
  have tried := kept.tried _ member
  obtain rfl : phase = .returned false := returned
  exact List.Perm.trans tried kept.sameDomains

def inOrder : Shuffle := fun workerDomains =>
  ⟨workerDomains, List.Perm.refl workerDomains⟩

def reversed : Shuffle := fun workerDomains =>
  ⟨workerDomains.reverse, List.reverse_perm workerDomains⟩

/-- A second session begins when the first one has tried both workers, and
before it knows that the last connection has failed. -/
def laterSession : List WorkerEvent :=
  [.begins inOrder false, .connectEnds 0 false false, .begins reversed false,
    .connectEnds 0 false false]

theorem laterSession_keepsPassed :
    AllSteps step KeepsPassed (initial ["a.example", "b.example"])
      laterSession := by
  refine ⟨?_, trivial, ?_, trivial, trivial⟩
  · intro session member
    cases member
  · intro session member next connecting
    rw [List.mem_singleton.mp member] at connecting
    have passed : WorkerPhase.connecting 2 = .connecting next := connecting
    cases passed
    exact List.reverse_perm ["a.example", "b.example"]

theorem workers_tried_once_laterSession :
    let tried : WorkerSession := ⟨["a.example", "b.example"], .returned false⟩
    tried ∈ (run step (initial ["a.example", "b.example"])
        laterSession).sessions ∧
      tried.attempted.Perm ["a.example", "b.example"] :=
  ⟨List.mem_cons_self,
    workers_tried_once ["a.example", "b.example"] laterSession
      laterSession_keepsPassed _ List.mem_cons_self rfl⟩

/-- A second session shuffles while the first one waits for its first worker:
the first session tries that worker again, and never the other. -/
theorem shuffle_repeats_worker :
    ¬ ∀ session ∈ (run step (initial ["a.example", "b.example"])
        [.begins inOrder false, .begins reversed false,
          .connectEnds 0 false false, .connectEnds 0 false false]).sessions,
      session.phase = .returned false →
        session.attempted.Perm ["a.example", "b.example"] := by
  intro every
  have perm : List.Perm ["a.example", "a.example"] ["a.example", "b.example"] :=
    every ⟨["a.example", "a.example"], .returned false⟩ List.mem_cons_self rfl
  have absent : "b.example" ∉ ["a.example", "a.example"] := by decide
  exact absent (perm.mem_iff.mpr (List.mem_cons_of_mem _ List.mem_cons_self))

end TgWsProxy.Python
