import TgWsProxy.Lib.Slots
import TgWsProxy.Python.CfproxyDomains
import Mathlib.Data.List.Basic

/-!
# The domains of the balancer across restarts

`balancer.domains` is written by `_run`, which installs the user's domains or
the default ones, and by `refresh_cfproxy_domains`, which checks the
configuration, downloads a list for up to ten seconds and then writes.  The
refresh runs in an executor thread, which the end of its event loop does not
stop.  An event is one access of a thread to the configuration or to the
balancer, or what the user interface does in between.
-/

namespace TgWsProxy.Python

open Lib

/-- The fields of `proxy_config` which decide what is installed. -/
structure DomainConfig where
  fallbackCfproxy : Bool
  cfproxyUserDomains : List String
deriving DecidableEq, Repr

/-- Where a list comes from which is given to `update_domains_list`. -/
inductive DomainSource where
  | user
  | defaults
  | fetched
deriving DecidableEq, Repr

/-- Where `update_domains_list` stands. -/
inductive ListUpdate where
  /-- At `Counter(self.domains) == Counter(domains_list)`. -/
  | comparing
  /-- At `self.domains = domains_list[:]`. -/
  | assigning
deriving DecidableEq, Repr

/-- Where a thread of a run or a refresh job stands. -/
inductive DomainPhase where
  /-- `_run` has not read the configuration yet. -/
  | starting
  /-- A refresh job has not begun yet. -/
  | submitted
  /-- In `_fetch_cfproxy_domain_list`, behind the check of the user's domains. -/
  | fetching
  | updating (source : DomainSource) (domains : List String)
      (update : ListUpdate)
  /-- `_run` serves, with a refresh task or without one. -/
  | serving (refreshes : Bool)
  | ended
deriving DecidableEq, Repr

structure DomainThread where
  phase : DomainPhase
  /-- How many configurations were applied before it read the user's domains. -/
  readAt : Nat
deriving DecidableEq, Repr

structure DomainState where
  config : DomainConfig
  /-- How many configurations were applied. -/
  version : Nat
  /-- `balancer.domains`. -/
  domains : List String
  /-- History: the user's domains which a run of the present configuration has
  installed. -/
  installed : Option (List String)
  threads : List DomainThread
deriving DecidableEq, Repr

inductive DomainEvent where
  /-- `apply_proxy_config`. -/
  | applies (config : DomainConfig)
  /-- `start_proxy` starts a thread. -/
  | startsRun
  /-- `_run` reads the configuration; the start of the refresher may raise. -/
  | readsConfig (thread : Nat) (raises : Bool)
  /-- The refresh task of a run hands a job to the executor. -/
  | submits (thread : Nat)
  /-- A refresh job looks for the user's domains. -/
  | checksUser (thread : Nat)
  /-- A refresh job has downloaded and normalised a list. -/
  | fetches (thread : Nat) (pool : List String)
  /-- A thread goes on in `update_domains_list`. -/
  | updates (thread : Nat)
  | endsRun (thread : Nat)
deriving DecidableEq, Repr

/-- What a thread does behind `update_domains_list`. -/
def DomainSource.after : DomainSource → DomainPhase
  | .user => .serving false
  | .defaults => .serving true
  | .fetched => .ended

namespace DomainState

def initial (config : DomainConfig) : DomainState :=
  ⟨config, 0, [], none, []⟩

def setThread (s : DomainState) (id : Nat) (thread : DomainThread) :
    DomainState :=
  { s with threads := s.threads.set id thread }

/-- `apply_proxy_config`, of what is read here. -/
def applies (s : DomainState) (config : DomainConfig) : DomainState :=
  { s with config, version := s.version + 1, installed := none }

/-- `_run` up to `update_domains_list`, by way of
`start_cfproxy_domain_refresh` without user domains. -/
def readsConfig (defaultDomains : List String) (s : DomainState) (id : Nat)
    (raises : Bool) : DomainState :=
  match s.threads[id]? with
  | some ⟨.starting, _⟩ =>
      let phase : DomainPhase :=
        if s.config.fallbackCfproxy then
          if s.config.cfproxyUserDomains ≠ [] then
            .updating .user s.config.cfproxyUserDomains .comparing
          else if raises then .ended
          else .updating .defaults defaultDomains .comparing
        else .serving false
      s.setThread id ⟨phase, s.version⟩
  | _ => s

def submits (s : DomainState) (id : Nat) : DomainState :=
  match s.threads[id]? with
  | some ⟨.serving true, _⟩ =>
      { s with threads := s.threads ++ [⟨.submitted, s.version⟩] }
  | _ => s

/-- `refresh_cfproxy_domains` up to the download. -/
def checksUser (s : DomainState) (id : Nat) : DomainState :=
  match s.threads[id]? with
  | some ⟨.submitted, _⟩ =>
      let phase : DomainPhase :=
        if s.config.cfproxyUserDomains ≠ [] then .ended else .fetching
      s.setThread id ⟨phase, s.version⟩
  | _ => s

/-- `refresh_cfproxy_domains` behind the download. -/
def fetches (s : DomainState) (id : Nat) (pool : List String) : DomainState :=
  match s.threads[id]? with
  | some ⟨.fetching, readAt⟩ =>
      let phase : DomainPhase :=
        if cfproxyMinValidDomains ≤ pool.length then
          .updating .fetched pool .comparing
        else .ended
      s.setThread id ⟨phase, readAt⟩
  | _ => s

/-- `update_domains_list` returns. -/
def finishes (s : DomainState) (id : Nat) (source : DomainSource)
    (domains : List String) (readAt : Nat) : DomainState :=
  { s.setThread id ⟨source.after, readAt⟩ with
    installed :=
      if source = .user ∧ readAt = s.version then some domains
      else s.installed }

/-- Two counters are equal when the lists are permutations of each other. -/
def updates (s : DomainState) (id : Nat) : DomainState :=
  match s.threads[id]? with
  | some ⟨.updating source domains .comparing, readAt⟩ =>
      if s.domains.isPerm domains then s.finishes id source domains readAt
      else s.setThread id ⟨.updating source domains .assigning, readAt⟩
  | some ⟨.updating source domains .assigning, readAt⟩ =>
      { s with domains }.finishes id source domains readAt
  | _ => s

def endsRun (s : DomainState) (id : Nat) : DomainState :=
  match s.threads[id]? with
  | some ⟨.serving _, readAt⟩ => s.setThread id ⟨.ended, readAt⟩
  | _ => s

def step (defaultDomains : List String) (s : DomainState) :
    DomainEvent → DomainState
  | .applies config => s.applies config
  | .startsRun =>
      { s with threads := s.threads ++ [⟨.starting, s.version⟩] }
  | .readsConfig thread raises => s.readsConfig defaultDomains thread raises
  | .submits thread => s.submits thread
  | .checksUser thread => s.checksUser thread
  | .fetches thread pool => s.fetches thread pool
  | .updates thread => s.updates thread
  | .endsRun thread => s.endsRun thread

/-- While the user's domains are installed, the balancer has no others. -/
def OnlyUserDomains (s : DomainState) : Prop :=
  ∀ user, s.installed = some user → ∀ domain ∈ s.domains, domain ∈ user

/-- A thread which has read an earlier configuration does not write other
domains over the installed ones. -/
def Harmless (s : DomainState) : DomainEvent → Prop
  | .updates id => ∀ thread, s.threads[id]? = some thread →
      ∀ source domains, thread.phase = .updating source domains .assigning →
        thread.readAt ≠ s.version → ∀ user, s.installed = some user →
          ∀ domain ∈ domains, domain ∈ user
  | _ => True

/-- What a thread does with the configuration which it has read. -/
def Reads (config : DomainConfig) : DomainPhase → Prop
  | .fetching => config.cfproxyUserDomains = []
  | .updating .user domains _ =>
      domains = config.cfproxyUserDomains ∧ domains ≠ []
  | .updating _ _ _ => config.cfproxyUserDomains = []
  | _ => True

/-- The threads which have read the present configuration do what it says, and
what is installed is what it says. -/
structure Tidy (s : DomainState) : Prop where
  past : ∀ thread ∈ s.threads, thread.readAt ≤ s.version
  reads : ∀ thread ∈ s.threads, thread.readAt = s.version →
    Reads s.config thread.phase
  installed : ∀ user, s.installed = some user →
    user = s.config.cfproxyUserDomains ∧ user ≠ []

section Steps

variable {s : DomainState} {id : Nat} {thread : DomainThread}

theorem initial_tidy (config : DomainConfig) : (initial config).Tidy := by
  refine ⟨?_, ?_, ?_⟩
  · intro thread member
    cases member
  · intro thread member
    cases member
  · intro user none
    cases none

theorem Tidy.setThread (tidy : s.Tidy) (past : thread.readAt ≤ s.version)
    (reads : thread.readAt = s.version → Reads s.config thread.phase) :
    (s.setThread id thread).Tidy := by
  refine ⟨?_, ?_, tidy.installed⟩
  · intro other member
    rcases mem_set_cases member with rfl | ⟨place, -, earlier⟩
    · exact past
    · exact tidy.past other (List.mem_of_getElem? earlier)
  · intro other member
    rcases mem_set_cases member with rfl | ⟨place, -, earlier⟩
    · exact reads
    · exact tidy.reads other (List.mem_of_getElem? earlier)

theorem Tidy.addThread (tidy : s.Tidy) (past : thread.readAt ≤ s.version)
    (reads : Reads s.config thread.phase) :
    Tidy { s with threads := s.threads ++ [thread] } := by
  refine ⟨?_, ?_, tidy.installed⟩
  · intro other member
    rcases List.mem_append.mp member with earlier | isLast
    · exact tidy.past other earlier
    · rw [List.mem_singleton.mp isLast]
      exact past
  · intro other member
    rcases List.mem_append.mp member with earlier | isLast
    · exact tidy.reads other earlier
    · rw [List.mem_singleton.mp isLast]
      exact fun _ => reads

/-- No thread has read a configuration which has just been applied. -/
theorem Tidy.applies (tidy : s.Tidy) (config : DomainConfig) :
    (s.applies config).Tidy := by
  refine ⟨?_, ?_, ?_⟩
  · intro thread member
    exact (tidy.past thread member).trans (Nat.le_succ _)
  · intro thread member current
    have past := tidy.past thread member
    change thread.readAt = s.version + 1 at current
    omega
  · intro user none
    cases none

theorem Tidy.finishes (tidy : s.Tidy) {source : DomainSource}
    {domains : List String} {readAt : Nat} (past : readAt ≤ s.version)
    (reads : source = .user → readAt = s.version →
      domains = s.config.cfproxyUserDomains ∧ domains ≠ []) :
    (s.finishes id source domains readAt).Tidy := by
  have set : (s.setThread id ⟨source.after, readAt⟩).Tidy := by
    apply tidy.setThread past
    intro _
    cases source with
    | user => trivial
    | defaults => trivial
    | fetched => trivial
  refine ⟨set.past, set.reads, ?_⟩
  intro user isInstalled
  change (if source = .user ∧ readAt = s.version then some domains
    else s.installed) = some user at isInstalled
  split at isInstalled
  · rename_i own
    cases isInstalled
    exact reads own.1 own.2
  · exact tidy.installed user isInstalled

theorem Tidy.updates (tidy : s.Tidy) (id : Nat) : (s.updates id).Tidy := by
  rw [DomainState.updates]
  split
  · rename_i source domains readAt found
    have member := List.mem_of_getElem? found
    have past := tidy.past _ member
    split
    · apply tidy.finishes past
      rintro rfl current
      exact tidy.reads _ member current
    · apply tidy.setThread
      · exact past
      · intro current
        have reads := tidy.reads _ member current
        cases source with
        | user => exact reads
        | defaults => exact reads
        | fetched => exact reads
  · rename_i source domains readAt found
    have member := List.mem_of_getElem? found
    have written : Tidy { s with domains } :=
      ⟨tidy.past, tidy.reads, tidy.installed⟩
    apply written.finishes
    · exact tidy.past _ member
    · rintro rfl current
      exact tidy.reads _ member current
  · exact tidy

theorem Tidy.readsConfig (tidy : s.Tidy) (defaultDomains : List String)
    (id : Nat) (raises : Bool) :
    (s.readsConfig defaultDomains id raises).Tidy := by
  rw [DomainState.readsConfig]
  split
  · apply tidy.setThread (Nat.le_refl _)
    intro _
    simp only
    split
    · split
      · rename_i some
        exact ⟨rfl, some⟩
      · rename_i none
        split
        · trivial
        · exact not_not.mp none
    · trivial
  · exact tidy

theorem Tidy.submits (tidy : s.Tidy) (id : Nat) : (s.submits id).Tidy := by
  rw [DomainState.submits]
  split
  · exact tidy.addThread (Nat.le_refl _) trivial
  · exact tidy

theorem Tidy.checksUser (tidy : s.Tidy) (id : Nat) :
    (s.checksUser id).Tidy := by
  rw [DomainState.checksUser]
  split
  · apply tidy.setThread (Nat.le_refl _)
    intro _
    simp only
    split
    · trivial
    · rename_i none
      exact not_not.mp none
  · exact tidy

/-- A job which fetches has found no domains of the user, and goes on with that
or ends. -/
theorem Tidy.fetches (tidy : s.Tidy) (id : Nat) (pool : List String) :
    (s.fetches id pool).Tidy := by
  rw [DomainState.fetches]
  split
  · rename_i readAt found
    have member := List.mem_of_getElem? found
    have past := tidy.past _ member
    apply tidy.setThread
    · exact past
    · intro current
      have reads := tidy.reads _ member current
      simp only
      split
      · exact reads
      · trivial
  · exact tidy

theorem Tidy.endsRun (tidy : s.Tidy) (id : Nat) : (s.endsRun id).Tidy := by
  rw [DomainState.endsRun]
  split
  · rename_i refreshes readAt found
    have past := tidy.past _ (List.mem_of_getElem? found)
    apply tidy.setThread
    · exact past
    · exact fun _ => trivial
  · exact tidy

theorem Tidy.step (tidy : s.Tidy) (defaultDomains : List String)
    (event : DomainEvent) : (s.step defaultDomains event).Tidy := by
  cases event with
  | applies config => exact tidy.applies config
  | startsRun => exact tidy.addThread (Nat.le_refl _) trivial
  | readsConfig id raises => exact tidy.readsConfig defaultDomains id raises
  | submits id => exact tidy.submits id
  | checksUser id => exact tidy.checksUser id
  | fetches id pool => exact tidy.fetches id pool
  | updates id => exact tidy.updates id
  | endsRun id => exact tidy.endsRun id

theorem updates_only_iff (tidy : s.Tidy) (only : s.OnlyUserDomains) (id : Nat) :
    (s.updates id).OnlyUserDomains ↔ s.Harmless (.updates id) := by
  rw [DomainState.updates]
  split
  · rename_i source domains readAt found
    refine iff_of_true ?_ ?_
    · split
      · rename_i same
        intro user isInstalled domain member
        change (if source = .user ∧ readAt = s.version then some domains
          else s.installed) = some user at isInstalled
        split at isInstalled
        · cases isInstalled
          exact (List.isPerm_iff.mp same).mem_iff.mp member
        · exact only user isInstalled domain member
      · exact only
    · intro thread isThread otherSource others assigning
      cases found.symm.trans isThread
      cases assigning
  · rename_i source domains readAt found
    have reads := tidy.reads _ (List.mem_of_getElem? found)
    by_cases current : readAt = s.version
    · refine iff_of_true ?_ ?_
      · intro user isInstalled domain member
        change (if source = .user ∧ readAt = s.version then some domains
          else s.installed) = some user at isInstalled
        split at isInstalled
        · cases isInstalled
          exact member
        · -- Default and fetched domains are written without user domains.
          rename_i notUser
          have configured := tidy.installed user isInstalled
          have none : s.config.cfproxyUserDomains = [] := by
            cases source with
            | user => exact absurd ⟨rfl, current⟩ notUser
            | defaults => exact reads current
            | fetched => exact reads current
          exact absurd (configured.1.trans none) configured.2
      · intro thread isThread otherSource others assigning stale
        cases found.symm.trans isThread
        exact absurd current stale
    · have installed : (DomainState.finishes { s with domains } id source
          domains readAt).installed = s.installed :=
        if_neg fun own => current own.2
      constructor
      · intro after thread isThread otherSource others assigning _ user isInstalled
        cases found.symm.trans isThread
        cases assigning
        exact after user (installed.trans isInstalled)
      · intro harmless user isInstalled
        exact harmless _ found source domains rfl current user
          (installed.symm.trans isInstalled)
  · rename_i notUpdating
    refine iff_of_true only ?_
    intro thread isThread source domains assigning
    obtain ⟨phase, readAt⟩ := thread
    obtain rfl : phase = .updating source domains .assigning := assigning
    exact absurd isThread (notUpdating source domains readAt)

/-- A step keeps the installed domains alone exactly when it is harmless. -/
theorem step_only_iff (tidy : s.Tidy) (only : s.OnlyUserDomains)
    (defaultDomains : List String) (event : DomainEvent) :
    (s.step defaultDomains event).OnlyUserDomains ↔ s.Harmless event := by
  cases event with
  | applies config =>
      refine iff_of_true ?_ trivial
      intro user none
      cases none
  | startsRun => exact iff_of_true only trivial
  | readsConfig id raises =>
      refine iff_of_true ?_ trivial
      rw [DomainState.step, DomainState.readsConfig]
      split
      · exact only
      · exact only
  | submits id =>
      refine iff_of_true ?_ trivial
      rw [DomainState.step, DomainState.submits]
      split
      · exact only
      · exact only
  | checksUser id =>
      refine iff_of_true ?_ trivial
      rw [DomainState.step, DomainState.checksUser]
      split
      · exact only
      · exact only
  | fetches id pool =>
      refine iff_of_true ?_ trivial
      rw [DomainState.step, DomainState.fetches]
      split
      · exact only
      · exact only
  | updates id => exact updates_only_iff tidy only id
  | endsRun id =>
      refine iff_of_true ?_ trivial
      rw [DomainState.step, DomainState.endsRun]
      split
      · exact only
      · exact only

end Steps

/-- What a run has installed stays alone in the balancer throughout exactly when
no thread writes other domains over it for an earlier configuration. -/
theorem only_user_domains_iff (defaultDomains : List String)
    (config : DomainConfig) (events : List DomainEvent) :
    (∀ earlier, earlier <+: events →
      (run (step defaultDomains) (initial config) earlier).OnlyUserDomains) ↔
        AllSteps (step defaultDomains) Harmless (initial config) events := by
  have exact (s : DomainState) (event : DomainEvent)
      (kept : s.Tidy ∧ s.OnlyUserDomains) :
      (s.step defaultDomains event).Tidy ∧
          (s.step defaultDomains event).OnlyUserDomains ↔ s.Harmless event := by
    rw [← step_only_iff kept.1 kept.2 defaultDomains event]
    exact and_iff_right (kept.1.step defaultDomains event)
  have start : (initial config).Tidy ∧ (initial config).OnlyUserDomains := by
    refine ⟨initial_tidy config, ?_⟩
    intro user none
    cases none
  rw [← invariant_throughout_iff_allSteps exact start events]
  constructor
  · intro only earlier isPrefix
    refine ⟨?_, only earlier isPrefix⟩
    exact @run_invariant _ _ (step defaultDomains) Tidy
      (fun _ event tidy => tidy.step defaultDomains event) _ earlier
      (initial_tidy config)
  · intro kept earlier isPrefix
    exact (kept earlier isPrefix).2

/-- A refresh job which has passed its check outlives its run, and writes over
what the next run has installed. -/
def lateRefresh : List DomainEvent :=
  [.startsRun, .readsConfig 0 false, .updates 0, .updates 0, .submits 0,
    .checksUser 1, .endsRun 0, .applies ⟨true, ["user.example"]⟩, .startsRun,
    .readsConfig 2 false, .updates 2, .updates 2,
    .fetches 1 ["a.example", "b.example", "c.example"], .updates 1, .updates 1]

theorem lateRefresh_replaces :
    ¬ (run (step ["default.example"]) (initial ⟨true, []⟩)
      lateRefresh).OnlyUserDomains := by
  intro only
  have member := only ["user.example"] rfl "a.example" List.mem_cons_self
  have absent : "a.example" ∉ ["user.example"] := by decide
  exact absent member

end DomainState

end TgWsProxy.Python
