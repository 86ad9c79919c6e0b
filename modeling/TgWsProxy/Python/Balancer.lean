import TgWsProxy.Bytes
import TgWsProxy.Lib.Dictionary
import TgWsProxy.Lib.Runs
import TgWsProxy.Python.Text

/-!
# The balancer of the CF domains

`_Balancer` of `proxy/balancer.py`, and the sessions in `_cfproxy_fallback` which
iterate over its domains while they connect.  Each call and each step of a
generator is one event; the domain list is refreshed from another thread.
-/

namespace TgWsProxy.Python

open Lib

/-- `random.choice`, which draws an index. -/
def randomChoice {Item : Type} (draw : Nat) (items : List Item) :
    Except PyError Item :=
  match items[draw % items.length]? with
  | some item => .ok item
  | none => .error .indexError

structure Balancer where
  domains : List PyStr
  dcToDomain : Dictionary Nat PyStr

namespace Balancer

def initial : Balancer := ⟨[], ∅⟩

def balancedDcs : List Nat := [1, 2, 3, 4, 5, 203]

/-- The comprehension which pins a domain for each DC. -/
def pinAll (draws : Nat → Nat) (domains : List PyStr) :
    Except PyError (Dictionary Nat PyStr) := do
  let pairs ← balancedDcs.mapM fun dcId => do
    return (dcId, ← randomChoice (draws dcId) domains)
  return Dictionary.setItems ∅ pairs

/-- `update_domains_list`.  Counters are equal for lists which are permutations
of each other. -/
def updateDomainsList (draws : Nat → Nat) (s : Balancer)
    (domainsList : List PyStr) : Except PyError Unit × Balancer :=
  if s.domains.isPerm domainsList then (.ok (), s)
  else
    let s := { s with domains := domainsList }
    match pinAll draws s.domains with
    | .error error => (.error error, s)
    | .ok dcToDomain => (.ok (), { s with dcToDomain })

/-- `update_domain_for_dc`. -/
def updateDomainForDc (s : Balancer) (dcId : Nat) (domain : PyStr) :
    Bool × Balancer :=
  if s.dcToDomain.lookup dcId = some domain then (false, s)
  else (true, { s with dcToDomain := s.dcToDomain.insert dcId domain })

end Balancer

/-- What `random.shuffle` does to a copy of the domains. -/
abbrev DomainShuffle :=
  (domains : List PyStr) → { order : List PyStr // order.Perm domains }

/-- Where the generator of `get_domains_for_dc` stands. -/
inductive DomainIterator where
  | created (dcId : Nat)
  /-- It has yielded the current domain, and has not copied the list yet. -/
  | yieldedCurrent (currentDomain : PyStr)
  | iterating (domains : List PyStr)
deriving DecidableEq, Repr

namespace DomainIterator

def yieldNext : List PyStr → Option (PyStr × DomainIterator)
  | [] => none
  | domain :: domains => some (domain, .iterating domains)

/-- The next step of the generator; `none` is its end. -/
def next (shuffle : DomainShuffle) (s : Balancer) :
    DomainIterator → Option (PyStr × DomainIterator)
  | .created dcId =>
      match s.dcToDomain.lookup dcId with
      | some currentDomain =>
          some (currentDomain, .yieldedCurrent currentDomain)
      | none => yieldNext (shuffle s.domains)
  | .yieldedCurrent currentDomain =>
      yieldNext ((shuffle s.domains).val.filter (· ≠ currentDomain))
  | .iterating domains => yieldNext domains

end DomainIterator

/-- Where a session stands in `_cfproxy_fallback`. -/
inductive CfproxyStage where
  | connecting (baseDomain : PyStr) (iterator : DomainIterator)
  /-- The connection is bridged. -/
  | connected
  | returnedFalse
deriving DecidableEq, Repr

structure CfproxySession where
  dc : Nat
  stage : CfproxyStage
deriving DecidableEq, Repr

structure CfproxyFallbacks where
  balancer : Balancer
  sessions : List CfproxySession

inductive CfproxyEvent where
  | begins (dc : Nat) (shuffle : DomainShuffle)
  | connectFails (session : Nat) (shuffle : DomainShuffle)
  /-- The connection is open, and the session calls `update_domain_for_dc`. -/
  | connects (session : Nat)
  | refreshes (domainsList : List PyStr) (draws : Nat → Nat)

namespace CfproxyFallbacks

def initial : CfproxyFallbacks := ⟨Balancer.initial, []⟩

/-- The loop up to the next `connect`. -/
def advance (shuffle : DomainShuffle) (s : CfproxyFallbacks)
    (iterator : DomainIterator) : CfproxyStage :=
  match iterator.next shuffle s.balancer with
  | some (baseDomain, iterator) => .connecting baseDomain iterator
  | none => .returnedFalse

/-- `chosen_domain and balancer.update_domain_for_dc(dc, chosen_domain)`. -/
def writeBack (s : CfproxyFallbacks) (dc : Nat) (chosenDomain : PyStr) :
    CfproxyFallbacks :=
  if chosenDomain = [] then s
  else { s with balancer := (s.balancer.updateDomainForDc dc chosenDomain).2 }

def step (s : CfproxyFallbacks) : CfproxyEvent → CfproxyFallbacks
  | .begins dc shuffle =>
      { s with
        sessions := s.sessions ++ [⟨dc, s.advance shuffle (.created dc)⟩] }
  | .connectFails session shuffle =>
      match s.sessions[session]? with
      | some ⟨dc, .connecting _ iterator⟩ =>
          { s with
            sessions :=
              s.sessions.set session ⟨dc, s.advance shuffle iterator⟩ }
      | _ => s
  | .connects session =>
      match s.sessions[session]? with
      | some ⟨dc, .connecting baseDomain _⟩ =>
          let s := s.writeBack dc baseDomain
          { s with sessions := s.sessions.set session ⟨dc, .connected⟩ }
      | _ => s
  | .refreshes domainsList draws =>
      { s with balancer := (s.balancer.updateDomainsList draws domainsList).2 }

end CfproxyFallbacks

namespace Balancer

/-- Every pinned domain is in the list, if there is one. -/
def PinsCurrent (s : Balancer) : Prop :=
  s.domains ≠ [] → ∀ dcId domain, s.dcToDomain.lookup dcId = some domain →
    domain ∈ s.domains

section Balancer

variable {s : Balancer} {domains : List PyStr}

theorem randomChoice_of_ne_nil {Item : Type} {items : List Item}
    (some : items ≠ []) (draw : Nat) :
    ∃ item ∈ items, randomChoice draw items = .ok item := by
  have inside : draw % items.length < items.length :=
    Nat.mod_lt _ (List.length_pos_of_ne_nil some)
  refine ⟨items[draw % items.length], List.getElem_mem inside, ?_⟩
  rw [randomChoice, List.getElem?_eq_getElem inside]

theorem pinAll_nil (draws : Nat → Nat) :
    pinAll draws [] = .error .indexError :=
  rfl

/-- The comprehension pins a domain of the list for each DC, and no other. -/
theorem pinAll_of_ne_nil (some : domains ≠ []) (draws : Nat → Nat) :
    ∃ dcToDomain, pinAll draws domains = .ok dcToDomain ∧
      (∀ dcId ∈ balancedDcs, ∃ domain ∈ domains,
        dcToDomain.lookup dcId = Option.some domain) ∧
      ∀ dcId domain, dcToDomain.lookup dcId = Option.some domain →
        domain ∈ domains := by
  choose choice member chosen using
    fun dcId => randomChoice_of_ne_nil some (draws dcId)
  have pairs : (balancedDcs.mapM fun dcId => do
        return (dcId, ← randomChoice (draws dcId) domains)) =
      (.ok (balancedDcs.map fun dcId => (dcId, choice dcId)) :
        Except PyError (List (Nat × PyStr))) := by
    simp only [chosen]
    exact List.mapM_pure
  have current (dcId : Nat) (domain : PyStr)
      (found : (Dictionary.setItems (∅ : Dictionary Nat PyStr)
        (balancedDcs.map fun dcId => (dcId, choice dcId))).lookup dcId =
          Option.some domain) : domain ∈ domains := by
    rcases Dictionary.lookup_setItems_cases found with written | before
    · obtain ⟨other, -, same⟩ := List.mem_map.mp written
      cases same
      exact member dcId
    · cases before
  refine ⟨Dictionary.setItems ∅
    (balancedDcs.map fun dcId => (dcId, choice dcId)), ?_, ?_, current⟩
  · rw [pinAll, pairs]
    rfl
  · intro dcId balanced
    have written : dcId ∈ (balancedDcs.map fun dcId =>
        (dcId, choice dcId)).map Prod.fst := by
      rw [List.map_map]
      exact List.mem_map.mpr ⟨dcId, balanced, rfl⟩
    have present := @Dictionary.mem_setItems _ _ _ ∅ _ _ written
    obtain ⟨domain, found⟩ :=
      Option.isSome_iff_exists.mp (AList.lookup_isSome.mpr present)
    exact ⟨domain, current dcId domain found, found⟩

/-- A list is replaced by one which is no permutation of it, and then each DC is
pinned to one of the new domains. -/
theorem updateDomainsList_cases (draws : Nat → Nat) (s : Balancer)
    (domainsList : List PyStr) :
    s.updateDomainsList draws domainsList = (.ok (), s) ∨
      (domainsList = [] ∧
        (s.updateDomainsList draws domainsList).2 = { s with domains := [] }) ∨
      domainsList ≠ [] ∧ ∃ dcToDomain,
        s.updateDomainsList draws domainsList =
          (.ok (), ⟨domainsList, dcToDomain⟩) ∧
        (∀ dcId ∈ balancedDcs, ∃ domain ∈ domainsList,
          dcToDomain.lookup dcId = some domain) ∧
        ∀ dcId domain, dcToDomain.lookup dcId = some domain →
          domain ∈ domainsList := by
  unfold updateDomainsList
  split
  · exact Or.inl rfl
  · by_cases empty : domainsList = []
    · refine Or.inr (Or.inl ⟨empty, ?_⟩)
      simp only [empty, pinAll_nil]
    · obtain ⟨dcToDomain, pinned, all, current⟩ :=
        pinAll_of_ne_nil empty draws
      refine Or.inr (Or.inr ⟨empty, dcToDomain, ?_, all, current⟩)
      simp only [pinned]

theorem PinsCurrent.updateDomainsList (kept : s.PinsCurrent)
    (draws : Nat → Nat) (domainsList : List PyStr) :
    (s.updateDomainsList draws domainsList).2.PinsCurrent := by
  rcases updateDomainsList_cases draws s domainsList with
    same | empty | ⟨-, dcToDomain, replaced, -, current⟩
  · rw [same]
    exact kept
  · rw [empty.2]
    intro some
    exact absurd rfl some
  · rw [replaced]
    exact fun _ => current

/-- Only a domain of the list may be pinned. -/
theorem pinsCurrent_updateDomainForDc_iff (kept : s.PinsCurrent) (dcId : Nat)
    (domain : PyStr) :
    (s.updateDomainForDc dcId domain).2.PinsCurrent ↔
      s.domains ≠ [] → domain ∈ s.domains := by
  unfold updateDomainForDc
  split
  · rename_i pinned
    exact iff_of_true kept fun some => kept some dcId domain pinned
  · constructor
    · intro current some
      apply current some dcId domain
      exact AList.lookup_insert _
    · intro member some other pinned found
      by_cases same : other = dcId
      · rw [same] at found
        have written := (AList.lookup_insert s.dcToDomain).symm.trans found
        rw [← Option.some.inj written]
        exact member some
      · rw [AList.lookup_insert_ne same] at found
        exact kept some other pinned found

end Balancer

end Balancer

namespace CfproxyFallbacks

/-- A session which connects has chosen a domain which is still in the list, if
there is one.  An empty name is not written back. -/
def ChoiceListed (s : CfproxyFallbacks) : CfproxyEvent → Prop
  | .connects session =>
      ∀ dc baseDomain iterator,
        s.sessions[session]? = some ⟨dc, .connecting baseDomain iterator⟩ →
          baseDomain ≠ [] → s.balancer.domains ≠ [] →
            baseDomain ∈ s.balancer.domains
  | .begins _ _ | .connectFails _ _ | .refreshes _ _ => True

section Steps

variable {s : CfproxyFallbacks}

theorem writeBack_iff (kept : s.balancer.PinsCurrent) (dc : Nat)
    (chosenDomain : PyStr) :
    (s.writeBack dc chosenDomain).balancer.PinsCurrent ↔
      (chosenDomain ≠ [] → s.balancer.domains ≠ [] →
        chosenDomain ∈ s.balancer.domains) := by
  unfold writeBack
  split
  · rename_i empty
    exact iff_of_true kept fun some => absurd empty some
  · rename_i some
    apply (Balancer.pinsCurrent_updateDomainForDc_iff kept dc
      chosenDomain).trans
    exact ⟨fun member _ => member, fun member => member some⟩

/-- Exactly the write-back of another domain leaves the pins behind. -/
theorem step_iff (event : CfproxyEvent) (kept : s.balancer.PinsCurrent) :
    (s.step event).balancer.PinsCurrent ↔ s.ChoiceListed event := by
  cases event with
  | begins dc shuffle => exact iff_of_true kept trivial
  | connectFails session shuffle =>
      apply iff_of_true _ trivial
      simp only [step]
      split
      · exact kept
      · exact kept
  | refreshes domainsList draws =>
      exact iff_of_true (kept.updateDomainsList draws domainsList) trivial
  | connects session =>
      simp only [step, ChoiceListed]
      split
      · rename_i dc baseDomain iterator found
        apply (writeBack_iff kept dc baseDomain).trans
        constructor
        · intro listed otherDc otherDomain otherIterator same
          rw [found] at same
          cases same
          exact listed
        · intro listed
          exact listed dc baseDomain iterator found
      · rename_i other
        apply iff_of_true kept
        intro dc baseDomain iterator found
        exact absurd found (other dc baseDomain iterator)

end Steps

theorem initial_pinsCurrent : initial.balancer.PinsCurrent :=
  fun some => absurd rfl some

/-- The pinned domains are in the list throughout exactly those runs in which
every session that connects has chosen a domain which is still in the list. -/
theorem pins_current_iff (events : List CfproxyEvent) :
    (∀ earlier, earlier <+: events →
      (run step initial earlier).balancer.PinsCurrent) ↔
      AllSteps step ChoiceListed initial events :=
  @invariant_throughout_iff_allSteps _ _ step ChoiceListed
    (fun s => s.balancer.PinsCurrent)
    (fun _ event kept => step_iff event kept) initial initial_pinsCurrent events

/-- The domain list is replaced while a session connects to a domain of the old
one. -/
def lateWriteBack : List CfproxyEvent :=
  [.refreshes [['a'], ['b'], ['c']] fun _ => 0,
    .begins 2 fun domains => ⟨domains, List.Perm.refl domains⟩,
    .refreshes [['x'], ['y'], ['z']] fun _ => 0, .connects 0]

theorem lateWriteBack_pins_old :
    ¬ ∀ earlier, earlier <+: lateWriteBack →
      (run step initial earlier).balancer.PinsCurrent := by
  intro current
  have listed := current lateWriteBack (List.prefix_refl _)
    (by decide +kernel) 2 ['a'] (by decide +kernel)
  revert listed
  decide +kernel

end CfproxyFallbacks

end TgWsProxy.Python
