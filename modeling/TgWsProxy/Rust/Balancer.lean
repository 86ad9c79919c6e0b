import TgWsProxy.Lib.Dictionary
import TgWsProxy.Lib.Runs
import TgWsProxy.Lib.Text

/-!
# The balancer of the CF domains

`Balancer` of `proxy/balancer.rs`, which pins a domain for each DC whenever it
is given a list, and enumerates the domains which a fallback connection tries.
-/

namespace TgWsProxy.Rust

open Lib

/-- A `String`, by its characters. -/
abbrev RustStr := List Char

structure Balancer where
  domains : List RustStr
  dcToDomain : Dictionary Nat RustStr

namespace Balancer

def new : Balancer := ⟨[], ∅⟩

/-- `choose`, which draws an index unless the slice is empty. -/
def choose (draw : Nat) (domains : List RustStr) : Option RustStr :=
  domains[draw % domains.length]?

/-- A pass of the loop of `update_domains_list`. -/
def pin (draws : Nat → Nat) (s : Balancer) (dcId : Nat) : Balancer :=
  match choose (draws dcId) s.domains with
  | some domain => { s with dcToDomain := s.dcToDomain.insert dcId domain }
  | none => s

/-- `update_domains_list`. -/
def updateDomainsList (draws : Nat → Nat) (s : Balancer)
    (domains : List RustStr) : Balancer :=
  [1, 2, 3, 4, 5, 203].foldl (pin draws) { s with domains, dcToDomain := ∅ }

/-- `update_domain_for_dc`. -/
def updateDomainForDc (s : Balancer) (dcId : Nat) (domain : RustStr) :
    Bool × Balancer :=
  if s.dcToDomain.lookup dcId = some domain then (false, s)
  else (true, { s with dcToDomain := s.dcToDomain.insert dcId domain })

/-- What `shuffle` does to a copy of the domains. -/
abbrev Shuffle :=
  (domains : List RustStr) → { order : List RustStr // order.Perm domains }

/-- `get_domains_for_dc`. -/
def getDomainsForDc (shuffle : Shuffle) (s : Balancer) (dcId : Nat) :
    List RustStr :=
  let result := (s.dcToDomain.lookup dcId).toList
  (shuffle s.domains).val.foldl insertNew result

section Update

variable {draws : Nat → Nat} {s : Balancer}

theorem domains_pin (dcId : Nat) : (s.pin draws dcId).domains = s.domains := by
  unfold pin
  split
  · rfl
  · rfl

theorem domains_pins (dcIds : List Nat) :
    (dcIds.foldl (pin draws) s).domains = s.domains := by
  induction dcIds generalizing s with
  | nil => rfl
  | cons dcId dcIds induction => exact induction.trans (domains_pin dcId)

/-- The list is replaced in any case. -/
theorem domains_updateDomainsList (domains : List RustStr) :
    (s.updateDomainsList draws domains).domains = domains :=
  domains_pins _

theorem domains_updateDomainForDc (dcId : Nat) (domain : RustStr) :
    (s.updateDomainForDc dcId domain).2.domains = s.domains := by
  unfold updateDomainForDc
  split
  · rfl
  · rfl

end Update

section Enumeration

variable {shuffle : Shuffle} {s : Balancer} {dcId : Nat}

theorem nodup_getDomainsForDc : (s.getDomainsForDc shuffle dcId).Nodup := by
  apply nodup_foldl_insertNew
  cases s.dcToDomain.lookup dcId with
  | none => exact List.nodup_nil
  | some current => exact List.nodup_singleton current

theorem mem_getDomainsForDc {domain : RustStr} :
    domain ∈ s.getDomainsForDc shuffle dcId ↔
      domain ∈ s.domains ∨ s.dcToDomain.lookup dcId = some domain := by
  rw [getDomainsForDc, mem_foldl_insertNew, Option.mem_toList,
    (shuffle s.domains).property.mem_iff, or_comm]

theorem head?_getDomainsForDc {current : RustStr}
    (pinned : s.dcToDomain.lookup dcId = some current) :
    (s.getDomainsForDc shuffle dcId).head? = some current := by
  obtain ⟨rest, split⟩ := prefix_foldl_insertNew
    (s.dcToDomain.lookup dcId).toList (shuffle s.domains).val
  rw [getDomainsForDc, ← split, pinned]
  rfl

end Enumeration

/-- A call which changes the balancer. -/
inductive Call where
  | updateDomainsList (draws : Nat → Nat) (domains : List RustStr)
  | updateDomainForDc (dcId : Nat) (domain : RustStr)

def step (s : Balancer) : Call → Balancer
  | .updateDomainsList draws domains => s.updateDomainsList draws domains
  | .updateDomainForDc dcId domain => (s.updateDomainForDc dcId domain).2

/-- The list which the last of the calls that gives one gives. -/
def currentList (calls : List Call) : List RustStr :=
  calls.foldl (fun current call =>
    match call with
    | .updateDomainsList _ domains => domains
    | .updateDomainForDc _ _ => current) []

theorem domains_run (calls : List Call) :
    (run step new calls).domains = currentList calls := by
  induction calls using List.reverseRecOn with
  | nil => rfl
  | append_singleton calls call induction =>
      rw [run_append, run_cons, run_nil, currentList, List.foldl_append]
      cases call with
      | updateDomainsList draws domains =>
          simp only [step, domains_updateDomainsList, List.foldl_cons,
            List.foldl_nil]
      | updateDomainForDc dcId domain =>
          exact (domains_updateDomainForDc dcId domain).trans induction

/-- A fallback tries each domain of the current list once, and the pinned one
before the others, whatever the earlier calls have pinned. -/
theorem getDomainsForDc_enumerates (calls : List Call) (shuffle : Shuffle)
    (dcId : Nat) :
    let s := run step new calls
    let result := s.getDomainsForDc shuffle dcId
    (∀ domain ∈ currentList calls, result.count domain = 1) ∧
      result.Nodup ∧
      (∀ domain ∈ result, domain ∈ currentList calls ∨
        s.dcToDomain.lookup dcId = some domain) ∧
      ∀ current, s.dcToDomain.lookup dcId = some current →
        result.head? = some current := by
  intro s result
  have domains : s.domains = currentList calls := domains_run calls
  refine ⟨?_, nodup_getDomainsForDc, ?_, ?_⟩
  · intro domain member
    apply List.count_eq_one_of_mem nodup_getDomainsForDc
    apply mem_getDomainsForDc.mpr
    rw [domains]
    exact Or.inl member
  · intro domain member
    rw [← domains]
    exact mem_getDomainsForDc.mp member
  · intro current pinned
    exact head?_getDomainsForDc pinned

end Balancer

end TgWsProxy.Rust
