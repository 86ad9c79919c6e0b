import TgWsProxy.Python.CfproxyDomains
import TgWsProxy.Rust.Balancer
import TgWsProxy.Rust.ProxyConfig

/-!
# The refreshed CF domains

`refresh_cf_domains` of `main.rs` installs the lines of whatever it is answered.
The refresh of the Python proxy gives the grammar of a host name.
-/

namespace TgWsProxy.Rust

open Lib

/-- `str::lines` behind the beginning of a line, which ends with `\n` or
`\r\n`, or at the end of the text. -/
def linesFrom (line : RustStr) : RustStr → List RustStr
  | [] => if line = [] then [] else [line]
  | char :: text =>
      if char = '\n' then
        (if line.getLast? = some '\r' then line.dropLast else line) ::
          linesFrom [] text
      else linesFrom (line ++ [char]) text

/-- `str::lines`. -/
def lines (text : RustStr) : List RustStr := linesFrom [] text

/-- `str::trim`. -/
def trim (text : RustStr) : RustStr := trimBlanks isWhitespace text

/-- The answer to the request.  There is no text if the body is cut off. -/
structure CfResponse where
  status : Nat
  text : Option RustStr
deriving DecidableEq, Repr

/-- A line which is taken for a domain. -/
def isCfDomain (line : RustStr) : Bool :=
  !line.isEmpty && line.head? ≠ some '#'

/-- The domains of a text. -/
def cfDomains (text : RustStr) : List RustStr :=
  ((lines text).map trim).filter isCfDomain

/-- `refresh_cf_domains`, which is given no response if the request fails. -/
def refreshCfDomains (draws : Nat → Nat) (response : Option CfResponse)
    (balancer : Balancer) : Balancer :=
  match response with
  | some resp =>
      match resp.text with
      | some text =>
          let domains := cfDomains text
          if !domains.isEmpty then balancer.updateDomainsList draws domains
          else balancer
      | none => balancer
  | none => balancer

/-- The domains are those of before, or host names. -/
def KeptOrHosts (table : Python.CharTable) (before after : Balancer) : Prop :=
  after.domains = before.domains ∨
    ∀ domain ∈ after.domains, Python.isValidDomain table domain = true

/-- Each line of the body is blank, a comment or a host name, unless they are
the domains of the balancer. -/
def HarmlessResponse (table : Python.CharTable) (response : Option CfResponse)
    (balancer : Balancer) : Prop :=
  ∀ text, response.bind CfResponse.text = some text →
    cfDomains text = balancer.domains ∨
      ∀ line ∈ lines text, trim line = [] ∨ (trim line).head? = some '#' ∨
        Python.isValidDomain table (trim line) = true

section Refresh

variable {table : Python.CharTable} {text : RustStr} {draws : Nat → Nat}
  {response : Option CfResponse} {balancer : Balancer}

theorem isCfDomain_eq_false (line : RustStr) :
    isCfDomain line = false ↔ line = [] ∨ line.head? = some '#' := by
  unfold isCfDomain
  rw [Bool.and_eq_false_iff, Bool.not_eq_false', List.isEmpty_iff,
    decide_eq_false_iff_not, not_not]

theorem cfDomains_valid_iff (text : RustStr) :
    (∀ domain ∈ cfDomains text, Python.isValidDomain table domain = true) ↔
      ∀ line ∈ lines text, trim line = [] ∨ (trim line).head? = some '#' ∨
        Python.isValidDomain table (trim line) = true := by
  constructor
  · intro valid line isLine
    rw [← or_assoc, ← isCfDomain_eq_false, or_iff_not_imp_left]
    intro taken
    apply valid
    apply List.mem_filter.mpr
    exact ⟨List.mem_map_of_mem isLine, Bool.not_eq_false _ ▸ taken⟩
  · intro harmless domain member
    obtain ⟨mapped, taken⟩ := List.mem_filter.mp member
    obtain ⟨line, isLine, trimmed⟩ := List.mem_map.mp mapped
    have either := harmless line isLine
    rw [← or_assoc, ← isCfDomain_eq_false, trimmed, taken] at either
    exact either.resolve_left Bool.noConfusion

theorem refresh_without_text (silent : response.bind CfResponse.text = none) :
    refreshCfDomains draws response balancer = balancer := by
  cases response with
  | none => rfl
  | some resp =>
      have without : resp.text = none := silent
      simp only [refreshCfDomains, without]

/-- A text is asked for nothing but its domains. -/
theorem domains_refresh_text
    (answered : response.bind CfResponse.text = some text) :
    (refreshCfDomains draws response balancer).domains =
      if cfDomains text = [] then balancer.domains else cfDomains text := by
  cases response with
  | none => cases answered
  | some resp =>
      have present : resp.text = some text := answered
      simp only [refreshCfDomains, present]
      by_cases none : cfDomains text = []
      · simp [none]
      · simp [none, Balancer.domains_updateDomainsList]

/-- A refresh keeps the working domains or installs host names exactly when the
answer is harmless, whatever its status. -/
theorem keptOrHosts_iff (table : Python.CharTable) (draws : Nat → Nat)
    (response : Option CfResponse) (balancer : Balancer) :
    KeptOrHosts table balancer (refreshCfDomains draws response balancer) ↔
      HarmlessResponse table response balancer := by
  cases answered : response.bind CfResponse.text with
  | none =>
      apply iff_of_true
      · exact Or.inl (congrArg Balancer.domains (refresh_without_text answered))
      · intro text present
        rw [answered] at present
        cases present
  | some text =>
      simp only [KeptOrHosts, domains_refresh_text answered, HarmlessResponse,
        answered, Option.some.injEq, forall_eq', ← cfDomains_valid_iff]
      split
      · rename_i none
        apply iff_of_true (Or.inl rfl)
        apply Or.inr
        intro domain member
        rw [none] at member
        cases member
      · exact Iff.rfl

/-- The page of a server which has no list. -/
def errorPage : CfResponse :=
  ⟨404, some "<html>Not Found</html>".toList⟩

theorem errorPage_installed :
    ¬ KeptOrHosts Python.CharTable.ascii ⟨["cdn.example".toList], ∅⟩
      (refreshCfDomains (fun _ => 0) (some errorPage)
        ⟨["cdn.example".toList], ∅⟩) := by
  have installed : (refreshCfDomains (fun _ => 0) (some errorPage)
      ⟨["cdn.example".toList], ∅⟩).domains =
        ["<html>Not Found</html>".toList] := by
    decide +kernel
  rw [KeptOrHosts, installed]
  decide +kernel

end Refresh

end TgWsProxy.Rust
