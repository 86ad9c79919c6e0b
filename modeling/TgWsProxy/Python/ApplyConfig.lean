import TgWsProxy.Python.TrayConfig
import Mathlib.Algebra.Ring.Rat

/-!
# Applying the configuration

`apply_proxy_config` of `utils/tray_common.py` writes the values of a dictionary to
the shared `proxy_config` one after the other.  The redirects are checked before
the first assignment, and the numbers are compared in between.
-/

namespace TgWsProxy.Python

open Lib

/-- The exceptions of the conversions. -/
inductive ConfigError where
  | valueError
  | typeError
  | attributeError
deriving DecidableEq, Repr

/-- An entry of `parse_dc_ip_list`.  A list and a dictionary may contain `":"`,
and have no `split`. -/
def parseDcIpEntry (py : Builtins) (redirects : Dictionary Int String) :
    JsonValue → Except ConfigError (Dictionary Int String)
  | .str entry => (parseDcIp py redirects entry).mapError fun _ => .valueError
  | .list items =>
      if items.any (·.eq (.str ":")) then .error .attributeError
      else .error .valueError
  | .dict items =>
      if items.any (·.1 == ":") then .error .attributeError
      else .error .valueError
  | _ => .error .typeError

/-- `parse_dc_ip_list` of any value; a text is read character by character, and
a dictionary key by key. -/
def parseDcIpValue (py : Builtins) :
    JsonValue → Except ConfigError (Dictionary Int String)
  | .list entries => entries.foldlM (parseDcIpEntry py) ∅
  | .str text =>
      (text.toList.map fun char => .str (String.singleton char)).foldlM
        (parseDcIpEntry py) ∅
  | .dict items =>
      (items.map fun item => .str item.1).foldlM (parseDcIpEntry py) ∅
  | _ => .error .typeError

/-- `>` of a float and a number. -/
def PyFloat.above : PyFloat → Rat → Bool
  | .finite value, bound => bound < value
  | .infinite negative, _ => !negative
  | .nan, _ => false

/-- `max(least, value)`, where `bound` is the number `least`. -/
def maxWith (least : JsonValue) (bound : Rat) (value : JsonValue) :
    Except ConfigError JsonValue :=
  match value.number with
  | some number => .ok (if number.above bound then value else least)
  | none => .error .typeError

/-- A float times 1024, which is exact up to the largest float. -/
def PyFloat.kib : PyFloat → PyFloat
  | .finite value =>
      if -2 ^ 1024 < value * 1024 ∧ value * 1024 < 2 ^ 1024 then
        .finite (value * 1024)
      else .infinite (value < 0)
  | .infinite negative => .infinite negative
  | .nan => .nan

/-- `number * 1024`. -/
def JsonValue.kib : JsonValue → JsonValue
  | .bool value => .int (if value then 1024 else 0)
  | .int value => .int (value * 1024)
  | .float value => .float value.kib
  | value => value

def bufferSizeOf (bufKb : JsonValue) : Except ConfigError JsonValue :=
  (maxWith (.int 4) 4 bufKb).map JsonValue.kib

def poolSizeOf (poolSize : JsonValue) : Except ConfigError JsonValue :=
  maxWith (.int 0) 0 poolSize

def shutdownTimeoutOf (timeout : JsonValue) : Except ConfigError JsonValue :=
  maxWith (.float (.finite (1 / 2))) (1 / 2) timeout

/-- The fields of `proxy_config` which are assigned. -/
structure SharedConfig where
  port : JsonValue
  host : JsonValue
  secret : JsonValue
  dcRedirects : Dictionary Int String
  bufferSize : JsonValue
  poolSize : JsonValue
  fallbackCfproxy : JsonValue
  cfproxyUserDomains : List String
  cfproxyWorkerDomains : List String
  fakeTlsDomain : JsonValue
  proxyProtocol : JsonValue
  shutdownTimeout : JsonValue

/-- `cfg.get(key, DEFAULT_CONFIG[key])`. -/
def configured (defaults cfg : ConfigDict) (key : String) : JsonValue :=
  (cfg.lookup key).getD (getItem defaults key)

section Assignments

variable (py : Builtins) (value : String → JsonValue)

/-- The assignments before `buffer_size`. -/
def assignEndpoint (redirects : Dictionary Int String) (pc : SharedConfig) :
    SharedConfig :=
  { pc with
    port := value "port"
    host := value "host"
    secret := value "secret"
    dcRedirects := redirects }

/-- The assignments of `pool_size` and what follows it. -/
def assignFallback (poolSize : JsonValue) (pc : SharedConfig) : SharedConfig :=
  { pc with
    poolSize
    fallbackCfproxy := value "cfproxy"
    cfproxyUserDomains := coerceDomainList py (value "cfproxy_user_domain")
    cfproxyWorkerDomains := coerceDomainList py (value "cfproxy_worker_domain")
    fakeTlsDomain := value "fake_tls_domain"
    proxyProtocol := value "proxy_protocol" }

/-- The assignments once the redirects are parsed. -/
def assignFields (redirects : Dictionary Int String) (pc : SharedConfig) :
    Except ConfigError Bool × SharedConfig :=
  let pc := assignEndpoint value redirects pc
  match bufferSizeOf (value "buf_kb") with
  | .error error => (.error error, pc)
  | .ok bufferSize =>
      let pc := { pc with bufferSize }
      match poolSizeOf (value "pool_size") with
      | .error error => (.error error, pc)
      | .ok poolSize =>
          let pc := assignFallback py value poolSize pc
          match shutdownTimeoutOf (value "shutdown_timeout") with
          | .error error => (.error error, pc)
          | .ok shutdownTimeout => (.ok true, { pc with shutdownTimeout })

end Assignments

/-- `apply_proxy_config`; only a `ValueError` of the redirects is caught. -/
def applyProxyConfig (py : Builtins) (defaults cfg : ConfigDict)
    (pc : SharedConfig) : Except ConfigError Bool × SharedConfig :=
  let value := configured defaults cfg
  match parseDcIpValue py (value "dc_ip") with
  | .error .valueError => (.ok false, pc)
  | .error error => (.error error, pc)
  | .ok redirects => assignFields py value redirects pc

/-- The configuration which a dictionary describes, if it describes one. -/
def describedConfig (py : Builtins) (defaults cfg : ConfigDict) :
    Except ConfigError SharedConfig := do
  let value := configured defaults cfg
  let dcRedirects ← parseDcIpValue py (value "dc_ip")
  let bufferSize ← bufferSizeOf (value "buf_kb")
  let poolSize ← poolSizeOf (value "pool_size")
  let shutdownTimeout ← shutdownTimeoutOf (value "shutdown_timeout")
  return {
    port := value "port"
    host := value "host"
    secret := value "secret"
    dcRedirects
    bufferSize
    poolSize
    fallbackCfproxy := value "cfproxy"
    cfproxyUserDomains := coerceDomainList py (value "cfproxy_user_domain")
    cfproxyWorkerDomains := coerceDomainList py (value "cfproxy_worker_domain")
    fakeTlsDomain := value "fake_tls_domain"
    proxyProtocol := value "proxy_protocol"
    shutdownTimeout }

/-- The dictionary is applied as a whole, or a failure is reported and nothing
has changed. -/
def AllOrNothing (py : Builtins) (defaults cfg : ConfigDict)
    (before : SharedConfig) : Prop :=
  match applyProxyConfig py defaults cfg before with
  | (.ok true, after) => describedConfig py defaults cfg = .ok after
  | (.ok false, after) => after = before
  | (.error _, after) => after = before

/-- The fields before `buffer_size` have the values already. -/
structure SameEndpoint (value : String → JsonValue)
    (redirects : Dictionary Int String) (pc : SharedConfig) : Prop where
  port : pc.port = value "port"
  host : pc.host = value "host"
  secret : pc.secret = value "secret"
  dcRedirects : pc.dcRedirects = redirects

/-- The fields behind `buffer_size` and before `shutdown_timeout` do. -/
structure SameFallback (py : Builtins) (value : String → JsonValue)
    (poolSize : JsonValue) (pc : SharedConfig) : Prop where
  poolSize : pc.poolSize = poolSize
  fallbackCfproxy : pc.fallbackCfproxy = value "cfproxy"
  cfproxyUserDomains :
    pc.cfproxyUserDomains = coerceDomainList py (value "cfproxy_user_domain")
  cfproxyWorkerDomains :
    pc.cfproxyWorkerDomains =
      coerceDomainList py (value "cfproxy_worker_domain")
  fakeTlsDomain : pc.fakeTlsDomain = value "fake_tls_domain"
  proxyProtocol : pc.proxyProtocol = value "proxy_protocol"

/-- The redirects do not parse, or `buf_kb`, `pool_size` and `shutdown_timeout` are
numbers, or what precedes the first of them that is none is not new. -/
def Applicable (py : Builtins) (defaults cfg : ConfigDict)
    (before : SharedConfig) : Prop :=
  let value := configured defaults cfg
  ∀ redirects, parseDcIpValue py (value "dc_ip") = .ok redirects →
    (∀ key ∈ ["buf_kb", "pool_size", "shutdown_timeout"],
      (value key).number.isSome = true) ∨
    SameEndpoint value redirects before ∧
      ∀ bufferSize, bufferSizeOf (value "buf_kb") = .ok bufferSize →
        before.bufferSize = bufferSize ∧
          ∀ poolSize, poolSizeOf (value "pool_size") = .ok poolSize →
            SameFallback py value poolSize before

section Application

variable {py : Builtins} {value : String → JsonValue} {defaults cfg : ConfigDict}
  {redirects : Dictionary Int String} {pc before : SharedConfig}

theorem assignEndpoint_eq_iff :
    assignEndpoint value redirects pc = pc ↔ SameEndpoint value redirects pc := by
  constructor
  · intro same
    rw [← same]
    exact ⟨rfl, rfl, rfl, rfl⟩
  · intro same
    simp only [assignEndpoint, ← same.port, ← same.host, ← same.secret,
      ← same.dcRedirects]

theorem assignSize_eq_iff {bufferSize : JsonValue} :
    { assignEndpoint value redirects pc with bufferSize } = pc ↔
      SameEndpoint value redirects pc ∧ pc.bufferSize = bufferSize := by
  constructor
  · intro same
    rw [← same]
    exact ⟨⟨rfl, rfl, rfl, rfl⟩, rfl⟩
  · intro ⟨endpoint, size⟩
    rw [assignEndpoint_eq_iff.mpr endpoint, ← size]

theorem assignFallback_eq_iff {bufferSize poolSize : JsonValue} :
    assignFallback py value poolSize
        { assignEndpoint value redirects pc with bufferSize } = pc ↔
      SameEndpoint value redirects pc ∧ pc.bufferSize = bufferSize ∧
        SameFallback py value poolSize pc := by
  constructor
  · intro same
    rw [← same]
    exact ⟨⟨rfl, rfl, rfl, rfl⟩, rfl, ⟨rfl, rfl, rfl, rfl, rfl, rfl⟩⟩
  · intro ⟨endpoint, size, same⟩
    rw [assignSize_eq_iff.mpr ⟨endpoint, size⟩]
    simp only [assignFallback, ← same.poolSize, ← same.fallbackCfproxy,
      ← same.cfproxyUserDomains, ← same.cfproxyWorkerDomains,
      ← same.fakeTlsDomain, ← same.proxyProtocol]

theorem maxWith_error (least : JsonValue) (bound : Rat) {item : JsonValue}
    (noNumber : item.number.isSome = false) :
    maxWith least bound item = .error .typeError := by
  rw [Option.isSome_eq_false_iff, Option.isNone_iff_eq_none] at noNumber
  simp only [maxWith, noNumber]

theorem maxWith_ok (least : JsonValue) (bound : Rat) {item : JsonValue}
    (isNumber : item.number.isSome = true) :
    ∃ result, maxWith least bound item = .ok result := by
  obtain ⟨number, found⟩ := Option.isSome_iff_exists.mp isNumber
  simp only [maxWith, found]
  exact ⟨_, rfl⟩

theorem bufferSizeOf_error {item : JsonValue}
    (noNumber : item.number.isSome = false) :
    bufferSizeOf item = .error .typeError := by
  rw [bufferSizeOf, maxWith_error _ _ noNumber]
  rfl

theorem bufferSizeOf_ok {item : JsonValue}
    (isNumber : item.number.isSome = true) :
    ∃ result, bufferSizeOf item = .ok result := by
  obtain ⟨result, found⟩ := maxWith_ok (.int 4) 4 isNumber
  rw [bufferSizeOf, found]
  exact ⟨_, rfl⟩

/-- A configuration is applied as a whole or not at all exactly if nothing new
is assigned before the first value which is no number. -/
theorem allOrNothing_iff (py : Builtins) (defaults cfg : ConfigDict)
    (before : SharedConfig) :
    AllOrNothing py defaults cfg before ↔
      Applicable py defaults cfg before := by
  unfold AllOrNothing Applicable applyProxyConfig describedConfig
  generalize configured defaults cfg = value
  simp only
  cases parsed : parseDcIpValue py (value "dc_ip") with
  | error error =>
      have nothing : ∀ redirects, Except.error error ≠
          (.ok redirects : Except ConfigError (Dictionary Int String)) :=
        fun _ => nofun
      cases error with
      | valueError => simp [nothing]
      | typeError => simp [nothing]
      | attributeError => simp [nothing]
  | ok redirects =>
      simp only [Except.ok.injEq, forall_eq', List.forall_mem_cons,
        List.not_mem_nil, false_imp_iff, implies_true, and_true, assignFields]
      cases bufKb : (value "buf_kb").number.isSome with
      | false =>
          simp only [bufferSizeOf_error bufKb, Bool.false_eq_true, false_and,
            false_or, reduceCtorEq, false_imp_iff, implies_true, and_true]
          exact assignEndpoint_eq_iff
      | true =>
          obtain ⟨bufferSize, size⟩ := bufferSizeOf_ok bufKb
          cases poolKey : (value "pool_size").number.isSome with
          | false =>
              have failed : poolSizeOf (value "pool_size") = .error .typeError :=
                maxWith_error _ _ poolKey
              simp only [size, failed, Bool.false_eq_true, false_and, and_false,
                false_or, reduceCtorEq, false_imp_iff, implies_true, and_true,
                Except.ok.injEq, forall_eq']
              exact assignSize_eq_iff
          | true =>
              obtain ⟨poolSize, pool⟩ :
                  ∃ poolSize, poolSizeOf (value "pool_size") = .ok poolSize :=
                maxWith_ok _ _ poolKey
              cases timeoutKey : (value "shutdown_timeout").number.isSome with
              | false =>
                  have failed : shutdownTimeoutOf (value "shutdown_timeout") =
                      .error .typeError := maxWith_error _ _ timeoutKey
                  simp only [size, pool, failed, Bool.false_eq_true, and_false,
                    false_or, Except.ok.injEq, forall_eq']
                  exact assignFallback_eq_iff
              | true =>
                  obtain ⟨timeout, found⟩ : ∃ timeout,
                      shutdownTimeoutOf (value "shutdown_timeout") =
                        .ok timeout := maxWith_ok _ _ timeoutKey
                  simp only [size, pool, found, true_and, true_or, iff_true]
                  rfl

/-- The dictionaries which `load_config` returns for what is stored. -/
theorem applyProxyConfig_all_or_nothing_iff (py : Builtins)
    (platform : Platform) (secret : String) (stored : Option ConfigDict)
    (before : SharedConfig) :
    let defaults := defaultTrayConfig platform secret
    AllOrNothing py defaults (loadConfig defaults stored) before ↔
      Applicable py defaults (loadConfig defaults stored) before :=
  allOrNothing_iff py _ _ before

end Application

/-- A stored configuration with a new port, in which the buffer size is a text. -/
def quotedBufKb : ConfigDict :=
  Dictionary.setItems ∅
    [("port", .int 8443), ("dc_ip", .list []), ("buf_kb", .str "256")]

def noBuiltins : Builtins :=
  ⟨fun _ => false, fun _ => none, fun _ => none, id, id⟩

/-- The values with which `proxy_config` starts. -/
def startConfig : SharedConfig :=
  ⟨.int 1443, .str "127.0.0.1", .str "00112233445566778899aabbccddeeff", ∅,
    .int 262144, .int 4, .bool true, [], [], .str "", .bool false,
    .float (.finite 10)⟩

/-- The port has changed when the `TypeError` is raised. -/
theorem quotedBufKb_changes_port :
    let defaults := defaultTrayConfig .linux "00112233445566778899aabbccddeeff"
    ¬ AllOrNothing noBuiltins defaults
      (loadConfig defaults (some quotedBufKb)) startConfig := by
  intro defaults unchanged
  have raised : (applyProxyConfig noBuiltins defaults
      (loadConfig defaults (some quotedBufKb)) startConfig).1 =
        .error .typeError := rfl
  have changed : (applyProxyConfig noBuiltins defaults
      (loadConfig defaults (some quotedBufKb)) startConfig).2.port =
        .int 8443 := rfl
  unfold AllOrNothing at unchanged
  split at unchanged
  · rename_i applied
    rw [applied] at raised
    cases raised
  · rename_i refused
    rw [refused] at raised
    cases raised
  · rename_i failed
    rw [failed, unchanged] at changed
    cases changed

end TgWsProxy.Python
