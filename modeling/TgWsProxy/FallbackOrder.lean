import TgWsProxy.Python.Session
import TgWsProxy.Rust.Session

/-!
# What the fallbacks try

`do_fallback` and `do_fallback_tcp_ws` are given the same answers, and the
endpoints to which they turn are compared: which they try and in which order,
and over which one they bridge.
-/

namespace TgWsProxy

open Lib

inductive Endpoint where
  | webSocket (host domain path : String)
  | tcp (dst : String) (port : Nat)
deriving DecidableEq, Repr

/-- The path of a worker, whether its connection is pooled or new. -/
def workerPath (dc : Nat) (fallbackDst : String) : String :=
  "/apiws?dst=" ++ fallbackDst ++ "&dc=" ++ toString dc

/-- What comes of what a fallback asks for.  The transports are counted from the
first one which it opens. -/
structure FallbackAnswers where
  /-- What `random.shuffle` makes of the workers. -/
  order : (workerDomains : List String) →
    { order : List String // order.Perm workerDomains }
  baseDomains : List String
  pooled : String → Bool
  connects : String → String → String → Except ConnectError Unit
  tcp : Bool
  sent : Nat → Bool
  drained : Nat → Bool
  effect : BridgeEffect

structure FallbackTrace where
  attempts : List Endpoint
  bridged : Option Endpoint
deriving DecidableEq, Repr

namespace SessionOp

variable {Splitter : Type}

/-- The endpoint which a call tries: a lookup in a pool tries one if there is a
connection. -/
def endpoint : (op : SessionOp Splitter) → op.Reply → Option Endpoint
  | .find (.cfWorkerPool dc workerDomain fallbackDst), some _ =>
      some (.webSocket workerDomain workerDomain (workerPath dc fallbackDst))
  | .find (.tcp dst port), _ => some (.tcp dst port)
  | .connect host domain path _, _ => some (.webSocket host domain path)
  | _, _ => none

/-- The transport which a call gives. -/
def opens : (op : SessionOp Splitter) → op.Reply → Option Nat
  | .find _, transport => transport
  | .connect _ _ _ _, .ok transport => some transport
  | _, _ => none

/-- The transport over which a call bridges. -/
def bridgesOver : SessionOp Splitter → Option Nat
  | .bridge transport _ => some transport
  | _ => none

end SessionOp

def FallbackTrace.ofCalls {Splitter : Type}
    (calls : List (Program.Performed (sessionWorld Splitter))) :
    FallbackTrace where
  attempts := calls.filterMap fun call => call.op.endpoint call.reply
  bridged := (calls.findSome? fun call => call.op.bridgesOver).bind
    fun transport => calls.findSome? fun call =>
      if call.op.opens call.reply = some transport
      then call.op.endpoint call.reply else none

namespace FallbackAnswers

variable {Splitter Result : Type}

def finds (answers : FallbackAnswers) : TransportSource → Bool
  | .wsPool _ _ _ _ => false
  | .cfWorkerPool _ workerDomain _ => answers.pooled workerDomain
  | .tcp _ _ => answers.tcp

/-- A fallback makes no other calls than those which have an answer of their
own. -/
def outcome (answers : FallbackAnswers) :
    (op : SessionOp Splitter) → op.Outcome
  | .now => (0 : Nat)
  | .isBlacklisted _ | .failUntil _ => ()
  | .blacklist _ | .setFailUntil _ _ | .clearFailUntil _ => ()
  | .find source => answers.finds source
  | .shuffleWorkers workerDomains => answers.order workerDomains
  | .getDomainsForDc _ => answers.baseDomains
  | .connect host domain path _ => answers.connects host domain path
  | .send transport _ => answers.sent transport
  | .drain transport => answers.drained transport
  | .write _ _ => ()
  | .bridge _ _ => answers.effect

def calls (answers : FallbackAnswers) (program : SessionProgram Splitter Result)
    (s : SessionState Splitter) : List (Program.Performed (sessionWorld Splitter)) :=
  program.history (sessionWorld Splitter) (fun _ => answers.outcome) s

/-- The endpoints which are tried, and the one over which is bridged. -/
def trace (answers : FallbackAnswers) (program : SessionProgram Splitter Result)
    (s : SessionState Splitter) : FallbackTrace :=
  FallbackTrace.ofCalls (answers.calls program s)

end FallbackAnswers

/-- What Python tries, and what Rust tries when it visits the workers in the
same order. -/
def pythonTrace (answers : FallbackAnswers) (config : RouteConfig) (dc : Nat)
    (relayInit : Bytes) (splitter : Option Python.MsgSplitter)
    (ctx : CryptoCtx) : FallbackTrace :=
  answers.trace (Python.doFallback config dc relayInit splitter)
    (SessionState.start ctx [] [])

def rustTrace (answers : FallbackAnswers) (crypto : Primitives)
    (config : RouteConfig) (dc : Nat) (relayInit : Bytes) (ctx : CryptoCtx) :
    FallbackTrace :=
  answers.trace
    (Rust.doFallbackTcpWs crypto
      { config with
        cfproxyWorkerDomains := (answers.order config.cfproxyWorkerDomains).1 }
      dc relayInit)
    (SessionState.start ctx [] [])

/-- Where the two fallbacks try the same: without a default address no CF proxy
is tried; with one the first worker is in the pool and takes the header, or
there are no workers and no CF proxy, and what Python drains Rust has written. -/
def FallbacksAgree (answers : FallbackAnswers) (config : RouteConfig)
    (dc : Nat) : Prop :=
  let cfProxyEmpty := config.fallbackCfproxy = true → answers.baseDomains = []
  match dcDefaultIps.lookup (dc : Int),
    (answers.order config.cfproxyWorkerDomains).1 with
  | none, _ => cfProxyEmpty
  | some _, workerDomain :: _ =>
      answers.pooled workerDomain = true ∧ answers.sent 0 = true
  | some _, [] => cfProxyEmpty ∧
      (answers.tcp = true → answers.drained 0 = true → answers.sent 0 = true)

section Calls

variable {Splitter Result : Type} {answers : FallbackAnswers}
  {s : SessionState Splitter}

theorem calls_act (op : SessionOp Splitter)
    (next : op.Reply → SessionProgram Splitter Result) :
    answers.calls (act op >>= next) s =
      ⟨s, op, ((sessionWorld Splitter).perform s op (answers.outcome op)).1⟩ ::
        answers.calls
          (next ((sessionWorld Splitter).perform s op (answers.outcome op)).1)
          ((sessionWorld Splitter).perform s op (answers.outcome op)).2 :=
  rfl

theorem calls_found (source : TransportSource)
    {next : Option Nat → SessionProgram Splitter Result}
    (found : answers.finds source = true) :
    answers.calls (act (.find source) >>= next) s =
      ⟨s, .find source, some s.transports.length⟩ ::
        answers.calls (next (some s.transports.length)) s.openTransport.2 := by
  have performed : (sessionWorld Splitter).perform s (.find source)
      (answers.outcome (.find source : SessionOp Splitter)) =
        (some s.transports.length, s.openTransport.2) := by
    change (if answers.finds source then _ else _) = _
    rw [found]
    rfl
  rw [calls_act, performed]

theorem calls_missed (source : TransportSource)
    {next : Option Nat → SessionProgram Splitter Result}
    (missed : answers.finds source = false) :
    answers.calls (act (.find source) >>= next) s =
      ⟨s, .find source, none⟩ :: answers.calls (next none) s := by
  have performed : (sessionWorld Splitter).perform s (.find source)
      (answers.outcome (.find source : SessionOp Splitter)) = (none, s) := by
    change (if answers.finds source then _ else _) = _
    rw [missed]
    rfl
  rw [calls_act, performed]

theorem calls_send (transport : Nat) (payload : Bytes)
    (next : Bool → SessionProgram Splitter Result) :
    answers.calls (act (.send transport payload) >>= next) s =
      ⟨s, .send transport payload, answers.sent transport⟩ ::
        answers.calls (next (answers.sent transport))
          (s.give transport [payload]) :=
  rfl

theorem calls_write (transport : Nat) (payload : Bytes)
    (next : Unit → SessionProgram Splitter Result) :
    answers.calls (act (.write transport payload) >>= next) s =
      ⟨s, .write transport payload, ()⟩ ::
        answers.calls (next ()) (s.give transport [payload]) :=
  rfl

theorem calls_drain (transport : Nat)
    (next : Bool → SessionProgram Splitter Result) :
    answers.calls (act (.drain transport) >>= next) s =
      ⟨s, .drain transport, answers.drained transport⟩ ::
        answers.calls (next (answers.drained transport)) s :=
  rfl

end Calls

section Traces

variable {Splitter : Type} {call : Program.Performed (sessionWorld Splitter)}
  {calls : List (Program.Performed (sessionWorld Splitter))}

/-- The first endpoint which is tried is one of these. -/
def StartsWith (begins : Endpoint → Prop)
    (calls : List (Program.Performed (sessionWorld Splitter))) : Prop :=
  ∃ endpoint ∈ (FallbackTrace.ofCalls calls).attempts.head?, begins endpoint

theorem startsWith_cons_of_none {begins : Endpoint → Prop}
    (none : call.op.endpoint call.reply = none)
    (later : StartsWith begins calls) : StartsWith begins (call :: calls) := by
  obtain ⟨endpoint, first, isFirst⟩ := later
  refine ⟨endpoint, ?_, isFirst⟩
  simp only [FallbackTrace.ofCalls, List.filterMap_cons, none]
  exact first

theorem startsWith_cons_of_some {begins : Endpoint → Prop}
    {endpoint : Endpoint} (tried : call.op.endpoint call.reply = some endpoint)
    (isFirst : begins endpoint) : StartsWith begins (call :: calls) := by
  refine ⟨endpoint, ?_, isFirst⟩
  simp only [FallbackTrace.ofCalls, List.filterMap_cons, tried]
  rfl

theorem ofCalls_ne_of_starts {Other : Type} {begins beginsOther : Endpoint → Prop}
    {others : List (Program.Performed (sessionWorld Other))}
    (first : StartsWith begins calls) (second : StartsWith beginsOther others)
    (apart : ∀ endpoint, begins endpoint → ¬ beginsOther endpoint) :
    FallbackTrace.ofCalls calls ≠ FallbackTrace.ofCalls others := by
  intro same
  obtain ⟨endpoint, found, isFirst⟩ := first
  obtain ⟨other, foundOther, isSecond⟩ := second
  rw [same] at found
  cases found.symm.trans foundOther
  exact apart endpoint isFirst isSecond

/-- A call which tries nothing, opens nothing and bridges nothing. -/
theorem ofCalls_cons_quiet (untried : call.op.endpoint call.reply = none)
    (unopened : call.op.opens call.reply = none)
    (unbridged : call.op.bridgesOver = none) :
    FallbackTrace.ofCalls (call :: calls) = FallbackTrace.ofCalls calls := by
  simp only [FallbackTrace.ofCalls, List.filterMap_cons, List.findSome?_cons,
    untried, unopened, unbridged, reduceCtorEq, if_false]

end Traces

section Rust

variable {answers : FallbackAnswers} {crypto : Primitives}
  {config : RouteConfig} {dc : Nat} {dst : String} {relayInit : Bytes}
  {s : SessionState Rust.MsgSplitter}

/-- The fallback behind the check of the address. -/
def rustFallback (crypto : Primitives) (config : RouteConfig) (dc : Nat)
    (dst : String) (relayInit : Bytes) (workerDomains : List String) :
    SessionProgram Rust.MsgSplitter Unit := do
  let settled ← Rust.cfWorkerLoop crypto dc dst relayInit workerDomains
  if settled then return ()
  else Rust.cfProxyOrTcp crypto config dc dst relayInit

/-- The endpoints with which the Rust fallback can begin. -/
def BeginsRust (answers : FallbackAnswers) (dc : Nat) (dst : String)
    (endpoint : Endpoint) : Prop :=
  (∃ workerDomain, answers.pooled workerDomain = true ∧
    endpoint = .webSocket workerDomain workerDomain (workerPath dc dst)) ∨
  (∃ domain, endpoint = .webSocket domain domain ("/" ++ dst)) ∨
  endpoint = .tcp dst 443

theorem rustTcp_starts (s : SessionState Rust.MsgSplitter) :
    StartsWith (BeginsRust answers dc dst)
      (answers.calls (Rust.tcpFallback dst relayInit) s) := by
  apply startsWith_cons_of_some rfl
  exact Or.inr (Or.inr rfl)

theorem rustProxyOrTcp_starts (s : SessionState Rust.MsgSplitter) :
    StartsWith (BeginsRust answers dc dst)
      (answers.calls (Rust.cfProxyOrTcp crypto config dc dst relayInit) s) := by
  unfold Rust.cfProxyOrTcp
  split
  · apply startsWith_cons_of_none rfl
    change StartsWith _ (answers.calls (do
      let settled ← Rust.cfProxyLoop crypto dst relayInit answers.baseDomains
      if settled then return () else Rust.tcpFallback dst relayInit) s)
    cases answers.baseDomains with
    | nil => exact rustTcp_starts s
    | cons domain domains =>
        apply startsWith_cons_of_some rfl
        exact Or.inr (Or.inl ⟨domain, rfl⟩)
  · exact rustTcp_starts s

/-- The Rust fallback tries something, and the workers which are not in the pool
are left out. -/
theorem rustFallback_starts (workerDomains : List String)
    (s : SessionState Rust.MsgSplitter) :
    StartsWith (BeginsRust answers dc dst)
      (answers.calls
        (rustFallback crypto config dc dst relayInit workerDomains) s) := by
  induction workerDomains with
  | nil => exact rustProxyOrTcp_starts s
  | cons workerDomain workerDomains induction =>
      cases pooled : answers.pooled workerDomain with
      | true =>
          change StartsWith _ (answers.calls
            (act (.find (.cfWorkerPool dc workerDomain dst)) >>= _) s)
          rw [calls_found (.cfWorkerPool dc workerDomain dst) pooled]
          apply startsWith_cons_of_some rfl
          exact Or.inl ⟨workerDomain, pooled, rfl⟩
      | false =>
          change StartsWith _ (answers.calls
            (act (.find (.cfWorkerPool dc workerDomain dst)) >>= _) s)
          rw [calls_missed (.cfWorkerPool dc workerDomain dst) pooled]
          apply startsWith_cons_of_none rfl
          exact induction

/-- The relay header is written to the data centre, and the stream flushed. -/
theorem rustTcp_trace (unopened : s.transports = []) :
    answers.trace (Rust.tcpFallback dst relayInit) s =
      ⟨[.tcp dst 443],
        if answers.tcp && (answers.sent 0 && answers.drained 0)
        then some (.tcp dst 443) else none⟩ := by
  change FallbackTrace.ofCalls (answers.calls
    (act (.find (.tcp dst 443)) >>= _) s) = _
  cases tcp : answers.tcp with
  | false =>
      rw [calls_missed (.tcp dst 443) tcp]
      rfl
  | true =>
      rw [calls_found (.tcp dst 443) tcp, unopened]
      change FallbackTrace.ofCalls (⟨s, .find (.tcp dst 443), some 0⟩ ::
        answers.calls (act (.send 0 relayInit) >>= _) _) = _
      rw [calls_send]
      cases answers.sent 0 with
      | false => rfl
      | true =>
          change FallbackTrace.ofCalls (⟨s, .find (.tcp dst 443), some 0⟩ ::
            ⟨_, .send 0 relayInit, true⟩ ::
              answers.calls (act (.drain 0) >>= _) _) = _
          rw [calls_drain]
          cases answers.drained 0 with
          | false => rfl
          | true => rfl

theorem rustProxyOrTcp_trace
    (noProxy : config.fallbackCfproxy = true → answers.baseDomains = []) :
    answers.trace (Rust.cfProxyOrTcp crypto config dc dst relayInit) s =
      answers.trace (Rust.tcpFallback dst relayInit) s := by
  unfold Rust.cfProxyOrTcp
  split
  · rename_i useCfproxy
    change FallbackTrace.ofCalls
      (⟨s, .getDomainsForDc dc, answers.baseDomains⟩ :: answers.calls (do
        let settled ← Rust.cfProxyLoop crypto dst relayInit answers.baseDomains
        if settled then return () else Rust.tcpFallback dst relayInit) s) = _
    rw [ofCalls_cons_quiet rfl rfl rfl, noProxy useCfproxy]
    rfl
  · rfl

/-- The first worker is in the pool and takes the header. -/
theorem rustPooled_trace {workerDomain : String} {workerDomains : List String}
    (unopened : s.transports = [])
    (pooled : answers.pooled workerDomain = true)
    (sent : answers.sent 0 = true) (relaySize : relayInit.length = 64) :
    answers.trace (rustFallback crypto config dc dst relayInit
        (workerDomain :: workerDomains)) s =
      ⟨[.webSocket workerDomain workerDomain (workerPath dc dst)],
        some (.webSocket workerDomain workerDomain (workerPath dc dst))⟩ := by
  obtain ⟨splitter, made, -, -⟩ := @Rust.MsgSplitter.new_eq crypto relayInit
    Rust.protoIntermediate (by omega)
  change FallbackTrace.ofCalls (answers.calls
    (act (.find (.cfWorkerPool dc workerDomain dst)) >>= _) s) = _
  rw [calls_found (.cfWorkerPool dc workerDomain dst) pooled, unopened]
  change FallbackTrace.ofCalls (_ ::
    answers.calls (act (.send 0 relayInit) >>= _) _) = _
  rw [calls_send, sent]
  change FallbackTrace.ofCalls (_ :: _ :: answers.calls ((do
      Rust.splitAndBridge crypto relayInit Rust.protoIntermediate 0
      return true) >>= _) _) = _
  simp only [Rust.splitAndBridge, made]
  rfl

/-- When the worker does not take the header, Rust goes on. -/
theorem rustUnsent_attempts {workerDomain : String}
    {workerDomains : List String} (unopened : s.transports = [])
    (pooled : answers.pooled workerDomain = true)
    (unsent : answers.sent 0 = false) :
    2 ≤ (answers.trace (rustFallback crypto config dc dst relayInit
      (workerDomain :: workerDomains)) s).attempts.length := by
  change 2 ≤ (FallbackTrace.ofCalls (answers.calls
    (act (.find (.cfWorkerPool dc workerDomain dst)) >>= _) s)).attempts.length
  rw [calls_found (.cfWorkerPool dc workerDomain dst) pooled, unopened]
  change 2 ≤ (FallbackTrace.ofCalls (_ ::
    answers.calls (act (.send 0 relayInit) >>= _) _)).attempts.length
  rw [calls_send, unsent]
  obtain ⟨endpoint, first, -⟩ := @rustFallback_starts answers crypto config dc dst
    relayInit workerDomains (s.openTransport.2.give 0 [relayInit])
  change 2 ≤ (_ :: (FallbackTrace.ofCalls (answers.calls (rustFallback crypto
    config dc dst relayInit workerDomains) _)).attempts).length
  cases rest : (FallbackTrace.ofCalls (answers.calls (rustFallback crypto
    config dc dst relayInit workerDomains)
      (s.openTransport.2.give 0 [relayInit]))).attempts with
  | nil =>
      rw [rest] at first
      cases first
  | cons next later =>
      simp only [List.length_cons]
      omega

end Rust

section Python

variable {answers : FallbackAnswers} {config : RouteConfig} {dc : Nat}
  {dst : String} {relayInit : Bytes} {splitter : Option Python.MsgSplitter}
  {s : SessionState Python.MsgSplitter}

theorem pythonTcp_trace (unopened : s.transports = []) :
    answers.trace (Python.tryMethods config dc (some dst) relayInit splitter
        [.tcp]) s =
      ⟨[.tcp dst 443],
        if answers.tcp && answers.drained 0
        then some (.tcp dst 443) else none⟩ := by
  change FallbackTrace.ofCalls (answers.calls
    (act (.find (.tcp dst 443)) >>= _) s) = _
  cases tcp : answers.tcp with
  | false =>
      rw [calls_missed (.tcp dst 443) tcp]
      rfl
  | true =>
      rw [calls_found (.tcp dst 443) tcp, unopened]
      change FallbackTrace.ofCalls (⟨s, .find (.tcp dst 443), some 0⟩ ::
        answers.calls (act (.write 0 relayInit) >>= _) _) = _
      rw [calls_write]
      change FallbackTrace.ofCalls (⟨s, .find (.tcp dst 443), some 0⟩ ::
        ⟨_, .write 0 relayInit, ()⟩ ::
          answers.calls (act (.drain 0) >>= _) _) = _
      rw [calls_drain]
      cases answers.drained 0 with
      | false => rfl
      | true => rfl

/-- A turn of the CF proxy which has no domain. -/
theorem pythonNoProxy_trace (methods : List Python.FallbackMethod)
    (fallbackDst : Option String) (empty : answers.baseDomains = []) :
    answers.trace (Python.tryMethods config dc fallbackDst relayInit splitter
        (.cf :: methods)) s =
      answers.trace (Python.tryMethods config dc fallbackDst relayInit splitter
        methods) s := by
  change FallbackTrace.ofCalls (⟨s, .getDomainsForDc dc, answers.baseDomains⟩ ::
    answers.calls ((Python.cfproxyConnect dc answers.baseDomains >>= _) >>= _)
      s) = _
  rw [ofCalls_cons_quiet rfl rfl rfl, empty]
  rfl

/-- A turn of the CF proxy begins with the first domain. -/
theorem pythonProxy_starts (methods : List Python.FallbackMethod)
    (fallbackDst : Option String) {baseDomain : String}
    {baseDomains : List String}
    (some : answers.baseDomains = baseDomain :: baseDomains) :
    StartsWith (fun endpoint => ∃ domain,
        endpoint = .webSocket domain domain "/apiws")
      (answers.calls (Python.tryMethods config dc fallbackDst relayInit splitter
        (.cf :: methods)) s) := by
  apply startsWith_cons_of_none rfl
  change StartsWith _ (answers.calls
    ((Python.cfproxyConnect dc answers.baseDomains >>= _) >>= _) s)
  rw [some]
  apply startsWith_cons_of_some rfl
  exact ⟨_, rfl⟩

/-- A turn of the workers begins with the first one, whether it is in the pool
or not. -/
theorem pythonWorkers_trace (methods : List Python.FallbackMethod)
    {workerDomain : String} {workerDomains : List String}
    (configured : config.cfproxyWorkerDomains ≠ [])
    (ordered : (answers.order config.cfproxyWorkerDomains).1 =
      workerDomain :: workerDomains) :
    answers.trace (Python.tryMethods config dc (some dst) relayInit splitter
        (.cfWorker :: methods)) s =
      answers.trace (do
        let attempt ← Python.cfproxyWorkerLoop dc dst relayInit splitter
          (workerDomain :: workerDomains)
        if attempt = .unavailable then
          Python.tryMethods config dc (some dst) relayInit splitter methods
        else return attempt) s := by
  simp only [Python.tryMethods, Python.tryMethod, Python.cfproxyWorkerFallback,
    if_neg configured]
  change FallbackTrace.ofCalls (⟨s, .shuffleWorkers config.cfproxyWorkerDomains,
    (answers.order config.cfproxyWorkerDomains).1⟩ ::
      answers.calls (Python.cfproxyWorkerLoop dc dst relayInit splitter
        (answers.order config.cfproxyWorkerDomains).1 >>= _) s) = _
  rw [ofCalls_cons_quiet rfl rfl rfl, ordered]
  rfl

theorem pythonPooled_trace {workerDomain : String} {workerDomains : List String}
    (next : Python.Attempt → SessionProgram Python.MsgSplitter Python.Attempt)
    (served : next .served = pure .served) (raised : next .raised = pure .raised)
    (unopened : s.transports = [])
    (pooled : answers.pooled workerDomain = true) :
    answers.trace (Python.cfproxyWorkerLoop dc dst relayInit splitter
        (workerDomain :: workerDomains) >>= next) s =
      ⟨[.webSocket workerDomain workerDomain (workerPath dc dst)],
        if answers.sent 0
        then some (.webSocket workerDomain workerDomain (workerPath dc dst))
        else none⟩ := by
  change FallbackTrace.ofCalls (answers.calls
    (act (.find (.cfWorkerPool dc workerDomain dst)) >>= _) s) = _
  rw [calls_found (.cfWorkerPool dc workerDomain dst) pooled, unopened]
  change FallbackTrace.ofCalls (_ ::
    answers.calls (act (.send 0 relayInit) >>= _) _) = _
  rw [calls_send]
  cases answers.sent 0 with
  | false =>
      change FallbackTrace.ofCalls (_ :: _ :: answers.calls (next .raised) _) = _
      rw [raised]
      rfl
  | true =>
      change FallbackTrace.ofCalls (_ :: _ :: ⟨_, .bridge 0 splitter, ()⟩ ::
        answers.calls (next .served) _) = _
      rw [served]
      rfl

theorem pythonUnpooled_starts {workerDomain : String}
    {workerDomains : List String}
    {next : Python.Attempt → SessionProgram Python.MsgSplitter Python.Attempt}
    (unpooled : answers.pooled workerDomain = false) :
    StartsWith (· = .webSocket workerDomain workerDomain (workerPath dc dst))
      (answers.calls (Python.cfproxyWorkerLoop dc dst relayInit splitter
        (workerDomain :: workerDomains) >>= next) s) := by
  change StartsWith _ (answers.calls
    (act (.find (.cfWorkerPool dc workerDomain dst)) >>= _) s)
  rw [calls_missed (.cfWorkerPool dc workerDomain dst) unpooled]
  apply startsWith_cons_of_none rfl
  apply startsWith_cons_of_some rfl
  rfl

end Python

section Agreement

variable {dc : Nat} {dst : String}

theorem workerPath_ne_apiws (dc : Nat) (dst : String) :
    workerPath dc dst ≠ "/apiws" := by
  intro same
  have lengths := congrArg String.length same
  simp only [workerPath, String.length_append] at lengths
  have start : "/apiws?dst=".length = 11 := rfl
  have whole : "/apiws".length = 6 := rfl
  omega

theorem workerPath_ne_slash (dc : Nat) (dst : String) :
    workerPath dc dst ≠ "/" ++ dst := by
  intro same
  have lengths := congrArg String.length same
  simp only [workerPath, String.length_append] at lengths
  have start : "/apiws?dst=".length = 11 := rfl
  have slash : "/".length = 1 := rfl
  omega

variable (answers : FallbackAnswers) (crypto : Primitives)
  (config : RouteConfig) {relayInit : Bytes}
  (splitter : Option Python.MsgSplitter) (ctx : CryptoCtx)

/-- Without a default address. -/
theorem agree_of_unknown (unknown : dcDefaultIps.lookup (dc : Int) = none) :
    pythonTrace answers config dc relayInit splitter ctx =
        rustTrace answers crypto config dc relayInit ctx ↔
      (config.fallbackCfproxy = true → answers.baseDomains = []) := by
  have rust : rustTrace answers crypto config dc relayInit ctx = ⟨[], none⟩ := by
    simp only [rustTrace, Rust.doFallbackTcpWs, unknown]
    rfl
  rw [rust, pythonTrace, Python.doFallback, unknown]
  cases useCfproxy : config.fallbackCfproxy with
  | false =>
      have methods : Python.fallbackMethods config none = [] := by
        simp [Python.fallbackMethods, useCfproxy]
      rw [methods]
      exact iff_of_true rfl fun used => by cases used
  | true =>
      have methods : Python.fallbackMethods config none = [.cf] := by
        simp [Python.fallbackMethods, useCfproxy]
      rw [methods]
      cases bases : answers.baseDomains with
      | nil =>
          refine iff_of_true ?_ fun _ => rfl
          exact pythonNoProxy_trace [] none bases
      | cons baseDomain baseDomains =>
          refine iff_of_false ?_ fun empty => ?_
          · intro same
            obtain ⟨endpoint, first, -⟩ := @pythonProxy_starts answers config dc
              relayInit splitter (SessionState.start ctx [] []) [] none _ _ bases
            change endpoint ∈ (answers.trace (Python.tryMethods config dc none
              relayInit splitter [.cf]) _).attempts.head? at first
            rw [same] at first
            cases first
          · cases empty rfl

/-- With a default address and a worker. -/
theorem agree_of_worker (known : dcDefaultIps.lookup (dc : Int) = some dst)
    {workerDomain : String} {workerDomains : List String}
    (ordered : (answers.order config.cfproxyWorkerDomains).1 =
      workerDomain :: workerDomains) (relaySize : relayInit.length = 64) :
    pythonTrace answers config dc relayInit splitter ctx =
        rustTrace answers crypto config dc relayInit ctx ↔
      answers.pooled workerDomain = true ∧ answers.sent 0 = true := by
  have configured : config.cfproxyWorkerDomains ≠ [] := by
    intro none
    have perm := (answers.order config.cfproxyWorkerDomains).2
    rw [ordered, none] at perm
    exact List.cons_ne_nil _ _ perm.eq_nil
  have methods : ∃ methods, Python.fallbackMethods config (some dst) =
      .cfWorker :: methods := by
    refine ⟨(if config.fallbackCfproxy then [.cf] else []) ++ [.tcp], ?_⟩
    simp [Python.fallbackMethods, configured]
  obtain ⟨methods, methods_eq⟩ := methods
  have rust : rustTrace answers crypto config dc relayInit ctx =
      answers.trace (rustFallback crypto { config with
        cfproxyWorkerDomains := workerDomain :: workerDomains } dc dst relayInit
          (workerDomain :: workerDomains)) (SessionState.start ctx [] []) := by
    simp only [rustTrace, Rust.doFallbackTcpWs, known, ordered]
    rfl
  rw [rust, pythonTrace, Python.doFallback, known, methods_eq,
    pythonWorkers_trace methods configured ordered]
  cases pooled : answers.pooled workerDomain with
  | false =>
      refine iff_of_false ?_ fun both => by cases both.1
      apply ofCalls_ne_of_starts (pythonUnpooled_starts pooled)
        (rustFallback_starts (workerDomain :: workerDomains) _)
      rintro endpoint rfl (⟨other, isPooled, same⟩ | ⟨domain, same⟩ | same)
      · cases same
        rw [pooled] at isPooled
        cases isPooled
      · injection same with host domain path
        exact workerPath_ne_slash dc dst path
      · cases same
  | true =>
      rw [pythonPooled_trace (fun attempt =>
        if attempt = .unavailable then
          Python.tryMethods config dc (some dst) relayInit splitter methods
        else pure attempt) rfl rfl rfl pooled]
      cases sent : answers.sent 0 with
      | true =>
          rw [rustPooled_trace rfl pooled sent relaySize]
          exact iff_of_true rfl ⟨rfl, rfl⟩
      | false =>
          refine iff_of_false ?_ fun both => by cases both.2
          intro same
          have more := @rustUnsent_attempts answers crypto { config with
            cfproxyWorkerDomains := workerDomain :: workerDomains } dc dst
            relayInit (SessionState.start ctx [] []) workerDomain workerDomains
            rfl pooled sent
          rw [← same] at more
          exact absurd more (by simp)

/-- Over TCP alone, where only Rust sees whether the header is written. -/
theorem agree_over_tcp : answers.trace (Python.tryMethods config dc (some dst)
      relayInit splitter [.tcp]) (SessionState.start ctx [] []) =
        answers.trace (Rust.tcpFallback dst relayInit)
          (SessionState.start ctx [] []) ↔
    (answers.tcp = true → answers.drained 0 = true → answers.sent 0 = true) := by
  have bridges (python : Bool) (rust : Bool) :
      (⟨[.tcp dst 443], if python then some (.tcp dst 443) else none⟩ :
        FallbackTrace) =
          ⟨[.tcp dst 443], if rust then some (.tcp dst 443) else none⟩ ↔
        python = rust := by
    cases python with
    | false => cases rust <;> simp
    | true => cases rust <;> simp
  rw [pythonTcp_trace rfl, rustTcp_trace rfl, bridges]
  cases answers.tcp <;> cases answers.drained 0 <;> cases answers.sent 0 <;>
    simp

/-- With a default address and no worker. -/
theorem agree_of_noWorker (known : dcDefaultIps.lookup (dc : Int) = some dst)
    (ordered : (answers.order config.cfproxyWorkerDomains).1 = []) :
    pythonTrace answers config dc relayInit splitter ctx =
        rustTrace answers crypto config dc relayInit ctx ↔
      (config.fallbackCfproxy = true → answers.baseDomains = []) ∧
        (answers.tcp = true → answers.drained 0 = true →
          answers.sent 0 = true) := by
  have unconfigured : config.cfproxyWorkerDomains = [] := by
    have perm := (answers.order config.cfproxyWorkerDomains).2
    rw [ordered] at perm
    exact perm.nil_eq.symm
  have rust : rustTrace answers crypto config dc relayInit ctx =
      answers.trace (Rust.cfProxyOrTcp crypto { config with
        cfproxyWorkerDomains := [] } dc dst relayInit)
          (SessionState.start ctx [] []) := by
    simp only [rustTrace, Rust.doFallbackTcpWs, known, ordered]
    rfl
  have tcpOnly (noProxy : config.fallbackCfproxy = true →
      answers.baseDomains = [])
      (python : pythonTrace answers config dc relayInit splitter ctx =
        answers.trace (Python.tryMethods config dc (some dst) relayInit splitter
          [.tcp]) (SessionState.start ctx [] [])) :
      pythonTrace answers config dc relayInit splitter ctx =
          rustTrace answers crypto config dc relayInit ctx ↔
        (answers.tcp = true → answers.drained 0 = true →
          answers.sent 0 = true) := by
    rw [python, rust, @rustProxyOrTcp_trace answers crypto { config with
      cfproxyWorkerDomains := [] } dc dst relayInit _ noProxy]
    exact agree_over_tcp answers config splitter ctx
  cases useCfproxy : config.fallbackCfproxy with
  | false =>
      have methods : Python.fallbackMethods config (some dst) = [.tcp] := by
        simp [Python.fallbackMethods, useCfproxy, unconfigured]
      rw [tcpOnly (fun used => by rw [useCfproxy] at used; cases used) (by
        rw [pythonTrace, Python.doFallback, known, methods])]
      exact (and_iff_right fun used => by cases used).symm
  | true =>
      have methods : Python.fallbackMethods config (some dst) = [.cf, .tcp] := by
        simp [Python.fallbackMethods, useCfproxy, unconfigured]
      cases bases : answers.baseDomains with
      | nil =>
          rw [tcpOnly (fun _ => bases) (by
            rw [pythonTrace, Python.doFallback, known, methods]
            exact pythonNoProxy_trace [.tcp] (some dst) bases)]
          exact (and_iff_right fun _ => rfl).symm
      | cons baseDomain baseDomains =>
          refine iff_of_false ?_ fun both => by cases both.1 rfl
          rw [rust, pythonTrace, Python.doFallback, known, methods]
          apply ofCalls_ne_of_starts (pythonProxy_starts [.tcp] (some dst) bases)
            (rustProxyOrTcp_starts _)
          rintro endpoint ⟨domain, rfl⟩ (⟨other, -, same⟩ | ⟨other, same⟩ | same)
          · injection same with host domain path
            exact workerPath_ne_apiws dc dst path.symm
          · injection same with host domain path
            exact slash_dst_ne known path.symm
          · cases same

/-- The two fallbacks try the same endpoints and bridge the same one exactly
when they agree in this way. -/
theorem sameFallback_iff (dc : Nat) (relaySize : relayInit.length = 64) :
    pythonTrace answers config dc relayInit splitter ctx =
        rustTrace answers crypto config dc relayInit ctx ↔
      FallbacksAgree answers config dc := by
  unfold FallbacksAgree
  cases known : dcDefaultIps.lookup (dc : Int) with
  | none => exact agree_of_unknown answers crypto config splitter ctx known
  | some dst =>
      cases ordered : (answers.order config.cfproxyWorkerDomains).1 with
      | nil =>
          exact agree_of_noWorker answers crypto config splitter ctx known ordered
      | cons workerDomain workerDomains =>
          exact agree_of_worker answers crypto config splitter ctx known ordered
            relaySize

end Agreement

def idleCipher : AesCtr := ⟨[], [], 0⟩

def idleSession : CryptoCtx := ⟨idleCipher, idleCipher, idleCipher, idleCipher⟩

/-- A worker whose pool is filled or not, and which takes every connection. -/
def workerAnswers (pooled : Bool) : FallbackAnswers where
  order := fun workerDomains => ⟨workerDomains, .refl workerDomains⟩
  baseDomains := []
  pooled := fun _ => pooled
  connects := fun _ _ _ => .ok ()
  tcp := false
  sent := fun _ => true
  drained := fun _ => true
  effect := ⟨idleSession, [], []⟩

def oneWorker : RouteConfig := ⟨[], false, ["worker.example"]⟩

theorem sameFallback_iff_pooled :
    pythonTrace (workerAnswers true) oneWorker 2 (List.replicate 64 0) none
        idleSession =
      rustTrace (workerAnswers true) recordedCrypto oneWorker 2
        (List.replicate 64 0) idleSession :=
  (sameFallback_iff (workerAnswers true) recordedCrypto oneWorker none
    idleSession 2 List.length_replicate).mpr ⟨rfl, rfl⟩

/-- The pool of the only worker is empty: Python connects and bridges, and Rust
gives up. -/
theorem unpooledWorker_differs :
    pythonTrace (workerAnswers false) oneWorker 2 (List.replicate 64 0) none
        idleSession ≠
      rustTrace (workerAnswers false) recordedCrypto oneWorker 2
        (List.replicate 64 0) idleSession := by
  intro same
  have bridges := congrArg (fun trace => trace.bridged.isSome) same
  change true = false at bridges
  cases bridges

end TgWsProxy
