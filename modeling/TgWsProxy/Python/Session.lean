import TgWsProxy.Python.MsgSplitter
import TgWsProxy.Session

/-!
# The Python session

`_handle_client` of `proxy/tg_ws_proxy.py` behind an accepted handshake, and
`do_fallback` of `proxy/bridge.py` with its three methods.
-/

namespace TgWsProxy.Python

open Lib

/-- How an attempt to serve a session ends: an exception, which ends the
session, `False`, or `True`. -/
inductive Attempt where
  | raised
  | unavailable
  | served
deriving DecidableEq, Repr

inductive FallbackMethod where
  | cfWorker
  | cf
  | tcp
deriving DecidableEq, Repr

/-- `ws.send(relay_init)` and `bridge_ws_reencrypt`. -/
def sendAndBridge (relayInit : Bytes) (splitter : Option MsgSplitter)
    (ws : Nat) : SessionProgram MsgSplitter Attempt := do
  let sent ← act (.send ws relayInit)
  if sent then
    act (.bridge ws splitter)
    return .served
  else return .raised

/-- The loop of `_cfproxy_worker_fallback`. -/
def cfproxyWorkerLoop (dc : Nat) (fallbackDst : String) (relayInit : Bytes)
    (splitter : Option MsgSplitter) :
    List String → SessionProgram MsgSplitter Attempt
  | [] => return .unavailable
  | workerDomain :: workerDomains => do
      let pooled ← act (.find (.cfWorkerPool dc workerDomain fallbackDst))
      match pooled with
      | some ws => sendAndBridge relayInit splitter ws
      | none =>
          let path := "/apiws?dst=" ++ fallbackDst ++ "&dc=" ++ toString dc
          let connected ← act (.connect workerDomain workerDomain path wsTimeout)
          match connected with
          | .ok ws => sendAndBridge relayInit splitter ws
          | .error _ =>
              cfproxyWorkerLoop dc fallbackDst relayInit splitter workerDomains

/-- `_cfproxy_worker_fallback`. -/
def cfproxyWorkerFallback (config : RouteConfig) (dc : Nat)
    (fallbackDst : String) (relayInit : Bytes)
    (splitter : Option MsgSplitter) : SessionProgram MsgSplitter Attempt := do
  if config.cfproxyWorkerDomains = [] then return .unavailable
  else
    let workerDomains ← act (.shuffleWorkers config.cfproxyWorkerDomains)
    cfproxyWorkerLoop dc fallbackDst relayInit splitter workerDomains

/-- The loop of `_cfproxy_fallback`. -/
def cfproxyConnect (dc : Nat) :
    List String → SessionProgram MsgSplitter (Option Nat)
  | [] => return none
  | baseDomain :: baseDomains => do
      let domain := "kws" ++ toString dc ++ "." ++ baseDomain
      let connected ← act (.connect domain domain "/apiws" wsTimeout)
      match connected with
      | .ok ws => return some ws
      | .error _ => cfproxyConnect dc baseDomains

/-- `_cfproxy_fallback`. -/
def cfproxyFallback (dc : Nat) (relayInit : Bytes)
    (splitter : Option MsgSplitter) : SessionProgram MsgSplitter Attempt := do
  let baseDomains ← act (.getDomainsForDc dc)
  let connected ← cfproxyConnect dc baseDomains
  match connected with
  | none => return .unavailable
  | some ws => sendAndBridge relayInit splitter ws

/-- `_tcp_fallback`. -/
def tcpFallback (dst : String) (port : Nat) (relayInit : Bytes) :
    SessionProgram MsgSplitter Attempt := do
  let connected ← act (.find (.tcp dst port))
  match connected with
  | none => return .unavailable
  | some remote =>
      act (.write remote relayInit)
      let drained ← act (.drain remote)
      if drained then
        act (.bridge remote none)
        return .served
      else return .raised

/-- The methods which `do_fallback` collects. -/
def fallbackMethods (config : RouteConfig) (fallbackDst : Option String) :
    List FallbackMethod :=
  (if config.cfproxyWorkerDomains ≠ [] ∧ fallbackDst.isSome then [.cfWorker]
    else []) ++
  (if config.fallbackCfproxy then [.cf] else []) ++
  if fallbackDst.isSome then [.tcp] else []

/-- A turn of the loop in `do_fallback`. -/
def tryMethod (config : RouteConfig) (dc : Nat) (fallbackDst : Option String)
    (relayInit : Bytes) (splitter : Option MsgSplitter) :
    FallbackMethod → SessionProgram MsgSplitter Attempt
  | .cfWorker =>
      match fallbackDst with
      | some dst => cfproxyWorkerFallback config dc dst relayInit splitter
      | none => return .unavailable
  | .cf => cfproxyFallback dc relayInit splitter
  | .tcp =>
      match fallbackDst with
      | some dst => tcpFallback dst 443 relayInit
      | none => return .unavailable

def tryMethods (config : RouteConfig) (dc : Nat) (fallbackDst : Option String)
    (relayInit : Bytes) (splitter : Option MsgSplitter) :
    List FallbackMethod → SessionProgram MsgSplitter Attempt
  | [] => return .unavailable
  | method :: methods => do
      let attempt ←
        tryMethod config dc fallbackDst relayInit splitter method
      if attempt = .unavailable then
        tryMethods config dc fallbackDst relayInit splitter methods
      else return attempt

/-- `do_fallback`. -/
def doFallback (config : RouteConfig) (dc : Nat) (relayInit : Bytes)
    (splitter : Option MsgSplitter) : SessionProgram MsgSplitter Attempt :=
  let fallbackDst := dcDefaultIps.lookup (dc : Int)
  tryMethods config dc fallbackDst relayInit splitter
    (fallbackMethods config fallbackDst)

/-- `_handle_client` when the WebSocket loop has found nothing. -/
def afterFailedConnects (config : RouteConfig) (dc : Nat) (dcKey : String)
    (relayInit : Bytes) (splitter : Option MsgSplitter) (now : Nat)
    (trial : ConnectTrial) : SessionProgram MsgSplitter Attempt := do
  if trial.wsFailedRedirect && trial.allRedirects then
    act (.blacklist dcKey)
    doFallback config dc relayInit splitter
  else
    act (.setFailUntil dcKey (now + dcFailCooldown))
    doFallback config dc relayInit splitter

/-- `_handle_client` from `dc_key` on. -/
def handleClient (crypto : Primitives) (config : RouteConfig)
    (request : ClientRequest) (relayInit : Bytes) :
    SessionProgram MsgSplitter Attempt := do
  let dc := request.dc
  let dcKey := toString dc ++ if request.isMedia then "m" else ""
  let splitter := (MsgSplitter.new crypto relayInit
    (protoIntOfTag request.protoTag)).toOption
  let blacklisted ← act (.isBlacklisted dcKey)
  match config.dcRedirects.lookup dc with
  | none => doFallback config dc relayInit splitter
  | some target =>
      if blacklisted then doFallback config dc relayInit splitter
      else
        let now ← act .now
        let failUntil ← act (.failUntil dcKey)
        let timeout := if now < failUntil.getD 0 then wsFailTimeout else wsTimeout
        let trial ← poolOrConnect dc request.isMedia target timeout
          (wsDomains dc request.isMedia)
        match trial.ws with
        | none =>
            afterFailedConnects config dc dcKey relayInit splitter now trial
        | some ws =>
            act (.clearFailUntil dcKey)
            sendAndBridge relayInit splitter ws

section Sessions

variable {ctx : CryptoCtx} {relayInit : Bytes} {s : SessionState MsgSplitter}

/-- A method which returns `False` has left the session fresh. -/
structure Attempted (ctx : CryptoCtx) (relayInit : Bytes) (attempt : Attempt)
    (s : SessionState MsgSplitter) : Prop where
  once : OneBridge ctx relayInit s
  fresh : attempt = .unavailable → Fresh ctx s

theorem meets_unavailable (fresh : Fresh ctx s) :
    SessionMeets ctx relayInit (Attempted ctx relayInit) (pure .unavailable) s :=
  meets_pure fresh ⟨fresh.oneBridge, fun _ => fresh⟩

theorem meets_raised (fresh : Fresh ctx s) :
    SessionMeets ctx relayInit (Attempted ctx relayInit) (pure .raised) s :=
  meets_pure fresh ⟨fresh.oneBridge, fun _ => fresh⟩

/-- The bridge is the last thing a session does. -/
theorem meets_served {transport : Nat} (fresh : Fresh ctx s)
    (given : Given transport [relayInit] s) (splitter : Option MsgSplitter) :
    SessionMeets ctx relayInit (Attempted ctx relayInit)
      (do act (.bridge transport splitter); return .served) s := by
  apply Program.Meets.bind (meets_bridge fresh given splitter)
  intro _ s once
  apply Program.Meets.pure once
  refine ⟨once, ?_⟩
  intro unavailable
  cases unavailable

theorem meets_sendAndBridge {ws : Nat} (fresh : Fresh ctx s)
    (given : Given ws [] s) (splitter : Option MsgSplitter) :
    SessionMeets ctx relayInit (Attempted ctx relayInit)
      (sendAndBridge relayInit splitter ws) s := by
  apply Program.Meets.bind
    (meets_give (.send ws relayInit) fresh given fun _ => rfl)
  rintro sent s ⟨fresh, given⟩
  cases sent with
  | true => exact meets_served fresh given splitter
  | false => exact meets_raised fresh

theorem meets_cfproxyWorkerLoop (fresh : Fresh ctx s) (dc : Nat)
    (fallbackDst : String) (splitter : Option MsgSplitter)
    (workerDomains : List String) :
    SessionMeets ctx relayInit (Attempted ctx relayInit)
      (cfproxyWorkerLoop dc fallbackDst relayInit splitter workerDomains) s := by
  induction workerDomains generalizing s with
  | nil => exact meets_unavailable fresh
  | cons workerDomain workerDomains induction =>
      apply Program.Meets.bind (meets_find fresh _)
      intro pooled s opened
      cases pooled with
      | some ws => exact meets_sendAndBridge opened.1 (opened.2 ws rfl) splitter
      | none =>
          apply Program.Meets.bind (meets_connect opened.1 _ _ _ _)
          intro connected s opened
          cases connected with
          | ok ws =>
              exact meets_sendAndBridge opened.1 (opened.2 ws rfl) splitter
          | error error => exact induction opened.1

theorem meets_cfproxyWorkerFallback (fresh : Fresh ctx s) (config : RouteConfig)
    (dc : Nat) (fallbackDst : String) (splitter : Option MsgSplitter) :
    SessionMeets ctx relayInit (Attempted ctx relayInit)
      (cfproxyWorkerFallback config dc fallbackDst relayInit splitter) s := by
  unfold cfproxyWorkerFallback
  split
  · exact meets_unavailable fresh
  · apply Program.Meets.bind (meets_quiet (.shuffleWorkers _) fresh fun _ => fresh)
    intro workerDomains s fresh
    exact meets_cfproxyWorkerLoop fresh dc fallbackDst splitter workerDomains

theorem meets_cfproxyConnect (fresh : Fresh ctx s) (dc : Nat)
    (baseDomains : List String) :
    SessionMeets ctx relayInit (Opened ctx) (cfproxyConnect dc baseDomains)
      s := by
  induction baseDomains generalizing s with
  | nil => exact meets_pure fresh fresh.unopened
  | cons baseDomain baseDomains induction =>
      apply Program.Meets.bind (meets_connect fresh _ _ _ _)
      intro connected s opened
      cases connected with
      | ok ws => exact meets_pure opened.1 opened
      | error error => exact induction opened.1

theorem meets_cfproxyFallback (fresh : Fresh ctx s) (dc : Nat)
    (splitter : Option MsgSplitter) :
    SessionMeets ctx relayInit (Attempted ctx relayInit)
      (cfproxyFallback dc relayInit splitter) s := by
  apply Program.Meets.bind (meets_quiet (.getDomainsForDc dc) fresh fun _ => fresh)
  intro baseDomains s fresh
  apply Program.Meets.bind (meets_cfproxyConnect fresh dc baseDomains)
  intro connected s opened
  cases connected with
  | none => exact meets_unavailable opened.1
  | some ws => exact meets_sendAndBridge opened.1 (opened.2 ws rfl) splitter

theorem meets_tcpFallback (fresh : Fresh ctx s) (dst : String) (port : Nat) :
    SessionMeets ctx relayInit (Attempted ctx relayInit) (tcpFallback dst port relayInit)
      s := by
  apply Program.Meets.bind (meets_find fresh (.tcp dst port))
  intro connected s opened
  cases connected with
  | none => exact meets_unavailable opened.1
  | some remote =>
      apply Program.Meets.bind (meets_give (.write remote relayInit) opened.1
        (opened.2 remote rfl) fun _ => rfl)
      rintro _ s ⟨fresh, given⟩
      apply Program.Meets.bind
        (meets_still (.drain remote) fresh given fun _ => ⟨fresh, rfl⟩)
      rintro drained s ⟨fresh, given⟩
      cases drained with
      | true => exact meets_served fresh given none
      | false => exact meets_raised fresh

theorem meets_tryMethod (fresh : Fresh ctx s) (config : RouteConfig) (dc : Nat)
    (fallbackDst : Option String) (splitter : Option MsgSplitter)
    (method : FallbackMethod) :
    SessionMeets ctx relayInit (Attempted ctx relayInit)
      (tryMethod config dc fallbackDst relayInit splitter method) s := by
  cases method with
  | cfWorker =>
      cases fallbackDst with
      | some dst => exact meets_cfproxyWorkerFallback fresh config dc dst splitter
      | none => exact meets_unavailable fresh
  | cf => exact meets_cfproxyFallback fresh dc splitter
  | tcp =>
      cases fallbackDst with
      | some dst => exact meets_tcpFallback fresh dst 443
      | none => exact meets_unavailable fresh

theorem meets_tryMethods (fresh : Fresh ctx s) (config : RouteConfig) (dc : Nat)
    (fallbackDst : Option String) (splitter : Option MsgSplitter)
    (methods : List FallbackMethod) :
    SessionMeets ctx relayInit (Attempted ctx relayInit)
      (tryMethods config dc fallbackDst relayInit splitter methods) s := by
  induction methods generalizing s with
  | nil => exact meets_unavailable fresh
  | cons method methods induction =>
      apply Program.Meets.bind
        (meets_tryMethod fresh config dc fallbackDst splitter method)
      intro attempt s attempted
      by_cases unavailable : attempt = .unavailable
      · simp only [if_pos unavailable]
        exact induction (attempted.fresh unavailable)
      · simp only [if_neg unavailable]
        exact Program.Meets.pure attempted.once attempted

theorem meets_doFallback (fresh : Fresh ctx s) (config : RouteConfig) (dc : Nat)
    (splitter : Option MsgSplitter) :
    SessionMeets ctx relayInit (Attempted ctx relayInit)
      (doFallback config dc relayInit splitter) s :=
  meets_tryMethods fresh config dc _ splitter _

theorem meets_afterFailedConnects (fresh : Fresh ctx s) (config : RouteConfig)
    (dc : Nat) (dcKey : String) (splitter : Option MsgSplitter) (now : Nat)
    (trial : ConnectTrial) :
    SessionMeets ctx relayInit (Attempted ctx relayInit)
      (afterFailedConnects config dc dcKey relayInit splitter now trial) s := by
  unfold afterFailedConnects
  split
  · apply Program.Meets.bind (meets_quiet (.blacklist dcKey) fresh
      fun _ => ⟨fresh.bridges, fresh.ctx, fresh.taken⟩)
    intro _ s fresh
    exact meets_doFallback fresh config dc splitter
  · apply Program.Meets.bind (meets_quiet (.setFailUntil dcKey _) fresh
      fun _ => ⟨fresh.bridges, fresh.ctx, fresh.taken⟩)
    intro _ s fresh
    exact meets_doFallback fresh config dc splitter

/-- Whatever the lookups, the connections and the sends come to, a session
runs at most one bridge, and starts it from fresh ciphers. -/
theorem meets_handleClient (crypto : Primitives) (fresh : Fresh ctx s)
    (config : RouteConfig) (request : ClientRequest) :
    SessionMeets ctx relayInit (Attempted ctx relayInit)
      (handleClient crypto config request relayInit) s := by
  unfold handleClient
  apply Program.Meets.bind (meets_quiet (.isBlacklisted _) fresh fun _ => fresh)
  intro blacklisted s fresh
  split
  · exact meets_doFallback fresh config request.dc _
  · split
    · exact meets_doFallback fresh config request.dc _
    · apply Program.Meets.bind (meets_quiet .now fresh fun _ => fresh)
      intro now s fresh
      apply Program.Meets.bind (meets_quiet (.failUntil _) fresh fun _ => fresh)
      intro failUntil s fresh
      apply Program.Meets.bind (meets_poolOrConnect fresh _ _ _ _ _)
      intro trial s opened
      split
      · exact meets_afterFailedConnects opened.1 config request.dc _ _ now trial
      · rename_i ws found
        have given := opened.2 ws found
        apply Program.Meets.bind (meets_still (.clearFailUntil _) opened.1 given
          fun _ => ⟨⟨opened.1.bridges, opened.1.ctx, opened.1.taken⟩, rfl⟩)
        rintro _ s ⟨fresh, given⟩
        exact meets_sendAndBridge fresh given _

end Sessions

end TgWsProxy.Python
