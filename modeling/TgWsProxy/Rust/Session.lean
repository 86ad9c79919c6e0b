import TgWsProxy.Rust.MsgSplitter
import TgWsProxy.Session

/-!
# The Rust session

`handle_client` of `main.rs` behind an accepted handshake, and
`do_fallback_tcp_ws`.  A panic ends the task of the session.
-/

namespace TgWsProxy.Rust

open Lib

def protoIntermediate : UInt32 := UInt32.ofNat protoIntermediateInt

/-- `MsgSplitter::new` and `bridge_ws_reencrypt_halves`. -/
def splitAndBridge (crypto : Primitives) (relayInit : Bytes)
    (protoInt : UInt32) (ws : Nat) : SessionProgram MsgSplitter Unit :=
  match MsgSplitter.new crypto relayInit protoInt with
  | .error _ => return ()
  | .ok splitter => act (.bridge ws (some splitter))

/-- The loop over the CF workers; whether it ends the session. -/
def cfWorkerLoop (crypto : Primitives) (dc : Nat) (dst : String)
    (relayInit : Bytes) : List String → SessionProgram MsgSplitter Bool
  | [] => return false
  | workerDomain :: workerDomains => do
      let pooled ← act (.find (.cfWorkerPool dc workerDomain dst))
      match pooled with
      | none => cfWorkerLoop crypto dc dst relayInit workerDomains
      | some ws =>
          let sent ← act (.send ws relayInit)
          if sent then
            splitAndBridge crypto relayInit protoIntermediate ws
            return true
          else cfWorkerLoop crypto dc dst relayInit workerDomains

/-- The loop over the CF proxy domains; whether it ends the session. -/
def cfProxyLoop (crypto : Primitives) (dst : String) (relayInit : Bytes) :
    List String → SessionProgram MsgSplitter Bool
  | [] => return false
  | domain :: domains => do
      let connected ← act (.connect domain domain ("/" ++ dst) wsTimeout)
      match connected with
      | .error _ => cfProxyLoop crypto dst relayInit domains
      | .ok ws =>
          let sent ← act (.send ws relayInit)
          if sent then
            splitAndBridge crypto relayInit protoIntermediate ws
            return true
          else cfProxyLoop crypto dst relayInit domains

/-- `do_fallback_tcp_ws` from the TCP connection on. -/
def tcpFallback (dst : String) (relayInit : Bytes) :
    SessionProgram MsgSplitter Unit := do
  let connected ← act (.find (.tcp dst 443))
  match connected with
  | none => return ()
  | some upStream =>
      let sent ← act (.send upStream relayInit)
      if sent then
        let flushed ← act (.drain upStream)
        if flushed then act (.bridge upStream none)
        else return ()
      else return ()

/-- `do_fallback_tcp_ws` behind the CF workers. -/
def cfProxyOrTcp (crypto : Primitives) (config : RouteConfig) (dc : Nat)
    (dst : String) (relayInit : Bytes) : SessionProgram MsgSplitter Unit := do
  if config.fallbackCfproxy then
    let domains ← act (.getDomainsForDc dc)
    let settled ← cfProxyLoop crypto dst relayInit domains
    if settled then return () else tcpFallback dst relayInit
  else tcpFallback dst relayInit

/-- `do_fallback_tcp_ws`. -/
def doFallbackTcpWs (crypto : Primitives) (config : RouteConfig) (dc : Nat)
    (relayInit : Bytes) : SessionProgram MsgSplitter Unit :=
  match dcDefaultIps.lookup (dc : Int) with
  | none => return ()
  | some dst => do
      let settled ←
        cfWorkerLoop crypto dc dst relayInit config.cfproxyWorkerDomains
      if settled then return () else cfProxyOrTcp crypto config dc dst relayInit

/-- `handle_client` when no WebSocket was found. -/
def afterFailedConnects (crypto : Primitives) (config : RouteConfig) (dc : Nat)
    (dcKey : String) (relayInit : Bytes) (now : Nat) (trial : ConnectTrial) :
    SessionProgram MsgSplitter Unit := do
  if trial.wsFailedRedirect && trial.allRedirects then
    act (.blacklist dcKey)
    doFallbackTcpWs crypto config dc relayInit
  else
    act (.setFailUntil dcKey (now + dcFailCooldown))
    doFallbackTcpWs crypto config dc relayInit

/-- `handle_client` with a WebSocket. -/
def serveWebSocket (crypto : Primitives) (relayInit : Bytes)
    (protoInt : UInt32) (ws : Nat) : SessionProgram MsgSplitter Unit :=
  match MsgSplitter.new crypto relayInit protoInt with
  | .error _ => return ()
  | .ok splitter => do
      let sent ← act (.send ws relayInit)
      if sent then act (.bridge ws (some splitter)) else return ()

/-- `handle_client` from `dc_key` on. -/
def handleClient (crypto : Primitives) (config : RouteConfig)
    (request : ClientRequest) (relayInit : Bytes) :
    SessionProgram MsgSplitter Unit := do
  let dc := request.dc
  let protoInt := UInt32.ofNat (protoIntOfTag request.protoTag)
  let dcKey := toString dc ++ if request.isMedia then "m" else ""
  let blacklisted ← act (.isBlacklisted dcKey)
  match config.dcRedirects.lookup dc with
  | none => doFallbackTcpWs crypto config dc relayInit
  | some target =>
      if blacklisted then doFallbackTcpWs crypto config dc relayInit
      else
        let now ← act .now
        let failUntil ← act (.failUntil dcKey)
        let timeout :=
          match failUntil with
          | some fail => if now < fail then wsFailTimeout else wsTimeout
          | none => wsTimeout
        let trial ← poolOrConnect dc request.isMedia target timeout
          (wsDomains dc request.isMedia)
        match trial.ws with
        | none => afterFailedConnects crypto config dc dcKey relayInit now trial
        | some ws =>
            act (.clearFailUntil dcKey)
            serveWebSocket crypto relayInit protoInt ws

section Sessions

variable {ctx : CryptoCtx} {relayInit : Bytes} {s : SessionState MsgSplitter}

/-- A loop which does not end the session has left it fresh. -/
structure Looped (ctx : CryptoCtx) (relayInit : Bytes) (settled : Bool)
    (s : SessionState MsgSplitter) : Prop where
  once : OneBridge ctx relayInit s
  fresh : settled = false → Fresh ctx s

theorem meets_over (fresh : Fresh ctx s) :
    SessionMeets ctx relayInit (fun _ => OneBridge ctx relayInit) (pure ()) s :=
  meets_pure fresh fresh.oneBridge

theorem meets_splitAndBridge (crypto : Primitives) {ws : Nat}
    (fresh : Fresh ctx s) (given : Given ws [relayInit] s) (protoInt : UInt32) :
    SessionMeets ctx relayInit (fun _ => OneBridge ctx relayInit)
      (splitAndBridge crypto relayInit protoInt ws) s := by
  unfold splitAndBridge
  split
  · exact meets_over fresh
  · exact meets_bridge fresh given _

/-- The last part of both loops. -/
theorem meets_sendInLoop (crypto : Primitives) {ws : Nat}
    {next : SessionProgram MsgSplitter Bool} (fresh : Fresh ctx s)
    (given : Given ws [] s)
    (goesOn : ∀ s, Fresh ctx s →
      SessionMeets ctx relayInit (Looped ctx relayInit) next s) :
    SessionMeets ctx relayInit (Looped ctx relayInit)
      (do
        let sent ← act (.send ws relayInit)
        if sent then
          splitAndBridge crypto relayInit protoIntermediate ws
          return true
        else next) s := by
  apply Program.Meets.bind
    (meets_give (.send ws relayInit) fresh given fun _ => rfl)
  rintro sent s ⟨fresh, given⟩
  cases sent with
  | true =>
      apply Program.Meets.bind
        (meets_splitAndBridge crypto fresh given protoIntermediate)
      intro _ s once
      apply Program.Meets.pure once
      refine ⟨once, ?_⟩
      intro goesOn
      cases goesOn
  | false => exact goesOn s fresh

theorem meets_cfWorkerLoop (crypto : Primitives) (fresh : Fresh ctx s)
    (dc : Nat) (dst : String) (workerDomains : List String) :
    SessionMeets ctx relayInit (Looped ctx relayInit)
      (cfWorkerLoop crypto dc dst relayInit workerDomains) s := by
  induction workerDomains generalizing s with
  | nil => exact meets_pure fresh ⟨fresh.oneBridge, fun _ => fresh⟩
  | cons workerDomain workerDomains induction =>
      apply Program.Meets.bind (meets_find fresh _)
      intro pooled s opened
      cases pooled with
      | none => exact induction opened.1
      | some ws =>
          exact meets_sendInLoop crypto opened.1 (opened.2 ws rfl)
            fun s fresh => induction fresh

theorem meets_cfProxyLoop (crypto : Primitives) (fresh : Fresh ctx s)
    (dst : String) (domains : List String) :
    SessionMeets ctx relayInit (Looped ctx relayInit)
      (cfProxyLoop crypto dst relayInit domains) s := by
  induction domains generalizing s with
  | nil => exact meets_pure fresh ⟨fresh.oneBridge, fun _ => fresh⟩
  | cons domain domains induction =>
      apply Program.Meets.bind (meets_connect fresh _ _ _ _)
      intro connected s opened
      cases connected with
      | error error => exact induction opened.1
      | ok ws =>
          exact meets_sendInLoop crypto opened.1 (opened.2 ws rfl)
            fun s fresh => induction fresh

theorem meets_tcpFallback (fresh : Fresh ctx s) (dst : String) :
    SessionMeets ctx relayInit (fun _ => OneBridge ctx relayInit)
      (tcpFallback dst relayInit) s := by
  apply Program.Meets.bind (meets_find fresh (.tcp dst 443))
  intro connected s opened
  cases connected with
  | none => exact meets_over opened.1
  | some upStream =>
      apply Program.Meets.bind (meets_give (.send upStream relayInit) opened.1
        (opened.2 upStream rfl) fun _ => rfl)
      rintro sent s ⟨fresh, given⟩
      cases sent with
      | false => exact meets_over fresh
      | true =>
          apply Program.Meets.bind
            (meets_still (.drain upStream) fresh given fun _ => ⟨fresh, rfl⟩)
          rintro flushed s ⟨fresh, given⟩
          cases flushed with
          | false => exact meets_over fresh
          | true => exact meets_bridge fresh given none

theorem meets_cfProxyOrTcp (crypto : Primitives) (fresh : Fresh ctx s)
    (config : RouteConfig) (dc : Nat) (dst : String) :
    SessionMeets ctx relayInit (fun _ => OneBridge ctx relayInit)
      (cfProxyOrTcp crypto config dc dst relayInit) s := by
  unfold cfProxyOrTcp
  split
  · apply Program.Meets.bind (meets_quiet (.getDomainsForDc dc) fresh fun _ => fresh)
    intro domains s fresh
    apply Program.Meets.bind (meets_cfProxyLoop crypto fresh dst domains)
    intro settled s looped
    cases settled with
    | true => exact Program.Meets.pure looped.once looped.once
    | false => exact meets_tcpFallback (looped.fresh rfl) dst
  · exact meets_tcpFallback fresh dst

theorem meets_doFallbackTcpWs (crypto : Primitives) (fresh : Fresh ctx s)
    (config : RouteConfig) (dc : Nat) :
    SessionMeets ctx relayInit (fun _ => OneBridge ctx relayInit)
      (doFallbackTcpWs crypto config dc relayInit) s := by
  unfold doFallbackTcpWs
  split
  · exact meets_over fresh
  · rename_i dst found
    apply Program.Meets.bind (meets_cfWorkerLoop crypto fresh dc dst _)
    intro settled s looped
    cases settled with
    | true => exact Program.Meets.pure looped.once looped.once
    | false => exact meets_cfProxyOrTcp crypto (looped.fresh rfl) config dc dst

theorem meets_afterFailedConnects (crypto : Primitives) (fresh : Fresh ctx s)
    (config : RouteConfig) (dc : Nat) (dcKey : String) (now : Nat)
    (trial : ConnectTrial) :
    SessionMeets ctx relayInit (fun _ => OneBridge ctx relayInit)
      (afterFailedConnects crypto config dc dcKey relayInit now trial) s := by
  unfold afterFailedConnects
  split
  · apply Program.Meets.bind (meets_quiet (.blacklist dcKey) fresh
      fun _ => ⟨fresh.bridges, fresh.ctx, fresh.taken⟩)
    intro _ s fresh
    exact meets_doFallbackTcpWs crypto fresh config dc
  · apply Program.Meets.bind (meets_quiet (.setFailUntil dcKey _) fresh
      fun _ => ⟨fresh.bridges, fresh.ctx, fresh.taken⟩)
    intro _ s fresh
    exact meets_doFallbackTcpWs crypto fresh config dc

theorem meets_serveWebSocket (crypto : Primitives) {ws : Nat}
    (fresh : Fresh ctx s) (given : Given ws [] s) (protoInt : UInt32) :
    SessionMeets ctx relayInit (fun _ => OneBridge ctx relayInit)
      (serveWebSocket crypto relayInit protoInt ws) s := by
  unfold serveWebSocket
  split
  · exact meets_over fresh
  · apply Program.Meets.bind
      (meets_give (.send ws relayInit) fresh given fun _ => rfl)
    rintro sent s ⟨fresh, given⟩
    cases sent with
    | true => exact meets_bridge fresh given _
    | false => exact meets_over fresh

/-- Whatever the lookups, the connections and the sends come to, a session
runs at most one bridge, and starts it from fresh ciphers. -/
theorem meets_handleClient (crypto : Primitives) (fresh : Fresh ctx s)
    (config : RouteConfig) (request : ClientRequest) :
    SessionMeets ctx relayInit (fun _ => OneBridge ctx relayInit)
      (handleClient crypto config request relayInit) s := by
  unfold handleClient
  apply Program.Meets.bind (meets_quiet (.isBlacklisted _) fresh fun _ => fresh)
  intro blacklisted s fresh
  split
  · exact meets_doFallbackTcpWs crypto fresh config request.dc
  · split
    · exact meets_doFallbackTcpWs crypto fresh config request.dc
    · apply Program.Meets.bind (meets_quiet .now fresh fun _ => fresh)
      intro now s fresh
      apply Program.Meets.bind (meets_quiet (.failUntil _) fresh fun _ => fresh)
      intro failUntil s fresh
      apply Program.Meets.bind (meets_poolOrConnect fresh _ _ _ _ _)
      intro trial s opened
      split
      · exact meets_afterFailedConnects crypto opened.1 config request.dc _ now
          trial
      · rename_i ws found
        have given := opened.2 ws found
        apply Program.Meets.bind (meets_still (.clearFailUntil _) opened.1 given
          fun _ => ⟨⟨opened.1.bridges, opened.1.ctx, opened.1.taken⟩, rfl⟩)
        rintro _ s ⟨fresh, given⟩
        exact meets_serveWebSocket crypto fresh given _

end Sessions

end TgWsProxy.Rust
