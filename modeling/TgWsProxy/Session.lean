import TgWsProxy.Obfuscation
import TgWsProxy.Lib.Program

/-!
# Sessions and their transports

What a session does between the handshake and its bridge: it asks the pools
for connections, opens others, and sends the relay header.  Which of this
succeeds is decided outside, and so is what a bridge does to the ciphers of the
session and to the client's stream.
-/

namespace TgWsProxy

open Lib

inductive ConnectError where
  /-- `WsHandshakeError` with a redirect. -/
  | redirect
  | handshake
  | other
deriving DecidableEq, Repr

/-- Where a session asks for a transport, and gets one or none. -/
inductive TransportSource where
  /-- `WsPool.get`. -/
  | wsPool (dc : Nat) (isMedia : Bool) (target : String)
      (domains : List String)
  /-- `CfWorkerPool.get`. -/
  | cfWorkerPool (dc : Nat) (workerDomain fallbackDst : String)
  /-- `asyncio.open_connection` and `TcpStream::connect`. -/
  | tcp (dst : String) (port : Nat)
deriving DecidableEq, Repr

/-- The calls of a session.  A transport is named by the number of transports
which the session had before it. -/
inductive SessionOp (Splitter : Type) where
  | now
  | isBlacklisted (dcKey : String)
  | blacklist (dcKey : String)
  | failUntil (dcKey : String)
  | setFailUntil (dcKey : String) (time : Nat)
  | clearFailUntil (dcKey : String)
  | find (source : TransportSource)
  | shuffleWorkers (workerDomains : List String)
  | getDomainsForDc (dc : Nat)
  | connect (host domain path : String) (timeout : Nat)
  /-- A send whose error the session sees. -/
  | send (transport : Nat) (payload : Bytes)
  /-- `writer.write`, which only fills a buffer. -/
  | write (transport : Nat) (payload : Bytes)
  | drain (transport : Nat)
  | bridge (transport : Nat) (splitter : Option Splitter)

namespace SessionOp

variable {Splitter : Type}

@[reducible] def Reply : SessionOp Splitter → Type
  | .now => Nat
  | .isBlacklisted _ => Bool
  | .failUntil _ => Option Nat
  | .blacklist _ | .setFailUntil _ _ | .clearFailUntil _ => Unit
  | .find _ => Option Nat
  | .shuffleWorkers _ | .getDomainsForDc _ => List String
  | .connect _ _ _ _ => Except ConnectError Nat
  | .send _ _ | .drain _ => Bool
  | .write _ _ | .bridge _ _ => Unit

end SessionOp

/-- A bridge when it starts. -/
structure BridgeStart (Splitter : Type) where
  transport : Nat
  /-- The payloads which the transport was given before. -/
  sent : List Bytes
  ctx : CryptoCtx
  /-- What was taken from the client behind its handshake. -/
  taken : Bytes
  splitter : Option Splitter

structure SessionState (Splitter : Type) where
  ctx : CryptoCtx
  /-- What was taken from the client behind its handshake. -/
  taken : Bytes
  /-- The payloads given to each transport. -/
  transports : List (List Bytes)
  bridges : List (BridgeStart Splitter)
  wsBlacklist : List String
  dcFailUntil : List (String × Nat)

/-- What a bridge has done when it returns. -/
structure BridgeEffect where
  ctx : CryptoCtx
  taken : Bytes
  sent : List Bytes

namespace SessionState

variable {Splitter : Type}

def openTransport (s : SessionState Splitter) : Nat × SessionState Splitter :=
  (s.transports.length, { s with transports := s.transports ++ [[]] })

def give (s : SessionState Splitter) (transport : Nat) (payloads : List Bytes) :
    SessionState Splitter :=
  { s with
    transports := s.transports.modify transport fun sent => sent ++ payloads }

/-- A bridge starts, and does what it does. -/
def runBridge (s : SessionState Splitter) (transport : Nat)
    (splitter : Option Splitter) (effect : BridgeEffect) :
    SessionState Splitter :=
  let start : BridgeStart Splitter :=
    { transport, sent := s.transports.getD transport [], ctx := s.ctx,
      taken := s.taken, splitter }
  { s.give transport effect.sent with
    ctx := effect.ctx
    taken := s.taken ++ effect.taken
    bridges := s.bridges ++ [start] }

end SessionState

/-- A lookup or a connection either gives a new transport or does not. -/
@[reducible] def SessionOp.Outcome {Splitter : Type} :
    SessionOp Splitter → Type
  | .now => Nat
  | .isBlacklisted _ | .failUntil _ => Unit
  | .blacklist _ | .setFailUntil _ _ | .clearFailUntil _ => Unit
  | .find _ => Bool
  | .shuffleWorkers workerDomains =>
      { order : List String // order.Perm workerDomains }
  | .getDomainsForDc _ => List String
  | .connect _ _ _ _ => Except ConnectError Unit
  | .send _ _ | .drain _ => Bool
  | .write _ _ => Unit
  | .bridge _ _ => BridgeEffect

/-- The surroundings of a session. -/
def sessionWorld (Splitter : Type) :
    Surroundings (SessionOp Splitter) SessionOp.Reply where
  State := SessionState Splitter
  Outcome := SessionOp.Outcome
  perform s op outcome :=
    match op, outcome with
    | .now, time => (time, s)
    | .isBlacklisted dcKey, _ => (s.wsBlacklist.contains dcKey, s)
    | .blacklist dcKey, _ =>
        ((), { s with wsBlacklist := dcKey :: s.wsBlacklist })
    | .failUntil dcKey, _ => (s.dcFailUntil.lookup dcKey, s)
    | .setFailUntil dcKey time, _ =>
        ((), { s with dcFailUntil := (dcKey, time) :: s.dcFailUntil })
    | .clearFailUntil dcKey, _ =>
        ((),
          { s with dcFailUntil := s.dcFailUntil.filter (·.1 ≠ dcKey) })
    | .find _, found =>
        if found then (some s.openTransport.1, s.openTransport.2) else (none, s)
    | .shuffleWorkers _, order => (order.1, s)
    | .getDomainsForDc _, domains => (domains, s)
    | .connect _ _ _ _, .ok () => (.ok s.openTransport.1, s.openTransport.2)
    | .connect _ _ _ _, .error error => (.error error, s)
    | .send transport payload, sent => (sent, s.give transport [payload])
    | .write transport payload, _ => ((), s.give transport [payload])
    | .drain _, drained => (drained, s)
    | .bridge transport splitter, effect =>
        ((), s.runBridge transport splitter effect)

abbrev SessionProgram (Splitter Result : Type) :=
  Program (SessionOp Splitter) SessionOp.Reply Result

/-- Make a call of a session. -/
abbrev act {Splitter : Type} (op : SessionOp Splitter) :
    SessionProgram Splitter op.Reply :=
  Program.perform op

/-- The fields of `ProxyConfig` which decide the route. -/
structure RouteConfig where
  dcRedirects : List (Nat × String)
  fallbackCfproxy : Bool
  cfproxyWorkerDomains : List String

/-- `DC_FAIL_COOLDOWN` and the timeouts, in nanoseconds. -/
def dcFailCooldown : Nat := 30_000_000_000
def wsFailTimeout : Nat := 2_000_000_000
def wsTimeout : Nat := 10_000_000_000

/-- What the loop over the WebSocket domains has found. -/
structure ConnectTrial where
  ws : Option Nat
  wsFailedRedirect : Bool
  allRedirects : Bool

/-- The loop over the WebSocket domains in `_handle_client` and
`handle_client`. -/
def connectLoop {Splitter : Type} (target : String) (timeout : Nat) :
    List String → Bool → Bool → SessionProgram Splitter ConnectTrial
  | [], wsFailedRedirect, allRedirects =>
      return ⟨none, wsFailedRedirect, allRedirects⟩
  | domain :: domains, wsFailedRedirect, allRedirects => do
      let connected ← act (.connect target domain "/apiws" timeout)
      match connected with
      | .ok ws => return ⟨some ws, wsFailedRedirect, false⟩
      | .error .redirect => connectLoop target timeout domains true allRedirects
      | .error _ => connectLoop target timeout domains wsFailedRedirect false

/-- A WebSocket of the pool, or else a new one. -/
def poolOrConnect {Splitter : Type} (dc : Nat) (isMedia : Bool)
    (target : String) (timeout : Nat) (domains : List String) :
    SessionProgram Splitter ConnectTrial := do
  let pooled ← act (.find (.wsPool dc isMedia target domains))
  match pooled with
  | some ws => return ⟨some ws, false, true⟩
  | none => connectLoop target timeout domains false true

/-- The state of a session before its first call. -/
def SessionState.start {Splitter : Type} (ctx : CryptoCtx)
    (wsBlacklist : List String) (dcFailUntil : List (String × Nat)) :
    SessionState Splitter :=
  { ctx, taken := [], transports := [], bridges := [], wsBlacklist,
    dcFailUntil }

section Sessions

variable {Splitter : Type} {ctx : CryptoCtx} {relayInit : Bytes}
  {s : SessionState Splitter}

/-- No bridge was started, and nothing has been touched which it needs. -/
structure Fresh (ctx : CryptoCtx) (s : SessionState Splitter) : Prop where
  bridges : s.bridges = []
  ctx : s.ctx = ctx
  taken : s.taken = []

/-- At most one bridge was started.  It started from the ciphers and the client
stream of a fresh session, on a transport which had been sent the relay header
and nothing else; until then the session is fresh. -/
structure OneBridge (ctx : CryptoCtx) (relayInit : Bytes)
    (s : SessionState Splitter) : Prop where
  atMostOne : s.bridges.length ≤ 1
  started : ∀ bridge ∈ s.bridges, bridge.ctx = ctx ∧ bridge.taken = [] ∧
    bridge.sent = [relayInit]
  before : s.bridges = [] → s.ctx = ctx ∧ s.taken = []

/-- A transport to which exactly the listed payloads were given. -/
def Given (transport : Nat) (payloads : List Bytes)
    (s : SessionState Splitter) : Prop :=
  s.transports[transport]? = some payloads

theorem Fresh.oneBridge (fresh : Fresh ctx s) : OneBridge ctx relayInit s := by
  constructor
  · rw [fresh.bridges]
    exact Nat.zero_le 1
  · intro bridge member
    rw [fresh.bridges] at member
    cases member
  · intro _
    exact ⟨fresh.ctx, fresh.taken⟩

theorem start_fresh (ctx : CryptoCtx) (wsBlacklist : List String)
    (dcFailUntil : List (String × Nat)) :
    Fresh ctx (SessionState.start ctx wsBlacklist dcFailUntil :
      SessionState Splitter) :=
  ⟨rfl, rfl, rfl⟩

theorem given_openTransport (s : SessionState Splitter) :
    Given s.openTransport.1 [] s.openTransport.2 := by
  simp [Given, SessionState.openTransport]

theorem Given.give {transport : Nat} {payloads : List Bytes}
    (given : Given transport payloads s) (more : List Bytes) :
    Given transport (payloads ++ more) (s.give transport more) := by
  simp only [Given, SessionState.give, List.getElem?_modify_eq]
  rw [show s.transports[transport]? = some payloads from given]
  rfl

/-- The rules of the session calls: each triple has `OneBridge` throughout. -/
abbrev SessionMeets (ctx : CryptoCtx) (relayInit : Bytes) {Result : Type}
    (Post : Result → SessionState Splitter → Prop)
    (program : SessionProgram Splitter Result) (s : SessionState Splitter) :
    Prop :=
  program.Meets (sessionWorld Splitter) (OneBridge ctx relayInit) Post s

theorem meets_pure {Result : Type} {result : Result}
    {Post : Result → SessionState Splitter → Prop} (fresh : Fresh ctx s)
    (post : Post result s) :
    SessionMeets ctx relayInit Post (pure result) s :=
  ⟨fresh.oneBridge, post⟩

theorem meets_act (op : SessionOp Splitter)
    {Post : op.Reply → SessionState Splitter → Prop} (fresh : Fresh ctx s)
    (next : ∀ outcome : op.Outcome,
      OneBridge ctx relayInit ((sessionWorld Splitter).perform s op outcome).2 ∧
        Post ((sessionWorld Splitter).perform s op outcome).1
          ((sessionWorld Splitter).perform s op outcome).2) :
    SessionMeets ctx relayInit Post (act op) s :=
  Program.Meets.perform fresh.oneBridge next

/-- A call which leaves the ciphers, the client's stream and the bridges
alone. -/
theorem meets_quiet (op : SessionOp Splitter) (fresh : Fresh ctx s)
    (quiet : ∀ outcome : op.Outcome,
      Fresh ctx ((sessionWorld Splitter).perform s op outcome).2) :
    SessionMeets ctx relayInit (fun _ => Fresh ctx) (act op) s := by
  apply meets_act op fresh
  intro outcome
  exact ⟨(quiet outcome).oneBridge, quiet outcome⟩

/-- What a lookup or a connection leaves: a fresh session, with a transport to
which nothing was given if there is one. -/
def Opened (ctx : CryptoCtx) (ws : Option Nat) (s : SessionState Splitter) :
    Prop :=
  Fresh ctx s ∧ ∀ transport ∈ ws, Given transport [] s

theorem Fresh.openTransport (fresh : Fresh ctx s) :
    Opened ctx (some s.openTransport.1) s.openTransport.2 := by
  refine ⟨⟨fresh.bridges, fresh.ctx, fresh.taken⟩, ?_⟩
  intro transport member
  cases member
  exact given_openTransport s

theorem Fresh.unopened (fresh : Fresh ctx s) : Opened ctx none s := by
  refine ⟨fresh, ?_⟩
  intro transport member
  cases member

theorem meets_find (fresh : Fresh ctx s) (source : TransportSource) :
    SessionMeets ctx relayInit (Opened ctx) (act (.find source)) s := by
  apply meets_act (.find source) fresh
  intro found
  cases found with
  | false => exact ⟨fresh.oneBridge, fresh.unopened⟩
  | true => exact ⟨fresh.openTransport.1.oneBridge, fresh.openTransport⟩

theorem meets_connect (fresh : Fresh ctx s) (host domain path : String)
    (timeout : Nat) :
    SessionMeets ctx relayInit (fun connected => Opened ctx connected.toOption)
      (act (.connect host domain path timeout)) s := by
  apply meets_act (.connect host domain path timeout) fresh
  intro connected
  cases connected with
  | error error => exact ⟨fresh.oneBridge, fresh.unopened⟩
  | ok opened => exact ⟨fresh.openTransport.1.oneBridge, fresh.openTransport⟩

/-- A payload which is given to a transport, whether the session is told about
an error or not. -/
theorem meets_give (op : SessionOp Splitter) {transport : Nat}
    {payload : Bytes} {payloads : List Bytes} (fresh : Fresh ctx s)
    (given : Given transport payloads s)
    (gives : ∀ outcome : op.Outcome, ((sessionWorld Splitter).perform s op outcome).2 =
      s.give transport [payload]) :
    SessionMeets ctx relayInit
      (fun _ s => Fresh ctx s ∧ Given transport (payloads ++ [payload]) s)
      (act op) s := by
  apply meets_act op fresh
  intro outcome
  have after : Fresh ctx (s.give transport [payload]) :=
    ⟨fresh.bridges, fresh.ctx, fresh.taken⟩
  rw [gives outcome]
  exact ⟨after.oneBridge, after, given.give [payload]⟩

/-- A quiet call which leaves the transports alone too. -/
theorem meets_still (op : SessionOp Splitter) {transport : Nat}
    {payloads : List Bytes} (fresh : Fresh ctx s)
    (given : Given transport payloads s)
    (still : ∀ outcome : op.Outcome,
      Fresh ctx ((sessionWorld Splitter).perform s op outcome).2 ∧
        ((sessionWorld Splitter).perform s op outcome).2.transports =
          s.transports) :
    SessionMeets ctx relayInit
      (fun _ s => Fresh ctx s ∧ Given transport payloads s) (act op) s := by
  apply meets_act op fresh
  intro outcome
  obtain ⟨stillFresh, same⟩ := still outcome
  refine ⟨stillFresh.oneBridge, stillFresh, ?_⟩
  exact (congrArg (·[transport]?) same).trans given

/-- The one bridge of a session. -/
theorem meets_bridge {transport : Nat} (fresh : Fresh ctx s)
    (given : Given transport [relayInit] s) (splitter : Option Splitter) :
    SessionMeets ctx relayInit (fun _ => OneBridge ctx relayInit)
      (act (.bridge transport splitter)) s := by
  apply meets_act (.bridge transport splitter) fresh
  intro effect
  apply and_self_iff.mpr
  have bridges : (s.runBridge transport splitter effect).bridges =
      [⟨transport, s.transports.getD transport [], s.ctx, s.taken, splitter⟩] := by
    exact congrArg (· ++ [_]) fresh.bridges
  constructor
  · exact Nat.le_of_eq (congrArg List.length bridges)
  · intro bridge member
    have only := (List.mem_singleton.mp (bridges ▸ member))
    rw [only]
    refine ⟨fresh.ctx, fresh.taken, ?_⟩
    rw [List.getD_eq_getElem?_getD, given]
    rfl
  · intro none
    have some : (s.runBridge transport splitter effect).bridges = [] := none
    rw [bridges] at some
    cases some

theorem meets_connectLoop (fresh : Fresh ctx s) (target : String)
    (timeout : Nat) (domains : List String)
    (wsFailedRedirect allRedirects : Bool) :
    SessionMeets ctx relayInit (fun trial => Opened ctx trial.ws)
      (connectLoop target timeout domains wsFailedRedirect allRedirects) s := by
  induction domains generalizing s wsFailedRedirect allRedirects with
  | nil => exact meets_pure fresh fresh.unopened
  | cons domain domains induction =>
      apply Program.Meets.bind (meets_connect fresh target domain "/apiws" timeout)
      intro connected s opened
      cases connected with
      | ok ws => exact meets_pure opened.1 opened
      | error error =>
          cases error with
          | redirect => exact induction opened.1 true allRedirects
          | handshake => exact induction opened.1 wsFailedRedirect false
          | other => exact induction opened.1 wsFailedRedirect false

theorem meets_poolOrConnect (fresh : Fresh ctx s) (dc : Nat) (isMedia : Bool)
    (target : String) (timeout : Nat) (domains : List String) :
    SessionMeets ctx relayInit (fun trial => Opened ctx trial.ws)
      (poolOrConnect dc isMedia target timeout domains) s := by
  apply Program.Meets.bind (meets_find fresh (.wsPool dc isMedia target domains))
  intro pooled s opened
  cases pooled with
  | some ws => exact meets_pure opened.1 opened
  | none => exact meets_connectLoop opened.1 target timeout domains false true

end Sessions

end TgWsProxy
