import TgWsProxy.DomainAnswers
import TgWsProxy.Cooldown

/-!
# The search of a session for its domain

A session goes on behind redirects and behind other failures, up to the first
domain whose server switches the protocol.  What the servers answer decides what
it records about the DC.
-/

namespace TgWsProxy

open Lib

/-- What the loop over the domains finds, and the calls which it makes. -/
def searchDomains {Splitter : Type} (target : String) (timeout : Nat)
    (domains : List String) (wsFailedRedirect allRedirects : Bool)
    (outcomes : Nat → (op : SessionOp Splitter) →
      (sessionWorld Splitter).Outcome op)
    (s : (sessionWorld Splitter).State) :
    ConnectTrial × List (SessionOp Splitter) :=
  let loop := connectLoop target timeout domains wsFailedRedirect allRedirects
  ((loop.finish (sessionWorld Splitter) outcomes s).1,
    (loop.history (sessionWorld Splitter) outcomes s).map (·.op))

/-- The connections of a session to the DC come to what `connect` says. -/
def ConnectsAs {Ws Splitter : Type} (connect : String → Except ConnectError Ws)
    (target : String) (outcomes : Nat → (op : SessionOp Splitter) →
      (sessionWorld Splitter).Outcome op) : Prop :=
  ∀ index domain timeout,
    outcomes index (.connect target domain "/apiws" timeout) =
      (connect domain).map fun _ => ()

/-- What a loop over the domains has found from its flags, and what it has
called. -/
structure Searched {Splitter : Type} (answers : String → Option ServerAnswer)
    (target : String) (timeout : Nat) (domains : List String)
    (wsFailedRedirect allRedirects : Bool)
    (found : ConnectTrial × List (SessionOp Splitter)) : Prop where
  opened : found.1.ws.isSome = domains.any (Switches answers)
  blacklists : (found.1.wsFailedRedirect && found.1.allRedirects) =
    ((wsFailedRedirect || !domains.isEmpty) &&
      (allRedirects && domains.all (Redirects answers)))
  calls : found.2 = (triedDomains answers domains).map fun domain =>
    .connect target domain "/apiws" timeout

/-- What a session records behind the loop. -/
def recording {Splitter : Type} (answers : String → Option ServerAnswer)
    (domains : List String) (dcKey : String) (now : Nat) : SessionOp Splitter :=
  if domains.any (Switches answers) then .clearFailUntil dcKey
  else if domains.all (Redirects answers) then .blacklist dcKey
  else .setFailUntil dcKey (now + dcFailCooldown)

/-- The handlers behind the loop: they record what it has found, and serve the
WebSocket or fall back. -/
structure RecordsTrial {Splitter Result : Type} (dcKey : String) (now : Nat)
    (after : ConnectTrial → SessionProgram Splitter Result)
    (fallback : SessionProgram Splitter Result)
    (serve : Nat → SessionProgram Splitter Result) : Prop where
  failed : ∀ trial, trial.ws = none → after trial =
    if trial.wsFailedRedirect && trial.allRedirects then do
      act (.blacklist dcKey)
      fallback
    else do
      act (.setFailUntil dcKey (now + dcFailCooldown))
      fallback
  served : ∀ trial ws, trial.ws = some ws → after trial = do
    act (.clearFailUntil dcKey)
    serve ws
  fallbackVia : fallback.Calls ViaFallback
  serveVia : ∀ ws, (serve ws).Calls ViaFallback

section Loop

variable {Ws Splitter : Type} {connect : String → Except ConnectError Ws}
  {answers : String → Option ServerAnswer}
  {ws : String → ServerAnswer → Ws} {target : String} {timeout : Nat}
  {outcomes : Nat → (op : SessionOp Splitter) →
    (sessionWorld Splitter).Outcome op}
  {s : (sessionWorld Splitter).State} {wsFailedRedirect allRedirects : Bool}

theorem searchDomains_ok {domain : String} {domains : List String}
    (opened : outcomes 0 (.connect target domain "/apiws" timeout) = .ok ()) :
    searchDomains target timeout (domain :: domains) wsFailedRedirect
        allRedirects outcomes s =
      (⟨some (SessionState.transports s).length, wsFailedRedirect, false⟩,
        [.connect target domain "/apiws" timeout]) := by
  have performed : (sessionWorld Splitter).perform s
      (.connect target domain "/apiws" timeout) (outcomes 0 _) =
        (.ok (SessionState.transports s).length,
          (SessionState.openTransport s).2) := by
    rw [opened]
    rfl
  rw [searchDomains, connectLoop, Program.finish_perform,
    Program.history_perform, performed]
  rfl

theorem searchDomains_error {domain : String} {domains : List String}
    {error : ConnectError}
    (failed : outcomes 0 (.connect target domain "/apiws" timeout) =
      .error error) :
    searchDomains target timeout (domain :: domains) wsFailedRedirect
        allRedirects outcomes s =
      ((searchDomains target timeout domains
          (wsFailedRedirect || error = .redirect)
          (allRedirects && error = .redirect)
          (fun index => outcomes (index + 1)) s).1,
        .connect target domain "/apiws" timeout ::
          (searchDomains target timeout domains
            (wsFailedRedirect || error = .redirect)
            (allRedirects && error = .redirect)
            (fun index => outcomes (index + 1)) s).2) := by
  have performed : (sessionWorld Splitter).perform s
      (.connect target domain "/apiws" timeout) (outcomes 0 _) =
        (.error error, s) := by
    rw [failed]
    rfl
  rw [searchDomains, connectLoop, Program.finish_perform,
    Program.history_perform, performed]
  cases error with
  | redirect =>
      rw [decide_eq_true rfl, Bool.or_true, Bool.and_true]
      rfl
  | handshake =>
      rw [decide_eq_false (by decide), Bool.or_false, Bool.and_false]
      rfl
  | other =>
      rw [decide_eq_false (by decide), Bool.or_false, Bool.and_false]
      rfl

/-- By induction over the domains, for any flags: a turn of the loop changes them
as the verdict on its domain tells. -/
theorem searchDomains_searched (timeout : Nat)
    (verdicts : ∀ domain,
      connect domain = ServerAnswer.verdict (ws domain) (answers domain))
    (connects : ConnectsAs connect target outcomes) (domains : List String)
    (wsFailedRedirect allRedirects : Bool) :
    Searched answers target timeout domains wsFailedRedirect allRedirects
      (searchDomains target timeout domains wsFailedRedirect allRedirects
        outcomes s) := by
  induction domains generalizing wsFailedRedirect allRedirects outcomes with
  | nil =>
      refine ⟨rfl, ?_, rfl⟩
      show (wsFailedRedirect && allRedirects) = _
      simp
  | cons domain domains induction =>
      have now := connects 0 domain timeout
      have later : ConnectsAs connect target fun index => outcomes (index + 1) :=
        fun index => connects (index + 1)
      rw [verdicts] at now
      cases verdict : ServerAnswer.verdict (ws domain) (answers domain) with
      | ok opened =>
          obtain ⟨answer, answered, status, -⟩ := verdict_ok verdict
          have switches : Switches answers domain = true :=
            switches_iff.mpr ⟨answer, answered, status⟩
          have kept := switches_not_redirects switches
          rw [verdict] at now
          rw [searchDomains_ok now]
          constructor
          · simp [switches]
          · simp [kept]
          · simp [triedDomains, switches]
      | error error =>
          obtain ⟨refuses, redirects⟩ := verdict_error verdict
          rw [verdict] at now
          rw [searchDomains_error now]
          obtain ⟨opened, blacklists, calls⟩ := induction later
            (wsFailedRedirect || error = .redirect)
            (allRedirects && error = .redirect)
          constructor
          · rw [opened, List.any_cons, refuses, Bool.false_or]
          · rw [blacklists, List.all_cons, redirects]
            cases decide (error = .redirect) <;> simp
          · rw [triedDomains, refuses, calls]
            simp

/-- What is called behind a first call. -/
theorem history_begins {Result : Type} {op : SessionOp Splitter}
    {reply : op.Reply → SessionProgram Splitter Result}
    (via : ∀ answer, (reply answer).Calls ViaFallback)
    (outcomes : Nat → (op : SessionOp Splitter) →
      (sessionWorld Splitter).Outcome op)
    (s : (sessionWorld Splitter).State) :
    ∃ rest : List (SessionOp Splitter),
      ((act op >>= reply).history (sessionWorld Splitter) outcomes s).map
        (·.op) = op :: rest ∧ ∀ op ∈ rest, ViaFallback op := by
  rw [Program.history_perform]
  refine ⟨_, rfl, ?_⟩
  intro later member
  obtain ⟨performed, among, rfl⟩ := List.mem_map.mp member
  exact Program.Only.of_calls (via _) _ _ performed among

namespace RecordsTrial

variable {Result : Type} {dcKey : String} {now : Nat}
  {after : ConnectTrial → SessionProgram Splitter Result}
  {fallback : SessionProgram Splitter Result}
  {serve : Nat → SessionProgram Splitter Result} {domains : List String}

/-- The first call behind the loop is the recording of what the answers amount
to. -/
theorem begins {trial : ConnectTrial}
    (records : RecordsTrial dcKey now after fallback serve)
    (opened : trial.ws.isSome = domains.any (Switches answers))
    (blacklists : (trial.wsFailedRedirect && trial.allRedirects) =
      domains.all (Redirects answers)) :
    ∃ op reply, op = recording answers domains dcKey now ∧
      after trial = act op >>= reply ∧
      ∀ answer, (reply answer).Calls ViaFallback := by
  cases found : trial.ws with
  | some ws =>
      rw [found] at opened
      refine ⟨.clearFailUntil dcKey, fun _ => serve ws, ?_,
        records.served trial ws found, fun _ => records.serveVia ws⟩
      have switched : domains.any (Switches answers) = true := opened.symm
      rw [recording, if_pos switched]
  | none =>
      rw [found] at opened
      have refused : ¬ domains.any (Switches answers) = true := by
        rw [← opened]
        exact Bool.false_ne_true
      have recorded := records.failed trial found
      rw [blacklists] at recorded
      by_cases moved : domains.all (Redirects answers) = true
      · rw [if_pos moved] at recorded
        refine ⟨.blacklist dcKey, fun _ => fallback, ?_, recorded,
          fun _ => records.fallbackVia⟩
        rw [recording, if_neg refused, if_pos moved]
      · rw [if_neg moved] at recorded
        refine ⟨.setFailUntil dcKey (now + dcFailCooldown), fun _ => fallback,
          ?_, recorded, fun _ => records.fallbackVia⟩
        rw [recording, if_neg refused, if_neg moved]

theorem history
    (records : RecordsTrial dcKey now after fallback serve) (timeout : Nat)
    (filled : domains ≠ [])
    (verdicts : ∀ domain,
      connect domain = ServerAnswer.verdict (ws domain) (answers domain))
    (connects : ConnectsAs connect target outcomes) :
    ∃ rest : List (SessionOp Splitter),
      ((connectLoop target timeout domains false true >>= after).history
          (sessionWorld Splitter) outcomes s).map (·.op) =
        ((triedDomains answers domains).map fun domain =>
          .connect target domain "/apiws" timeout) ++
            recording answers domains dcKey now :: rest ∧
      ∀ op ∈ rest, ViaFallback op := by
  obtain ⟨opened, blacklists, calls⟩ :=
    searchDomains_searched timeout verdicts connects domains false true
  -- a DC without domains would be a cooldown, not a blacklisting
  rw [Bool.false_or, Bool.true_and, List.isEmpty_eq_false_iff.mpr filled,
    Bool.not_false, Bool.true_and] at blacklists
  obtain ⟨op, reply, isRecording, begins, via⟩ :=
    records.begins opened blacklists
  obtain ⟨rest, called, fallsBack⟩ := history_begins via _ _
  refine ⟨rest, ?_, fallsBack⟩
  rw [Program.history_bind, List.map_append, ← isRecording, ← called, ← begins]
  exact congrArg (· ++ _) calls

theorem pool_history
    (records : RecordsTrial dcKey now after fallback serve) (timeout dc : Nat)
    (isMedia : Bool) (filled : domains ≠ [])
    (empty : outcomes 0 (.find (.wsPool dc isMedia target domains)) = false)
    (verdicts : ∀ domain,
      connect domain = ServerAnswer.verdict (ws domain) (answers domain))
    (connects : ConnectsAs connect target outcomes) :
    ∃ rest : List (SessionOp Splitter),
      ((poolOrConnect dc isMedia target timeout domains >>= after).history
          (sessionWorld Splitter) outcomes s).map (·.op) =
        .find (.wsPool dc isMedia target domains) ::
          ((triedDomains answers domains).map fun domain =>
            .connect target domain "/apiws" timeout) ++
            recording answers domains dcKey now :: rest ∧
      ∀ op ∈ rest, ViaFallback op := by
  have later : ConnectsAs connect target fun index => outcomes (index + 1) :=
    fun index => connects (index + 1)
  obtain ⟨rest, calls, fallsBack⟩ :=
    records.history (s := s) timeout filled verdicts later
  refine ⟨rest, ?_, fallsBack⟩
  have performed : (sessionWorld Splitter).perform s
      (.find (.wsPool dc isMedia target domains)) (outcomes 0 _) =
        (none, s) := by
    rw [empty]
    rfl
  rw [poolOrConnect, Program.perform_bind_bind, Program.history_perform,
    performed]
  exact congrArg (List.cons _) calls

end RecordsTrial

end Loop

/-- `ws_timeout`. -/
def connectTimeout (now : Nat) (failUntil : Option Nat) : Nat :=
  if now < failUntil.getD 0 then wsFailTimeout else wsTimeout

/-- The calls of a session which finds nothing in the pool, up to its
recording. -/
def callsOfSession {Splitter : Type} (request : ClientRequest) (target : String)
    (answers : String → Option ServerAnswer) (failUntil : Option Nat)
    (now : Nat) : List (SessionOp Splitter) :=
  let domains := wsDomains request.dc request.isMedia
  [.isBlacklisted request.dcKey, .now, .failUntil request.dcKey,
    .find (.wsPool request.dc request.isMedia target domains)] ++
  ((triedDomains answers domains).map fun domain =>
    .connect target domain "/apiws" (connectTimeout now failUntil)) ++
  [recording answers domains request.dcKey now]

section Sessions

variable {Ws Splitter Result : Type}
  {connect : String → Except ConnectError Ws}
  {answers : String → Option ServerAnswer}
  {ws : String → ServerAnswer → Ws} {target : String}
  {outcomes : Nat → (op : SessionOp Splitter) →
    (sessionWorld Splitter).Outcome op}
  {s : (sessionWorld Splitter).State} {request : ClientRequest}

/-- From `dc_key` on, both handlers have this shape. -/
theorem history_session {fallback : SessionProgram Splitter Result}
    (serve : Nat → SessionProgram Splitter Result)
    {after : Nat → ConnectTrial → SessionProgram Splitter Result}
    {timeout : Nat → Option Nat → Nat}
    (records : ∀ now,
      RecordsTrial request.dcKey now (after now) fallback serve)
    (timeouts : ∀ now failUntil,
      timeout now failUntil = connectTimeout now failUntil)
    (unlisted : (SessionState.wsBlacklist s).contains request.dcKey = false)
    (empty : ∀ source, outcomes 3 (.find source) = false)
    (verdicts : ∀ domain,
      connect domain = ServerAnswer.verdict (ws domain) (answers domain))
    (connects : ConnectsAs connect target outcomes) :
    ∃ rest,
      (Program.history (sessionWorld Splitter) (do
          let blacklisted ← act (.isBlacklisted request.dcKey)
          if blacklisted then fallback
          else
            let now ← act .now
            let failUntil ← act (.failUntil request.dcKey)
            let trial ← poolOrConnect request.dc request.isMedia target
              (timeout now failUntil) (wsDomains request.dc request.isMedia)
            after now trial) outcomes s).map (·.op) =
        callsOfSession request target answers
          ((SessionState.dcFailUntil s).lookup request.dcKey)
          (outcomes 1 .now) ++ rest ∧
      ∀ op ∈ rest, ViaFallback op := by
  have performed : (sessionWorld Splitter).perform s
      (.isBlacklisted request.dcKey) (outcomes 0 _) = (false, s) :=
    congrArg (·, s) unlisted
  have later : ConnectsAs connect target fun index => outcomes (index + 3) :=
    fun index => connects (index + 3)
  obtain rfl : timeout = connectTimeout := funext₂ timeouts
  obtain ⟨rest, calls, fallsBack⟩ :=
    (records (outcomes 1 .now)).pool_history (s := s)
      (connectTimeout (outcomes 1 .now)
        ((SessionState.dcFailUntil s).lookup request.dcKey))
      request.dc request.isMedia
      (wsDomains_ne_nil request.dc request.isMedia) (empty _) verdicts later
  refine ⟨rest, ?_, fallsBack⟩
  -- the clock and the cooldown are read without a change of the state
  rw [Program.history_perform, performed, if_neg Bool.false_ne_true,
    Program.history_perform, Program.history_perform]
  have told := congrArg (fun ops => .isBlacklisted request.dcKey :: .now ::
    .failUntil request.dcKey :: ops) calls
  refine Eq.trans told ?_
  simp only [callsOfSession, List.append_assoc]
  rfl

end Sessions

/-- Every session which is sent to the DC, is not blacklisted and finds nothing
in the pool tries the domains in their order, up to the first which switches the
protocol.  It then records what the answers amount to; all it calls behind that
is for the WebSocket or the fallback. -/
def SearchesDomains {Ws Splitter Result : Type}
    (handle : HandlerInput → SessionProgram Splitter Result)
    (connect : String → Except ConnectError Ws)
    (answers : String → Option ServerAnswer) : Prop :=
  ∀ (input : HandlerInput) (target : String)
    (outcomes : Nat → (op : SessionOp Splitter) →
      (sessionWorld Splitter).Outcome op)
    (s : SessionState Splitter),
    input.config.dcRedirects.lookup input.request.dc = some target →
    s.wsBlacklist.contains input.request.dcKey = false →
    (∀ source, outcomes 3 (.find source) = false) →
    ConnectsAs connect target outcomes →
    ∃ rest,
      ((handle input).history (sessionWorld Splitter) outcomes s).map (·.op) =
        callsOfSession input.request target answers
          (s.dcFailUntil.lookup input.request.dcKey) (outcomes 1 .now) ++ rest ∧
      ∀ op ∈ rest, ViaFallback op

section Handlers

variable {answers : String → Option ServerAnswer} {Ws : Type}
  {connect : String → Except TgWsProxy.ConnectError Ws}
  {ws : String → ServerAnswer → Ws}

theorem Python.handle_searches (crypto : Primitives)
    (verdicts : ∀ domain,
      connect domain = ServerAnswer.verdict (ws domain) (answers domain)) :
    SearchesDomains (handle crypto) connect answers := by
  intro input target outcomes s routed unlisted empty connects
  rw [handle, handleClient]
  simp only [routed]
  refine history_session (sendAndBridge input.relayInit
    (MsgSplitter.new crypto input.relayInit
      (protoIntOfTag input.request.protoTag)).toOption) ?_ ?_ unlisted empty
    verdicts connects
  · intro now
    constructor
    · intro trial none
      simp only [none]
      rfl
    · intro trial ws some
      simp only [some]
      rfl
    · exact calls_doFallback input.relayInit _ input.config input.request.dc
    · exact calls_sendAndBridge input.relayInit _
  · intro now failUntil
    rfl

theorem Rust.handle_searches (crypto : Primitives)
    (verdicts : ∀ domain,
      connect domain = ServerAnswer.verdict (ws domain) (answers domain)) :
    SearchesDomains (handle crypto) connect answers := by
  intro input target outcomes s routed unlisted empty connects
  rw [handle, handleClient]
  simp only [routed]
  refine history_session (serveWebSocket crypto input.relayInit
    (UInt32.ofNat (protoIntOfTag input.request.protoTag))) ?_ ?_ unlisted empty
    verdicts connects
  · intro now
    constructor
    · intro trial none
      simp only [none]
      rfl
    · intro trial ws some
      simp only [some]
      rfl
    · exact calls_doFallbackTcpWs crypto input.relayInit input.config
        input.request.dc
    · exact calls_serveWebSocket crypto input.relayInit _
  · intro now failUntil
    cases failUntil with
    | none => exact (if_neg (Nat.not_lt_zero now)).symm
    | some fail => rfl

end Handlers

section Searches

variable {int : Python.PyStr → Option Int} {lower : Rust.LowercaseTable}

/-- Nothing is pooled, and what is connected to comes to `connect`. -/
def connectOutcomes {Ws Splitter : Type}
    (connect : String → Except ConnectError Ws) :
    Nat → (op : SessionOp Splitter) → (sessionWorld Splitter).Outcome op
  | _, .connect _ domain _ _ => (connect domain).map fun _ => ()
  | _, op => unreachable op

/-- The DC is blacklisted when both of its domains have redirected. -/
def movedCalls {Splitter : Type} : List (SessionOp Splitter) :=
  let domains := ["kws2.web.telegram.org", "kws2-1.web.telegram.org"]
  [.isBlacklisted "2", .now, .failUntil "2",
    .find (.wsPool 2 false "149.154.167.220" domains),
    .connect "149.154.167.220" "kws2.web.telegram.org" "/apiws" wsTimeout,
    .connect "149.154.167.220" "kws2-1.web.telegram.org" "/apiws" wsTimeout,
    .blacklist "2"]

end Searches

end TgWsProxy
