import TgWsProxy.ClockedHandlers
import TgWsProxy.Rust.Blacklist
import TgWsProxy.Python.Blacklist

/-!
# The cooldown of a DC

Both implementations count a cooldown from the time which a session has read
before its attempts, not from the time at which it is recorded.  The sessions
which read it use the short timeout as long as they look at the clock before
that count is over.
-/

namespace TgWsProxy

open Lib

section Programs

variable {Splitter Result : Type} {dcKey : String} {stage : CooldownStage}

/-- A call of a session for its WebSocket. -/
def Tries (timeout : Nat) : SessionOp Splitter → Prop
  | .find _ => True
  | .connect _ _ _ given => given = timeout
  | _ => False

theorem tries_connect (host domain path : String) (timeout : Nat) :
    Tries timeout (.connect host domain path timeout : SessionOp Splitter) :=
  rfl

theorem connectLoop_tries (target : String) (timeout : Nat)
    (domains : List String) (wsFailedRedirect allRedirects : Bool) :
    (connectLoop target timeout domains wsFailedRedirect allRedirects :
      SessionProgram Splitter ConnectTrial).Calls (Tries timeout) := by
  induction domains generalizing wsFailedRedirect allRedirects with
  | nil => exact Program.Calls.pure _
  | cons domain domains induction =>
      apply Program.Calls.bind (Program.Calls.perform (tries_connect _ _ _ _))
      intro connected
      cases connected with
      | ok ws => exact Program.Calls.pure _
      | error error =>
          cases error with
          | redirect => exact induction true allRedirects
          | handshake => exact induction wsFailedRedirect false
          | other => exact induction wsFailedRedirect false

theorem poolOrConnect_tries (dc : Nat) (isMedia : Bool) (target : String)
    (timeout : Nat) (domains : List String) :
    (poolOrConnect dc isMedia target timeout domains :
      SessionProgram Splitter ConnectTrial).Calls (Tries timeout) := by
  apply Program.Calls.bind (Program.Calls.perform trivial)
  intro pooled
  cases pooled with
  | some ws => exact Program.Calls.pure _
  | none => exact connectLoop_tries target timeout domains false true

/-- The attempts are made with the timeout which was chosen. -/
theorem poolOrConnect_keepsCooldown (dc : Nat) (isMedia : Bool)
    (target : String) (now : Nat) (domains : List String) {given timeout : Nat}
    (chosen : given = timeout) :
    (poolOrConnect dc isMedia target given domains).Obeys
      (cooldownProtocol Splitter dcKey)
      (fun _ stage => stage = .decided now timeout) (.decided now timeout) := by
  subst chosen
  apply Program.Obeys.of_calls
    (poolOrConnect_tries dc isMedia target given domains)
  · intro op tries
    cases op with
    | find source => trivial
    | connect host domain path timeout => exact tries
    | _ => exact tries.elim
  · intro op reply tries
    cases op with
    | find source => rfl
    | connect host domain path timeout => rfl
    | _ => exact tries.elim
  · exact fun _ => rfl

/-- A stage in which a session goes by the fallback or is served. -/
def CooldownStage.Over : CooldownStage → Prop
  | .begun | .fallback | .settled _ _ => True
  | _ => False

theorem CooldownStage.Over.allows (isOver : stage.Over)
    {op : SessionOp Splitter} (via : ViaFallback op) : stage.allows dcKey op := by
  cases stage with
  | begun => exact Or.inr via
  | fallback => exact via
  | settled now timeout => exact via
  | _ => exact isOver.elim

theorem CooldownStage.Over.next (isOver : stage.Over) {op : SessionOp Splitter}
    (via : ViaFallback op) (reply : op.Reply) : (stage.next op reply).Over := by
  cases stage with
  | begun =>
      cases op with
      | now => exact via.elim
      | _ => trivial
  | fallback => trivial
  | settled now timeout => trivial
  | _ => exact isOver.elim

theorem keepsCooldown_of_viaFallback {program : SessionProgram Splitter Result}
    (via : program.Calls ViaFallback) (isOver : stage.Over) :
    KeepsCooldown dcKey program stage := by
  induction program generalizing stage with
  | done result => trivial
  | call op continuation induction =>
      refine ⟨isOver.allows via.1, fun reply => ?_⟩
      exact induction reply (via.2 reply) (isOver.next via.1 reply)

/-- A deadline is counted from the time which was read. -/
theorem recordTrial_keepsCooldown {now timeout : Nat} (both : Bool)
    {fallback : SessionProgram Splitter Result}
    (via : fallback.Calls ViaFallback) :
    KeepsCooldown dcKey
      (if both then do
        act (.blacklist dcKey)
        fallback
      else do
        act (.setFailUntil dcKey (now + dcFailCooldown))
        fallback)
      (.decided now timeout) := by
  split
  · apply Program.Obeys.call trivial
    exact fun _ => keepsCooldown_of_viaFallback via trivial
  · apply Program.Obeys.call rfl
    exact fun _ => keepsCooldown_of_viaFallback via trivial

end Programs

theorem Rust.handle_keepsCooldown (crypto : Primitives) (input : HandlerInput) :
    KeepsCooldown input.request.dcKey (Rust.handle crypto input) .entering := by
  obtain ⟨config, request, relayInit, ctx⟩ := input
  unfold Rust.handle Rust.handleClient
  apply Program.Obeys.call rfl
  intro blacklisted
  have fallback := Rust.calls_doFallbackTcpWs crypto relayInit config request.dc
  split
  · exact keepsCooldown_of_viaFallback fallback trivial
  · cases blacklisted with
    | true => exact keepsCooldown_of_viaFallback fallback trivial
    | false =>
        apply Program.Obeys.call (Or.inl rfl)
        intro now
        apply Program.Obeys.call rfl
        intro failUntil
        refine Program.Obeys.bind (poolOrConnect_keepsCooldown request.dc
          request.isMedia _ now _ ?_) ?_
        · cases failUntil with
          | some fail => rfl
          | none => exact (if_neg (Nat.not_lt_zero now)).symm
        intro trial stage after
        obtain rfl : stage = .decided now (timeoutAt now failUntil) := after
        split
        · exact recordTrial_keepsCooldown _ fallback
        · rename_i ws some
          apply Program.Obeys.call trivial
          intro _
          exact keepsCooldown_of_viaFallback
            (Rust.calls_serveWebSocket crypto relayInit _ ws) trivial

theorem Python.handle_keepsCooldown (crypto : Primitives)
    (input : HandlerInput) :
    KeepsCooldown input.request.dcKey (Python.handle crypto input)
      .entering := by
  obtain ⟨config, request, relayInit, ctx⟩ := input
  unfold Python.handle Python.handleClient
  apply Program.Obeys.call rfl
  intro blacklisted
  have fallback (splitter : Option MsgSplitter) :=
    Python.calls_doFallback relayInit splitter config request.dc
  split
  · exact keepsCooldown_of_viaFallback (fallback _) trivial
  · cases blacklisted with
    | true => exact keepsCooldown_of_viaFallback (fallback _) trivial
    | false =>
        apply Program.Obeys.call (Or.inl rfl)
        intro now
        apply Program.Obeys.call rfl
        intro failUntil
        apply Program.Obeys.bind
          (poolOrConnect_keepsCooldown request.dc request.isMedia _ now _ rfl)
        intro trial stage after
        obtain rfl : stage = .decided now (timeoutAt now failUntil) := after
        split
        · exact recordTrial_keepsCooldown _ (fallback _)
        · rename_i ws some
          apply Program.Obeys.call trivial
          intro _
          exact keepsCooldown_of_viaFallback
            (Python.calls_sendAndBridge relayInit _ ws) trivial

/-- In every run in which the cooldowns are read in time, each session that
reads one tries its domains with the short timeout. -/
theorem cooldowns_honoured (crypto : Primitives) :
    (∀ events, AllSteps (ClockedHandlers.step (Rust.handle crypto))
        ClockedHandlers.ReadInTime ClockedHandlers.initial events →
      (run (ClockedHandlers.step (Rust.handle crypto))
        ClockedHandlers.initial events).CooldownHonoured) ∧
    ∀ events, AllSteps (ClockedHandlers.step (Python.handle crypto))
        ClockedHandlers.ReadInTime ClockedHandlers.initial events →
      (run (ClockedHandlers.step (Python.handle crypto))
        ClockedHandlers.initial events).CooldownHonoured := by
  constructor
  · intro events inTime
    exact ClockedHandlers.cooldownHonoured_of_readInTime
      (Rust.handle_keepsCooldown crypto) inTime
  · intro events inTime
    exact ClockedHandlers.cooldownHonoured_of_readInTime
      (Python.handle_keepsCooldown crypto) inTime

section SlowAttempts

variable {Splitter : Type}

def idleCtx : CryptoCtx :=
  ⟨⟨[], [], 0⟩, ⟨[], [], 0⟩, ⟨[], [], 0⟩, ⟨[], [], 0⟩⟩

/-- Nothing is pooled, and every connection fails. -/
def unreachable : (op : SessionOp Splitter) → op.Outcome
  | .now => 0
  | .isBlacklisted _ | .failUntil _ => ()
  | .blacklist _ | .setFailUntil _ _ | .clearFailUntil _ => ()
  | .find _ => false
  | .shuffleWorkers workerDomains => ⟨workerDomains, List.Perm.refl _⟩
  | .getDomainsForDc _ => []
  | .connect _ _ _ _ => .error .other
  | .send _ _ | .drain _ => false
  | .write _ _ => ()
  | .bridge _ _ => ⟨idleCtx, [], []⟩

def plainInput : HandlerInput :=
  ⟨⟨[(2, "149.154.167.220")], true, []⟩, ⟨2, false, protoTagAbridged, []⟩, [],
    idleCtx⟩

/-- A session tries its two domains for ten seconds each, and another one reads
the cooldown fifteen seconds after it was recorded. -/
def slowAttempts : List (ClockedEvent Splitter) :=
  [⟨0, .begins plainInput⟩, ⟨0, .calls 0 unreachable⟩,
    ⟨0, .calls 0 unreachable⟩, ⟨0, .calls 0 unreachable⟩,
    ⟨0, .calls 0 unreachable⟩, ⟨wsTimeout, .calls 0 unreachable⟩,
    ⟨wsTimeout, .calls 0 unreachable⟩, ⟨0, .calls 0 unreachable⟩,
    ⟨15_000_000_000, .begins plainInput⟩, ⟨0, .calls 1 unreachable⟩,
    ⟨0, .calls 1 unreachable⟩, ⟨0, .calls 1 unreachable⟩,
    ⟨0, .calls 1 unreachable⟩, ⟨0, .calls 1 unreachable⟩]

theorem slowAttempts_not_honoured :
    ¬ (run (ClockedHandlers.step (Rust.handle (Primitives.ofTables [] [])))
        ClockedHandlers.initial slowAttempts).CooldownHonoured ∧
    ¬ (run (ClockedHandlers.step (Python.handle (Primitives.ofTables [] [])))
        ClockedHandlers.initial slowAttempts).CooldownHonoured := by
  constructor
  · intro honoured
    have short := honoured ⟨35_000_000_000, 1, .failUntil "2"⟩ _ ⟨[_, _], rfl⟩
      ⟨"2", _, rfl, rfl, by decide⟩ _ rfl _ (List.mem_of_getElem? (i := 4) rfl)
    have same : _ = wsFailTimeout := short
    revert same
    decide +kernel
  · intro honoured
    have short := honoured ⟨35_000_000_000, 1, .failUntil "2"⟩ _ ⟨[_, _], rfl⟩
      ⟨"2", _, rfl, rfl, by decide⟩ _ rfl _ (List.mem_of_getElem? (i := 4) rfl)
    have same : _ = wsFailTimeout := short
    revert same
    decide +kernel

/-- The attempts fail at once. -/
def quickAttempts : List (ClockedEvent Splitter) :=
  [⟨0, .begins plainInput⟩, ⟨0, .calls 0 unreachable⟩,
    ⟨0, .calls 0 unreachable⟩, ⟨0, .calls 0 unreachable⟩,
    ⟨0, .calls 0 unreachable⟩, ⟨0, .calls 0 unreachable⟩,
    ⟨0, .calls 0 unreachable⟩, ⟨0, .calls 0 unreachable⟩,
    ⟨29_000_000_000, .begins plainInput⟩, ⟨0, .calls 1 unreachable⟩,
    ⟨0, .calls 1 unreachable⟩, ⟨0, .calls 1 unreachable⟩,
    ⟨0, .calls 1 unreachable⟩, ⟨0, .calls 1 unreachable⟩]

theorem quickAttempts_honoured :
    (run (ClockedHandlers.step (Rust.handle (Primitives.ofTables [] [])))
      ClockedHandlers.initial quickAttempts).CooldownHonoured ∧
    (run (ClockedHandlers.step (Python.handle (Primitives.ofTables [] [])))
      ClockedHandlers.initial quickAttempts).CooldownHonoured := by
  obtain ⟨rust, python⟩ := cooldowns_honoured (Primitives.ofTables [] [])
  constructor
  · apply rust
    refine ⟨trivial, trivial, trivial, ?_, trivial, trivial, trivial, trivial,
      trivial, trivial, trivial, ?_, trivial, trivial, trivial⟩
    · intro record recorded
      cases recorded
    · intro record recorded _
      cases recorded
      decide +kernel
  · apply python
    refine ⟨trivial, trivial, trivial, ?_, trivial, trivial, trivial, trivial,
      trivial, trivial, trivial, ?_, trivial, trivial, trivial⟩
    · intro record recorded
      cases recorded
    · intro record recorded _
      cases recorded
      decide +kernel

end SlowAttempts

end TgWsProxy
