import TgWsProxy.Python.Session
import TgWsProxy.Handlers

/-!
# What the Python handler records

`_handle_client` keeps to the protocol of the handlers.  `_run` clears both maps
when it starts, and sessions of an earlier run may still go on by then.
-/

namespace TgWsProxy.Python

open Lib

section Fallback

variable (relayInit : Bytes) (splitter : Option MsgSplitter)

theorem calls_sendAndBridge (ws : Nat) :
    (sendAndBridge relayInit splitter ws).Calls ViaFallback := by
  apply Program.Calls.bind (Program.Calls.perform trivial)
  intro sent
  cases sent with
  | true =>
      apply Program.Calls.bind (Program.Calls.perform trivial)
      exact fun _ => Program.Calls.pure _
  | false => exact Program.Calls.pure _

theorem calls_cfproxyWorkerLoop (dc : Nat) (fallbackDst : String)
    (workerDomains : List String) :
    (cfproxyWorkerLoop dc fallbackDst relayInit splitter workerDomains).Calls
      ViaFallback := by
  induction workerDomains with
  | nil => exact Program.Calls.pure _
  | cons workerDomain workerDomains induction =>
      apply Program.Calls.bind (Program.Calls.perform trivial)
      intro pooled
      cases pooled with
      | some ws => exact calls_sendAndBridge relayInit splitter ws
      | none =>
          apply Program.Calls.bind
            (Program.Calls.perform (viaFallback_connect _ _ _))
          intro connected
          cases connected with
          | ok ws => exact calls_sendAndBridge relayInit splitter ws
          | error error => exact induction

theorem calls_cfproxyWorkerFallback (config : RouteConfig) (dc : Nat)
    (fallbackDst : String) :
    (cfproxyWorkerFallback config dc fallbackDst relayInit splitter).Calls
      ViaFallback := by
  unfold cfproxyWorkerFallback
  split
  · exact Program.Calls.pure _
  · apply Program.Calls.bind (Program.Calls.perform trivial)
    exact calls_cfproxyWorkerLoop relayInit splitter dc fallbackDst

theorem calls_cfproxyConnect (dc : Nat) (baseDomains : List String) :
    (cfproxyConnect dc baseDomains).Calls ViaFallback := by
  induction baseDomains with
  | nil => exact Program.Calls.pure _
  | cons baseDomain baseDomains induction =>
      apply Program.Calls.bind
        (Program.Calls.perform (viaFallback_connect _ _ _))
      intro connected
      cases connected with
      | ok ws => exact Program.Calls.pure _
      | error error => exact induction

theorem calls_cfproxyFallback (dc : Nat) :
    (cfproxyFallback dc relayInit splitter).Calls ViaFallback := by
  apply Program.Calls.bind (Program.Calls.perform trivial)
  intro baseDomains
  apply Program.Calls.bind (calls_cfproxyConnect dc baseDomains)
  intro connected
  cases connected with
  | none => exact Program.Calls.pure _
  | some ws => exact calls_sendAndBridge relayInit splitter ws

theorem calls_tcpFallback (dst : String) (port : Nat) :
    (tcpFallback dst port relayInit).Calls ViaFallback := by
  apply Program.Calls.bind (Program.Calls.perform trivial)
  intro connected
  cases connected with
  | none => exact Program.Calls.pure _
  | some remote =>
      apply Program.Calls.bind (Program.Calls.perform trivial)
      intro _
      apply Program.Calls.bind (Program.Calls.perform trivial)
      intro drained
      cases drained with
      | true =>
          apply Program.Calls.bind (Program.Calls.perform trivial)
          exact fun _ => Program.Calls.pure _
      | false => exact Program.Calls.pure _

theorem calls_tryMethod (config : RouteConfig) (dc : Nat)
    (fallbackDst : Option String) (method : FallbackMethod) :
    (tryMethod config dc fallbackDst relayInit splitter method).Calls
      ViaFallback := by
  cases method with
  | cfWorker =>
      cases fallbackDst with
      | some dst =>
          exact calls_cfproxyWorkerFallback relayInit splitter config dc dst
      | none => exact Program.Calls.pure _
  | cf => exact calls_cfproxyFallback relayInit splitter dc
  | tcp =>
      cases fallbackDst with
      | some dst => exact calls_tcpFallback relayInit dst 443
      | none => exact Program.Calls.pure _

theorem calls_tryMethods (config : RouteConfig) (dc : Nat)
    (fallbackDst : Option String) (methods : List FallbackMethod) :
    (tryMethods config dc fallbackDst relayInit splitter methods).Calls
      ViaFallback := by
  induction methods with
  | nil => exact Program.Calls.pure _
  | cons method methods induction =>
      apply Program.Calls.bind
        (calls_tryMethod relayInit splitter config dc fallbackDst method)
      intro attempt
      by_cases unavailable : attempt = .unavailable
      · simp only [if_pos unavailable]
        exact induction
      · simp only [if_neg unavailable]
        exact Program.Calls.pure _

theorem calls_doFallback (config : RouteConfig) (dc : Nat) :
    (doFallback config dc relayInit splitter).Calls ViaFallback :=
  calls_tryMethods relayInit splitter config dc _ _

end Fallback

/-- `_handle_client` with all it needs. -/
def handle (crypto : Primitives) (input : HandlerInput) :
    SessionProgram MsgSplitter Attempt :=
  handleClient crypto input.config input.request input.relayInit

theorem handle_keepsProtocol (crypto : Primitives) (input : HandlerInput) :
    KeepsProtocol input.request.dcKey (handle crypto input) .entering := by
  obtain ⟨config, request, relayInit, ctx⟩ := input
  unfold handle handleClient
  apply Program.Obeys.call rfl
  intro blacklisted
  have fallback {stage : HandlerStage} (isOpen : stage.Open)
      (splitter : Option MsgSplitter) :
      KeepsProtocol request.dcKey
        (doFallback config request.dc relayInit splitter) stage :=
    keepsProtocol_of_viaFallback
      (calls_doFallback relayInit splitter config request.dc) isOpen
  split
  · apply fallback
    cases blacklisted with
    | true => trivial
    | false => trivial
  · cases blacklisted with
    | true => exact @fallback .fallback trivial _
    | false =>
        apply Program.Obeys.call rfl
        intro now
        apply Program.Obeys.call rfl
        intro failUntil
        apply Program.Obeys.bind
          (poolOrConnect_obeys request.dc request.isMedia _ _
            (wsDomains_ne_nil request.dc request.isMedia))
        intro trial stage after
        unfold AfterTrial at after
        split
        · rename_i none
          rw [none] at after
          obtain ⟨rfl, failed⟩ := after
          exact recordTrial_obeys _
            (calls_doFallback relayInit _ config request.dc) failed
        · rename_i ws some
          rw [some] at after
          obtain rfl : stage = .found := after
          apply Program.Obeys.call
          · exact ⟨rfl, rfl⟩
          · exact fun _ => keepsProtocol_of_viaFallback
              (calls_sendAndBridge relayInit _ ws) trivial

inductive RunEvent where
  /-- `_run` clears the maps. -/
  | starts
  | session (event : HandlerEvent MsgSplitter)

/-- The sessions of a process, and the runs of the proxy in it. -/
def runStep (crypto : Primitives) (handlers : Handlers MsgSplitter Attempt) :
    RunEvent → Handlers MsgSplitter Attempt
  | .starts => handlers.startAfresh
  | .session event => handlers.step (handle crypto) event

/-- A session which makes a call has made none in an earlier run. -/
def InOwnRun (handlers : Handlers MsgSplitter Attempt) : RunEvent → Prop
  | .session (.calls id _) => ∀ session ∈ handlers.sessions[id]?,
      ∀ call ∈ session.calls, call.run = handlers.run
  | _ => True

section Runs

variable {handlers : Handlers MsgSplitter Attempt}

theorem kept_runStep (crypto : Primitives) (kept : handlers.Kept)
    (event : RunEvent) : (runStep crypto handlers event).Kept := by
  cases event with
  | starts => exact kept.startAfresh
  | session event => exact kept.step (handle_keepsProtocol crypto) event

/-- The calls of a session were all made in one run. -/
def OneRunEach (handlers : Handlers MsgSplitter Attempt) : Prop :=
  ∀ session ∈ handlers.sessions, ∀ call ∈ session.calls,
    ∀ other ∈ session.calls, call.run = other.run

theorem OneRunEach.runStep (crypto : Primitives) (each : OneRunEach handlers)
    {event : RunEvent} (own : InOwnRun handlers event) :
    OneRunEach (runStep crypto handlers event) := by
  cases event with
  | starts => exact each
  | session event =>
      cases event with
      | begins input =>
          intro session member
          rcases List.mem_append.mp member with earlier | isLast
          · exact each session earlier
          · rw [List.mem_singleton.mp isLast]
            intro call among
            cases among
      | calls id outcome =>
          change OneRunEach (handlers.calls id outcome)
          obtain same | ⟨dcKey, op, continuation, state, calls, made, found, -,
            same⟩ := handlers.calls_cases id outcome
          · rw [same]
            exact each
          rw [same]
          intro session member
          rcases mem_set_cases member with rfl | ⟨other, -, earlier⟩
          · have ran : ∀ call ∈ calls ++ [⟨op, made.1, handlers.run⟩],
                call.run = handlers.run := by
              intro call among
              rcases List.mem_append.mp among with before | isLast
              · exact own _ found call before
              · rw [List.mem_singleton.mp isLast]
            intro call among other amongToo
            exact (ran call among).trans (ran other amongToo).symm
          · exact each session (List.mem_of_getElem? earlier)

end Runs

end TgWsProxy.Python
