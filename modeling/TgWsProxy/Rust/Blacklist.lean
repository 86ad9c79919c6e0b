import TgWsProxy.Rust.Session
import TgWsProxy.Handlers

/-!
# What the Rust handler records

`handle_client` keeps to the protocol of the handlers: what it records about a
key follows from what it has tried, and behind that it only falls back.
-/

namespace TgWsProxy.Rust

open Lib

section Fallback

variable (crypto : Primitives) (relayInit : Bytes)

theorem calls_splitAndBridge (protoInt : UInt32) (ws : Nat) :
    (splitAndBridge crypto relayInit protoInt ws).Calls ViaFallback := by
  unfold splitAndBridge
  split
  · exact Program.Calls.pure _
  · exact Program.Calls.perform trivial

theorem calls_sendInLoop {next : SessionProgram MsgSplitter Bool}
    (via : next.Calls ViaFallback) (ws : Nat) :
    Program.Calls ViaFallback (do
      let sent ← act (.send ws relayInit)
      if sent then
        splitAndBridge crypto relayInit protoIntermediate ws
        return true
      else next) := by
  apply Program.Calls.bind (Program.Calls.perform trivial)
  intro sent
  cases sent with
  | true =>
      apply Program.Calls.bind (calls_splitAndBridge crypto relayInit _ ws)
      exact fun _ => Program.Calls.pure _
  | false => exact via

theorem calls_cfWorkerLoop (dc : Nat) (dst : String)
    (workerDomains : List String) :
    (cfWorkerLoop crypto dc dst relayInit workerDomains).Calls ViaFallback := by
  induction workerDomains with
  | nil => exact Program.Calls.pure _
  | cons workerDomain workerDomains induction =>
      apply Program.Calls.bind (Program.Calls.perform trivial)
      intro pooled
      cases pooled with
      | none => exact induction
      | some ws => exact calls_sendInLoop crypto relayInit induction ws

theorem calls_cfProxyLoop (dst : String) (domains : List String) :
    (cfProxyLoop crypto dst relayInit domains).Calls ViaFallback := by
  induction domains with
  | nil => exact Program.Calls.pure _
  | cons domain domains induction =>
      apply Program.Calls.bind
        (Program.Calls.perform (viaFallback_connect _ _ _))
      intro connected
      cases connected with
      | error error => exact induction
      | ok ws => exact calls_sendInLoop crypto relayInit induction ws

theorem calls_tcpFallback (dst : String) :
    (tcpFallback dst relayInit).Calls ViaFallback := by
  apply Program.Calls.bind (Program.Calls.perform trivial)
  intro connected
  cases connected with
  | none => exact Program.Calls.pure _
  | some upStream =>
      apply Program.Calls.bind (Program.Calls.perform trivial)
      intro sent
      cases sent with
      | false => exact Program.Calls.pure _
      | true =>
          apply Program.Calls.bind (Program.Calls.perform trivial)
          intro flushed
          cases flushed with
          | false => exact Program.Calls.pure _
          | true => exact Program.Calls.perform trivial

theorem calls_cfProxyOrTcp (config : RouteConfig) (dc : Nat) (dst : String) :
    (cfProxyOrTcp crypto config dc dst relayInit).Calls ViaFallback := by
  unfold cfProxyOrTcp
  split
  · apply Program.Calls.bind (Program.Calls.perform trivial)
    intro domains
    apply Program.Calls.bind (calls_cfProxyLoop crypto relayInit dst domains)
    intro settled
    cases settled with
    | true => exact Program.Calls.pure _
    | false => exact calls_tcpFallback relayInit dst
  · exact calls_tcpFallback relayInit dst

theorem calls_doFallbackTcpWs (config : RouteConfig) (dc : Nat) :
    (doFallbackTcpWs crypto config dc relayInit).Calls ViaFallback := by
  unfold doFallbackTcpWs
  split
  · exact Program.Calls.pure _
  · rename_i dst found
    apply Program.Calls.bind (calls_cfWorkerLoop crypto relayInit dc dst _)
    intro settled
    cases settled with
    | true => exact Program.Calls.pure _
    | false => exact calls_cfProxyOrTcp crypto relayInit config dc dst

theorem calls_serveWebSocket (protoInt : UInt32) (ws : Nat) :
    (serveWebSocket crypto relayInit protoInt ws).Calls ViaFallback := by
  unfold serveWebSocket
  split
  · exact Program.Calls.pure _
  · apply Program.Calls.bind (Program.Calls.perform trivial)
    intro sent
    cases sent with
    | true => exact Program.Calls.perform trivial
    | false => exact Program.Calls.pure _

end Fallback

/-- `handle_client` with all it needs. -/
def handle (crypto : Primitives) (input : HandlerInput) :
    SessionProgram MsgSplitter Unit :=
  handleClient crypto input.config input.request input.relayInit

theorem handle_keepsProtocol (crypto : Primitives) (input : HandlerInput) :
    KeepsProtocol input.request.dcKey (handle crypto input) .entering := by
  obtain ⟨config, request, relayInit, ctx⟩ := input
  unfold handle handleClient
  apply Program.Obeys.call rfl
  intro blacklisted
  have fallback {stage : HandlerStage} (isOpen : stage.Open) :
      KeepsProtocol request.dcKey
        (doFallbackTcpWs crypto config request.dc relayInit) stage :=
    keepsProtocol_of_viaFallback
      (calls_doFallbackTcpWs crypto relayInit config request.dc) isOpen
  split
  · apply fallback
    cases blacklisted with
    | true => trivial
    | false => trivial
  · cases blacklisted with
    | true => exact @fallback .fallback trivial
    | false =>
        apply Program.Obeys.call rfl
        intro now
        apply Program.Obeys.call rfl
        intro failUntil
        apply Program.Obeys.bind
          (poolOrConnect_obeys request.dc request.isMedia _ _
            (wsDomains_ne_nil request.dc request.isMedia))
        intro trial stage after
        unfold AfterTrial at after
        split
        · rename_i none
          rw [none] at after
          obtain ⟨rfl, failed⟩ := after
          exact recordTrial_obeys _
            (calls_doFallbackTcpWs crypto relayInit config request.dc) failed
        · rename_i ws some
          rw [some] at after
          obtain rfl : stage = .found := after
          apply Program.Obeys.call
          · exact ⟨rfl, rfl⟩
          · exact fun _ => keepsProtocol_of_viaFallback
              (calls_serveWebSocket crypto relayInit _ ws) trivial

end TgWsProxy.Rust
