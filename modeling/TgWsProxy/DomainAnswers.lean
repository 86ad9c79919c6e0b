import TgWsProxy.Upgrade
import TgWsProxy.Rust.Pool

/-!
# The servers of the domains of a DC

What the server of each domain answers, from the bytes of its answer to what a
handler makes of it.  A refill of a pool tries the domains in their order, and
goes on behind redirects only.
-/

namespace TgWsProxy

open Lib

/-- An answer on a connection which was opened. -/
structure ServerAnswer where
  head : ResponseHead
  lineEnd : LineEnd
  /-- What the server sends behind the head. -/
  behind : Bytes
  within : Python.WithinLimit head lineEnd

def ServerAnswer.encode (answer : ServerAnswer) : Bytes :=
  answer.head.encode answer.lineEnd ++ answer.behind

/-- The `except` clauses of `_handle_client` and of `_connect_one`. -/
def ConnectError.ofPython : Python.ConnectError → ConnectError
  | .handshake error => if error.isRedirect then .redirect else .handshake
  | _ => .other

/-- The `downcast_ref` of `handle_client` and of `connect_one`. -/
def ConnectError.ofRust : Rust.ConnectError → ConnectError
  | .handshake error => if error.isRedirect then .redirect else .handshake
  | _ => .other

/-- `_connect_one` and `connect_one`, with the connection which is returned. -/
def connectOne {Ws : Type} (connect : String → Except ConnectError Ws) :
    List String → Option Ws
  | [] => none
  | domain :: domains =>
      match connect domain with
      | .ok ws => some ws
      | .error .redirect => connectOne connect domains
      | .error _ => none

/-- `RawWebSocket.connect` where each domain has an answer, which comes in time,
or no connection is opened. -/
def Python.connectDomain (table : Python.CharTable)
    (int : Python.PyStr → Option Int) (random : String → Bytes)
    (arrived : String → Nat → Nat) (answers : String → Option ServerAnswer)
    (domain : String) :
    Except TgWsProxy.ConnectError (Wire.RawWebSocket × StreamReader) :=
  match answers domain with
  | none => .error .other
  | some answer =>
      (connect table int "/apiws".toList domain.toList (random domain)
        (fun _ => .inTime) ⟨answer.encode, arrived domain⟩).2.result.mapError
          .ofPython

/-- `RawWebSocket::connect` where each domain has an answer, which comes in time,
or no connection is opened. -/
def Rust.connectDomain (lower : Rust.LowercaseTable) (random : String → Bytes)
    (answers : String → Option ServerAnswer) (domain : String) :
    Except TgWsProxy.ConnectError RawWebSocket :=
  match answers domain with
  | none => .error .other
  | some answer =>
      (connect lower "/apiws".toList domain.toList (random domain)
        (fun _ => .inTime) answer.encode).2.mapError .ofRust

/-- What an answer comes to, with the connection where it switches the
protocol. -/
def ServerAnswer.verdict {Ws : Type} (ws : ServerAnswer → Ws) :
    Option ServerAnswer → Except ConnectError Ws
  | none => .error .other
  | some answer =>
      if answer.head.status = 101 then .ok (ws answer)
      else if answer.head.IsRedirect then .error .redirect
      else .error .handshake

/-- The server of the domain switches the protocol. -/
def Switches (answers : String → Option ServerAnswer) (domain : String) : Bool :=
  (answers domain).any fun answer => answer.head.status = 101

/-- The server of the domain answers with a redirect. -/
def Redirects (answers : String → Option ServerAnswer) (domain : String) :
    Bool :=
  (answers domain).any fun answer => answer.head.IsRedirect

/-- The domains up to the first whose server switches the protocol. -/
def triedDomains (answers : String → Option ServerAnswer) :
    List String → List String
  | [] => []
  | domain :: domains =>
      if Switches answers domain then [domain]
      else domain :: triedDomains answers domains

/-- A refill goes on behind redirects only: the domain at which it stops, if its
server switches the protocol. -/
def refillAnswer (answers : String → Option ServerAnswer)
    (domains : List String) : Option (String × ServerAnswer) :=
  (domains.find? fun domain => !Redirects answers domain).bind fun domain =>
    ((answers domain).filter fun answer => answer.head.status = 101).map
      fun answer => (domain, answer)

section Verdicts

variable {Ws : Type} {connect : String → Except ConnectError Ws}
  {answers : String → Option ServerAnswer}
  {ws : String → ServerAnswer → Ws}

theorem switches_iff {domain : String} :
    Switches answers domain = true ↔
      ∃ answer, answers domain = some answer ∧ answer.head.status = 101 := by
  rw [Switches, Option.any_eq_true]
  simp only [decide_eq_true_eq]

/-- A switch of the protocol is no redirect. -/
theorem switches_not_redirects {domain : String}
    (switches : Switches answers domain = true) :
    Redirects answers domain = false := by
  obtain ⟨answer, answered, status⟩ := switches_iff.mp switches
  rw [Redirects, answered, Option.any_some, decide_eq_false_iff_not]
  intro isRedirect
  rw [ResponseHead.IsRedirect, status] at isRedirect
  exact absurd isRedirect (by decide)

theorem verdict_ok {domain : String} {opened : Ws}
    (verdict : ServerAnswer.verdict (ws domain) (answers domain) =
      .ok opened) :
    ∃ answer, answers domain = some answer ∧ answer.head.status = 101 ∧
      ws domain answer = opened := by
  cases answered : answers domain with
  | none =>
      rw [answered] at verdict
      cases verdict
  | some answer =>
      rw [answered, ServerAnswer.verdict] at verdict
      split at verdict
      · rename_i status
        cases verdict
        exact ⟨answer, rfl, status, rfl⟩
      · split at verdict
        · cases verdict
        · cases verdict

theorem verdict_error {domain : String} {error : ConnectError}
    (verdict : ServerAnswer.verdict (ws domain) (answers domain) =
      .error error) :
    Switches answers domain = false ∧
      Redirects answers domain = decide (error = .redirect) := by
  cases answered : answers domain with
  | none =>
      rw [answered] at verdict
      cases verdict
      simp [Switches, Redirects, answered]
  | some answer =>
      rw [answered, ServerAnswer.verdict] at verdict
      split at verdict
      · cases verdict
      · rename_i status
        split at verdict
        · rename_i isRedirect
          cases verdict
          simp [Switches, Redirects, answered, status, isRedirect]
        · rename_i isRedirect
          cases verdict
          simp [Switches, Redirects, answered, status, isRedirect]

theorem refillAnswer_redirects {domain : String} (domains : List String)
    (redirects : Redirects answers domain = true) :
    refillAnswer answers (domain :: domains) = refillAnswer answers domains := by
  rw [refillAnswer, List.find?_cons_of_neg (by simp [redirects])]
  rfl

theorem refillAnswer_switches {domain : String} (domains : List String)
    {answer : ServerAnswer} (answered : answers domain = some answer)
    (status : answer.head.status = 101) :
    refillAnswer answers (domain :: domains) = some (domain, answer) := by
  have kept : Redirects answers domain = false :=
    switches_not_redirects (switches_iff.mpr ⟨answer, answered, status⟩)
  simp [refillAnswer, kept, answered, status]

theorem refillAnswer_refuses {domain : String} (domains : List String)
    (refuses : Switches answers domain = false)
    (kept : Redirects answers domain = false) :
    refillAnswer answers (domain :: domains) = none := by
  rw [refillAnswer, List.find?_cons_of_pos (by simp [kept]), Option.bind_some]
  cases answered : answers domain with
  | none => rfl
  | some answer =>
      rw [Switches, answered, Option.any_some] at refuses
      simp [of_decide_eq_false refuses]

/-- By induction over the domains: both loops stop at the first which does not
redirect. -/
theorem connectOne_eq
    (verdicts : ∀ domain,
      connect domain = ServerAnswer.verdict (ws domain) (answers domain))
    (domains : List String) :
    connectOne connect domains =
      (refillAnswer answers domains).map fun found => ws found.1 found.2 := by
  induction domains with
  | nil => rfl
  | cons domain domains induction =>
      rw [connectOne, verdicts]
      cases verdict : ServerAnswer.verdict (ws domain) (answers domain) with
      | ok opened =>
          obtain ⟨answer, answered, status, rfl⟩ := verdict_ok verdict
          rw [refillAnswer_switches domains answered status]
          rfl
      | error error =>
          obtain ⟨refuses, redirects⟩ := verdict_error verdict
          cases error with
          | redirect =>
              rw [refillAnswer_redirects domains redirects]
              exact induction
          | handshake =>
              rw [refillAnswer_refuses domains refuses redirects]
              rfl
          | other =>
              rw [refillAnswer_refuses domains refuses redirects]
              rfl

/-- Where a refill opens a connection, a session opens one too, and to the same
domain. -/
theorem triedDomains_getLast {domains : List String}
    {found : String × ServerAnswer}
    (refilled : refillAnswer answers domains = some found) :
    (triedDomains answers domains).getLast? = some found.1 := by
  induction domains with
  | nil => cases refilled
  | cons domain domains induction =>
      cases switches : Switches answers domain with
      | true =>
          obtain ⟨answer, answered, status⟩ := switches_iff.mp switches
          rw [refillAnswer_switches domains answered status] at refilled
          cases refilled
          rw [triedDomains, if_pos switches]
          rfl
      | false =>
          cases redirects : Redirects answers domain with
          | false =>
              rw [refillAnswer_refuses domains switches redirects] at refilled
              cases refilled
          | true =>
              -- the refill goes on, and so does the session
              rw [refillAnswer_redirects domains redirects] at refilled
              rw [triedDomains, if_neg (ne_true_of_eq_false switches),
                List.getLast?_cons, induction refilled]
              rfl

end Verdicts

theorem Rust.connectOne_isSome {Ws : Type}
    (connect : String → Except TgWsProxy.ConnectError Ws)
    (domains : List String) :
    Rust.connectOne (fun domain => (connect domain).map fun _ => ()) domains =
      (TgWsProxy.connectOne connect domains).isSome := by
  induction domains with
  | nil => rfl
  | cons domain domains induction =>
      rw [Rust.connectOne, TgWsProxy.connectOne]
      cases connect domain with
      | ok ws => rfl
      | error error =>
          cases error with
          | redirect => exact induction
          | handshake => rfl
          | other => rfl

theorem ConnectError.ofPython_refusal (table : Python.CharTable)
    (head : ResponseHead) :
    ofPython (.handshake (Python.refusal table head)) =
      if head.IsRedirect then .redirect else .handshake := by
  rw [ofPython, (isRedirect_refusal table head).1]
  simp only [decide_eq_true_eq]

theorem ConnectError.ofRust_refusal (head : ResponseHead) :
    ofRust (.handshake (Rust.refusal head)) =
      if head.IsRedirect then .redirect else .handshake := by
  rw [ofRust, (isRedirect_refusal .ascii head).2]
  simp only [decide_eq_true_eq]

theorem Python.connectDomain_eq (table : CharTable)
    {int : PyStr → Option Int} (reads : ReadsDigits int)
    (random : String → Bytes) (arrived : String → Nat → Nat)
    (answers : String → Option ServerAnswer) (domain : String) :
    connectDomain table int random arrived answers domain =
      ServerAnswer.verdict (fun answer =>
        (⟨false, []⟩, ⟨answer.behind, arrived domain⟩)) (answers domain) := by
  rw [connectDomain]
  cases answers domain with
  | none => rfl
  | some answer =>
      dsimp only [connect, ServerAnswer.encode, ServerAnswer.verdict]
      rw [readResponse_head table reads (fun _ => rfl) answer.within]
      by_cases switches : answer.head.status = 101
      · rw [if_pos switches, if_pos switches]
        rfl
      · rw [if_neg switches, if_neg switches]
        rw [← apply_ite Except.error,
          ← ConnectError.ofPython_refusal table answer.head]
        rfl

theorem Rust.connectDomain_eq {lower : LowercaseTable}
    (lowers : lower.LowersAscii) (random : String → Bytes)
    (answers : String → Option ServerAnswer) (domain : String) :
    connectDomain lower random answers domain =
      ServerAnswer.verdict (fun answer => ⟨false, [], answer.behind, []⟩)
        (answers domain) := by
  rw [connectDomain]
  cases answers domain with
  | none => rfl
  | some answer =>
      dsimp only [connect, ServerAnswer.encode, ServerAnswer.verdict]
      rw [readResponse_head lowers fun _ => rfl]
      by_cases switches : answer.head.status = 101
      · rw [if_pos switches, if_pos switches]
        rfl
      · rw [if_neg switches, if_neg switches]
        rw [← apply_ite Except.error,
          ← ConnectError.ofRust_refusal answer.head]
        rfl

section Refills

variable {int : Python.PyStr → Option Int} {lower : Rust.LowercaseTable}

/-- Both domains of the DC redirect. -/
def movedAnswers : String → Option ServerAnswer :=
  fun _ => some ⟨movedHead, .lf, [], by decide⟩

/-- One domain redirects, and the other switches the protocol and sends a
frame. -/
def secondAnswers (domain : String) : Option ServerAnswer :=
  if domain = "kws2-1.web.telegram.org" then
    some ⟨switchingHead, .crlf, [0x82, 0x00], by decide⟩
  else movedAnswers domain

end Refills

end TgWsProxy
