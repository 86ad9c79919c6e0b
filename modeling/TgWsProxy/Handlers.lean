import TgWsProxy.Session
import TgWsProxy.Lib.Runs
import TgWsProxy.Lib.Slots
import Mathlib.Data.List.TakeWhile

/-!
# Concurrent handlers

Any number of sessions over one WebSocket blacklist and one cooldown map.  An
event is a session which begins, or the next call of a session with what comes
of it.  A session keeps the calls which it has made, so that a statement about
what was recorded can be compared with what was found out before.
-/

namespace TgWsProxy

open Lib

/-- `dc_key`. -/
def ClientRequest.dcKey (request : ClientRequest) : String :=
  toString request.dc ++ if request.isMedia then "m" else ""

/-- What a session begins with behind its handshake. -/
structure HandlerInput where
  config : RouteConfig
  request : ClientRequest
  relayInit : Bytes
  ctx : CryptoCtx

/-- A call which a session has made, and the run of the proxy in which it made
the call. -/
structure HandlerCall (Splitter : Type) where
  op : SessionOp Splitter
  reply : op.Reply
  run : Nat

structure Handler (Splitter Result : Type) where
  dcKey : String
  /-- What the session has still to do. -/
  program : SessionProgram Splitter Result
  state : SessionState Splitter
  calls : List (HandlerCall Splitter)

structure Handlers (Splitter Result : Type) where
  wsBlacklist : List String
  dcFailUntil : List (String × Nat)
  /-- How often the proxy was started afresh in this process. -/
  run : Nat
  sessions : List (Handler Splitter Result)

inductive HandlerEvent (Splitter : Type) where
  | begins (input : HandlerInput)
  | calls (session : Nat) (outcome : (op : SessionOp Splitter) → op.Outcome)

namespace SessionOp

variable {Splitter : Type}

/-- The recording step: a blacklist entry or a cooldown. -/
def records : SessionOp Splitter → Bool
  | .blacklist _ | .setFailUntil _ _ => true
  | _ => false

/-- A call which is no part of the search for a connection to the DC itself. -/
def leavesSearch : SessionOp Splitter → Bool
  | .now | .isBlacklisted _ | .failUntil _ | .find (.wsPool _ _ _ _)
    | .connect _ _ _ _ => false
  | _ => true

/-- To ask for a pooled connection, or to open a direct one: that goes to the
address of the DC under the name of a domain, and any other to the domain. -/
def fastPath : SessionOp Splitter → Bool
  | .find (.wsPool _ _ _ _) => true
  | .connect host domain _ _ => host != domain
  | _ => false

/-- The session gets nothing from the pool. -/
def missesPool : (op : SessionOp Splitter) → op.Reply → Bool
  | .find (.wsPool _ _ _ _), none => true
  | _, _ => false

/-- No connection was tried, or a redirect is the answer. -/
def redirected : (op : SessionOp Splitter) → op.Reply → Bool
  | .connect _ _ _ _, .error .redirect => true
  | .connect _ _ _ _, _ => false
  | _, _ => true

end SessionOp

section Records

variable {Splitter Result : Type}

/-- The calls of a session up to the end of its search. -/
def searchCalls (calls : List (HandlerCall Splitter)) :
    List (HandlerCall Splitter) :=
  calls.takeWhile fun call => !call.op.leavesSearch

/-- The pool had nothing, and every domain which was tried answered with a
redirect. -/
def OnlyRedirects (calls : List (HandlerCall Splitter)) : Prop :=
  (∃ call ∈ calls, call.op.missesPool call.reply = true) ∧
    ∀ call ∈ calls, call.op.redirected call.reply = true

/-- The session has gone on behind its search in the run: with the next call,
whatever it is, or to its end. -/
def Handler.PassedSearch (session : Handler Splitter Result) (run : Nat) :
    Prop :=
  match session.calls.find? (·.op.leavesSearch) with
  | some call => call.run = run
  | none => (∃ result, session.program = .done result) ∧
      ∃ call ∈ session.calls.getLast?, call.run = run

/-- The session has passed its recording step in the run, and had found nothing
but redirects before. -/
def Handler.RecordedRedirects (session : Handler Splitter Result) (run : Nat) :
    Prop :=
  session.PassedSearch run ∧ OnlyRedirects (searchCalls session.calls)

theorem Handler.PassedSearch.exists_call {session : Handler Splitter Result}
    {run : Nat} (passed : session.PassedSearch run) :
    ∃ call ∈ session.calls, call.run = run := by
  unfold Handler.PassedSearch at passed
  split at passed
  · rename_i call found
    exact ⟨call, List.mem_of_find?_eq_some found, passed⟩
  · obtain ⟨-, call, isLast, inRun⟩ := passed
    exact ⟨call, List.mem_of_getLast? isLast, inRun⟩

end Records

namespace Handlers

variable {Splitter Result : Type}

def initial : Handlers Splitter Result := ⟨[], [], 0, []⟩

def begins (handle : HandlerInput → SessionProgram Splitter Result)
    (handlers : Handlers Splitter Result) (input : HandlerInput) :
    Handlers Splitter Result :=
  let state := SessionState.start input.ctx handlers.wsBlacklist
    handlers.dcFailUntil
  { handlers with
    sessions := handlers.sessions ++
      [⟨input.request.dcKey, handle input, state, []⟩] }

/-- The next call of a session, which acts on the common maps. -/
def calls (handlers : Handlers Splitter Result) (id : Nat)
    (outcome : (op : SessionOp Splitter) → op.Outcome) :
    Handlers Splitter Result :=
  match handlers.sessions[id]? with
  | some ⟨dcKey, .call op continuation, state, calls⟩ =>
      let made := (sessionWorld Splitter).perform
        { state with
          wsBlacklist := handlers.wsBlacklist
          dcFailUntil := handlers.dcFailUntil } op (outcome op)
      { handlers with
        wsBlacklist := made.2.wsBlacklist
        dcFailUntil := made.2.dcFailUntil
        sessions := handlers.sessions.set id
          ⟨dcKey, continuation made.1, made.2,
            calls ++ [⟨op, made.1, handlers.run⟩]⟩ }
  | _ => handlers

def step (handle : HandlerInput → SessionProgram Splitter Result)
    (handlers : Handlers Splitter Result) :
    HandlerEvent Splitter → Handlers Splitter Result
  | .begins input => handlers.begins handle input
  | .calls session outcome => handlers.calls session outcome

/-- Both maps are cleared, and the sessions which have not ended go on. -/
def startAfresh (handlers : Handlers Splitter Result) :
    Handlers Splitter Result :=
  { handlers with wsBlacklist := [], dcFailUntil := [], run := handlers.run + 1 }

end Handlers

/-- How far a session has got. -/
inductive HandlerStage where
  | entering
  | begun
  /-- The session goes by the fallback, and has nothing to record. -/
  | fallback
  | found
  | trying (wsFailedRedirect allRedirects : Bool)
  | recorded
deriving DecidableEq, Repr

namespace HandlerStage

variable {Splitter : Type}

def allows (dcKey : String) : HandlerStage → SessionOp Splitter → Prop
  | .entering, op => op = .isBlacklisted dcKey
  | .fallback, op | .found, op => op.records = false ∧ op.fastPath = false
  | .trying wsFailedRedirect allRedirects, op =>
      match op with
      | .connect _ _ _ _ => True
      | .blacklist key =>
          key = dcKey ∧ wsFailedRedirect = true ∧ allRedirects = true
      | .setFailUntil _ _ => allRedirects = false
      | _ => False
  | _, op => op.records = false

def afterLookup : (op : SessionOp Splitter) → op.Reply → HandlerStage
  | .isBlacklisted _, listed => if listed then .fallback else .begun
  | _, _ => .begun

def afterBegun : (op : SessionOp Splitter) → op.Reply → HandlerStage
  | .find (.wsPool _ _ _ _), some _ => .found
  | .find (.wsPool _ _ _ _), none => .trying false true
  | .now, _ => .begun
  | .failUntil _, _ => .begun
  | _, _ => .fallback

def afterTrying (wsFailedRedirect allRedirects : Bool) :
    (op : SessionOp Splitter) → op.Reply → HandlerStage
  | .connect _ _ _ _, .ok _ => .found
  | .connect _ _ _ _, .error .redirect => .trying true allRedirects
  | .connect _ _ _ _, .error _ => .trying wsFailedRedirect false
  | _, _ => .recorded

def next (stage : HandlerStage) (op : SessionOp Splitter) (reply : op.Reply) :
    HandlerStage :=
  match stage with
  | .entering => afterLookup op reply
  | .begun => afterBegun op reply
  | .trying wsFailedRedirect allRedirects =>
      afterTrying wsFailedRedirect allRedirects op reply
  | _ => stage

/-- A session does not return between its last domain and its recording
step. -/
def Returns : HandlerStage → Prop
  | .trying _ _ => False
  | _ => True

/-- The session had a pooled connection, did not ask for one, or was accepted
by a domain. -/
def Served (calls : List (HandlerCall Splitter)) : Prop :=
  (∀ call ∈ calls, call.op.missesPool call.reply = false) ∨
    ∃ call ∈ searchCalls calls, call.op.redirected call.reply = false

/-- What the calls of a session say at a stage. -/
def Describes (dcKey : String) (calls : List (HandlerCall Splitter)) :
    HandlerStage → Prop
  | .entering => calls = []
  | .begun => ∀ call ∈ calls, call.op.records = false ∧
      call.op.missesPool call.reply = false ∧
      call.op.leavesSearch = false ∧ call.op.redirected call.reply = true
  | .fallback | .found => (∀ call ∈ calls, call.op.records = false) ∧
      Served calls
  | .trying _ allRedirects => (∀ call ∈ calls, call.op.leavesSearch = false) ∧
      (∃ call ∈ calls, call.op.missesPool call.reply = true) ∧
      (allRedirects = true ↔
        ∀ call ∈ calls, call.op.redirected call.reply = true)
  | .recorded => ∃ record, calls.find? (·.op.leavesSearch) = some record ∧
      (record.op = .blacklist dcKey ↔ OnlyRedirects (searchCalls calls)) ∧
      ∀ call ∈ calls, call.op.records = true → call = record

end HandlerStage

/-- The protocol of a session with the key. -/
def handlerProtocol (Splitter : Type) (dcKey : String) :
    Protocol (SessionOp Splitter) SessionOp.Reply HandlerStage :=
  ⟨HandlerStage.allows dcKey, HandlerStage.next⟩

/-- A session which keeps to the protocol, whatever its result. -/
abbrev KeepsProtocol {Splitter Result : Type} (dcKey : String)
    (program : SessionProgram Splitter Result) (stage : HandlerStage) : Prop :=
  program.Obeys (handlerProtocol Splitter dcKey)
    (fun _ stage => stage.Returns) stage

section Sessions

variable {Splitter Result : Type} {dcKey : String}
  {calls : List (HandlerCall Splitter)}

theorem leavesSearch_of_records {op : SessionOp Splitter}
    (records : op.records = true) : op.leavesSearch = true := by
  cases op with
  | blacklist key | setFailUntil key time => rfl
  | _ => cases records

theorem records_of_leavesSearch {op : SessionOp Splitter}
    (searches : op.leavesSearch = false) : op.records = false := by
  cases records : op.records with
  | false => rfl
  | true =>
      rw [leavesSearch_of_records records] at searches
      cases searches

theorem missesPool_of_fastPath {op : SessionOp Splitter}
    (slow : op.fastPath = false) (reply : op.Reply) :
    op.missesPool reply = false := by
  cases op with
  | find source =>
      cases source with
      | wsPool dc isMedia target domains => cases slow
      | cfWorkerPool dc workerDomain fallbackDst => rfl
      | tcp dst port => rfl
  | _ => rfl

theorem searchCalls_eq_self
    (searches : ∀ call ∈ calls, call.op.leavesSearch = false) :
    searchCalls calls = calls := by
  apply List.takeWhile_eq_self_iff.mpr
  intro call member
  rw [searches call member]
  rfl

theorem searchCalls_concat_of_leaves {last : HandlerCall Splitter}
    (searches : ∀ call ∈ calls, call.op.leavesSearch = false)
    (leaves : last.op.leavesSearch = true) :
    searchCalls (calls ++ [last]) = calls :=
  takeWhile_not_concat_of_forall searches leaves

/-- What comes behind the search does not matter. -/
theorem searchCalls_concat
    (left : ∃ call ∈ calls, call.op.leavesSearch = true)
    (last : HandlerCall Splitter) :
    searchCalls (calls ++ [last]) = searchCalls calls :=
  takeWhile_not_concat_of_exists left last

theorem mem_searchCalls_concat {call : HandlerCall Splitter}
    (member : call ∈ searchCalls calls) (last : HandlerCall Splitter) :
    call ∈ searchCalls (calls ++ [last]) := by
  by_cases left : ∃ call ∈ calls, call.op.leavesSearch = true
  · rw [searchCalls_concat left]
    exact member
  · have searches : ∀ call ∈ calls, call.op.leavesSearch = false := by
      intro call among
      rw [Bool.eq_false_iff]
      exact fun leaves => left ⟨call, among, leaves⟩
    rw [searchCalls_eq_self searches] at member
    cases leaves : last.op.leavesSearch with
    | true =>
        rw [searchCalls_concat_of_leaves searches leaves]
        exact member
    | false =>
        have all : ∀ call ∈ calls ++ [last], call.op.leavesSearch = false := by
          intro call among
          rcases List.mem_append.mp among with earlier | isLast
          · exact searches call earlier
          · rw [List.mem_singleton.mp isLast]
            exact leaves
        rw [searchCalls_eq_self all]
        exact List.mem_append_left _ member

namespace HandlerStage

theorem Served.not_onlyRedirects (served : Served calls) :
    ¬ OnlyRedirects (searchCalls calls) := by
  rintro ⟨⟨call, member, misses⟩, redirects⟩
  rcases served with never | ⟨accepted, among, notRedirected⟩
  · have within := (List.takeWhile_prefix _).subset member
    rw [never call within] at misses
    cases misses
  · rw [redirects accepted among] at notRedirected
    cases notRedirected

theorem Served.concat (served : Served calls) {last : HandlerCall Splitter}
    (slow : last.op.fastPath = false) : Served (calls ++ [last]) := by
  rcases served with never | ⟨accepted, among, notRedirected⟩
  · refine Or.inl fun call member => ?_
    rcases List.mem_append.mp member with earlier | isLast
    · exact never call earlier
    · rw [List.mem_singleton.mp isLast]
      exact missesPool_of_fastPath slow last.reply
  · exact Or.inr ⟨accepted, mem_searchCalls_concat among last, notRedirected⟩

theorem quiet_concat {last : HandlerCall Splitter}
    (quiet : ∀ call ∈ calls, call.op.records = false)
    (quietLast : last.op.records = false) :
    ∀ call ∈ calls ++ [last], call.op.records = false := by
  intro call member
  rcases List.mem_append.mp member with earlier | isLast
  · exact quiet call earlier
  · rw [List.mem_singleton.mp isLast]
    exact quietLast

theorem searches_concat {last : HandlerCall Splitter}
    (searches : ∀ call ∈ calls, call.op.leavesSearch = false)
    (searchesLast : last.op.leavesSearch = false) :
    ∀ call ∈ calls ++ [last], call.op.leavesSearch = false := by
  intro call member
  rcases List.mem_append.mp member with earlier | isLast
  · exact searches call earlier
  · rw [List.mem_singleton.mp isLast]
    exact searchesLast

theorem redirected_concat {last : HandlerCall Splitter}
    (redirected : last.op.redirected last.reply = true) :
    (∀ call ∈ calls ++ [last], call.op.redirected call.reply = true) ↔
      ∀ call ∈ calls, call.op.redirected call.reply = true := by
  simp only [List.mem_append, List.mem_singleton, or_imp, forall_and,
    forall_eq, redirected, and_true]

theorem missesPool_concat {last : HandlerCall Splitter}
    (missed : ∃ call ∈ calls, call.op.missesPool call.reply = true) :
    ∃ call ∈ calls ++ [last], call.op.missesPool call.reply = true := by
  obtain ⟨call, member, misses⟩ := missed
  exact ⟨call, List.mem_append_left _ member, misses⟩

/-- The recording step of a session which has tried its domains. -/
theorem describes_recorded {wsFailedRedirect allRedirects : Bool}
    (describes : (trying wsFailedRedirect allRedirects).Describes dcKey calls)
    {last : HandlerCall Splitter} (records : last.op.records = true)
    (right : last.op = .blacklist dcKey ↔ allRedirects = true) :
    recorded.Describes dcKey (calls ++ [last]) := by
  obtain ⟨searches, missed, redirects⟩ := describes
  have leaves := leavesSearch_of_records records
  have none : calls.find? (·.op.leavesSearch) = none := by
    rw [List.find?_eq_none]
    intro call member
    rw [searches call member]
    exact Bool.false_ne_true
  refine ⟨last, ?_, ?_, ?_⟩
  · rw [List.find?_append, none, Option.none_or, List.find?_singleton,
      if_pos leaves]
  · rw [searchCalls_concat_of_leaves searches leaves, right, redirects]
    exact (and_iff_right missed).symm
  · intro call member recordsToo
    rcases List.mem_append.mp member with earlier | isLast
    · rw [records_of_leavesSearch (searches call earlier)] at recordsToo
      cases recordsToo
    · exact List.mem_singleton.mp isLast

theorem Describes.begunCall (describes : begun.Describes dcKey calls)
    {op : SessionOp Splitter} (quietOp : op.records = false) (reply : op.Reply)
    (run : Nat) :
    (afterBegun op reply).Describes dcKey (calls ++ [⟨op, reply, run⟩]) := by
  have quiet : ∀ call ∈ calls ++ [⟨op, reply, run⟩],
      call.op.records = false :=
    quiet_concat (fun call member => (describes call member).1) quietOp
  have never (hit : op.missesPool reply = false) :
      ∀ call ∈ calls ++ [⟨op, reply, run⟩],
        call.op.missesPool call.reply = false := by
    intro call member
    rcases List.mem_append.mp member with earlier | isLast
    · exact (describes call earlier).2.1
    · rw [List.mem_singleton.mp isLast]
      exact hit
  have searches (searchesOp : op.leavesSearch = false) :
      ∀ call ∈ calls ++ [⟨op, reply, run⟩], call.op.leavesSearch = false :=
    searches_concat (fun call member => (describes call member).2.2.1)
      searchesOp
  have redirects (redirected : op.redirected reply = true) :
      ∀ call ∈ calls ++ [⟨op, reply, run⟩],
        call.op.redirected call.reply = true :=
    (redirected_concat redirected).mpr fun call member =>
      (describes call member).2.2.2
  cases op with
  | now | failUntil key =>
      exact fun call member => ⟨quiet call member, never rfl call member,
        searches rfl call member, redirects rfl call member⟩
  | find source =>
      cases source with
      | wsPool dc isMedia target domains =>
          cases reply with
          | some ws => exact ⟨quiet, Or.inl (never rfl)⟩
          | none =>
              exact ⟨searches rfl,
                ⟨_, List.mem_append_right _ List.mem_cons_self, rfl⟩,
                iff_of_true rfl (redirects rfl)⟩
      | cfWorkerPool dc workerDomain fallbackDst =>
          exact ⟨quiet, Or.inl (never rfl)⟩
      | tcp dst port => exact ⟨quiet, Or.inl (never rfl)⟩
  | _ => exact ⟨quiet, Or.inl (never rfl)⟩

theorem Describes.tryingCall {wsFailedRedirect allRedirects : Bool}
    (describes : (trying wsFailedRedirect allRedirects).Describes dcKey calls)
    {op : SessionOp Splitter}
    (allowed : (trying wsFailedRedirect allRedirects).allows dcKey op)
    (reply : op.Reply) (run : Nat) :
    (afterTrying wsFailedRedirect allRedirects op reply).Describes dcKey
      (calls ++ [⟨op, reply, run⟩]) := by
  have ⟨searches, missed, redirects⟩ := describes
  cases op with
  | connect host domain path timeout =>
      have searchesToo : ∀ call ∈
          calls ++ [⟨.connect host domain path timeout, reply, run⟩],
            call.op.leavesSearch = false := searches_concat searches rfl
      have last : (⟨.connect host domain path timeout, reply, run⟩ :
          HandlerCall Splitter) ∈
            calls ++ [⟨.connect host domain path timeout, reply, run⟩] :=
        List.mem_append_right _ List.mem_cons_self
      have unredirected (refused : (SessionOp.connect host domain path
          timeout : SessionOp Splitter).redirected reply = false) :
          ¬ ∀ call ∈ calls ++ [⟨.connect host domain path timeout, reply, run⟩],
            call.op.redirected call.reply = true := by
        intro every
        have redirectedLast := every _ last
        rw [refused] at redirectedLast
        cases redirectedLast
      cases reply with
      | ok ws =>
          refine ⟨fun call member =>
            records_of_leavesSearch (searchesToo call member), Or.inr ?_⟩
          rw [searchCalls_eq_self searchesToo]
          exact ⟨_, last, rfl⟩
      | error error =>
          cases error with
          | redirect =>
              exact ⟨searchesToo, missesPool_concat missed,
                redirects.trans (redirected_concat rfl).symm⟩
          | handshake | other =>
              exact ⟨searchesToo, missesPool_concat missed,
                iff_of_false Bool.false_ne_true (unredirected rfl)⟩
  | blacklist key =>
      obtain ⟨rfl, -, all⟩ := allowed
      exact describes_recorded describes rfl (iff_of_true rfl all)
  | setFailUntil key time =>
      have some : allRedirects = false := allowed
      apply describes_recorded describes rfl
      rw [some]
      exact iff_of_false (fun same => by cases same) Bool.false_ne_true
  | _ => exact allowed.elim

/-- A call which is allowed at a stage leads to the stage which says what was
done by then. -/
theorem Describes.call {stage : HandlerStage}
    (describes : stage.Describes dcKey calls) {op : SessionOp Splitter}
    (allowed : stage.allows dcKey op) (reply : op.Reply) (run : Nat) :
    (stage.next op reply).Describes dcKey (calls ++ [⟨op, reply, run⟩]) := by
  cases stage with
  | entering =>
      obtain rfl : calls = [] := describes
      obtain rfl : op = .isBlacklisted dcKey := allowed
      cases reply with
      | true =>
          refine ⟨?_, Or.inl ?_⟩
          · intro call member
            rw [List.mem_singleton.mp member]
            rfl
          · intro call member
            rw [List.mem_singleton.mp member]
            rfl
      | false =>
          intro call member
          rw [List.mem_singleton.mp member]
          exact ⟨rfl, rfl, rfl, rfl⟩
  | begun => exact describes.begunCall allowed reply run
  | fallback | found =>
      exact ⟨quiet_concat describes.1 allowed.1, describes.2.concat allowed.2⟩
  | trying wsFailedRedirect allRedirects =>
      exact describes.tryingCall allowed reply run
  | recorded =>
      obtain ⟨record, first, right, only⟩ := describes
      have left : ∃ call ∈ calls, call.op.leavesSearch = true :=
        ⟨record, List.mem_of_find?_eq_some first,
          by simpa using List.find?_some first⟩
      refine ⟨record, ?_, ?_, ?_⟩
      · rw [List.find?_append, first, Option.some_or]
      · rw [searchCalls_concat left]
        exact right
      · intro call member records
        rcases List.mem_append.mp member with earlier | isLast
        · exact only call earlier records
        · have quietLast : op.records = false := allowed
          rw [List.mem_singleton.mp isLast, quietLast] at records
          cases records

/-- A session which has passed its search at a stage, and found nothing but
redirects, has listed its key. -/
theorem Describes.records {stage : HandlerStage}
    (describes : stage.Describes dcKey calls)
    (only : OnlyRedirects (searchCalls calls))
    (passed : stage.Returns ∨ ∃ call ∈ calls, call.op.leavesSearch = true) :
    ∃ record, calls.find? (·.op.leavesSearch) = some record ∧
      record.op = .blacklist dcKey := by
  cases stage with
  | entering =>
      obtain rfl : calls = [] := describes
      obtain ⟨⟨call, member, -⟩, -⟩ := only
      cases member
  | begun =>
      have served : Served calls :=
        Or.inl fun call member => (describes call member).2.1
      exact absurd only served.not_onlyRedirects
  | fallback | found => exact absurd only describes.2.not_onlyRedirects
  | trying wsFailedRedirect allRedirects =>
      rcases passed with returns | ⟨call, member, leaves⟩
      · exact returns.elim
      · rw [describes.1 call member] at leaves
        cases leaves
  | recorded =>
      obtain ⟨record, first, right, -⟩ := describes
      exact ⟨record, first, right.mpr only⟩

/-- What a session has listed is what it has found. -/
theorem Describes.listed {stage : HandlerStage}
    (describes : stage.Describes dcKey calls) {call : HandlerCall Splitter}
    (member : call ∈ calls) (entry : call.op = .blacklist dcKey) :
    calls.find? (·.op.leavesSearch) = some call ∧
      OnlyRedirects (searchCalls calls) := by
  have records : call.op.records = true := by
    rw [entry]
    rfl
  have impossible (quiet : call.op.records = false) : False := by
    rw [quiet] at records
    cases records
  cases stage with
  | entering =>
      rw [show calls = [] from describes] at member
      cases member
  | begun => exact (impossible (describes call member).1).elim
  | fallback | found => exact (impossible (describes.1 call member)).elim
  | trying wsFailedRedirect allRedirects =>
      exact (impossible
        (records_of_leavesSearch (describes.1 call member))).elim
  | recorded =>
      obtain ⟨record, first, right, only⟩ := describes
      obtain rfl := only call member records
      exact ⟨first, right.mp entry⟩

/-- Only the key of the session is put on the blacklist. -/
theorem allows_blacklist {stage : HandlerStage} {key : String}
    (allowed : stage.allows dcKey (.blacklist key : SessionOp Splitter)) :
    key = dcKey := by
  cases stage with
  | entering => cases allowed
  | begun => cases allowed
  | fallback => cases allowed.1
  | found => cases allowed.1
  | trying wsFailedRedirect allRedirects => exact allowed.1
  | recorded => cases allowed

end HandlerStage

end Sessions

section Runs

variable {Splitter Result : Type} {dcKey : String}

/-- A session which has come to a stage by the protocol. -/
structure Handler.Kept (session : Handler Splitter Result)
    (stage : HandlerStage) : Prop where
  keeps : KeepsProtocol session.dcKey session.program stage
  describes : stage.Describes session.dcKey session.calls

/-- A blacklist entry was made in the run by a session with its key. -/
def Handler.Listed (session : Handler Splitter Result) (dcKey : String)
    (run : Nat) : Prop :=
  session.dcKey = dcKey ∧
    ∃ call ∈ session.calls, call.op = .blacklist dcKey ∧ call.run = run

/-- The entries of a session are those for which it has found redirects
only. -/
theorem Handler.Kept.listed_iff {session : Handler Splitter Result}
    {stage : HandlerStage} (kept : session.Kept stage) (run : Nat) :
    session.Listed dcKey run ↔
      session.dcKey = dcKey ∧ session.RecordedRedirects run := by
  constructor
  · rintro ⟨rfl, call, member, isEntry, inRun⟩
    obtain ⟨first, only⟩ := kept.describes.listed member isEntry
    refine ⟨rfl, ?_, only⟩
    rw [Handler.PassedSearch, first]
    exact inRun
  · rintro ⟨rfl, passed, only⟩
    have left : stage.Returns ∨
        ∃ call ∈ session.calls, call.op.leavesSearch = true := by
      unfold Handler.PassedSearch at passed
      split at passed
      · rename_i call first
        exact Or.inr ⟨call, List.mem_of_find?_eq_some first,
          by simpa using List.find?_some first⟩
      · obtain ⟨⟨result, done⟩, -⟩ := passed
        have returns := kept.keeps
        rw [done] at returns
        exact Or.inl returns
    obtain ⟨record, first, isEntry⟩ := kept.describes.records only left
    rw [Handler.PassedSearch, first] at passed
    exact ⟨rfl, record, List.mem_of_find?_eq_some first, isEntry, passed⟩

/-- The blacklist grows by the entries which are made, and by nothing else. -/
theorem mem_wsBlacklist_perform (state : SessionState Splitter)
    (op : SessionOp Splitter) (outcome : op.Outcome) (key : String) :
    key ∈ ((sessionWorld Splitter).perform state op outcome).2.wsBlacklist ↔
      op = .blacklist key ∨ key ∈ state.wsBlacklist := by
  have unchanged {after : SessionState Splitter}
      (same : after.wsBlacklist = state.wsBlacklist)
      (differs : op ≠ .blacklist key) :
      key ∈ after.wsBlacklist ↔
        op = .blacklist key ∨ key ∈ state.wsBlacklist := by
    rw [same]
    exact (or_iff_right differs).symm
  cases op with
  | blacklist entry =>
      change key ∈ entry :: state.wsBlacklist ↔ _
      rw [List.mem_cons, SessionOp.blacklist.injEq, eq_comm]
  | find source =>
      cases outcome with
      | true => exact unchanged rfl fun same => by cases same
      | false => exact unchanged rfl fun same => by cases same
  | connect host domain path timeout =>
      cases outcome with
      | ok opened => exact unchanged rfl fun same => by cases same
      | error error => exact unchanged rfl fun same => by cases same
  | _ => exact unchanged rfl fun same => by cases same

namespace Handlers

variable {handlers : Handlers Splitter Result}

/-- What a call does to the handlers. -/
theorem calls_cases (handlers : Handlers Splitter Result) (id : Nat)
    (outcome : (op : SessionOp Splitter) → op.Outcome) :
    handlers.calls id outcome = handlers ∨
      ∃ dcKey op continuation state calls made,
        handlers.sessions[id]? =
          some ⟨dcKey, .call op continuation, state, calls⟩ ∧
        made = (sessionWorld Splitter).perform
          { state with
            wsBlacklist := handlers.wsBlacklist
            dcFailUntil := handlers.dcFailUntil } op (outcome op) ∧
        handlers.calls id outcome =
          { handlers with
            wsBlacklist := made.2.wsBlacklist
            dcFailUntil := made.2.dcFailUntil
            sessions := handlers.sessions.set id
              ⟨dcKey, continuation made.1, made.2,
                calls ++ [⟨op, made.1, handlers.run⟩]⟩ } := by
  unfold Handlers.calls
  split
  · rename_i dcKey op continuation state calls found
    exact Or.inr ⟨dcKey, op, continuation, state, calls, _, found, rfl, rfl⟩
  · exact Or.inl rfl

/-- Every session keeps to its protocol, and the blacklist holds the entries
which the sessions have made in this run. -/
structure Kept (handlers : Handlers Splitter Result) : Prop where
  sessions : ∀ session ∈ handlers.sessions, ∃ stage, session.Kept stage
  listed : ∀ dcKey, dcKey ∈ handlers.wsBlacklist ↔
    ∃ session ∈ handlers.sessions, session.Listed dcKey handlers.run
  runs : ∀ session ∈ handlers.sessions, ∀ call ∈ session.calls,
    call.run ≤ handlers.run

theorem initial_kept : (initial : Handlers Splitter Result).Kept := by
  refine ⟨?_, ?_, ?_⟩
  · intro session member
    cases member
  · intro dcKey
    refine iff_of_false List.not_mem_nil ?_
    rintro ⟨session, member, -⟩
    cases member
  · intro session member
    cases member

theorem Kept.startAfresh (kept : handlers.Kept) : handlers.startAfresh.Kept := by
  refine ⟨kept.sessions, ?_, ?_⟩
  · intro dcKey
    refine iff_of_false List.not_mem_nil ?_
    rintro ⟨session, member, -, call, among, -, inRun⟩
    have earlier := kept.runs session member call among
    change call.run = handlers.run + 1 at inRun
    omega
  · intro session member call among
    exact (kept.runs session member call among).trans (Nat.le_succ _)

variable {handle : HandlerInput → SessionProgram Splitter Result}

theorem Kept.begins (kept : handlers.Kept)
    (keeps : ∀ input, KeepsProtocol input.request.dcKey (handle input) .entering)
    (input : HandlerInput) : (handlers.begins handle input).Kept := by
  refine ⟨?_, ?_, ?_⟩
  · intro session member
    rcases List.mem_append.mp member with earlier | isLast
    · exact kept.sessions session earlier
    · rw [List.mem_singleton.mp isLast]
      exact ⟨.entering, keeps input, rfl⟩
  · intro dcKey
    refine (kept.listed dcKey).trans ?_
    constructor
    · rintro ⟨session, member, listed⟩
      exact ⟨session, List.mem_append_left _ member, listed⟩
    · rintro ⟨session, member, listed⟩
      rcases List.mem_append.mp member with earlier | isLast
      · exact ⟨session, earlier, listed⟩
      · rw [List.mem_singleton.mp isLast] at listed
        obtain ⟨-, call, among, -⟩ := listed
        cases among
  · intro session member
    rcases List.mem_append.mp member with earlier | isLast
    · exact kept.runs session earlier
    · rw [List.mem_singleton.mp isLast]
      intro call among
      cases among

theorem Kept.calls (kept : handlers.Kept) (id : Nat)
    (outcome : (op : SessionOp Splitter) → op.Outcome) :
    (handlers.calls id outcome).Kept := by
  obtain same | ⟨own, op, continuation, state, calls, made, found, made_eq,
    same⟩ := calls_cases handlers id outcome
  · rw [same]
    exact kept
  rw [same]
  have present := List.mem_of_getElem? found
  obtain ⟨stage, keeps, describes⟩ := kept.sessions _ present
  obtain ⟨allowed, goesOn⟩ := keeps
  have inside := (List.getElem?_eq_some_iff.mp found).1
  have blacklist (dcKey : String) : dcKey ∈ made.2.wsBlacklist ↔
      op = .blacklist dcKey ∨ dcKey ∈ handlers.wsBlacklist := by
    rw [made_eq]
    exact mem_wsBlacklist_perform _ op (outcome op) dcKey
  refine ⟨?_, ?_, ?_⟩
  · intro session member
    rcases mem_set_cases member with rfl | ⟨other, -, earlier⟩
    · exact ⟨stage.next op made.1, goesOn made.1,
        describes.call allowed made.1 handlers.run⟩
    · exact kept.sessions session (List.mem_of_getElem? earlier)
  · intro dcKey
    refine (blacklist dcKey).trans ?_
    rw [kept.listed dcKey]
    constructor
    · rintro (rfl | ⟨session, member, sameKey, call, among, entry⟩)
      · refine ⟨_, List.mem_set inside _, (HandlerStage.allows_blacklist allowed).symm, ?_⟩
        exact ⟨_, List.mem_append_right _ List.mem_cons_self, rfl, rfl⟩
      · obtain ⟨other, presentOther⟩ := List.mem_iff_getElem?.mp member
        by_cases isOwn : other = id
        · rw [isOwn] at presentOther
          cases found.symm.trans presentOther
          exact ⟨_, List.mem_set inside _, sameKey, call,
            List.mem_append_left _ among, entry⟩
        · refine ⟨session, ?_, sameKey, call, among, entry⟩
          rw [List.mem_iff_getElem?]
          refine ⟨other, ?_⟩
          rw [← presentOther]
          exact List.getElem?_set_ne fun same => isOwn same.symm
    · rintro ⟨session, member, sameKey, call, among, isEntry, inRun⟩
      rcases mem_set_cases member with rfl | ⟨other, -, earlier⟩
      · rcases List.mem_append.mp among with before | isLast
        · exact Or.inr ⟨_, present, sameKey, call, before, isEntry, inRun⟩
        · rw [List.mem_singleton.mp isLast] at isEntry
          exact Or.inl isEntry
      · exact Or.inr ⟨session, List.mem_of_getElem? earlier, sameKey, call,
          among, isEntry, inRun⟩
  · intro session member call among
    rcases mem_set_cases member with rfl | ⟨other, -, earlier⟩
    · rcases List.mem_append.mp among with before | isLast
      · exact kept.runs _ present call before
      · rw [List.mem_singleton.mp isLast]
    · exact kept.runs session (List.mem_of_getElem? earlier) call among

theorem Kept.step (kept : handlers.Kept)
    (keeps : ∀ input, KeepsProtocol input.request.dcKey (handle input) .entering)
    (event : HandlerEvent Splitter) : (handlers.step handle event).Kept := by
  cases event with
  | begins input => exact kept.begins keeps input
  | calls session outcome => exact kept.calls session outcome

/-- The key is on the blacklist, and the session with the key has done nothing
but to look there, or goes by the fallback. -/
def ShutOut (handlers : Handlers Splitter Result) (id : Nat) (dcKey : String) :
    Prop :=
  dcKey ∈ handlers.wsBlacklist ∧
    ∃ session stage, handlers.sessions[id]? = some session ∧
      session.dcKey = dcKey ∧
      KeepsProtocol dcKey session.program stage ∧
      (stage = .entering ∨ stage = .fallback) ∧
      ∀ call ∈ session.calls, call.op.fastPath = false

/-- While the proxy is not started afresh, no entry is lost. -/
theorem mem_wsBlacklist_step (event : HandlerEvent Splitter)
    (listed : dcKey ∈ handlers.wsBlacklist) :
    dcKey ∈ (handlers.step handle event).wsBlacklist := by
  cases event with
  | begins input => exact listed
  | calls id outcome =>
      obtain same | ⟨own, op, continuation, state, calls, made, found, made_eq,
        same⟩ := calls_cases handlers id outcome
      · change dcKey ∈ (handlers.calls id outcome).wsBlacklist
        rw [same]
        exact listed
      · change dcKey ∈ (handlers.calls id outcome).wsBlacklist
        rw [same, made_eq]
        exact (mem_wsBlacklist_perform _ op (outcome op) dcKey).mpr
          (Or.inr listed)

/-- The first call of a session which is shut out leads it to the fallback, and
the fallback does not lead back. -/
theorem ShutOut.stage_next {op : SessionOp Splitter} {stage : HandlerStage}
    (early : stage = .entering ∨ stage = .fallback)
    (allowed : stage.allows dcKey op) (state : SessionState Splitter)
    (listed : dcKey ∈ state.wsBlacklist) (outcome : op.Outcome) :
    stage.next op ((sessionWorld Splitter).perform state op outcome).1 =
        .fallback ∧ op.fastPath = false := by
  rcases early with rfl | rfl
  · obtain rfl : op = .isBlacklisted dcKey := allowed
    refine ⟨?_, rfl⟩
    change (if state.wsBlacklist.contains dcKey then HandlerStage.fallback
      else .begun) = .fallback
    rw [if_pos (List.contains_iff_mem.mpr listed)]
  · exact ⟨rfl, allowed.2⟩

theorem ShutOut.step {id : Nat} (shut : handlers.ShutOut id dcKey)
    (event : HandlerEvent Splitter) :
    (handlers.step handle event).ShutOut id dcKey := by
  have ⟨listed, session, stage, found, sameKey, keeps, early, calm⟩ := shut
  refine ⟨mem_wsBlacklist_step event listed, ?_⟩
  cases event with
  | begins input =>
      have inside := (List.getElem?_eq_some_iff.mp found).1
      exact ⟨session, stage, (List.getElem?_append_left inside).trans found,
        sameKey, keeps, early, calm⟩
  | calls other outcome =>
      change ∃ session stage, (handlers.calls other outcome).sessions[id]? = _ ∧ _
      obtain same | ⟨own, op, continuation, state, calls, made, present, made_eq,
        same⟩ := calls_cases handlers other outcome
      · rw [same]
        exact ⟨session, stage, found, sameKey, keeps, early, calm⟩
      rw [same]
      have inside := (List.getElem?_eq_some_iff.mp present).1
      by_cases isOwn : other = id
      · subst isOwn
        cases found.symm.trans present
        obtain rfl : own = dcKey := sameKey
        obtain ⟨leads, calmOp⟩ := ShutOut.stage_next early keeps.1
          { state with
            wsBlacklist := handlers.wsBlacklist
            dcFailUntil := handlers.dcFailUntil } listed (outcome op)
        refine ⟨_, .fallback, List.getElem?_set_self inside, rfl, ?_,
          Or.inr rfl, ?_⟩
        · rw [← leads, made_eq]
          exact keeps.2 _
        · intro call among
          rcases List.mem_append.mp among with before | isLast
          · exact calm call before
          · rw [List.mem_singleton.mp isLast]
            exact calmOp
      · refine ⟨session, stage, ?_, sameKey, keeps, early, calm⟩
        rw [← found]
        exact List.getElem?_set_ne isOwn

/-- The blacklist says what the sessions have found out. -/
structure BlacklistSound (handle : HandlerInput → SessionProgram Splitter Result)
    (handlers : Handlers Splitter Result) : Prop where
  listed : ∀ dcKey, dcKey ∈ handlers.wsBlacklist ↔
    ∃ session ∈ handlers.sessions,
      session.dcKey = dcKey ∧ session.RecordedRedirects handlers.run
  stays : ∀ dcKey ∈ handlers.wsBlacklist, ∀ events,
    dcKey ∈ (Lib.run (step handle) handlers events).wsBlacklist
  shut : ∀ input, input.request.dcKey ∈ handlers.wsBlacklist → ∀ events,
    ∀ session ∈ (Lib.run (step handle) (handlers.begins handle input)
        events).sessions[handlers.sessions.length]?,
      ∀ call ∈ session.calls, call.op.fastPath = false

theorem Kept.blacklistSound (kept : handlers.Kept)
    (keeps : ∀ input, KeepsProtocol input.request.dcKey (handle input)
      .entering) : handlers.BlacklistSound handle := by
  refine ⟨?_, ?_, ?_⟩
  · intro dcKey
    rw [kept.listed dcKey]
    constructor
    · rintro ⟨session, member, listed⟩
      obtain ⟨stage, keptSession⟩ := kept.sessions session member
      exact ⟨session, member, (keptSession.listed_iff _).mp listed⟩
    · rintro ⟨session, member, recorded⟩
      obtain ⟨stage, keptSession⟩ := kept.sessions session member
      exact ⟨session, member, (keptSession.listed_iff _).mpr recorded⟩
  · intro dcKey listed events
    exact @run_invariant _ _ (Handlers.step handle) (dcKey ∈ wsBlacklist ·)
      (fun _ event => mem_wsBlacklist_step event) _ events listed
  · intro input listed events session found call among
    have first : (handlers.begins handle input).ShutOut
        handlers.sessions.length input.request.dcKey := by
      refine ⟨listed, _, .entering, List.getElem?_concat_length, rfl,
        keeps input, Or.inl rfl, ?_⟩
      intro call among
      cases among
    obtain ⟨-, own, stage, present, -, -, -, calm⟩ :=
      @run_invariant _ _ (Handlers.step handle)
        (ShutOut · handlers.sessions.length input.request.dcKey)
        (fun _ event shut => shut.step event) _ events first
    cases found.symm.trans present
    exact calm call among

end Handlers

end Runs

section Programs

variable {Splitter Result : Type} {dcKey : String} {stage : HandlerStage}

/-- A call of a session which records nothing and goes by the fallback. -/
def Calm (op : SessionOp Splitter) : Prop :=
  op.records = false ∧ op.fastPath = false

/-- A call of the fallback, or of a session which is served. -/
def ViaFallback : SessionOp Splitter → Prop
  | .find (.wsPool _ _ _ _) => False
  | .connect host domain _ _ => host = domain
  | .find _ | .shuffleWorkers _ | .getDomainsForDc _ | .send _ _ | .write _ _
    | .drain _ | .bridge _ _ => True
  | _ => False

theorem viaFallback_connect (domain path : String) (timeout : Nat) :
    ViaFallback (.connect domain domain path timeout : SessionOp Splitter) :=
  rfl

theorem calm_of_viaFallback (op : SessionOp Splitter) (via : ViaFallback op) :
    Calm op := by
  cases op with
  | find source =>
      cases source with
      | wsPool dc isMedia target domains => exact via.elim
      | cfWorkerPool dc workerDomain fallbackDst => exact ⟨rfl, rfl⟩
      | tcp dst port => exact ⟨rfl, rfl⟩
  | connect host domain path timeout =>
      obtain rfl : host = domain := via
      exact ⟨rfl, bne_self_eq_false host⟩
  | blacklist key => exact via.elim
  | setFailUntil key time => exact via.elim
  | _ => exact ⟨rfl, rfl⟩

/-- A stage from which calm calls lead to stages of this kind. -/
def HandlerStage.Open : HandlerStage → Prop
  | .entering | .trying _ _ => False
  | _ => True

theorem HandlerStage.Open.next (isOpen : stage.Open) {op : SessionOp Splitter}
    (calm : Calm op) (reply : op.Reply) : (stage.next op reply).Open := by
  cases stage with
  | begun =>
      cases op with
      | find source =>
          cases source with
          | wsPool dc isMedia target domains => cases calm.2
          | cfWorkerPool dc workerDomain fallbackDst => trivial
          | tcp dst port => trivial
      | _ => trivial
  | entering => exact isOpen.elim
  | trying wsFailedRedirect allRedirects => exact isOpen.elim
  | _ => trivial

theorem HandlerStage.Open.returns (isOpen : stage.Open) : stage.Returns := by
  cases stage with
  | trying wsFailedRedirect allRedirects => exact isOpen.elim
  | _ => trivial

theorem HandlerStage.Open.allows (isOpen : stage.Open)
    {op : SessionOp Splitter} (calm : Calm op) : stage.allows dcKey op := by
  cases stage with
  | entering => exact isOpen.elim
  | fallback | found => exact calm
  | trying wsFailedRedirect allRedirects => exact isOpen.elim
  | _ => exact calm.1

theorem keepsProtocol_of_viaFallback {program : SessionProgram Splitter Result}
    (via : program.Calls ViaFallback) (isOpen : stage.Open) :
    KeepsProtocol dcKey program stage := by
  induction program generalizing stage with
  | done result => exact isOpen.returns
  | call op continuation induction =>
      have calm := calm_of_viaFallback op via.1
      refine ⟨isOpen.allows calm, fun reply => ?_⟩
      exact induction reply (via.2 reply) (isOpen.next calm reply)

/-- Where the loop over the domains leaves a session.  Without a connection, not
every domain can have been a redirect unless one was. -/
def AfterTrial (trial : ConnectTrial) (stage : HandlerStage) : Prop :=
  match trial.ws with
  | some _ => stage = .found
  | none => stage = .trying trial.wsFailedRedirect trial.allRedirects ∧
      (trial.allRedirects = true → trial.wsFailedRedirect = true)

theorem connectLoop_obeys (target : String) (timeout : Nat)
    {domains : List String} {wsFailedRedirect allRedirects : Bool}
    (tried : domains = [] → allRedirects = true → wsFailedRedirect = true) :
    (connectLoop target timeout domains wsFailedRedirect allRedirects).Obeys
      (handlerProtocol Splitter dcKey) AfterTrial
      (.trying wsFailedRedirect allRedirects) := by
  induction domains generalizing wsFailedRedirect allRedirects with
  | nil =>
      apply Program.Obeys.pure
      exact ⟨rfl, tried rfl⟩
  | cons domain domains induction =>
      apply Program.Obeys.call trivial
      intro connected
      cases connected with
      | ok ws => exact Program.Obeys.pure rfl
      | error error =>
          cases error with
          | redirect => exact induction fun _ _ => rfl
          | handshake => exact induction fun _ none => by cases none
          | other => exact induction fun _ none => by cases none

theorem poolOrConnect_obeys (dc : Nat) (isMedia : Bool) (target : String)
    (timeout : Nat) {domains : List String} (some : domains ≠ []) :
    (poolOrConnect dc isMedia target timeout domains).Obeys
      (handlerProtocol Splitter dcKey) AfterTrial .begun := by
  apply Program.Obeys.call rfl
  intro pooled
  cases pooled with
  | some ws => exact Program.Obeys.pure rfl
  | none => exact connectLoop_obeys target timeout fun none => absurd none some

theorem wsDomains_ne_nil (dc : Int) (isMedia : Bool) :
    wsDomains dc isMedia ≠ [] := by
  cases isMedia with
  | false => exact List.cons_ne_nil _ _
  | true => exact List.cons_ne_nil _ _

/-- The recording step behind a failed trial, which both implementations make
before their fallback. -/
theorem recordTrial_obeys {trial : ConnectTrial} (now : Nat)
    {fallback : SessionProgram Splitter Result}
    (via : fallback.Calls ViaFallback)
    (failed : trial.allRedirects = true → trial.wsFailedRedirect = true) :
    KeepsProtocol dcKey
      (if trial.wsFailedRedirect && trial.allRedirects then do
        act (.blacklist dcKey)
        fallback
      else do
        act (.setFailUntil dcKey now)
        fallback)
      (.trying trial.wsFailedRedirect trial.allRedirects) := by
  split
  · rename_i both
    apply Program.Obeys.call
    · exact ⟨rfl, Bool.and_eq_true_iff.mp both⟩
    · exact fun _ => keepsProtocol_of_viaFallback via trivial
  · rename_i notBoth
    apply Program.Obeys.call
    · change trial.allRedirects = false
      rw [Bool.eq_false_iff]
      intro all
      exact notBoth (Bool.and_eq_true_iff.mpr ⟨failed all, all⟩)
    · exact fun _ => keepsProtocol_of_viaFallback via trivial

end Programs

end TgWsProxy
