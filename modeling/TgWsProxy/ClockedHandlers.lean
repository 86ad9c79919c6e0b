import TgWsProxy.Handlers
import TgWsProxy.Lib.Dictionary

/-!
# Handlers on a clock

The calls of the handlers come one behind the other at times which never go
back, and any time may pass in a call.  A log keeps which session made which
call and when, so that the time at which a cooldown is recorded can be compared
with the times at which it is read.
-/

namespace TgWsProxy

open Lib

structure TimedCall (Splitter : Type) where
  time : Nat
  session : Nat
  op : SessionOp Splitter

structure ClockedEvent (Splitter : Type) where
  /-- The time since the event before. -/
  elapsed : Nat
  event : HandlerEvent Splitter

structure ClockedHandlers (Splitter Result : Type) where
  handlers : Handlers Splitter Result
  clock : Nat
  /-- The calls which were made, the last one first. -/
  log : List (TimedCall Splitter)

namespace SessionOp

variable {Splitter : Type}

/-- The cooldown of the key is recorded or cleared. -/
def setsCooldown (dcKey : String) : SessionOp Splitter → Bool
  | .setFailUntil key _ | .clearFailUntil key => key == dcKey
  | _ => false

/-- The end of a recorded cooldown. -/
def deadline : SessionOp Splitter → Option Nat
  | .setFailUntil _ time => some time
  | _ => none

/-- What a session does when it has tried its domains, or has a WebSocket. -/
def settles : SessionOp Splitter → Bool
  | .blacklist _ | .setFailUntil _ _ | .clearFailUntil _ => true
  | _ => false

/-- A connection which is tried is given the timeout. -/
def WithTimeout (timeout : Nat) : SessionOp Splitter → Prop
  | .connect _ _ _ given => given = timeout
  | _ => True

def clockReading : (op : SessionOp Splitter) → op.Reply → Option Nat
  | .now, time => some time
  | _, _ => none

end SessionOp

section Times

variable {Splitter Result : Type}

/-- The outcomes of calls when the clock shows the time. -/
def outcomeAt (time : Nat) (outcome : (op : SessionOp Splitter) → op.Outcome) :
    (op : SessionOp Splitter) → op.Outcome
  | .now => time
  | op => outcome op

def HandlerEvent.onClock (time : Nat) :
    HandlerEvent Splitter → HandlerEvent Splitter
  | .begins input => .begins input
  | .calls session outcome => .calls session (outcomeAt time outcome)

namespace Handlers

/-- The session which makes a call, and the call. -/
def nextCall (handlers : Handlers Splitter Result) :
    HandlerEvent Splitter → Option (Nat × SessionOp Splitter)
  | .begins _ => none
  | .calls session _ =>
      match handlers.sessions[session]? with
      | some ⟨_, .call op _, _, _⟩ => some (session, op)
      | _ => none

end Handlers

/-- The time which a session has read from the clock. -/
def clockReading (calls : List (HandlerCall Splitter)) : Option Nat :=
  calls.findSome? fun call => call.op.clockReading call.reply

def Handlers.clockOf (handlers : Handlers Splitter Result) (session : Nat) :
    Nat :=
  (handlers.sessions[session]?.bind fun session =>
    clockReading session.calls).getD 0

/-- The calls of a session for its WebSocket. -/
def beforeSettling (calls : List (HandlerCall Splitter)) :
    List (HandlerCall Splitter) :=
  calls.takeWhile fun call => !call.op.settles

/-- The last recording of a cooldown of the key, unless it was cleared since. -/
def lastRecording (dcKey : String) (log : List (TimedCall Splitter)) :
    Option (TimedCall Splitter) :=
  (log.find? fun call => call.op.setsCooldown dcKey).filter fun call =>
    call.op.records

/-- A session reads a cooldown before it has lasted its time. -/
def ReadsCooldown (read : TimedCall Splitter)
    (earlier : List (TimedCall Splitter)) : Prop :=
  ∃ dcKey record, read.op = .failUntil dcKey ∧
    lastRecording dcKey earlier = some record ∧
    read.time < record.time + dcFailCooldown

namespace ClockedHandlers

def initial : ClockedHandlers Splitter Result := ⟨Handlers.initial, 0, []⟩

def step (handle : HandlerInput → SessionProgram Splitter Result)
    (s : ClockedHandlers Splitter Result) (event : ClockedEvent Splitter) :
    ClockedHandlers Splitter Result :=
  let clock := s.clock + event.elapsed
  { handlers := s.handlers.step handle (event.event.onClock clock)
    clock
    log :=
      match s.handlers.nextCall event.event with
      | some (session, op) => ⟨clock, session, op⟩ :: s.log
      | none => s.log }

/-- Each session which has read a cooldown tries its domains with the short
timeout. -/
def CooldownHonoured (s : ClockedHandlers Splitter Result) : Prop :=
  ∀ read earlier, read :: earlier <:+ s.log → ReadsCooldown read earlier →
    ∀ session, s.handlers.sessions[read.session]? = some session →
      ∀ call ∈ beforeSettling session.calls, call.op.WithTimeout wsFailTimeout

/-- A session which reads a cooldown before it has lasted its time has looked at
the clock before the same time was over for the session which recorded it. -/
def ReadInTime (s : ClockedHandlers Splitter Result)
    (event : ClockedEvent Splitter) : Prop :=
  match s.handlers.nextCall event.event with
  | some (session, .failUntil dcKey) =>
      ∀ record ∈ lastRecording dcKey s.log,
        s.clock + event.elapsed < record.time + dcFailCooldown →
          s.handlers.clockOf session <
            s.handlers.clockOf record.session + dcFailCooldown
  | _ => True

end ClockedHandlers

end Times

/-- How far a session has got with the cooldown of its key. -/
inductive CooldownStage where
  | entering
  | begun
  /-- The session goes by the fallback without having read the cooldown. -/
  | fallback
  | clocked (now : Nat)
  /-- The session tries its domains. -/
  | decided (now timeout : Nat)
  | settled (now timeout : Nat)
deriving DecidableEq, Repr

/-- The choice of the timeout. -/
def timeoutAt (now : Nat) (failUntil : Option Nat) : Nat :=
  if now < failUntil.getD 0 then wsFailTimeout else wsTimeout

namespace CooldownStage

variable {Splitter : Type}

def allows (dcKey : String) : CooldownStage → SessionOp Splitter → Prop
  | .entering, op => op = .isBlacklisted dcKey
  | .begun, op => op = .now ∨ ViaFallback op
  | .fallback, op => ViaFallback op
  | .clocked _, op => op = .failUntil dcKey
  | .decided now timeout, op =>
      match op with
      | .connect _ _ _ given => given = timeout
      | .setFailUntil _ time => time = now + dcFailCooldown
      | .find _ | .blacklist _ | .clearFailUntil _ => True
      | _ => False
  | .settled _ _, op => ViaFallback op

def next (stage : CooldownStage) (op : SessionOp Splitter)
    (reply : op.Reply) : CooldownStage :=
  match stage, op, reply with
  | .entering, _, _ => .begun
  | .begun, .now, time => .clocked time
  | .begun, _, _ => .fallback
  | .clocked now, .failUntil _, failUntil =>
      .decided now (timeoutAt now failUntil)
  | .decided now timeout, op, _ =>
      if op.settles then .settled now timeout else .decided now timeout
  | stage, _, _ => stage

/-- The timeout which a session has chosen. -/
def timeout : CooldownStage → Option Nat
  | .decided _ timeout | .settled _ timeout => some timeout
  | _ => none

/-- What the calls of a session say at a stage. -/
def Describes (calls : List (HandlerCall Splitter)) : CooldownStage → Prop
  | .entering | .begun => clockReading calls = none ∧
      ∀ call ∈ calls, call.op.settles = false ∧
        ∀ timeout, call.op.WithTimeout timeout
  | .fallback => True
  | .clocked now => clockReading calls = some now ∧
      ∀ call ∈ calls, call.op.settles = false ∧
        ∀ timeout, call.op.WithTimeout timeout
  | .decided now timeout => clockReading calls = some now ∧
      ∀ call ∈ calls, call.op.settles = false ∧ call.op.WithTimeout timeout
  | .settled now timeout => clockReading calls = some now ∧
      (∃ call ∈ calls, call.op.settles = true) ∧
      ∀ call ∈ beforeSettling calls, call.op.WithTimeout timeout

end CooldownStage

def cooldownProtocol (Splitter : Type) (dcKey : String) :
    Protocol (SessionOp Splitter) SessionOp.Reply CooldownStage :=
  ⟨CooldownStage.allows dcKey, CooldownStage.next⟩

abbrev KeepsCooldown {Splitter Result : Type} (dcKey : String)
    (program : SessionProgram Splitter Result) (stage : CooldownStage) : Prop :=
  program.Obeys (cooldownProtocol Splitter dcKey) (fun _ _ => True) stage

section Sessions

variable {Splitter : Type} {dcKey key : String} {stage : CooldownStage}
  {calls : List (HandlerCall Splitter)} {last : HandlerCall Splitter}

theorem clockReading_concat_of_some {now : Nat}
    (read : clockReading calls = some now) (last : HandlerCall Splitter) :
    clockReading (calls ++ [last]) = some now := by
  unfold clockReading at *
  rw [List.findSome?_append, read, Option.some_or]

theorem clockReading_concat_of_none (unread : clockReading calls = none)
    (last : HandlerCall Splitter) :
    clockReading (calls ++ [last]) = last.op.clockReading last.reply := by
  unfold clockReading at *
  rw [List.findSome?_append, unread, Option.none_or, List.findSome?_singleton]

namespace CooldownStage

theorem Describes.attempt {now timeout : Nat}
    (describes : (decided now timeout).Describes calls)
    (unsettled : last.op.settles = false)
    (given : last.op.WithTimeout timeout) :
    (decided now timeout).Describes (calls ++ [last]) := by
  refine ⟨clockReading_concat_of_some describes.1 last, ?_⟩
  intro call member
  rcases List.mem_append.mp member with earlier | isLast
  · exact describes.2 call earlier
  · rw [List.mem_singleton.mp isLast]
    exact ⟨unsettled, given⟩

theorem Describes.settle {now timeout : Nat}
    (describes : (decided now timeout).Describes calls)
    (settles : last.op.settles = true) :
    (settled now timeout).Describes (calls ++ [last]) := by
  refine ⟨clockReading_concat_of_some describes.1 last,
    ⟨last, List.mem_append_right _ List.mem_cons_self, settles⟩, ?_⟩
  have before : beforeSettling (calls ++ [last]) = calls :=
    takeWhile_not_concat_of_forall
      (fun call member => (describes.2 call member).1) settles
  rw [before]
  exact fun call member => (describes.2 call member).2

/-- The session neither connects nor settles before it has chosen a timeout. -/
theorem quiet_concat (quiet : ∀ call ∈ calls, call.op.settles = false ∧
      ∀ timeout, call.op.WithTimeout timeout)
    (unsettled : last.op.settles = false)
    (unconnected : ∀ timeout, last.op.WithTimeout timeout) :
    ∀ call ∈ calls ++ [last], call.op.settles = false ∧
      ∀ timeout, call.op.WithTimeout timeout := by
  intro call member
  rcases List.mem_append.mp member with earlier | isLast
  · exact quiet call earlier
  · rw [List.mem_singleton.mp isLast]
    exact ⟨unsettled, unconnected⟩

theorem Describes.call (describes : stage.Describes calls)
    {op : SessionOp Splitter} (allowed : stage.allows dcKey op)
    (reply : op.Reply) (run : Nat) :
    (stage.next op reply).Describes (calls ++ [⟨op, reply, run⟩]) := by
  cases stage with
  | entering =>
      obtain rfl : op = .isBlacklisted dcKey := allowed
      exact ⟨clockReading_concat_of_none describes.1 _,
        quiet_concat describes.2 rfl fun _ => trivial⟩
  | begun =>
      rcases allowed with clock | via
      · subst clock
        exact ⟨clockReading_concat_of_none describes.1 _,
          quiet_concat describes.2 rfl fun _ => trivial⟩
      · cases op with
        | now => exact via.elim
        | _ => trivial
  | fallback => trivial
  | clocked now =>
      obtain rfl : op = .failUntil dcKey := allowed
      refine ⟨clockReading_concat_of_some describes.1 _, ?_⟩
      have quiet := @quiet_concat _ _ ⟨.failUntil dcKey, reply, run⟩
        describes.2 rfl fun _ => trivial
      exact fun call member =>
        ⟨(quiet call member).1, (quiet call member).2 _⟩
  | decided now timeout =>
      cases op with
      | connect host domain path given => exact describes.attempt rfl allowed
      | find source => exact describes.attempt rfl trivial
      | setFailUntil key time => exact describes.settle rfl
      | blacklist key => exact describes.settle rfl
      | clearFailUntil key => exact describes.settle rfl
      | _ => exact allowed.elim
  | settled now timeout =>
      obtain ⟨read, ⟨first, member, settles⟩, short⟩ := describes
      refine ⟨clockReading_concat_of_some read _,
        ⟨first, List.mem_append_left _ member, settles⟩, ?_⟩
      have before : beforeSettling (calls ++ [⟨op, reply, run⟩]) =
          beforeSettling calls :=
        takeWhile_not_concat_of_exists ⟨first, member, settles⟩ _
      rw [before]
      exact short

/-- A session keeps the timeout which it has chosen. -/
theorem timeout_next {timeout : Nat} (chosen : stage.timeout = some timeout)
    (op : SessionOp Splitter) (reply : op.Reply) :
    (stage.next op reply).timeout = some timeout := by
  cases stage with
  | decided now given =>
      cases chosen
      simp only [next]
      split
      · rfl
      · rfl
  | settled now given => exact chosen
  | _ => cases chosen

/-- The attempts of a session are made with the timeout which it has chosen. -/
theorem Describes.attempts {timeout : Nat} (describes : stage.Describes calls)
    (chosen : stage.timeout = some timeout) :
    ∀ call ∈ beforeSettling calls, call.op.WithTimeout timeout := by
  cases stage with
  | decided now given =>
      cases chosen
      intro call member
      exact (describes.2 call ((List.takeWhile_prefix _).subset member)).2
  | settled now given =>
      cases chosen
      exact describes.2.2
  | _ => cases chosen

theorem allows_failUntil
    (allowed : stage.allows dcKey (.failUntil key : SessionOp Splitter)) :
    ∃ now, stage = .clocked now := by
  cases stage with
  | entering => cases allowed
  | begun =>
      rcases allowed with clock | via
      · cases clock
      · exact via.elim
  | fallback => exact allowed.elim
  | clocked now => exact ⟨now, rfl⟩
  | decided now timeout => exact allowed.elim
  | settled now timeout => exact allowed.elim

/-- A deadline is counted from the time which the session has read. -/
theorem allows_setFailUntil {time : Nat}
    (allowed : stage.allows dcKey (.setFailUntil key time : SessionOp Splitter)) :
    ∃ now timeout, stage = .decided now timeout ∧
      time = now + dcFailCooldown := by
  cases stage with
  | entering => cases allowed
  | begun =>
      rcases allowed with clock | via
      · cases clock
      · exact via.elim
  | fallback => exact allowed.elim
  | clocked now => cases allowed
  | decided now timeout => exact ⟨now, timeout, rfl, allowed⟩
  | settled now timeout => exact allowed.elim

end CooldownStage

end Sessions

section Recordings

variable {Splitter : Type} {dcKey : String} {log : List (TimedCall Splitter)}

theorem lastRecording_cons (dcKey : String) (call : TimedCall Splitter)
    (log : List (TimedCall Splitter)) :
    lastRecording dcKey (call :: log) =
      if call.op.setsCooldown dcKey then
        if call.op.records then some call else none
      else lastRecording dcKey log := by
  unfold lastRecording
  rw [List.find?_cons]
  cases sets : call.op.setsCooldown dcKey with
  | false => rfl
  | true => rfl

theorem mem_of_lastRecording {record : TimedCall Splitter}
    (found : lastRecording dcKey log = some record) :
    record ∈ log ∧ ∃ time, record.op = .setFailUntil dcKey time := by
  obtain ⟨last, records⟩ := Option.filter_eq_some_iff.mp found
  refine ⟨List.mem_of_find?_eq_some last, ?_⟩
  have sets := List.find?_some last
  obtain ⟨time, session, op⟩ := record
  cases op with
  | setFailUntil key deadline =>
      obtain rfl : key = dcKey := beq_iff_eq.mp sets
      exact ⟨deadline, rfl⟩
  | clearFailUntil key => cases records
  | _ => cases sets

/-- The map has the deadline which was recorded last. -/
theorem lookup_perform (state : SessionState Splitter)
    (op : SessionOp Splitter) (outcome : op.Outcome) (dcKey : String) :
    ((sessionWorld Splitter).perform state op
        outcome).2.dcFailUntil.lookup dcKey =
      if op.setsCooldown dcKey then op.deadline
      else state.dcFailUntil.lookup dcKey := by
  cases op with
  | setFailUntil key time =>
      change ((key, time) :: state.dcFailUntil).lookup dcKey =
        if key == dcKey then some time else state.dcFailUntil.lookup dcKey
      rw [List.lookup_cons, BEq.comm]
      cases key == dcKey with
      | true => rfl
      | false => rfl
  | clearFailUntil key =>
      change (state.dcFailUntil.filter (·.1 ≠ key)).lookup dcKey =
        if key == dcKey then none else state.dcFailUntil.lookup dcKey
      rw [Dictionary.lookup_filter_ne]
      simp only [beq_iff_eq]
  | find source =>
      cases outcome with
      | true => rfl
      | false => rfl
  | connect host domain path timeout =>
      cases outcome with
      | ok opened => rfl
      | error error => rfl
  | _ => rfl

end Recordings

section Runs

variable {Splitter Result : Type} {dcKey : String}

structure Handler.OnCooldown (session : Handler Splitter Result)
    (stage : CooldownStage) : Prop where
  keeps : KeepsCooldown session.dcKey session.program stage
  describes : stage.Describes session.calls

namespace ClockedHandlers

/-- What holds in each state of a run in which the cooldowns are read in time:
a deadline is counted from what the session which recorded it had read from the
clock. -/
structure Sound (s : ClockedHandlers Splitter Result) : Prop where
  sessions : ∀ id session, s.handlers.sessions[id]? = some session →
    ∃ stage, session.OnCooldown stage ∧
      ∀ read earlier, read :: earlier <:+ s.log → read.session = id →
        ReadsCooldown read earlier → stage.timeout = some wsFailTimeout
  logged : ∀ call ∈ s.log, call.session < s.handlers.sessions.length
  recorded : ∀ call ∈ s.log, ∀ dcKey time,
    call.op = .setFailUntil dcKey time →
      ∃ session now, s.handlers.sessions[call.session]? = some session ∧
        clockReading session.calls = some now ∧ time = now + dcFailCooldown
  cooldowns : ∀ dcKey, s.handlers.dcFailUntil.lookup dcKey =
    (lastRecording dcKey s.log).bind fun call => call.op.deadline

variable {s : ClockedHandlers Splitter Result}
  {handle : HandlerInput → SessionProgram Splitter Result}

theorem initial_sound : (initial : ClockedHandlers Splitter Result).Sound := by
  refine ⟨?_, ?_, ?_, fun _ => rfl⟩
  · intro id session found
    cases found
  · intro call member
    cases member
  · intro call member
    cases member

/-- The sessions have done what the invariant asks for. -/
theorem Sound.cooldownHonoured (sound : s.Sound) : s.CooldownHonoured := by
  intro read earlier suffix reads session found
  obtain ⟨stage, onCooldown, short⟩ := sound.sessions _ session found
  exact onCooldown.describes.attempts (short read earlier suffix rfl reads)

theorem Sound.begins (sound : s.Sound)
    (keeps : ∀ input, KeepsCooldown input.request.dcKey (handle input) .entering)
    (input : HandlerInput) (clock : Nat) :
    Sound { s with handlers := s.handlers.begins handle input, clock } := by
  refine ⟨?_, ?_, ?_, sound.cooldowns⟩
  · intro id session found
    rcases found_concat found with before | ⟨isLast, isNew⟩
    · exact sound.sessions id session before
    · refine ⟨.entering, ?_, ?_⟩
      · rw [isNew]
        refine ⟨keeps input, rfl, ?_⟩
        intro call member
        cases member
      · intro read earlier suffix own
        have inside := sound.logged read (suffix.subset List.mem_cons_self)
        omega
  · intro call member
    have inside := sound.logged call member
    exact Nat.lt_of_lt_of_le inside (by simp [Handlers.begins])
  · intro call member dcKey time records
    obtain ⟨session, now, found, read, deadline⟩ :=
      sound.recorded call member dcKey time records
    have inside := (List.getElem?_eq_some_iff.mp found).1
    exact ⟨session, now, (List.getElem?_append_left inside).trans found, read,
      deadline⟩

theorem clockOf_eq {handlers : Handlers Splitter Result} {id now : Nat}
    {session : Handler Splitter Result}
    (found : handlers.sessions[id]? = some session)
    (read : clockReading session.calls = some now) :
    handlers.clockOf id = now := by
  simp only [Handlers.clockOf, found, Option.bind_some, read, Option.getD_some]

/-- A session which reads a cooldown chooses the short timeout exactly when it
reads it in time. -/
theorem Sound.timeoutAt_lookup (sound : s.Sound) {id now : Nat}
    {session : Handler Splitter Result} {record : TimedCall Splitter}
    (found : s.handlers.sessions[id]? = some session)
    (read : clockReading session.calls = some now)
    (recorded : lastRecording dcKey s.log = some record) :
    timeoutAt now (s.handlers.dcFailUntil.lookup dcKey) =
      if s.handlers.clockOf id <
          s.handlers.clockOf record.session + dcFailCooldown then wsFailTimeout
      else wsTimeout := by
  obtain ⟨member, time, records⟩ := mem_of_lastRecording recorded
  obtain ⟨recorder, base, foundToo, readToo, deadline⟩ :=
    sound.recorded record member dcKey time records
  have stored : s.handlers.dcFailUntil.lookup dcKey = some time := by
    rw [sound.cooldowns dcKey, recorded, Option.bind_some, records]
    rfl
  rw [clockOf_eq found read, clockOf_eq foundToo readToo, ← deadline,
    timeoutAt, stored, Option.getD_some]

section Calls

variable {id : Nat} {op : SessionOp Splitter}
  {continuation : op.Reply → SessionProgram Splitter Result}
  {state : SessionState Splitter} {calls : List (HandlerCall Splitter)}

/-- The state on which the next call of a session acts. -/
def shared (s : ClockedHandlers Splitter Result)
    (state : SessionState Splitter) : SessionState Splitter :=
  { state with
    wsBlacklist := s.handlers.wsBlacklist
    dcFailUntil := s.handlers.dcFailUntil }

/-- The handlers after a call of a session. -/
def afterCall (s : ClockedHandlers Splitter Result) (id : Nat) (dcKey : String)
    (op : SessionOp Splitter)
    (continuation : op.Reply → SessionProgram Splitter Result)
    (calls : List (HandlerCall Splitter))
    (made : op.Reply × SessionState Splitter) (clock : Nat) :
    ClockedHandlers Splitter Result :=
  { handlers :=
      { s.handlers with
        wsBlacklist := made.2.wsBlacklist
        dcFailUntil := made.2.dcFailUntil
        sessions := s.handlers.sessions.set id
          ⟨dcKey, continuation made.1, made.2,
            calls ++ [⟨op, made.1, s.handlers.run⟩]⟩ }
    clock
    log := ⟨clock, id, op⟩ :: s.log }

/-- The call reads no cooldown, or reads it in time. -/
def Timely (s : ClockedHandlers Splitter Result) (id : Nat)
    (op : SessionOp Splitter) (clock : Nat) : Prop :=
  ∀ key, op = .failUntil key → ∀ record ∈ lastRecording key s.log,
    clock < record.time + dcFailCooldown →
      s.handlers.clockOf id <
        s.handlers.clockOf record.session + dcFailCooldown

/-- A session keeps the short timeout, or chooses it now. -/
theorem Sound.short_call (sound : s.Sound)
    (found : s.handlers.sessions[id]? =
      some ⟨dcKey, .call op continuation, state, calls⟩)
    {stage : CooldownStage}
    (onCooldown : Handler.OnCooldown
      ⟨dcKey, .call op continuation, state, calls⟩ stage)
    (short : ∀ read earlier, read :: earlier <:+ s.log → read.session = id →
      ReadsCooldown read earlier → stage.timeout = some wsFailTimeout)
    {clock : Nat} (outcome : op.Outcome)
    (timely : s.Timely id op clock) :
    ∀ read earlier, read :: earlier <:+ ⟨clock, id, op⟩ :: s.log →
      read.session = id → ReadsCooldown read earlier →
        (stage.next op ((sessionWorld Splitter).perform (s.shared state) op
          outcome).1).timeout = some wsFailTimeout := by
  intro read earlier suffix own reads
  rcases List.suffix_cons_iff.mp suffix with new | before
  · cases new
    obtain ⟨key, record, isRead, recorded, within⟩ := reads
    have inTime := timely key isRead record recorded within
    obtain rfl : op = .failUntil key := isRead
    obtain ⟨now, rfl⟩ := CooldownStage.allows_failUntil onCooldown.keeps.1
    have chosen := sound.timeoutAt_lookup found onCooldown.describes.1 recorded
    exact congrArg some (chosen.trans (if_pos inTime))
  · exact CooldownStage.timeout_next (short read earlier before own reads) op _

theorem Sound.sessions_afterCall (sound : s.Sound)
    (found : s.handlers.sessions[id]? =
      some ⟨dcKey, .call op continuation, state, calls⟩)
    {clock : Nat} (outcome : op.Outcome) (timely : s.Timely id op clock)
    {other : Nat} {session : Handler Splitter Result}
    (foundAfter : (s.afterCall id dcKey op continuation calls
      ((sessionWorld Splitter).perform (s.shared state) op outcome)
      clock).handlers.sessions[other]? = some session) :
    ∃ stage, session.OnCooldown stage ∧
      ∀ read earlier, read :: earlier <:+ ⟨clock, id, op⟩ :: s.log →
        read.session = other → ReadsCooldown read earlier →
          stage.timeout = some wsFailTimeout := by
  rcases found_set foundAfter with ⟨isOwn, isNew⟩ | ⟨differs, before⟩
  · obtain ⟨stage, onCooldown, short⟩ := sound.sessions id _ found
    subst isOwn isNew
    refine ⟨stage.next op _, ⟨onCooldown.keeps.2 _,
      onCooldown.describes.call onCooldown.keeps.1 _ _⟩, ?_⟩
    exact sound.short_call found onCooldown short outcome timely
  · obtain ⟨stage, onCooldown, short⟩ := sound.sessions other session before
    refine ⟨stage, onCooldown, ?_⟩
    intro read earlier suffix own
    rcases List.suffix_cons_iff.mp suffix with new | rest
    · cases new
      exact absurd own.symm differs
    · exact short read earlier rest own

/-- A deadline which is recorded now is counted from what the session has read
from the clock, and what it has read does not change. -/
theorem Sound.recorded_afterCall (sound : s.Sound)
    (found : s.handlers.sessions[id]? =
      some ⟨dcKey, .call op continuation, state, calls⟩)
    {clock : Nat} (made : op.Reply × SessionState Splitter)
    {call : TimedCall Splitter} (member : call ∈ ⟨clock, id, op⟩ :: s.log)
    {key : String} {time : Nat} (records : call.op = .setFailUntil key time) :
    ∃ session now, (s.afterCall id dcKey op continuation calls made
        clock).handlers.sessions[call.session]? = some session ∧
      clockReading session.calls = some now ∧ time = now + dcFailCooldown := by
  have inside := (List.getElem?_eq_some_iff.mp found).1
  rcases List.mem_cons.mp member with new | before
  · obtain ⟨stage, onCooldown, -⟩ := sound.sessions id _ found
    subst new
    obtain rfl : op = .setFailUntil key time := records
    obtain ⟨now, timeout, rfl, deadline⟩ :=
      CooldownStage.allows_setFailUntil onCooldown.keeps.1
    exact ⟨_, now, List.getElem?_set_self inside,
      clockReading_concat_of_some onCooldown.describes.1 _, deadline⟩
  · obtain ⟨session, now, foundToo, read, deadline⟩ :=
      sound.recorded call before key time records
    by_cases own : call.session = id
    · rw [own] at foundToo ⊢
      cases found.symm.trans foundToo
      exact ⟨_, now, List.getElem?_set_self inside,
        clockReading_concat_of_some read _, deadline⟩
    · refine ⟨session, now, ?_, read, deadline⟩
      exact (List.getElem?_set_ne (Ne.symm own)).trans foundToo

theorem Sound.afterCall (sound : s.Sound)
    (found : s.handlers.sessions[id]? =
      some ⟨dcKey, .call op continuation, state, calls⟩)
    {clock : Nat} (outcome : op.Outcome) (timely : s.Timely id op clock) :
    (s.afterCall id dcKey op continuation calls
      ((sessionWorld Splitter).perform (s.shared state) op outcome)
      clock).Sound := by
  refine ⟨fun _ _ => sound.sessions_afterCall found outcome timely, ?_,
    fun _ member _ _ => sound.recorded_afterCall found _ member, ?_⟩
  · intro call member
    change call.session < (s.handlers.sessions.set id _).length
    rw [List.length_set]
    rcases List.mem_cons.mp member with new | before
    · rw [new]
      exact (List.getElem?_eq_some_iff.mp found).1
    · exact sound.logged call before
  · intro key
    have recorded := lastRecording_cons key ⟨clock, id, op⟩ s.log
    refine (lookup_perform (s.shared state) op outcome key).trans ?_
    change _ = (lastRecording key (⟨clock, id, op⟩ :: s.log)).bind _
    rw [recorded]
    split
    · cases op with
      | setFailUntil name time => rfl
      | _ => rfl
    · exact sound.cooldowns key

/-- What an event of a session does: nothing but to let time pass if there is no
call which the session makes. -/
theorem step_calls_cases (s : ClockedHandlers Splitter Result)
    (elapsed id : Nat) (outcome : (op : SessionOp Splitter) → op.Outcome) :
    s.step handle ⟨elapsed, .calls id outcome⟩ =
        { s with clock := s.clock + elapsed } ∨
      ∃ dcKey op continuation state calls,
        s.handlers.sessions[id]? =
          some ⟨dcKey, .call op continuation, state, calls⟩ ∧
        s.handlers.nextCall (.calls id outcome) = some (id, op) ∧
        s.step handle ⟨elapsed, .calls id outcome⟩ =
          s.afterCall id dcKey op continuation calls
            ((sessionWorld Splitter).perform (s.shared state) op
              (outcomeAt (s.clock + elapsed) outcome op))
            (s.clock + elapsed) := by
  cases found : s.handlers.sessions[id]? with
  | none =>
      left
      simp only [ClockedHandlers.step, Handlers.nextCall, Handlers.step,
        HandlerEvent.onClock, Handlers.calls, found]
  | some session =>
      obtain ⟨dcKey, program, state, calls⟩ := session
      cases program with
      | done result =>
          left
          simp only [ClockedHandlers.step, Handlers.nextCall, Handlers.step,
            HandlerEvent.onClock, Handlers.calls, found]
      | call op continuation =>
          refine Or.inr ⟨dcKey, op, continuation, state, calls, rfl, ?_, ?_⟩
          · simp only [Handlers.nextCall, found]
          · simp only [ClockedHandlers.step, Handlers.nextCall, Handlers.step,
              HandlerEvent.onClock, Handlers.calls, found]
            rfl

end Calls

/-- Every step which reads the cooldowns in time keeps the invariant. -/
theorem Sound.step (sound : s.Sound)
    (keeps : ∀ input, KeepsCooldown input.request.dcKey (handle input) .entering)
    (event : ClockedEvent Splitter) (inTime : s.ReadInTime event) :
    (s.step handle event).Sound := by
  obtain ⟨elapsed, event⟩ := event
  cases event with
  | begins input => exact sound.begins keeps input _
  | calls id outcome =>
      rcases step_calls_cases s elapsed id outcome with
        same | ⟨dcKey, op, continuation, state, calls, found, next, same⟩
      · rw [same]
        exact ⟨sound.sessions, sound.logged, sound.recorded, sound.cooldowns⟩
      · rw [same]
        apply sound.afterCall found
        intro key isRead record recorded within
        simp only [ReadInTime, next, isRead] at inTime
        exact inTime record recorded within

/-- The cooldowns are honoured throughout a run in which they are read in
time. -/
theorem cooldownHonoured_of_readInTime
    (keeps : ∀ input, KeepsCooldown input.request.dcKey (handle input) .entering)
    {events : List (ClockedEvent Splitter)}
    (inTime : AllSteps (step handle) ReadInTime initial events) :
    (run (step handle) initial events).CooldownHonoured := by
  have sound := @AllSteps.invariant _ _ (step handle) ReadInTime Sound
    (fun _ event sound timely => sound.step keeps event timely) _ _
    initial_sound inTime
  exact sound.cooldownHonoured

end ClockedHandlers

end Runs

end TgWsProxy
