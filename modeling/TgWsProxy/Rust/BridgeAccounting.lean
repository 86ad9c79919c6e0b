import TgWsProxy.Rust.BridgeDelivery
import TgWsProxy.Rust.BridgeTail
import TgWsProxy.Rust.HostileFrames

/-!
# The counters of the Rust bridge

The bridge counts one packet for each read, and then `parts.len() - 1` more.
The splitter returns no parts for a read which ends inside a packet, and the
subtraction underflows.
-/

namespace TgWsProxy.Rust

open Lib

section Builds

variable {Result Other : Type}

/-- A build without overflow checks goes the way of a checked one, unless that
one panics on an overflow. -/
def Unwrapped (unchecked checked : Except Panic Result) : Prop :=
  checked = .error .arithmeticOverflow ∨ unchecked = checked

theorem Unwrapped.refl (same : Except Panic Result) : Unwrapped same same :=
  Or.inr rfl

theorem Unwrapped.bind {unchecked checked : Except Panic Result}
    {left right : Result → Except Panic Other}
    (first : Unwrapped unchecked checked)
    (later : ∀ result, Unwrapped (left result) (right result)) :
    Unwrapped (unchecked >>= left) (checked >>= right) := by
  rcases first with overflow | same
  · left
    rw [overflow]
    rfl
  · rw [same]
    cases checked with
    | error panic => exact Unwrapped.refl _
    | ok result => exact later result

theorem addU64_unwrapped (left right : Nat) :
    Unwrapped (addU64 false left right) (addU64 true left right) := by
  unfold addU64
  split
  · exact Unwrapped.refl _
  · exact Or.inl rfl

theorem subU64_unwrapped (left right : Nat) :
    Unwrapped (subU64 false left right) (subU64 true left right) := by
  unfold subU64
  split
  · exact Unwrapped.refl _
  · exact Or.inl rfl

end Builds

namespace Bridge

variable {crypto : Primitives} {s : Bridge}

theorem forwardUp_unwrapped (s : Bridge) (chunk : Bytes) :
    Unwrapped (s.forwardUp crypto false chunk)
      (s.forwardUp crypto true chunk) := by
  apply (addU64_unwrapped _ _).bind
  intro bytesUp
  apply (addU64_unwrapped _ _).bind
  intro packetsUp
  dsimp only
  cases s.splitter with
  | none => exact Unwrapped.refl _
  | some splitter =>
      apply (Unwrapped.refl _).bind
      intro split
      apply (subU64_unwrapped _ _).bind
      intro extra
      apply (addU64_unwrapped _ _).bind
      intro total
      exact Unwrapped.refl _

theorem forwardDown_unwrapped (s : Bridge) (payload : Bytes)
    (failsAfter : Option Nat) :
    Unwrapped (s.forwardDown crypto false payload failsAfter)
      (s.forwardDown crypto true payload failsAfter) := by
  apply (addU64_unwrapped _ _).bind
  intro bytesDown
  apply (addU64_unwrapped _ _).bind
  intro packetsDown
  exact Unwrapped.refl _

/-- A client read overflows where its branch does. -/
theorem clientRead_overflows_iff (running : s.status = .running)
    (chunk : Bytes) (failsAfter : Option Nat) :
    (s.clientRead crypto true chunk failsAfter).status =
        .panicked .arithmeticOverflow ↔
      forwardUp crypto true { s with ws := s.ws.dropRecv } chunk =
        .error .arithmeticOverflow := by
  unfold clientRead
  dsimp only
  cases returned : forwardUp crypto true { s with ws := s.ws.dropRecv }
      chunk with
  | error panic =>
      constructor
      · intro overflow
        cases overflow
        rfl
      · intro overflow
        cases overflow
        rfl
  | ok result =>
      obtain ⟨parts, next⟩ := result
      have status : next.status = .running :=
        (forwardUp_frame returned).status.trans running
      apply iff_of_false
      · intro overflow
        dsimp only at overflow
        split at overflow
        · cases overflow
        · cases status.symm.trans overflow
      · intro overflow
        cases overflow

theorem clientRead_unwrapped (chunk : Bytes) (failsAfter : Option Nat)
    (running : s.status = .running)
    (fits : (s.clientRead crypto true chunk failsAfter).status ≠
      .panicked .arithmeticOverflow) :
    s.clientRead crypto false chunk failsAfter =
      s.clientRead crypto true chunk failsAfter := by
  rcases @forwardUp_unwrapped crypto { s with ws := s.ws.dropRecv } chunk with
    overflow | same
  · exact absurd
      ((clientRead_overflows_iff running chunk failsAfter).mpr overflow) fits
  · simp only [clientRead, same]

theorem pollRecv_unwrapped (failsAfter : Option Nat)
    (fits : (s.pollRecv crypto true failsAfter).status ≠
      .panicked .arithmeticOverflow) :
    s.pollRecv crypto false failsAfter = s.pollRecv crypto true failsAfter := by
  unfold pollRecv at fits ⊢
  generalize s.ws.pollRecv = polled at fits ⊢
  obtain ⟨received, ws⟩ := polled
  cases received with
  | pending => rfl
  | close => rfl
  | panicked panic => rfl
  | message payload =>
      rcases @forwardDown_unwrapped crypto { s with ws } payload failsAfter with
        overflow | same
      · simp only [overflow] at fits
        exact absurd rfl fits
      · simp only [same]

theorem step_unwrapped (event : BridgeEvent)
    (fits : (s.step crypto true event).status ≠ .panicked .arithmeticOverflow) :
    s.step crypto false event = s.step crypto true event := by
  unfold step at fits ⊢
  by_cases running : s.status = .running
  · rw [if_pos running] at fits ⊢
    rw [if_pos running]
    cases event with
    | deliver count => rfl
    | pollRecv failsAfter => exact pollRecv_unwrapped failsAfter fits
    | serverEnds => rfl
    | clientRead chunk failsAfter =>
        dsimp only at fits ⊢
        by_cases readable : Readable chunk
        · rw [if_pos readable] at fits ⊢
          rw [if_pos readable]
          exact clientRead_unwrapped chunk failsAfter running fits
        · rw [if_neg readable, if_neg readable]
    | clientEnds => rfl
  · rw [if_neg running, if_neg running]

/-- A counter downstream has no room for the message. -/
theorem forwardDown_of_full {payload : Bytes}
    (full : ¬ (s.stats.bytesDown + payload.length < 2 ^ 64 ∧
      s.stats.packetsDown + 1 < 2 ^ 64)) (failsAfter : Option Nat) :
    s.forwardDown crypto true payload failsAfter =
      .error .arithmeticOverflow := by
  unfold forwardDown
  by_cases bytes : s.stats.bytesDown + payload.length < 2 ^ 64
  · have packets : ¬ s.stats.packetsDown + 1 < 2 ^ 64 := fun fits =>
      full ⟨bytes, fits⟩
    simp only [addU64, if_pos bytes, if_neg packets, if_true, bind, Except.bind]
  · simp only [addU64, if_neg bytes, if_true, bind, Except.bind]

/-- The counters downstream have room for the message which is next. -/
theorem pollRecv_overflows_iff (running : s.status = .running)
    (failsAfter : Option Nat) :
    (s.pollRecv crypto true failsAfter).status =
        .panicked .arithmeticOverflow ↔ ¬ s.DownReturns true := by
  have panics (panic : Panic) (panicked : s.ws.pollRecv.1 = .panicked panic) :
      panic ≠ .arithmeticOverflow := by
    rw [pollRecv_panic panicked]
    intro same
    cases same
  unfold pollRecv DownReturns
  generalize s.ws.pollRecv = polled at panics
  obtain ⟨received, ws⟩ := polled
  cases received with
  | pending =>
      apply iff_of_false
      · intro overflow
        cases running.symm.trans overflow
      · intro full
        exact full fun _ _ message => by cases message
  | close =>
      apply iff_of_false
      · intro overflow
        cases overflow
      · intro full
        exact full fun _ _ message => by cases message
  | panicked panic =>
      apply iff_of_false
      · intro overflow
        injection overflow with same
        exact panics panic rfl same
      · intro full
        exact full fun _ _ message => by cases message
  | message payload =>
      by_cases room : s.stats.bytesDown + payload.length < 2 ^ 64 ∧
          s.stats.packetsDown + 1 < 2 ^ 64
      · obtain ⟨stats, returned⟩ := @forwardDown_eq true crypto { s with ws }
          payload failsAfter fun _ => room
        apply iff_of_false
        · intro overflow
          simp only [returned] at overflow
          cases failsAfter with
          | none => cases running.symm.trans overflow
          | some count => cases overflow
        · intro full
          apply full
          intro _ other same
          cases same
          exact room
      · have overflow := @forwardDown_of_full crypto { s with ws } payload room
          failsAfter
        apply iff_of_true
        · simp only [overflow]
        · intro returns
          exact room (returns rfl payload rfl)

/-- A branch whose chunk the splitter panics on. -/
theorem forwardUp_of_split_error {splitter : MsgSplitter} {chunk : Bytes}
    {panic : Panic} (present : s.splitter = some splitter)
    (split : splitter.split crypto
      (s.ctx.tgEnc.apply crypto (s.ctx.cltDec.apply crypto chunk)) =
        .error panic)
    (bytes : s.stats.bytesUp + chunk.length < 2 ^ 64)
    (packets : s.stats.packetsUp + 1 < 2 ^ 64) :
    s.forwardUp crypto true chunk = .error panic := by
  simp only [forwardUp, addU64, if_pos bytes, if_pos packets, present,
    AesCtr.update_eq, split, bind, Except.bind]

end Bridge

namespace ReadingBridge

/-- No operation on the counters overflows, and at the end of the bridge the
packets which were counted are the frames which were sent. -/
structure Accounts (crypto : Primitives) (session : CryptoCtx)
    (splitter : MsgSplitter) (incoming : Bytes)
    (events : List BridgeEvent) : Prop where
  noOverflow : ∀ earlier, earlier <+: events →
    (run (step crypto true) (start session splitter incoming)
      earlier).bridge.status ≠ .panicked .arithmeticOverflow
  counted : (∀ event ∈ events, event.Sends) → ∀ overflowChecks,
    let s := run (step crypto overflowChecks) (start session splitter incoming)
      events
    s.bridge.status = .ended →
      s.bridge.stats.packetsUp = s.bridge.ws.binaryPayloads.length

section Countable

variable (crypto : Primitives) (session : CryptoCtx) (relayInit : Bytes)
  (proto : UInt32)

/-- The counters have room in this step, and a read which does not make the
splitter panic completes a packet. -/
def Countable (s : ReadingBridge) : BridgeEvent → Prop
  | .clientRead chunk _ =>
      s.bridge.status = .running → Bridge.Readable chunk →
        (s.read ++ chunk).length < 2 ^ 64 ∧
          (MsgSplitter.Harmless crypto relayInit proto.toNat
              (reencryptedUp crypto session (s.read ++ chunk)) →
            Completes crypto session relayInit proto s.read chunk)
  | .pollRecv _ => s.bridge.status = .running → s.bridge.DownReturns true
  | .deliver _ | .serverEnds | .clientEnds => True

/-- The states of a checked build before any overflow. -/
structure Counting (s : ReadingBridge) : Prop where
  noOverflow : s.bridge.status ≠ .panicked .arithmeticOverflow
  running : s.bridge.status = .running →
    MsgSplitter.Harmless crypto relayInit proto.toNat
        (reencryptedUp crypto session s.read) ∧
      ∃ splitter,
        UpCut crypto session relayInit proto true splitter s

end Countable

section Counting

variable {crypto : Primitives} {session : CryptoCtx} {relayInit : Bytes}
  {proto : UInt32} {splitter : MsgSplitter} {s : ReadingBridge} {chunk : Bytes}

/-- The branch of a read overflows if the stream is too long, or if the splitter
returns no parts. -/
theorem UpCut.forwardUp_overflows_iff
    (cut : UpCut crypto session relayInit proto true splitter s)
    (running : s.bridge.status = .running)
    (before : MsgSplitter.Harmless crypto relayInit proto.toNat
      (reencryptedUp crypto session s.read))
    (readable : Bridge.Readable chunk) (failsAfter : Option Nat) :
    Bridge.forwardUp crypto true { s.bridge with ws := s.bridge.ws.dropRecv }
        chunk = .error .arithmeticOverflow ↔
      ¬ s.Countable crypto session relayInit proto
        (.clientRead chunk failsAfter) := by
  obtain ⟨present, -, -, -, counts⟩ := cut.running running
  obtain ⟨bytesUp, packetsUp⟩ := counts rfl
  simp only [Countable]
  by_cases fits : (s.read ++ chunk).length < 2 ^ 64
  · have bytes : s.bridge.stats.bytesUp + chunk.length < 2 ^ 64 := by
      rw [bytesUp, ← List.length_append]
      exact fits
    by_cases harmless : MsgSplitter.Harmless crypto relayInit proto.toNat
        (reencryptedUp crypto session (s.read ++ chunk))
    · obtain ⟨parts, next, split, -, follows, nonempty⟩ :=
        cut.split running harmless
      rw [cut.completes_iff readable follows]
      by_cases none : parts = []
      · rw [none] at split
        apply iff_of_true
        · exact @Bridge.forwardUp_of_no_parts crypto
            { s.bridge with ws := s.bridge.ws.dropRecv } chunk splitter next
            present split
        · intro countable
          exact (countable running readable).2 harmless none
      · have counted := cut.room running follows nonempty (fun _ => none)
          fun _ => fits
        obtain ⟨stats, returned, -⟩ := @Bridge.forwardUp_eq crypto true
          { s.bridge with ws := s.bridge.ws.dropRecv } chunk splitter next parts
          present split counted
        apply iff_of_false
        · rw [returned]
          intro overflow
          cases overflow
        · intro uncountable
          exact uncountable fun _ _ => ⟨fits, fun _ => none⟩
    · have packets : s.bridge.stats.packetsUp + 1 < 2 ^ 64 := by
        have sizes := Nat.le_trans (length_le_flatten cut.nonempty)
          cut.length_payloads
        have positive := readable.1
        rw [List.length_append] at fits
        omega
      have panicked := @Bridge.forwardUp_of_split_error crypto
        { s.bridge with ws := s.bridge.ws.dropRecv } splitter chunk _ present
        (cut.split_panics running before harmless) bytes packets
      apply iff_of_false
      · rw [panicked]
        intro overflow
        cases overflow
      · intro uncountable
        exact uncountable fun _ _ =>
          ⟨fits, fun harmful => absurd harmful harmless⟩
  · apply iff_of_true
    · apply forwardUp_of_full
      rw [bytesUp, ← List.length_append]
      exact Nat.le_of_not_lt fits
    · intro countable
      exact fits (countable running readable).1

theorem step_of_unreadable (unreadable : ¬ Bridge.Readable chunk)
    (checks : Bool) (failsAfter : Option Nat) :
    s.step crypto checks (.clientRead chunk failsAfter) = s := by
  have read :
      (s.step crypto checks (.clientRead chunk failsAfter)).read = s.read :=
    if_neg fun reads => unreadable reads.2
  have bridge : s.bridge.step crypto checks (.clientRead chunk failsAfter) =
      s.bridge := by
    unfold Bridge.step
    split
    · exact if_neg unreadable
    · rfl
  exact congrArg₂ ReadingBridge.mk bridge read

/-- A read which does not overflow. -/
theorem UpCut.countableRead {failsAfter : Option Nat}
    (cut : UpCut crypto session relayInit proto true splitter s)
    (running : s.bridge.status = .running)
    (before : MsgSplitter.Harmless crypto relayInit proto.toNat
      (reencryptedUp crypto session s.read))
    (readable : Bridge.Readable chunk)
    (goesOn :
      (s.step crypto true (.clientRead chunk failsAfter)).bridge.status =
        .running)
    (countable :
      s.Countable crypto session relayInit proto
        (.clientRead chunk failsAfter)) :
    MsgSplitter.Harmless crypto relayInit proto.toNat (reencryptedUp crypto
        session (s.step crypto true (.clientRead chunk failsAfter)).read) ∧
      ∃ next, UpCut crypto session relayInit proto true next
        (s.step crypto true (.clientRead chunk failsAfter)) := by
  obtain ⟨fits, completes⟩ := countable running readable
  have read : (s.step crypto true (.clientRead chunk failsAfter)).read =
      s.read ++ chunk := if_pos ⟨running, readable⟩
  have bridge : (s.step crypto true (.clientRead chunk failsAfter)).bridge =
      s.bridge.clientRead crypto true chunk failsAfter := by
    simp only [ReadingBridge.step, Bridge.step, if_pos running, if_pos readable]
  rw [bridge] at goesOn
  obtain ⟨present, -, -, -, counts⟩ := cut.running running
  have harmless : MsgSplitter.Harmless crypto relayInit proto.toNat
      (reencryptedUp crypto session (s.read ++ chunk)) := by
    by_contra long
    obtain ⟨panic, refused⟩ := @forwardUp_of_split_panic crypto true splitter
      chunk { s.bridge with ws := s.bridge.ws.dropRecv } _ present
      (cut.split_panics running before long)
    simp only [Bridge.clientRead, refused] at goesOn
    cases goesOn
  rw [read]
  refine ⟨harmless, ?_⟩
  cases failsAfter with
  | none =>
      obtain ⟨next, cutNext, -⟩ := cut.goesOn running readable
        ⟨harmless, fun _ => fits⟩ fun _ => completes harmless
      exact ⟨next, cutNext⟩
  | some count =>
      -- A send which fails ends the bridge.
      unfold Bridge.clientRead at goesOn
      dsimp only at goesOn
      split at goesOn
      · cases goesOn
      · rename_i parts after returned
        have failed : ∃ ws, after.ws.sendBatch parts (some count) =
            .error ws := by
          unfold RawWebSocket.sendBatch
          split
          · exact ⟨_, rfl⟩
          · exact ⟨_, rfl⟩
        obtain ⟨ws, failed⟩ := failed
        rw [failed] at goesOn
        cases goesOn

/-- A step other than a read. -/
theorem Counting.quiet {event : BridgeEvent}
    (counting : s.Counting crypto session relayInit proto)
    (notRead : ∀ chunk failsAfter, event ≠ .clientRead chunk failsAfter)
    (sameRead : (s.step crypto true event).read = s.read)
    (noOverflow : (s.step crypto true event).bridge.status ≠
      .panicked .arithmeticOverflow) :
    (s.step crypto true event).Counting crypto session relayInit proto := by
  have kept := @Bridge.keepsUp_step crypto true s.bridge event notRead
  refine ⟨noOverflow, ?_⟩
  intro goesOn
  obtain ⟨harmless, splitter, cut⟩ := counting.running (kept.running goesOn)
  have cutNext := cut.of_keepsUp kept
  rw [← sameRead] at cutNext harmless
  exact ⟨harmless, splitter, cutNext⟩

/-- A step of a checked build overflows unless it is countable. -/
theorem Counting.noOverflow_iff (event : BridgeEvent)
    (counting : s.Counting crypto session relayInit proto) :
    (s.step crypto true event).bridge.status ≠ .panicked .arithmeticOverflow ↔
      s.Countable crypto session relayInit proto event := by
  by_cases running : s.bridge.status = .running
  · have ends : s.bridge.finish.status ≠ .panicked .arithmeticOverflow := by
      intro overflow
      cases overflow
    cases event with
    | deliver count =>
        apply iff_of_true _ trivial
        simp only [step, Bridge.step, if_pos running]
        exact counting.noOverflow
    | serverEnds =>
        apply iff_of_true _ trivial
        simp only [step, Bridge.step, if_pos running]
        split
        · exact ends
        · exact counting.noOverflow
    | clientEnds =>
        apply iff_of_true _ trivial
        simp only [step, Bridge.step, if_pos running]
        exact ends
    | pollRecv failsAfter =>
        have overflows := @Bridge.pollRecv_overflows_iff crypto s.bridge running
          failsAfter
        simp only [step, Bridge.step, if_pos running]
        apply (not_congr overflows).trans
        rw [not_not, Countable]
        exact ⟨fun room _ => room, fun room => room running⟩
    | clientRead chunk failsAfter =>
        by_cases readable : Bridge.Readable chunk
        · obtain ⟨harmless, splitter, cut⟩ := counting.running running
          have overflows :=
            (@Bridge.clientRead_overflows_iff crypto s.bridge running chunk
              failsAfter).trans
              (cut.forwardUp_overflows_iff running harmless readable failsAfter)
          simp only [step, Bridge.step, if_pos running, if_pos readable]
          apply (not_congr overflows).trans
          exact not_not
        · rw [step_of_unreadable readable]
          exact iff_of_true counting.noOverflow fun _ inside =>
            absurd inside readable
  · rw [step_stopped running]
    apply iff_of_true counting.noOverflow
    cases event with
    | deliver count => trivial
    | pollRecv failsAfter => exact fun goesOn => absurd goesOn running
    | serverEnds => trivial
    | clientRead chunk failsAfter => exact fun goesOn => absurd goesOn running
    | clientEnds => trivial

theorem Counting.step {event : BridgeEvent}
    (counting : s.Counting crypto session relayInit proto)
    (countable : s.Countable crypto session relayInit proto event) :
    (s.step crypto true event).Counting crypto session relayInit proto := by
  have noOverflow := (counting.noOverflow_iff event).mpr countable
  cases event with
  | deliver count =>
      exact counting.quiet (fun _ _ read => by cases read) rfl noOverflow
  | pollRecv failsAfter =>
      exact counting.quiet (fun _ _ read => by cases read) rfl noOverflow
  | serverEnds =>
      exact counting.quiet (fun _ _ read => by cases read) rfl noOverflow
  | clientEnds =>
      exact counting.quiet (fun _ _ read => by cases read) rfl noOverflow
  | clientRead chunk failsAfter =>
      by_cases reads : s.bridge.status = .running ∧ Bridge.Readable chunk
      · obtain ⟨harmless, splitter, cut⟩ := counting.running reads.1
        refine ⟨noOverflow, ?_⟩
        intro goesOn
        exact cut.countableRead reads.1 harmless reads.2 goesOn countable
      · have same : s.step crypto true (.clientRead chunk failsAfter) = s := by
          by_cases running : s.bridge.status = .running
          · exact step_of_unreadable (fun readable =>
              reads ⟨running, readable⟩) true failsAfter
          · exact step_stopped running _
        rw [same]
        exact counting

/-- Once the bridge has ended, its count is the number of frames sent. -/
def Counted (s : ReadingBridge) : Prop :=
  s.bridge.status = .ended →
    s.bridge.stats.packetsUp = s.bridge.ws.binaryPayloads.length

theorem Counting.counted_step {event : BridgeEvent}
    (counting : s.Counting crypto session relayInit proto)
    (counted : s.Counted) (sends : event.Sends)
    (countable : s.Countable crypto session relayInit proto event) :
    (s.step crypto true event).Counted := by
  by_cases running : s.bridge.status = .running
  · obtain ⟨harmless, splitter, cut⟩ := counting.running running
    obtain ⟨-, -, -, -, counts⟩ := cut.running running
    have quiet (notRead : ∀ chunk failsAfter,
        event ≠ .clientRead chunk failsAfter) :
        (s.step crypto true event).Counted := by
      intro ended
      have kept := @Bridge.keepsUp_step crypto true s.bridge event notRead
      exact (kept.packetsUp.trans (counts rfl).2).trans
        (congrArg List.length kept.payloads.symm)
    cases event with
    | deliver count => exact quiet fun _ _ read => by cases read
    | pollRecv failsAfter => exact quiet fun _ _ read => by cases read
    | serverEnds => exact quiet fun _ _ read => by cases read
    | clientEnds => exact quiet fun _ _ read => by cases read
    | clientRead chunk failsAfter =>
        obtain rfl : failsAfter = none := sends
        by_cases readable : Bridge.Readable chunk
        · intro ended
          obtain ⟨fits, completes⟩ := countable running readable
          by_cases long : MsgSplitter.Harmless crypto relayInit proto.toNat
              (reencryptedUp crypto session (s.read ++ chunk))
          · obtain ⟨next, -, goesOn⟩ := cut.goesOn running readable
              ⟨long, fun _ => fits⟩ fun _ => completes long
            cases goesOn.symm.trans ended
          · obtain ⟨panic, panicked⟩ := cut.panics running readable harmless
              fun split => long split.1.harmless
            cases panicked.symm.trans ended
        · rw [step_of_unreadable readable]
          exact counted
  · rw [step_stopped running]
    exact counted

theorem run_counted {events : List BridgeEvent}
    (counting : s.Counting crypto session relayInit proto)
    (counted : s.Counted) (sends : ∀ event ∈ events, event.Sends)
    (countable : AllSteps (ReadingBridge.step crypto true)
      (Countable crypto session relayInit proto) s events) :
    (run (ReadingBridge.step crypto true) s events).Counted := by
  induction events generalizing s with
  | nil => exact counted
  | cons event events induction =>
      obtain ⟨first, later⟩ := countable
      have sendsFirst := sends event List.mem_cons_self
      apply induction (counting.step first)
        (counting.counted_step counted sendsFirst first) _ later
      exact fun event member => sends event (List.mem_cons_of_mem _ member)

theorem start_counting (session : CryptoCtx) (incoming : Bytes)
    (size : 56 ≤ relayInit.length)
    (made : MsgSplitter.new crypto relayInit proto = .ok splitter) :
    (start session splitter incoming).Counting crypto session relayInit
      proto := by
  constructor
  · intro overflow
    cases overflow
  · intro _
    exact ⟨(@splitsReads_nil crypto session relayInit proto true).cuts.harmless,
      splitter, start_upCut session incoming size made⟩

/-- A build without overflow checks takes the same run as a checked one which
never overflows. -/
theorem run_unwrapped {events : List BridgeEvent}
    (noOverflow : ∀ earlier, earlier <+: events →
      (run (step crypto true) s earlier).bridge.status ≠
        .panicked .arithmeticOverflow) :
    run (step crypto false) s events = run (step crypto true) s events := by
  induction events generalizing s with
  | nil => rfl
  | cons event events induction =>
      have first := noOverflow [event] (List.prefix_append [event] events)
      have bridge := Bridge.step_unwrapped event first
      have same : s.step crypto false event = s.step crypto true event :=
        congrArg (ReadingBridge.mk · _) bridge
      rw [run_cons, run_cons, same]
      apply induction
      intro earlier isPrefix
      exact noOverflow (event :: earlier)
        ((List.prefix_cons_inj event).mpr isPrefix)

end Counting

/-- The counters are right exactly in the runs whose every read completes a
packet, as long as they have room. -/
theorem accounts_iff (crypto : Primitives) (session : CryptoCtx)
    {relayInit : Bytes} {proto : UInt32} {splitter : MsgSplitter}
    (incoming : Bytes) (relaySize : relayInit.length = 64)
    (made : MsgSplitter.new crypto relayInit proto = .ok splitter)
    (events : List BridgeEvent) :
    Accounts crypto session splitter incoming events ↔
      AllSteps (step crypto true) (Countable crypto session relayInit proto)
        (start session splitter incoming) events := by
  have initial : (start session splitter incoming).Counting crypto session
      relayInit proto := start_counting session incoming (by omega) made
  have safe := safe_throughout_iff_allSteps
    (fun _ counting => counting.noOverflow)
    (fun _ event counting => counting.noOverflow_iff event)
    (fun _ _ counting countable => counting.step countable) initial events
  constructor
  · intro accounts
    exact safe.mp accounts.noOverflow
  · intro countable
    have noOverflow := safe.mpr countable
    refine ⟨noOverflow, ?_⟩
    intro sends overflowChecks
    have same : run (step crypto overflowChecks)
          (start session splitter incoming) events =
        run (step crypto true) (start session splitter incoming) events := by
      cases overflowChecks with
      | true => rfl
      | false => exact run_unwrapped noOverflow
    rw [same]
    exact run_counted initial (fun ended => by cases ended) sends countable

theorem accounts_iff_cutHeader :
    ∃ splitter, MsgSplitter.new recordedCrypto recordedDraw 0xEEEEEEEE =
        .ok splitter ∧
      (Accounts recordedCrypto (sessionCiphers recordedCrypto recordedSecret
          recordedHandshake recordedDraw) splitter [] cutHeaderReads ↔
        AllSteps (step recordedCrypto true) (Countable recordedCrypto
            (sessionCiphers recordedCrypto recordedSecret recordedHandshake
              recordedDraw) recordedDraw 0xEEEEEEEE)
          (start (sessionCiphers recordedCrypto recordedSecret
            recordedHandshake recordedDraw) splitter []) cutHeaderReads) := by
  obtain ⟨splitter, made, -, -⟩ := @MsgSplitter.new_eq recordedCrypto
    recordedDraw 0xEEEEEEEE (by decide +kernel)
  refine ⟨splitter, made, ?_⟩
  exact accounts_iff recordedCrypto _ [] (by decide +kernel) made cutHeaderReads

/-- A read of one byte of an intermediate header returns no parts. -/
theorem cutHeader_underflows :
    ∃ splitter, MsgSplitter.new recordedCrypto recordedDraw 0xEEEEEEEE =
        .ok splitter ∧
      ¬ Accounts recordedCrypto (sessionCiphers recordedCrypto recordedSecret
        recordedHandshake recordedDraw) splitter [] cutHeaderReads := by
  obtain ⟨splitter, made, -, -⟩ := @MsgSplitter.new_eq recordedCrypto
    recordedDraw 0xEEEEEEEE (by decide +kernel)
  refine ⟨splitter, made, ?_⟩
  intro accounts
  have underflow : (MsgSplitter.new recordedCrypto recordedDraw
      0xEEEEEEEE).map (fun splitter =>
        (run (step recordedCrypto true)
          (start (sessionCiphers recordedCrypto recordedSecret
            recordedHandshake recordedDraw) splitter [])
          cutHeaderReads).bridge.status) =
      .ok (.panicked .arithmeticOverflow) := by
    decide +kernel
  rw [made] at underflow
  exact accounts.noOverflow cutHeaderReads (List.prefix_refl _)
    (Except.ok.inj underflow)

end ReadingBridge

end TgWsProxy.Rust
