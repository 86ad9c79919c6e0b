import TgWsProxy.Rust.BridgeUpstream

/-!
# What the Rust bridge keeps back at the end of the stream

The loop of `bridge_ws_reencrypt_halves` ends with the client's stream.  The
Rust splitter has no `flush`, so the bytes of a packet which is not complete
stay in it when the WebSocket is closed.
-/

namespace TgWsProxy.Rust

open Lib

/-- What `reader.read` returns in this event. -/
def BridgeEvent.chunk? : BridgeEvent → Option Bytes
  | .clientRead chunk _ => if Bridge.Readable chunk then some chunk else none
  | _ => none

/-- What the reads from the client return, one after the other. -/
def clientChunks (events : List BridgeEvent) : List Bytes :=
  events.filterMap BridgeEvent.chunk?

namespace ReadingBridge

/-- The send of a chunk succeeds, and nothing but the client ends the loop. -/
def Healthy (crypto : Primitives) (overflowChecks : Bool) (s : ReadingBridge)
    (event : BridgeEvent) : Prop :=
  match event with
  | .clientRead _ failsAfter => failsAfter = none
  | event =>
      s.bridge.status = .running →
        (s.step crypto overflowChecks event).bridge.status = .running

/-- After the end of the client's stream the WebSocket is closed, and the frames
which were sent carry all which was read. -/
def ForwardsAll (crypto : Primitives) (overflowChecks : Bool)
    (session : CryptoCtx) (splitter : MsgSplitter) (incoming : Bytes)
    (events : List BridgeEvent) : Prop :=
  let s := run (step crypto overflowChecks) (start session splitter incoming)
    (events ++ [.clientEnds])
  s.bridge.status = .ended ∧
    s.bridge.ws.binaryPayloads.flatten = reencryptedUp crypto session s.read

section Reads

variable (crypto : Primitives) (session : CryptoCtx) (relayInit : Bytes)
  (proto : UInt32) (overflowChecks : Bool)

/-- The packets of the client's stream so far. -/
def parseRead (stream : Bytes) : Parse UInt8 :=
  Python.MsgSplitter.parseFed crypto relayInit proto.toNat
    (reencryptedUp crypto session stream)

/-- The splitter returns parts for a chunk which is read after `stream`. -/
def Completes (stream chunk : Bytes) : Prop :=
  (parseRead crypto session relayInit proto (stream ++ chunk)).stopped = true ∨
    (parseRead crypto session relayInit proto stream).packets.length <
      (parseRead crypto session relayInit proto
        (stream ++ chunk)).packets.length

/-- Neither the splitter nor the counters panic on these reads. -/
structure SplitsReads (chunks : List Bytes) : Prop where
  cuts : CutsStream crypto session relayInit proto overflowChecks chunks.flatten
  completes : overflowChecks = true → ∀ earlier chunk,
    earlier ++ [chunk] <+: chunks →
      Completes crypto session relayInit proto earlier.flatten chunk

/-- The stream ends with a packet, or the splitter has disabled itself. -/
def EndsWhole (stream : Bytes) : Prop :=
  (parseRead crypto session relayInit proto stream).stopped = true ∨
    (parseRead crypto session relayInit proto stream).rest = []

end Reads

section Completes

variable {crypto : Primitives} {relayInit : Bytes} {proto : Nat}
  {fed chunk : Bytes} {returned parts : List Bytes}
  {splitter next : Python.MsgSplitter}

theorem length_relayPlainEach (pieces : List Bytes) :
    (relayPlainEach crypto relayInit pieces).length = pieces.length := by
  unfold relayPlainEach
  generalize 64 = offset
  induction pieces generalizing offset with
  | nil => rfl
  | cons piece pieces induction =>
      rw [crypto.ctrXorEach_cons, List.length_cons, List.length_cons, induction]

/-- The splitter returns parts if the chunk completes a packet or stops it. -/
theorem parts_nonempty_iff
    (before : splitter.Follows crypto relayInit proto fed returned)
    (after : next.Follows crypto relayInit proto (fed ++ chunk)
      (returned ++ parts)) (some : chunk ≠ []) :
    parts ≠ [] ↔
      (Python.MsgSplitter.parseFed crypto relayInit proto
          (fed ++ chunk)).stopped = true ∨
        (Python.MsgSplitter.parseFed crypto relayInit proto
            fed).packets.length <
          (Python.MsgSplitter.parseFed crypto relayInit proto
            (fed ++ chunk)).packets.length := by
  cases enabled : next.disabled with
  | true =>
      obtain ⟨held, -, stopped, -⟩ := after.passing enabled
      refine iff_of_true ?_ (Or.inl stopped)
      rintro rfl
      have early := congrArg List.length before.conserved
      have late := congrArg List.length after.conserved
      have longer := List.length_pos_of_ne_nil some
      rw [held] at late
      simp only [List.length_append, List.append_nil] at early late
      omega
  | false =>
      obtain ⟨-, running, -, packets⟩ := after.running enabled
      have earlier : splitter.disabled = false := by
        cases disabled : splitter.disabled with
        | false => rfl
        | true =>
            have stopped := (before.passing disabled).2.2.1
            rw [Python.MsgSplitter.parseFed_append,
              Framing.resume_of_stopped _ _ stopped] at running
            cases running
      obtain ⟨-, -, -, packetsBefore⟩ := before.running earlier
      rw [← packets, ← packetsBefore, length_relayPlainEach,
        length_relayPlainEach, List.length_append, running]
      simp [List.length_pos_iff]

end Completes

section Along

variable {crypto : Primitives} {session : CryptoCtx} {relayInit : Bytes}
  {proto : UInt32} {overflowChecks : Bool} {splitter : MsgSplitter}
  {s : ReadingBridge} {chunk : Bytes} {chunks : List Bytes}

theorem splitsReads_nil :
    SplitsReads crypto session relayInit proto overflowChecks [] := by
  refine ⟨⟨?_, fun _ => by decide⟩, ?_⟩
  · change ¬ MeetsLongHeader proto.toNat ((transportFraming proto.toNat).parse [])
    rw [Framing.parse_nil]
    rintro ⟨-, packet, member, long⟩
    rw [List.mem_singleton.mp member] at long
    cases long
  · intro _ earlier chunk isPrefix
    cases earlier with
    | nil => cases List.prefix_nil.mp isPrefix
    | cons first earlier => cases List.prefix_nil.mp isPrefix

/-- One more read is split if it completes a packet and the stream has no long
header. -/
theorem splitsReads_append :
    SplitsReads crypto session relayInit proto overflowChecks
        (chunks ++ [chunk]) ↔
      SplitsReads crypto session relayInit proto overflowChecks chunks ∧
        CutsStream crypto session relayInit proto overflowChecks
          (chunks.flatten ++ chunk) ∧
        (overflowChecks = true →
          Completes crypto session relayInit proto chunks.flatten chunk) := by
  have flattened : (chunks ++ [chunk]).flatten = chunks.flatten ++ chunk := by
    rw [List.flatten_append, List.flatten_singleton]
  constructor
  · rintro ⟨cuts, completes⟩
    rw [flattened] at cuts
    refine ⟨⟨cuts.of_isPrefix (List.prefix_append _ _), ?_⟩, cuts, ?_⟩
    · intro checked earlier first isPrefix
      exact completes checked earlier first
        (isPrefix.trans (List.prefix_append _ _))
    · intro checked
      exact completes checked chunks chunk (List.prefix_refl _)
  · rintro ⟨before, cuts, completes⟩
    refine ⟨by rwa [flattened], ?_⟩
    intro checked earlier first isPrefix
    rcases List.prefix_concat_iff.mp isPrefix with whole | inside
    · obtain ⟨rfl, last⟩ := List.append_inj' whole rfl
      cases last
      exact completes checked
    · exact before.completes checked earlier first inside

/-- The panic of a read ends the bridge. -/
theorem step_panicked (running : s.bridge.status = .running)
    (readable : Bridge.Readable chunk)
    (refused : ∃ panic,
      Bridge.forwardUp crypto overflowChecks
        { s.bridge with ws := s.bridge.ws.dropRecv } chunk = .error panic) :
    ∃ panic, (s.step crypto overflowChecks
      (.clientRead chunk none)).bridge.status = .panicked panic := by
  obtain ⟨panic, error⟩ := refused
  refine ⟨panic, ?_⟩
  simp only [step, Bridge.step, if_pos running, if_pos readable,
    Bridge.clientRead, error]

theorem forwardUp_of_split_panic {bridge : Bridge} {panic : Panic}
    (present : bridge.splitter = some splitter)
    (split : splitter.split crypto (bridge.ctx.tgEnc.apply crypto
      (bridge.ctx.cltDec.apply crypto chunk)) = .error panic) :
    ∃ panic, bridge.forwardUp crypto overflowChecks chunk = .error panic := by
  simp only [Bridge.forwardUp, present, AesCtr.update_eq, split, bind,
    Except.bind]
  split
  · exact ⟨_, rfl⟩
  · split
    · exact ⟨_, rfl⟩
    · exact ⟨_, rfl⟩

theorem forwardUp_of_full {bridge : Bridge}
    (full : 2 ^ 64 ≤ bridge.stats.bytesUp + chunk.length) :
    bridge.forwardUp crypto true chunk = .error .arithmeticOverflow := by
  have overflow : addU64 true bridge.stats.bytesUp chunk.length =
      .error .arithmeticOverflow := by
    rw [addU64, if_neg (Nat.not_lt.mpr full), if_pos rfl]
  simp only [Bridge.forwardUp, overflow, bind, Except.bind]

/-- A read completes a packet if the splitter returns parts for it. -/
theorem UpCut.completes_iff {parts : List Bytes} {next : MsgSplitter}
    (cut : UpCut crypto session relayInit proto overflowChecks splitter s)
    (readable : Bridge.Readable chunk)
    (follows : Python.MsgSplitter.Follows crypto relayInit proto.toNat
      (reencryptedUp crypto session (s.read ++ chunk))
      (s.bridge.ws.binaryPayloads ++ parts) next.toPython) :
    Completes crypto session relayInit proto s.read chunk ↔ parts ≠ [] := by
  unfold Completes parseRead
  rw [reencryptedUp_append] at follows ⊢
  symm
  apply parts_nonempty_iff cut.follows follows
  apply List.ne_nil_of_length_pos
  rw [AesCtr.length_apply, AesCtr.length_apply]
  exact readable.1

/-- A read which is split goes on. -/
theorem UpCut.goesOn
    (cut : UpCut crypto session relayInit proto overflowChecks splitter s)
    (running : s.bridge.status = .running)
    (readable : Bridge.Readable chunk)
    (cuts : CutsStream crypto session relayInit proto overflowChecks
      (s.read ++ chunk))
    (completes : overflowChecks = true →
      Completes crypto session relayInit proto s.read chunk) :
    ∃ next,
      UpCut crypto session relayInit proto overflowChecks next
        (s.step crypto overflowChecks (.clientRead chunk none)) ∧
      (s.step crypto overflowChecks
        (.clientRead chunk none)).bridge.status = .running := by
  obtain ⟨parts, next, split, sameProto, follows, nonempty⟩ :=
    cut.split running cuts.harmless
  have sends : overflowChecks = true → parts ≠ [] := fun checked =>
    (cut.completes_iff readable follows).mp (completes checked)
  exact ⟨next, cut.forwarded running readable split sameProto follows nonempty
    sends cuts.fits⟩

/-- The splitter panics on the first long header. -/
theorem UpCut.split_panics
    (cut : UpCut crypto session relayInit proto overflowChecks splitter s)
    (running : s.bridge.status = .running)
    (before : MsgSplitter.Harmless crypto relayInit proto.toNat
      (reencryptedUp crypto session s.read))
    (long : ¬ MsgSplitter.Harmless crypto relayInit proto.toNat
      (reencryptedUp crypto session (s.read ++ chunk))) :
    splitter.split crypto (s.bridge.ctx.tgEnc.apply crypto
      (s.bridge.ctx.cltDec.apply crypto chunk)) = .error .tryFromSlice := by
  obtain ⟨-, cltDec, tgEnc, -, -⟩ := cut.running running
  obtain rfl := cut.proto_eq
  have data : s.bridge.ctx.tgEnc.apply crypto
        (s.bridge.ctx.cltDec.apply crypto chunk) =
      (session.tgEnc.advance s.read.length).apply crypto
        ((session.cltDec.advance s.read.length).apply crypto chunk) := by
    rw [cltDec, tgEnc]
  rw [reencryptedUp_append, ← data] at long
  exact (MsgSplitter.split_agrees cut.follows before _).2 long

/-- Every other read panics. -/
theorem UpCut.panics
    (cut : UpCut crypto session relayInit proto overflowChecks splitter s)
    (running : s.bridge.status = .running)
    (readable : Bridge.Readable chunk)
    (before : MsgSplitter.Harmless crypto relayInit proto.toNat
      (reencryptedUp crypto session s.read))
    (unsplit : ¬ (CutsStream crypto session relayInit proto overflowChecks
        (s.read ++ chunk) ∧
      (overflowChecks = true →
        Completes crypto session relayInit proto s.read chunk))) :
    ∃ panic, (s.step crypto overflowChecks
      (.clientRead chunk none)).bridge.status = .panicked panic := by
  obtain ⟨present, -, -, -, counts⟩ := cut.running running
  apply step_panicked running readable
  by_cases harmless : MsgSplitter.Harmless crypto relayInit proto.toNat
      (reencryptedUp crypto session (s.read ++ chunk))
  · obtain ⟨parts, next, split, -, follows, -⟩ := cut.split running harmless
    cases overflowChecks with
    | false =>
        refine absurd ⟨⟨harmless, ?_⟩, ?_⟩ unsplit
        · intro checked
          cases checked
        · intro checked
          cases checked
    | true =>
        by_cases fits : (s.read ++ chunk).length < 2 ^ 64
        · -- `parts.len() as u64 - 1` of no parts.
          have none : parts = [] := by
            by_contra some
            apply unsplit
            refine ⟨⟨harmless, fun _ => fits⟩, fun _ => ?_⟩
            exact (cut.completes_iff readable follows).mpr some
          rw [none] at split
          exact ⟨_, @Bridge.forwardUp_of_no_parts crypto
            { s.bridge with ws := s.bridge.ws.dropRecv } chunk splitter next
            present split⟩
        · refine ⟨_, forwardUp_of_full ?_⟩
          rw [(counts rfl).1, ← List.length_append]
          exact Nat.le_of_not_lt fits
  · have split := cut.split_panics running before harmless
    exact @forwardUp_of_split_panic crypto overflowChecks splitter chunk
      { s.bridge with ws := s.bridge.ws.dropRecv } _ present split

/-- The bridge after these reads: it has split all of them, or panicked. -/
structure Along (crypto : Primitives) (session : CryptoCtx)
    (relayInit : Bytes) (proto : UInt32) (overflowChecks : Bool)
    (chunks : List Bytes) (s : ReadingBridge) : Prop where
  split : SplitsReads crypto session relayInit proto overflowChecks chunks →
    s.bridge.status = .running ∧ s.read = chunks.flatten ∧
      ∃ splitter,
        UpCut crypto session relayInit proto overflowChecks splitter s
  panicked :
    ¬ SplitsReads crypto session relayInit proto overflowChecks chunks →
      ∃ panic, s.bridge.status = .panicked panic

theorem step_stopped (stopped : s.bridge.status ≠ .running)
    (event : BridgeEvent) : s.step crypto overflowChecks event = s := by
  have bridge : s.bridge.step crypto overflowChecks event = s.bridge :=
    if_neg stopped
  cases event with
  | clientRead chunk failsAfter =>
      have read : (s.step crypto overflowChecks
          (.clientRead chunk failsAfter)).read = s.read :=
        if_neg fun reads => stopped reads.1
      exact congrArg₂ ReadingBridge.mk bridge read
  | deliver count => exact congrArg (ReadingBridge.mk · s.read) bridge
  | pollRecv failsAfter => exact congrArg (ReadingBridge.mk · s.read) bridge
  | serverEnds => exact congrArg (ReadingBridge.mk · s.read) bridge
  | clientEnds => exact congrArg (ReadingBridge.mk · s.read) bridge

/-- An event without a read, while nothing ends the loop. -/
theorem Along.quiet {event : BridgeEvent}
    (along : Along crypto session relayInit proto overflowChecks chunks s)
    (notRead : ∀ chunk failsAfter, event ≠ .clientRead chunk failsAfter)
    (healthy : s.bridge.status = .running →
      (s.step crypto overflowChecks event).bridge.status = .running)
    (sameRead : (s.step crypto overflowChecks event).read = s.read) :
    Along crypto session relayInit proto overflowChecks chunks
      (s.step crypto overflowChecks event) := by
  constructor
  · intro splits
    obtain ⟨running, read, splitter, cut⟩ := along.split splits
    refine ⟨healthy running, sameRead.trans read, splitter, ?_⟩
    have kept := cut.of_keepsUp
      (@Bridge.keepsUp_step crypto overflowChecks s.bridge event notRead)
    rwa [← sameRead] at kept
  · intro unsplit
    obtain ⟨panic, panicked⟩ := along.panicked unsplit
    rw [step_stopped (by rw [panicked]; exact fun running => by cases running)]
    exact ⟨panic, panicked⟩

theorem Along.read
    (along : Along crypto session relayInit proto overflowChecks chunks s)
    (readable : Bridge.Readable chunk) :
    Along crypto session relayInit proto overflowChecks (chunks ++ [chunk])
      (s.step crypto overflowChecks (.clientRead chunk none)) := by
  by_cases splits : SplitsReads crypto session relayInit proto overflowChecks
      chunks
  · obtain ⟨running, read, splitter, cut⟩ := along.split splits
    have later : (s.step crypto overflowChecks (.clientRead chunk none)).read =
        s.read ++ chunk := if_pos ⟨running, readable⟩
    constructor
    · intro more
      obtain ⟨-, cuts, completes⟩ := splitsReads_append.mp more
      rw [← read] at cuts completes
      obtain ⟨next, cutNext, goesOn⟩ :=
        cut.goesOn running readable cuts completes
      refine ⟨goesOn, ?_, next, cutNext⟩
      rw [later, read, List.flatten_append, List.flatten_singleton]
    · intro unsplit
      apply cut.panics running readable
      · rw [read]
        exact splits.cuts.harmless
      · rintro ⟨cuts, completes⟩
        rw [read] at cuts completes
        exact unsplit (splitsReads_append.mpr ⟨splits, cuts, completes⟩)
  · obtain ⟨panic, panicked⟩ := along.panicked splits
    rw [step_stopped (by rw [panicked]; exact fun running => by cases running)]
    constructor
    · intro more
      exact absurd (splitsReads_append.mp more).1 splits
    · intro _
      exact ⟨panic, panicked⟩

theorem Along.step {event : BridgeEvent}
    (along : Along crypto session relayInit proto overflowChecks chunks s)
    (healthy : s.Healthy crypto overflowChecks event) :
    Along crypto session relayInit proto overflowChecks
      (chunks ++ clientChunks [event])
      (s.step crypto overflowChecks event) := by
  have nothing : chunks ++ [] = chunks := List.append_nil chunks
  cases event with
  | clientRead chunk failsAfter =>
      obtain rfl : failsAfter = none := healthy
      by_cases readable : Bridge.Readable chunk
      · have one : clientChunks [.clientRead chunk none] = [chunk] := by
          simp [clientChunks, BridgeEvent.chunk?, readable]
        rw [one]
        exact along.read readable
      · have noChunk : clientChunks [.clientRead chunk none] = [] := by
          simp [clientChunks, BridgeEvent.chunk?, readable]
        have read : (s.step crypto overflowChecks
            (.clientRead chunk none)).read = s.read :=
          if_neg fun reads => readable reads.2
        have bridge : s.bridge.step crypto overflowChecks
            (.clientRead chunk none) = s.bridge := by
          unfold Bridge.step
          split
          · exact if_neg readable
          · rfl
        have same : s.step crypto overflowChecks (.clientRead chunk none) = s :=
          congrArg₂ ReadingBridge.mk bridge read
        rw [noChunk, nothing, same]
        exact along
  | deliver count =>
      rw [show clientChunks [.deliver count] = [] from rfl, nothing]
      exact along.quiet (fun _ _ read => by cases read) healthy rfl
  | pollRecv failsAfter =>
      rw [show clientChunks [.pollRecv failsAfter] = [] from rfl, nothing]
      exact along.quiet (fun _ _ read => by cases read) healthy rfl
  | serverEnds =>
      rw [show clientChunks [.serverEnds] = [] from rfl, nothing]
      exact along.quiet (fun _ _ read => by cases read) healthy rfl
  | clientEnds =>
      rw [show clientChunks [.clientEnds] = [] from rfl, nothing]
      exact along.quiet (fun _ _ read => by cases read) healthy rfl

theorem Along.run {events : List BridgeEvent}
    (along : Along crypto session relayInit proto overflowChecks chunks s)
    (healthy : AllSteps (ReadingBridge.step crypto overflowChecks)
      (Healthy crypto overflowChecks) s events) :
    Along crypto session relayInit proto overflowChecks
      (chunks ++ clientChunks events)
      (run (ReadingBridge.step crypto overflowChecks) s events) := by
  induction events generalizing s chunks with
  | nil =>
      rw [show clientChunks [] = [] from rfl, List.append_nil]
      exact along
  | cons event events induction =>
      have later := induction (along.step healthy.1) healthy.2
      have split : clientChunks (event :: events) =
          clientChunks [event] ++ clientChunks events :=
        @List.filterMap_append _ _ [event] events _
      rwa [split, ← List.append_assoc]

end Along

/-- The bridge forwards all which it has read before the client's stream ended
if and only if no read made it panic and the stream ends with a packet. -/
theorem forwardsAll_iff (crypto : Primitives) (overflowChecks : Bool)
    (session : CryptoCtx) {relayInit : Bytes} {proto : UInt32}
    {splitter : MsgSplitter} (incoming : Bytes)
    (relaySize : relayInit.length = 64)
    (made : MsgSplitter.new crypto relayInit proto = .ok splitter)
    {events : List BridgeEvent}
    (healthy : AllSteps (step crypto overflowChecks)
      (Healthy crypto overflowChecks) (start session splitter incoming)
      events) :
    ForwardsAll crypto overflowChecks session splitter incoming events ↔
      SplitsReads crypto session relayInit proto overflowChecks
          (clientChunks events) ∧
        EndsWhole crypto session relayInit proto
          (clientChunks events).flatten := by
  have initial : Along crypto session relayInit proto overflowChecks []
      (start session splitter incoming) :=
    ⟨fun _ => ⟨rfl, rfl, splitter, start_upCut session incoming (by omega) made⟩,
      fun unsplit => absurd splitsReads_nil unsplit⟩
  have along := initial.run healthy
  rw [List.nil_append] at along
  unfold ForwardsAll
  rw [run_append, run_cons, run_nil]
  generalize run (step crypto overflowChecks)
    (start session splitter incoming) events = s at along
  by_cases splits : SplitsReads crypto session relayInit proto overflowChecks
      (clientChunks events)
  · obtain ⟨running, read, current, cut⟩ := along.split splits
    have closed : s.step crypto overflowChecks .clientEnds =
        ⟨s.bridge.finish, s.read⟩ :=
      congrArg (ReadingBridge.mk · s.read) (if_pos running)
    have payloads : s.bridge.finish.ws.binaryPayloads =
        s.bridge.ws.binaryPayloads := binaryPayloads_close s.bridge.ws
    rw [closed, ← read, EndsWhole, parseRead, ← cut.follows.holds_nothing_iff]
    simp only [payloads, ← cut.follows.conserved]
    constructor
    · rintro ⟨-, all⟩
      exact ⟨splits, List.append_right_eq_self.mp all.symm⟩
    · rintro ⟨-, held⟩
      refine ⟨rfl, ?_⟩
      rw [held, List.append_nil]
  · obtain ⟨panic, panicked⟩ := along.panicked splits
    have stopped : s.bridge.status ≠ .running := by
      rw [panicked]
      exact fun running => by cases running
    rw [step_stopped stopped]
    refine iff_of_false ?_ (fun all => splits all.1)
    rintro ⟨ended, -⟩
    cases panicked.symm.trans ended

/-- The first byte of an intermediate header. -/
def cutHeaderReads : List BridgeEvent := [.clientRead [0x00] none]

theorem cutHeaderReads_healthy (s : ReadingBridge) :
    AllSteps (step recordedCrypto false) (Healthy recordedCrypto false) s
      cutHeaderReads := by
  constructor
  · rfl
  · trivial

theorem forwardsAll_iff_cutHeader :
    ∃ splitter, MsgSplitter.new recordedCrypto recordedDraw 0xEEEEEEEE =
        .ok splitter ∧
      (ForwardsAll recordedCrypto false (sessionCiphers recordedCrypto
          recordedSecret recordedHandshake recordedDraw) splitter []
          cutHeaderReads ↔
        SplitsReads recordedCrypto (sessionCiphers recordedCrypto
            recordedSecret recordedHandshake recordedDraw) recordedDraw
            0xEEEEEEEE false (clientChunks cutHeaderReads) ∧
          EndsWhole recordedCrypto (sessionCiphers recordedCrypto
            recordedSecret recordedHandshake recordedDraw) recordedDraw
            0xEEEEEEEE (clientChunks cutHeaderReads).flatten) := by
  obtain ⟨splitter, made, -, -⟩ := @MsgSplitter.new_eq recordedCrypto
    recordedDraw 0xEEEEEEEE (by decide +kernel)
  refine ⟨splitter, made, ?_⟩
  exact forwardsAll_iff recordedCrypto false _ [] (by decide +kernel) made
    (cutHeaderReads_healthy _)

/-- The byte was read, and is not in any frame. -/
theorem cutHeader_kept_back :
    ∃ splitter, MsgSplitter.new recordedCrypto recordedDraw 0xEEEEEEEE =
        .ok splitter ∧
      AllSteps (step recordedCrypto false) (Healthy recordedCrypto false)
        (start (sessionCiphers recordedCrypto recordedSecret recordedHandshake
          recordedDraw) splitter []) cutHeaderReads ∧
      ¬ ForwardsAll recordedCrypto false (sessionCiphers recordedCrypto
        recordedSecret recordedHandshake recordedDraw) splitter []
        cutHeaderReads := by
  obtain ⟨splitter, made, -, -⟩ := @MsgSplitter.new_eq recordedCrypto
    recordedDraw 0xEEEEEEEE (by decide +kernel)
  refine ⟨splitter, made, cutHeaderReads_healthy _, ?_⟩
  rintro ⟨-, all⟩
  have nothing : (MsgSplitter.new recordedCrypto recordedDraw 0xEEEEEEEE).map
      (fun splitter =>
        let s := run (step recordedCrypto false)
          (start (sessionCiphers recordedCrypto recordedSecret
            recordedHandshake recordedDraw) splitter [])
          (cutHeaderReads ++ [.clientEnds])
        (s.read, s.bridge.ws.binaryPayloads)) = .ok ([0x00], []) := by
    decide +kernel
  rw [made] at nothing
  obtain ⟨read, payloads⟩ := Prod.mk.inj (Except.ok.inj nothing)
  have lengths := congrArg List.length all
  rw [length_reencryptedUp, read, payloads] at lengths
  cases lengths

end ReadingBridge

end TgWsProxy.Rust
