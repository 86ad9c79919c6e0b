import TgWsProxy.Rust.Bridge

/-!
# What the Rust bridge sends upstream

Every part which the splitter returns for a client read becomes one binary
frame.  As long as the sends succeed, the frames sent so far and the bytes which
the splitter holds back are what the client has sent, cut at the packets which
the splitter has found.
-/

namespace TgWsProxy.Rust

open Lib

/-- The payloads of the binary frames written so far. -/
def RawWebSocket.binaryPayloads (ws : RawWebSocket) : List Bytes :=
  (ws.frames.filter (·.1 = 0x2)).map (·.2)

/-- A bridge, and what its reads from the client have returned. -/
structure ReadingBridge where
  bridge : Bridge
  read : Bytes

namespace ReadingBridge

def start (session : CryptoCtx) (splitter : MsgSplitter) (incoming : Bytes) :
    ReadingBridge :=
  ⟨Bridge.start session (some splitter) incoming, []⟩

def step (crypto : Primitives) (overflowChecks : Bool) (s : ReadingBridge)
    (event : BridgeEvent) : ReadingBridge :=
  { bridge := s.bridge.step crypto overflowChecks event
    read :=
      match event with
      | .clientRead chunk _ =>
          if s.bridge.status = .running ∧ Bridge.Readable chunk then
            s.read ++ chunk
          else s.read
      | _ => s.read }

end ReadingBridge

/-- A send upstream does not fail. -/
def BridgeEvent.Sends : BridgeEvent → Prop
  | .clientRead _ failsAfter => failsAfter = none
  | _ => True

section BinaryPayloads

variable {ws : RawWebSocket}

theorem binaryPayloads_control {opcode : UInt8} (control : opcode ≠ 0x2)
    (payload : Bytes) (closed : Bool) (unread taken : Bytes) :
    RawWebSocket.binaryPayloads
        ⟨closed, ws.frames ++ [(opcode, payload)], unread, taken⟩ =
      ws.binaryPayloads := by
  simp [RawWebSocket.binaryPayloads, control]

theorem binaryPayloads_close (ws : RawWebSocket) :
    ws.close.binaryPayloads = ws.binaryPayloads := by
  unfold RawWebSocket.close
  split
  · rfl
  · exact binaryPayloads_control (by decide) _ _ _ _

theorem binaryPayloads_batch (ws : RawWebSocket) (parts : List Bytes) :
    RawWebSocket.binaryPayloads
        { ws with frames := ws.frames ++ parts.map (0x2, ·) } =
      ws.binaryPayloads ++ parts := by
  have binary : (parts.map fun part => ((0x2 : UInt8), part)).filter
      (·.1 = 0x2) = parts.map fun part => (0x2, part) := by
    apply List.filter_eq_self.mpr
    intro frame member
    obtain ⟨part, -, rfl⟩ := List.mem_map.mp member
    rfl
  simp only [RawWebSocket.binaryPayloads, List.filter_append, binary,
    List.map_append, List.map_map, Function.comp_def, List.map_id']

/-- A batch is one binary frame for each part. -/
theorem sendBatch_eq (opened : ws.closed = false) (parts : List Bytes) :
    ∃ next, ws.sendBatch parts none = .ok next ∧ next.closed = false ∧
      next.binaryPayloads = ws.binaryPayloads ++ parts := by
  refine ⟨{ ws with frames := ws.frames ++ parts.map (0x2, ·) }, ?_, opened,
    binaryPayloads_batch ws parts⟩
  simp [RawWebSocket.sendBatch, opened]

/-- `recv` sends control frames only. -/
theorem pollRecv_binaryPayloads (ws : RawWebSocket) :
    ws.pollRecv.2.binaryPayloads = ws.binaryPayloads ∧
      (ws.pollRecv.1 ≠ .close → ws.pollRecv.2.closed = ws.closed) := by
  unfold RawWebSocket.pollRecv
  split
  · exact ⟨rfl, fun _ => rfl⟩
  · exact ⟨rfl, fun _ => rfl⟩
  · split
    · refine ⟨binaryPayloads_control (by decide) _ _ _ _, ?_⟩
      intro notClose
      exact absurd rfl notClose
    · split
      · exact ⟨binaryPayloads_control (by decide) _ _ _ _, fun _ => rfl⟩
      · split
        · exact ⟨rfl, fun _ => rfl⟩
        · exact ⟨rfl, fun _ => rfl⟩

end BinaryPayloads

namespace Bridge

/-- A step which does not read from the client leaves the upstream half
alone. -/
structure KeepsUp (s s' : Bridge) : Prop where
  splitter : s'.splitter = s.splitter
  cltDec : s'.ctx.cltDec = s.ctx.cltDec
  tgEnc : s'.ctx.tgEnc = s.ctx.tgEnc
  payloads : s'.ws.binaryPayloads = s.ws.binaryPayloads
  bytesUp : s'.stats.bytesUp = s.stats.bytesUp
  packetsUp : s'.stats.packetsUp = s.stats.packetsUp
  running : s'.status = .running → s.status = .running
  opened : s'.status = .running → s'.ws.closed = s.ws.closed

section KeepsUp

variable {s s' : Bridge} {crypto : Primitives} {overflowChecks : Bool}

theorem KeepsUp.refl (s : Bridge) : s.KeepsUp s :=
  ⟨rfl, rfl, rfl, rfl, rfl, rfl, id, fun _ => rfl⟩

theorem keepsUp_finish (s : Bridge) : s.KeepsUp s.finish := by
  refine ⟨rfl, rfl, rfl, binaryPayloads_close s.ws, rfl, rfl, ?_, ?_⟩
  · intro running
    cases running
  · intro running
    cases running

theorem KeepsUp.finish (kept : s.KeepsUp s') : s.KeepsUp s'.finish := by
  refine ⟨kept.splitter, kept.cltDec, kept.tgEnc, ?_, kept.bytesUp,
    kept.packetsUp, ?_, ?_⟩
  · exact (binaryPayloads_close s'.ws).trans kept.payloads
  · intro running
    cases running
  · intro running
    cases running

theorem KeepsUp.panicked (kept : s.KeepsUp s') (panic : Panic) :
    s.KeepsUp { s' with status := .panicked panic } := by
  refine ⟨kept.splitter, kept.cltDec, kept.tgEnc, kept.payloads, kept.bytesUp,
    kept.packetsUp, ?_, ?_⟩
  · intro running
    cases running
  · intro running
    cases running

theorem KeepsUp.forwardDown {next : Bridge} {payload : Bytes}
    {failsAfter : Option Nat} (kept : s.KeepsUp s')
    (returned : s'.forwardDown crypto overflowChecks payload failsAfter =
      .ok next) : s.KeepsUp next := by
  simp only [Bridge.forwardDown, bind, Except.bind, pure, Except.pure]
    at returned
  split at returned
  · cases returned
  split at returned
  · cases returned
  cases failsAfter with
  | none =>
      cases returned
      exact ⟨kept.splitter, kept.cltDec, kept.tgEnc, kept.payloads,
        kept.bytesUp, kept.packetsUp, kept.running, kept.opened⟩
  | some count =>
      cases returned
      apply KeepsUp.finish
      exact ⟨kept.splitter, kept.cltDec, kept.tgEnc, kept.payloads,
        kept.bytesUp, kept.packetsUp, kept.running, kept.opened⟩

theorem keepsUp_pollRecv (s : Bridge) (failsAfter : Option Nat) :
    s.KeepsUp (s.pollRecv crypto overflowChecks failsAfter) := by
  obtain ⟨payloads, closed⟩ := pollRecv_binaryPayloads s.ws
  have kept (notClose : s.ws.pollRecv.1 ≠ .close) :
      s.KeepsUp { s with ws := s.ws.pollRecv.2 } :=
    ⟨rfl, rfl, rfl, payloads, rfl, rfl, id, fun _ => closed notClose⟩
  unfold Bridge.pollRecv
  generalize s.ws.pollRecv = polled at payloads kept
  obtain ⟨received, ws⟩ := polled
  cases received with
  | pending => exact kept (fun close => by cases close)
  | close =>
      refine ⟨rfl, rfl, rfl, ?_, rfl, rfl, ?_, ?_⟩
      · exact (binaryPayloads_close ws).trans payloads
      · intro running
        cases running
      · intro running
        cases running
  | panicked panic => exact (kept (fun close => by cases close)).panicked panic
  | message payload =>
      have received := kept (fun close => by cases close)
      dsimp only
      cases forwarded : Bridge.forwardDown crypto overflowChecks
          { s with ws } payload failsAfter with
      | error panic => exact received.panicked panic
      | ok next => exact received.forwardDown forwarded

theorem keepsUp_step (s : Bridge) (event : BridgeEvent)
    (notRead : ∀ chunk failsAfter, event ≠ .clientRead chunk failsAfter) :
    s.KeepsUp (s.step crypto overflowChecks event) := by
  unfold Bridge.step
  split
  · cases event with
    | deliver count =>
        exact ⟨rfl, rfl, rfl, rfl, rfl, rfl, id, fun _ => rfl⟩
    | pollRecv failsAfter => exact keepsUp_pollRecv s failsAfter
    | serverEnds =>
        dsimp only
        split
        · exact keepsUp_finish s
        · exact KeepsUp.refl s
    | clientRead chunk failsAfter => exact absurd rfl (notRead chunk failsAfter)
    | clientEnds => exact keepsUp_finish s
  · exact KeepsUp.refl s

end KeepsUp

end Bridge

namespace ReadingBridge

/-- The frames sent so far are what the splitter has returned for the bytes
which were read. -/
structure UpCut (crypto : Primitives) (session : CryptoCtx)
    (relayInit : Bytes) (proto : UInt32) (overflowChecks : Bool)
    (splitter : MsgSplitter) (s : ReadingBridge) : Prop where
  proto_eq : splitter.proto = proto
  follows : Python.MsgSplitter.Follows crypto relayInit proto.toNat
    (reencryptedUp crypto session s.read) s.bridge.ws.binaryPayloads
    splitter.toPython
  nonempty : ∀ payload ∈ s.bridge.ws.binaryPayloads, payload ≠ []
  running : s.bridge.status = .running →
    s.bridge.splitter = some splitter ∧
      s.bridge.ctx.cltDec = session.cltDec.advance s.read.length ∧
      s.bridge.ctx.tgEnc = session.tgEnc.advance s.read.length ∧
      s.bridge.ws.closed = false ∧
      (overflowChecks = true → s.bridge.stats.bytesUp = s.read.length ∧
        s.bridge.stats.packetsUp = s.bridge.ws.binaryPayloads.length)

section UpCut

variable {crypto : Primitives} {session : CryptoCtx} {relayInit : Bytes}
  {proto : UInt32} {overflowChecks : Bool} {splitter : MsgSplitter}
  {s : ReadingBridge} {chunk : Bytes}

theorem length_reencryptedUp (read : Bytes) :
    (reencryptedUp crypto session read).length = read.length := by
  rw [reencryptedUp, AesCtr.length_apply, AesCtr.length_apply]

/-- There are no more payloads than bytes in them. -/
theorem length_le_flatten {pieces : List Bytes}
    (nonempty : ∀ piece ∈ pieces, piece ≠ []) :
    pieces.length ≤ pieces.flatten.length := by
  induction pieces with
  | nil => exact Nat.le_refl _
  | cons piece pieces induction =>
      have first := List.length_pos_of_ne_nil (nonempty piece List.mem_cons_self)
      have later := induction fun piece member =>
        nonempty piece (List.mem_cons_of_mem _ member)
      rw [List.flatten_cons, List.length_append, List.length_cons]
      omega

theorem UpCut.of_keepsUp
    (cut : UpCut crypto session relayInit proto overflowChecks splitter s)
    {bridge : Bridge} (kept : s.bridge.KeepsUp bridge) :
    UpCut crypto session relayInit proto overflowChecks splitter
      ⟨bridge, s.read⟩ := by
  refine ⟨cut.proto_eq, ?_, ?_, ?_⟩
  · simp only [kept.payloads]
    exact cut.follows
  · simp only [kept.payloads]
    exact cut.nonempty
  · intro running
    simp only [kept.splitter, kept.cltDec, kept.tgEnc, kept.opened running,
      kept.bytesUp, kept.packetsUp, kept.payloads]
    exact cut.running (kept.running running)

/-- What has been sent is no longer than what has been read. -/
theorem UpCut.length_payloads
    (cut : UpCut crypto session relayInit proto overflowChecks splitter s) :
    s.bridge.ws.binaryPayloads.flatten.length ≤ s.read.length := by
  have conserved := congrArg List.length cut.follows.conserved
  rw [List.length_append, length_reencryptedUp] at conserved
  omega

/-- The splitter cuts the next chunk of a stream without long headers. -/
theorem UpCut.split
    (cut : UpCut crypto session relayInit proto overflowChecks splitter s)
    (running : s.bridge.status = .running)
    (harmless : MsgSplitter.Harmless crypto relayInit proto.toNat
      (reencryptedUp crypto session (s.read ++ chunk))) :
    ∃ parts next,
      splitter.split crypto (s.bridge.ctx.tgEnc.apply crypto
          (s.bridge.ctx.cltDec.apply crypto chunk)) = .ok (parts, next) ∧
        next.proto = proto ∧
        Python.MsgSplitter.Follows crypto relayInit proto.toNat
          (reencryptedUp crypto session (s.read ++ chunk))
          (s.bridge.ws.binaryPayloads ++ parts) next.toPython ∧
        ∀ payload ∈ s.bridge.ws.binaryPayloads ++ parts, payload ≠ [] := by
  obtain ⟨-, cltDec, tgEnc, -, -⟩ := cut.running running
  obtain rfl := cut.proto_eq
  have data : s.bridge.ctx.tgEnc.apply crypto
        (s.bridge.ctx.cltDec.apply crypto chunk) =
      (session.tgEnc.advance s.read.length).apply crypto
        ((session.cltDec.advance s.read.length).apply crypto chunk) := by
    rw [cltDec, tgEnc]
  rw [reencryptedUp_append, ← data] at harmless ⊢
  obtain ⟨parts, next, split, sameProto, python⟩ :=
    (MsgSplitter.split_agrees cut.follows harmless.earlier _).1 harmless
  obtain ⟨parts', python', split', follows⟩ := cut.follows.split
    (s.bridge.ctx.tgEnc.apply crypto (s.bridge.ctx.cltDec.apply crypto chunk))
  cases python.symm.trans split'
  refine ⟨parts, next, split, sameProto, follows, ?_⟩
  intro payload member
  rcases List.mem_append.mp member with early | late
  · exact cut.nonempty payload early
  · exact cut.follows.split_nonempty python payload late

/-- The bridge panics on a chunk without parts, and has sent nothing of it. -/
theorem UpCut.panicked {next : MsgSplitter}
    (cut : UpCut crypto session relayInit proto true splitter s)
    (running : s.bridge.status = .running)
    (readable : Bridge.Readable chunk)
    (split : splitter.split crypto (s.bridge.ctx.tgEnc.apply crypto
      (s.bridge.ctx.cltDec.apply crypto chunk)) = .ok ([], next))
    (sameProto : next.proto = proto)
    (follows : Python.MsgSplitter.Follows crypto relayInit proto.toNat
      (reencryptedUp crypto session (s.read ++ chunk))
      s.bridge.ws.binaryPayloads next.toPython) :
    UpCut crypto session relayInit proto true next
        (s.step crypto true (.clientRead chunk none)) ∧
      (s.step crypto true (.clientRead chunk none)).bridge.ws.binaryPayloads =
        s.bridge.ws.binaryPayloads := by
  obtain ⟨present, -, -, -, -⟩ := cut.running running
  have read : (s.step crypto true (.clientRead chunk none)).read =
      s.read ++ chunk := if_pos ⟨running, readable⟩
  have refused := @Bridge.forwardUp_of_no_parts crypto
    { s.bridge with ws := s.bridge.ws.dropRecv } chunk splitter next
    present split
  have bridge : (s.step crypto true (.clientRead chunk none)).bridge =
      { s.bridge with
        ws := s.bridge.ws.dropRecv
        status := .panicked .arithmeticOverflow } := by
    simp only [step, Bridge.step, if_pos running, if_pos readable,
      Bridge.clientRead, refused]
  generalize s.step crypto true (.clientRead chunk none) = after
    at read bridge ⊢
  have payloads : after.bridge.ws.binaryPayloads =
      s.bridge.ws.binaryPayloads := by
    rw [bridge]
    rfl
  refine ⟨⟨sameProto, ?_, ?_, ?_⟩, payloads⟩
  · rw [payloads, read]
    exact follows
  · rw [payloads]
    exact cut.nonempty
  · intro goesOn
    rw [bridge] at goesOn
    cases goesOn

/-- The counters have room for a chunk. -/
theorem UpCut.room {parts : List Bytes} {next : MsgSplitter}
    (cut : UpCut crypto session relayInit proto overflowChecks splitter s)
    (running : s.bridge.status = .running)
    (follows : Python.MsgSplitter.Follows crypto relayInit proto.toNat
      (reencryptedUp crypto session (s.read ++ chunk))
      (s.bridge.ws.binaryPayloads ++ parts) next.toPython)
    (nonempty : ∀ payload ∈ s.bridge.ws.binaryPayloads ++ parts, payload ≠ [])
    (completes : overflowChecks = true → parts ≠ [])
    (fits : overflowChecks = true → (s.read ++ chunk).length < 2 ^ 64) :
    overflowChecks = true →
      s.bridge.stats.bytesUp + chunk.length < 2 ^ 64 ∧ 0 < parts.length ∧
        s.bridge.stats.packetsUp + parts.length < 2 ^ 64 := by
  intro checked
  have size : (s.bridge.ws.binaryPayloads ++ parts).length ≤
      (s.read ++ chunk).length := by
    have conserved := congrArg List.length follows.conserved
    have count := length_le_flatten nonempty
    rw [List.length_append, length_reencryptedUp] at conserved
    omega
  obtain ⟨-, -, -, -, counts⟩ := cut.running running
  obtain ⟨bytesUp, packetsUp⟩ := counts checked
  have bound := fits checked
  have positive := List.length_pos_of_ne_nil (completes checked)
  rw [List.length_append] at bound size
  rw [List.length_append] at size
  omega

/-- The bridge sends the parts of a chunk. -/
theorem UpCut.forwarded {parts : List Bytes} {next : MsgSplitter}
    (cut : UpCut crypto session relayInit proto overflowChecks splitter s)
    (running : s.bridge.status = .running)
    (readable : Bridge.Readable chunk)
    (split : splitter.split crypto (s.bridge.ctx.tgEnc.apply crypto
      (s.bridge.ctx.cltDec.apply crypto chunk)) = .ok (parts, next))
    (sameProto : next.proto = proto)
    (follows : Python.MsgSplitter.Follows crypto relayInit proto.toNat
      (reencryptedUp crypto session (s.read ++ chunk))
      (s.bridge.ws.binaryPayloads ++ parts) next.toPython)
    (nonempty : ∀ payload ∈ s.bridge.ws.binaryPayloads ++ parts, payload ≠ [])
    (completes : overflowChecks = true → parts ≠ [])
    (fits : overflowChecks = true → (s.read ++ chunk).length < 2 ^ 64) :
    UpCut crypto session relayInit proto overflowChecks next
        (s.step crypto overflowChecks (.clientRead chunk none)) ∧
      (s.step crypto overflowChecks (.clientRead chunk none)).bridge.status =
        .running := by
  obtain ⟨present, cltDec, tgEnc, opened, counts⟩ := cut.running running
  have read : (s.step crypto overflowChecks (.clientRead chunk none)).read =
      s.read ++ chunk := if_pos ⟨running, readable⟩
  have counted := cut.room running follows nonempty completes fits
  obtain ⟨stats, returned, exact⟩ := @Bridge.forwardUp_eq crypto
    overflowChecks { s.bridge with ws := s.bridge.ws.dropRecv } chunk splitter
    next parts present split counted
  obtain ⟨ws, sent, stillOpened, payloads⟩ :=
    @sendBatch_eq s.bridge.ws.dropRecv opened parts
  have bridge : (s.step crypto overflowChecks (.clientRead chunk none)).bridge =
      { s.bridge with
        ctx :=
          { s.bridge.ctx with
            cltDec := s.bridge.ctx.cltDec.advance chunk.length
            tgEnc := s.bridge.ctx.tgEnc.advance chunk.length }
        splitter := some next
        stats
        ws } := by
    simp only [step, Bridge.step, if_pos running, if_pos readable,
      Bridge.clientRead, returned, sent]
  generalize s.step crypto overflowChecks (.clientRead chunk none) = after
    at read bridge ⊢
  have sentPayloads : after.bridge.ws.binaryPayloads =
      s.bridge.ws.binaryPayloads ++ parts := by
    rw [bridge]
    exact payloads
  refine ⟨⟨sameProto, ?_, ?_, ?_⟩, ?_⟩
  · rw [sentPayloads, read]
    exact follows
  · rw [sentPayloads]
    exact nonempty
  · intro _
    rw [sentPayloads, read, bridge]
    refine ⟨rfl, ?_, ?_, stillOpened, ?_⟩
    · simp only [cltDec, AesCtr.advance_append]
    · simp only [tgEnc, AesCtr.advance_append]
    · intro checked
      obtain ⟨bytesUp, packetsUp⟩ := counts checked
      obtain ⟨exactBytes, exactPackets⟩ := exact checked
      simp only [exactBytes, exactPackets, bytesUp, packetsUp,
        List.length_append, and_self]
  · rw [bridge]
    exact running

/-- After a read whose parts are sent.  If there are no parts, the bridge may
have panicked. -/
theorem UpCut.clientRead
    (cut : UpCut crypto session relayInit proto overflowChecks splitter s)
    (running : s.bridge.status = .running)
    (readable : Bridge.Readable chunk)
    (harmless : MsgSplitter.Harmless crypto relayInit proto.toNat
      (reencryptedUp crypto session (s.read ++ chunk)))
    (fits : overflowChecks = true → (s.read ++ chunk).length < 2 ^ 64) :
    ∃ next,
      UpCut crypto session relayInit proto overflowChecks next
        (s.step crypto overflowChecks (.clientRead chunk none)) ∧
      ((s.step crypto overflowChecks (.clientRead chunk none)).bridge.status =
          .running ∨
        (s.step crypto overflowChecks
            (.clientRead chunk none)).bridge.ws.binaryPayloads =
          s.bridge.ws.binaryPayloads) := by
  obtain ⟨parts, next, split, sameProto, follows, nonempty⟩ :=
    cut.split running harmless
  by_cases panics : overflowChecks = true ∧ parts = []
  · -- `parts.len() as u64 - 1` panics.
    obtain ⟨rfl, rfl⟩ := panics
    rw [List.append_nil] at follows
    have panicked := cut.panicked running readable split sameProto follows
    exact ⟨next, panicked.1, Or.inr panicked.2⟩
  · have completes : overflowChecks = true → parts ≠ [] := fun checked none =>
      panics ⟨checked, none⟩
    have forwarded := cut.forwarded running readable split sameProto follows
      nonempty completes fits
    exact ⟨next, forwarded.1, Or.inl forwarded.2⟩

/-- A step whose send succeeds, as long as the client sends a stream without
long headers. -/
theorem UpCut.step {event : BridgeEvent}
    (cut : UpCut crypto session relayInit proto overflowChecks splitter s)
    (sends : event.Sends)
    (harmless : MsgSplitter.Harmless crypto relayInit proto.toNat
      (reencryptedUp crypto session (s.step crypto overflowChecks event).read))
    (fits : overflowChecks = true →
      (s.step crypto overflowChecks event).read.length < 2 ^ 64) :
    ∃ next, UpCut crypto session relayInit proto overflowChecks next
      (s.step crypto overflowChecks event) := by
  have quiet (notRead : ∀ chunk failsAfter,
      event ≠ .clientRead chunk failsAfter)
      (sameRead : (s.step crypto overflowChecks event).read = s.read) :
      ∃ next, UpCut crypto session relayInit proto overflowChecks next
        (s.step crypto overflowChecks event) := by
    have kept := cut.of_keepsUp
      (@Bridge.keepsUp_step crypto overflowChecks s.bridge event notRead)
    rw [← sameRead] at kept
    exact ⟨splitter, kept⟩
  cases event with
  | deliver count => exact quiet (fun _ _ read => by cases read) rfl
  | pollRecv failsAfter => exact quiet (fun _ _ read => by cases read) rfl
  | serverEnds => exact quiet (fun _ _ read => by cases read) rfl
  | clientEnds => exact quiet (fun _ _ read => by cases read) rfl
  | clientRead chunk failsAfter =>
      obtain rfl : failsAfter = none := sends
      by_cases reads : s.bridge.status = .running ∧ Bridge.Readable chunk
      · have read : (s.step crypto overflowChecks
            (.clientRead chunk none)).read = s.read ++ chunk := if_pos reads
        rw [read] at harmless fits
        obtain ⟨next, cutNext, -⟩ :=
          cut.clientRead reads.1 reads.2 harmless fits
        exact ⟨next, cutNext⟩
      · have same : s.step crypto overflowChecks (.clientRead chunk none) = s := by
          have read : (s.step crypto overflowChecks
              (.clientRead chunk none)).read = s.read := if_neg reads
          have bridge : s.bridge.step crypto overflowChecks
              (.clientRead chunk none) = s.bridge := by
            by_cases running : s.bridge.status = .running
            · have unreadable : ¬ Bridge.Readable chunk := fun readable =>
                reads ⟨running, readable⟩
              simp only [Bridge.step, if_pos running, if_neg unreadable]
            · simp only [Bridge.step, if_neg running]
          exact congrArg₂ ReadingBridge.mk bridge read
        rw [same]
        exact ⟨splitter, cut⟩

theorem step_read_isPrefix (s : ReadingBridge) (event : BridgeEvent) :
    s.read <+: (s.step crypto overflowChecks event).read := by
  cases event with
  | clientRead chunk failsAfter =>
      by_cases reads : s.bridge.status = .running ∧ Bridge.Readable chunk
      · have read : (s.step crypto overflowChecks
            (.clientRead chunk failsAfter)).read = s.read ++ chunk :=
          if_pos reads
        rw [read]
        exact List.prefix_append _ _
      · have read : (s.step crypto overflowChecks
            (.clientRead chunk failsAfter)).read = s.read := if_neg reads
        rw [read]
  | deliver count => exact List.prefix_refl _
  | pollRecv failsAfter => exact List.prefix_refl _
  | serverEnds => exact List.prefix_refl _
  | clientEnds => exact List.prefix_refl _

/-- The whole stream which the client sends, of which the bridge may have read
a part. -/
structure CutsStream (crypto : Primitives) (session : CryptoCtx)
    (relayInit : Bytes) (proto : UInt32) (overflowChecks : Bool)
    (stream : Bytes) : Prop where
  harmless : MsgSplitter.Harmless crypto relayInit proto.toNat
    (reencryptedUp crypto session stream)
  fits : overflowChecks = true → stream.length < 2 ^ 64

theorem CutsStream.of_isPrefix {stream read : Bytes}
    (cuts : CutsStream crypto session relayInit proto overflowChecks stream)
    (isPrefix : read <+: stream) :
    CutsStream crypto session relayInit proto overflowChecks read := by
  have shorter := isPrefix.length_le
  obtain ⟨rest, rfl⟩ := isPrefix
  constructor
  · have harmless := cuts.harmless
    rw [reencryptedUp_append] at harmless
    exact harmless.earlier
  · intro checked
    exact Nat.lt_of_le_of_lt shorter (cuts.fits checked)

theorem start_upCut (session : CryptoCtx) (incoming : Bytes)
    (size : 56 ≤ relayInit.length)
    (made : MsgSplitter.new crypto relayInit proto = .ok splitter) :
    UpCut crypto session relayInit proto overflowChecks splitter
      (start session splitter incoming) := by
  obtain ⟨splitter', made', sameProto, python⟩ :=
    MsgSplitter.new_eq crypto proto size
  cases made.symm.trans made'
  obtain ⟨pythonSplitter, python', follows⟩ :=
    Python.MsgSplitter.new_follows crypto proto.toNat size
  cases python.symm.trans python'
  refine ⟨sameProto, follows, ?_, ?_⟩
  · intro payload member
    cases member
  · intro _
    exact ⟨rfl, rfl, rfl, rfl, fun _ => ⟨rfl, rfl⟩⟩

/-- Throughout a session whose sends succeed, as long as the client has sent
nothing but the stream. -/
theorem run_upCut {stream : Bytes} (incoming : Bytes)
    (size : 56 ≤ relayInit.length)
    (made : MsgSplitter.new crypto relayInit proto = .ok splitter)
    (cuts : CutsStream crypto session relayInit proto overflowChecks stream)
    {events : List BridgeEvent} (sends : ∀ event ∈ events, event.Sends)
    (read : (run (step crypto overflowChecks)
      (start session splitter incoming) events).read <+: stream) :
    ∃ next, UpCut crypto session relayInit proto overflowChecks next
      (run (step crypto overflowChecks) (start session splitter incoming)
        events) := by
  induction events using List.reverseRecOn with
  | nil => exact ⟨splitter, start_upCut session incoming size made⟩
  | append_singleton earlier event induction =>
      rw [run_append, run_cons, run_nil] at read ⊢
      have before := (step_read_isPrefix _ event).trans read
      obtain ⟨current, cut⟩ := induction
        (fun event member => sends event (List.mem_append_left _ member)) before
      have readCuts := cuts.of_isPrefix read
      exact cut.step (sends event (by simp)) readCuts.harmless readCuts.fits

end UpCut

end ReadingBridge

end TgWsProxy.Rust
