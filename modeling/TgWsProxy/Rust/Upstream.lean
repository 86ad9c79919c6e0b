import TgWsProxy.Rust.BridgeUpstream
import TgWsProxy.Rust.Handshake

/-!
# What the Rust bridge sends in every run

The packets of the client may be anything, and a send, a counter or the
splitter may fail at any read.  What was sent is still the beginning of what
was read: the bytes which are missing are the last ones.
-/

namespace TgWsProxy.Rust

open Lib

namespace MsgSplitter

/-- A splitter which has disabled itself holds nothing back. -/
def Passes (s : MsgSplitter) : Prop := s.disabled = true → s.cipherBuf = []

section Conservation

variable {crypto : Primitives} {s next : MsgSplitter} {chunk part : Bytes}
  {parts returned : List Bytes} {offset stop : Nat} {disabled : Bool}

theorem subslice_eq_ok {data : Bytes} {start : Nat}
    (cut : subslice data start stop = .ok part) :
    start ≤ stop ∧ stop ≤ data.length ∧ part = slice data start stop := by
  unfold subslice at cut
  split at cut
  · cases cut
    exact ⟨‹_ ∧ _›.1, ‹_ ∧ _›.2, rfl⟩
  · cases cut

/-- The next part follows those before it. -/
theorem flatten_take {data : Bytes}
    (before : parts.flatten = data.take offset)
    (cut : subslice data offset stop = .ok part) :
    (parts ++ [part]).flatten = data.take stop := by
  obtain ⟨ordered, -, rfl⟩ := subslice_eq_ok cut
  calc (parts ++ [slice data offset stop]).flatten
    _ = data.take offset ++ slice data offset stop := by
      simp only [List.flatten_append, before, List.flatten_singleton]
    _ = data.take stop := by
      have split := List.take_append_drop offset (data.take stop)
      rw [List.take_take, Nat.min_eq_left ordered] at split
      exact split

/-- The parts are the bytes up to the final offset, whatever the headers
announce. -/
theorem splitLoop_conserves
    (before : parts.flatten = s.cipherBuf.take offset)
    (found : s.splitLoop s.cipherBuf.length offset parts =
      .ok (stop, returned, disabled)) :
    returned.flatten = s.cipherBuf.take stop ∧
      (disabled = true → stop = s.cipherBuf.length) := by
  generalize size : s.cipherBuf.length = bufLen at found
  fun_induction splitLoop s bufLen offset parts with
  | case1 => cases found
  | case2 =>
      cases found
      exact ⟨before, fun disabled => by cases disabled⟩
  | case3 =>
      -- The splitter disables itself, and the last part is the rest.
      cases rest : subslice s.cipherBuf _ s.cipherBuf.length with
      | error panic =>
          rw [rest] at found
          cases found
      | ok part =>
          have whole := flatten_take before rest
          rw [rest] at found
          cases found
          exact ⟨size ▸ whole, fun _ => rfl⟩
  | case4 => cases found
  | case5 offset parts inside len announced available part cut induction =>
      exact induction (flatten_take before cut) found
  | case6 =>
      cases found
      exact ⟨before, fun disabled => by cases disabled⟩
  | case7 =>
      cases found
      exact ⟨before, fun disabled => by cases disabled⟩

theorem drain_eq_ok {data : Bytes} {count : Nat} {rest : Bytes}
    (drained : drain data count = .ok rest) : rest = data.drop count := by
  unfold drain at drained
  split at drained
  · cases drained
    rfl
  · cases drained

/-- What `split` returns and what it holds afterwards are what it held and what
it was given. -/
theorem split_conserves (passes : s.Passes)
    (split : s.split crypto chunk = .ok (parts, next)) :
    parts.flatten ++ next.cipherBuf = s.cipherBuf ++ chunk ∧ next.Passes := by
  simp only [MsgSplitter.split, bind, Except.bind, pure, Except.pure] at split
  split at split
  · cases split
    subst chunk
    exact ⟨(List.append_nil _).symm, passes⟩
  split at split
  · cases split
    rename_i disabled
    have empty := passes disabled
    refine ⟨?_, passes⟩
    simp only [empty, List.flatten_singleton, List.append_nil, List.nil_append]
  split at split
  · cases split
  rename_i outcome found
  obtain ⟨stop, returned, disabled⟩ := outcome
  obtain ⟨cut, whole⟩ := splitLoop_conserves rfl found
  split at split
  · -- The buffers lose what was cut.
    split at split
    · cases split
    rename_i cipherBuf drained
    obtain rfl := drain_eq_ok drained
    split at split
    · cases split
    cases split
    refine ⟨?_, fun passing => ?_⟩
    · calc returned.flatten ++ List.drop stop (s.cipherBuf ++ chunk)
        _ = List.take stop (s.cipherBuf ++ chunk) ++
            List.drop stop (s.cipherBuf ++ chunk) := congrArg (· ++ _) cut
        _ = s.cipherBuf ++ chunk := List.take_append_drop _ _
    · exact List.drop_eq_nil_of_le (Nat.le_of_eq (whole passing).symm)
  · rename_i nothing
    cases split
    obtain rfl : stop = 0 := Nat.eq_zero_of_not_pos nothing
    refine ⟨?_, fun passing => ?_⟩
    · exact congrArg (· ++ (s.cipherBuf ++ chunk)) cut
    · exact List.eq_nil_of_length_eq_zero (whole passing).symm

end Conservation

end MsgSplitter

/-- A batch which was sent is one binary frame for each part. -/
theorem sendBatch_payloads {ws next : RawWebSocket} {parts : List Bytes}
    {failsAfter : Option Nat}
    (sent : ws.sendBatch parts failsAfter = .ok next) :
    next.binaryPayloads = ws.binaryPayloads ++ parts := by
  unfold RawWebSocket.sendBatch at sent
  split at sent
  · cases sent
  · cases failsAfter with
    | none =>
        cases sent
        exact binaryPayloads_batch ws parts
    | some count => cases sent

theorem sendBatch_opened {ws next : RawWebSocket} {parts : List Bytes}
    {failsAfter : Option Nat}
    (sent : ws.sendBatch parts failsAfter = .ok next) :
    next.closed = false := by
  unfold RawWebSocket.sendBatch at sent
  split at sent
  · cases sent
  · rename_i opened
    cases failsAfter with
    | none =>
        cases sent
        exact Bool.eq_false_iff.mpr opened
    | some count => cases sent

/-- A send which fails has written the frames of the first parts. -/
theorem sendBatch_failed {ws next : RawWebSocket} {parts : List Bytes}
    {failsAfter : Option Nat}
    (failed : ws.sendBatch parts failsAfter = .error next) :
    ∃ written, written <+: parts ∧
      next.binaryPayloads = ws.binaryPayloads ++ written := by
  unfold RawWebSocket.sendBatch at failed
  split at failed
  · cases failed
    exact ⟨[], List.nil_prefix, (List.append_nil _).symm⟩
  · cases failsAfter with
    | none => cases failed
    | some count =>
        cases failed
        exact ⟨parts.take count, List.take_prefix count parts,
          binaryPayloads_batch ws (parts.take count)⟩

namespace Bridge

/-- The bytes which the splitter holds. -/
def heldBack (s : Bridge) : Bytes :=
  match s.splitter with
  | none => []
  | some splitter => splitter.cipherBuf

/-- The session has no splitter, or one which has all it was given and has not
returned. -/
def Splits (s : Bridge) : Prop :=
  ∀ splitter, s.splitter = some splitter → splitter.Passes

/-- The branch of a client read, up to the send. -/
structure Forwards (crypto : Primitives) (chunk : Bytes) (parts : List Bytes)
    (s next : Bridge) : Prop where
  splits : next.Splits
  cltDec : next.ctx.cltDec = s.ctx.cltDec.advance chunk.length
  tgEnc : next.ctx.tgEnc = s.ctx.tgEnc.advance chunk.length
  conserved : parts.flatten ++ next.heldBack = s.heldBack ++
    s.ctx.tgEnc.apply crypto (s.ctx.cltDec.apply crypto chunk)

section ForwardUp

variable {crypto : Primitives} {overflowChecks : Bool} {s next : Bridge}
  {chunk : Bytes} {parts : List Bytes}

/-- Whatever the counters do. -/
theorem forwardUp_forwards (splits : s.Splits)
    (returned : s.forwardUp crypto overflowChecks chunk = .ok (parts, next)) :
    Forwards crypto chunk parts s next := by
  simp only [forwardUp, AesCtr.update_eq, AesCtr.length_apply, bind,
    Except.bind, pure, Except.pure] at returned
  split at returned
  · cases returned
  split at returned
  · cases returned
  split at returned
  · rename_i absent
    cases returned
    refine ⟨fun splitter present => ?_, rfl, rfl, ?_⟩
    · rw [absent] at present
      cases present
    · simp only [heldBack, absent, List.flatten_singleton, List.append_nil,
        List.nil_append]
  · rename_i splitter present
    split at returned
    · cases returned
    rename_i outcome split
    obtain ⟨cut, current⟩ := outcome
    split at returned
    · cases returned
    split at returned
    · cases returned
    cases returned
    obtain ⟨conserved, passes⟩ :=
      MsgSplitter.split_conserves (splits splitter present) split
    refine ⟨fun other isCurrent => ?_, rfl, rfl, ?_⟩
    · cases isCurrent
      exact passes
    · simp only [heldBack, present]
      exact conserved

end ForwardUp

end Bridge

namespace ReadingBridge

/-- What was sent is the beginning of what was read, and all of it but the held
bytes as long as the bridge runs. -/
structure InOrder (crypto : Primitives) (session : CryptoCtx)
    (s : ReadingBridge) : Prop where
  sent : s.bridge.ws.binaryPayloads.flatten <+:
    reencryptedUp crypto session s.read
  running : s.bridge.status = .running →
    s.bridge.Splits ∧
      s.bridge.ctx.cltDec = session.cltDec.advance s.read.length ∧
      s.bridge.ctx.tgEnc = session.tgEnc.advance s.read.length ∧
      s.bridge.ws.binaryPayloads.flatten ++ s.bridge.heldBack =
        reencryptedUp crypto session s.read

section InOrder

variable {crypto : Primitives} {session : CryptoCtx} {overflowChecks : Bool}
  {s : ReadingBridge} {chunk : Bytes} {failsAfter : Option Nat}

theorem InOrder.of_keepsUp (inOrder : InOrder crypto session s)
    {bridge : Bridge} (kept : s.bridge.KeepsUp bridge) :
    InOrder crypto session ⟨bridge, s.read⟩ := by
  refine ⟨?_, fun running => ?_⟩
  · exact kept.payloads.symm ▸ inOrder.sent
  · simp only [Bridge.Splits, Bridge.heldBack, kept.splitter, kept.cltDec,
      kept.tgEnc, kept.payloads]
    exact inOrder.running (kept.running running)

/-- A read after which the bridge has stopped. -/
theorem InOrder.stopped (inOrder : InOrder crypto session s) {bridge : Bridge}
    (payloads : bridge.ws.binaryPayloads = s.bridge.ws.binaryPayloads)
    (stopped : bridge.status ≠ .running) :
    InOrder crypto session ⟨bridge, s.read ++ chunk⟩ := by
  refine ⟨?_, fun running => absurd running stopped⟩
  have longer : reencryptedUp crypto session s.read <+:
      reencryptedUp crypto session (s.read ++ chunk) :=
    ⟨_, (reencryptedUp_append s.read chunk).symm⟩
  exact payloads.symm ▸ inOrder.sent.trans longer

/-- The parts of a chunk, behind what was sent, are all of it but the bytes which
are held back. -/
theorem InOrder.conserved {parts : List Bytes} {next : Bridge}
    (inOrder : InOrder crypto session s)
    (running : s.bridge.status = .running)
    (forwards : Bridge.Forwards crypto chunk parts
      { s.bridge with ws := s.bridge.ws.dropRecv } next) :
    (s.bridge.ws.binaryPayloads ++ parts).flatten ++ next.heldBack =
      reencryptedUp crypto session (s.read ++ chunk) := by
  obtain ⟨-, cltDec, tgEnc, whole⟩ := inOrder.running running
  calc (s.bridge.ws.binaryPayloads ++ parts).flatten ++ next.heldBack
    _ = s.bridge.ws.binaryPayloads.flatten ++
        (parts.flatten ++ next.heldBack) := by
      rw [List.flatten_append, List.append_assoc]
    _ = s.bridge.ws.binaryPayloads.flatten ++ (s.bridge.heldBack ++
        s.bridge.ctx.tgEnc.apply crypto
          (s.bridge.ctx.cltDec.apply crypto chunk)) :=
      congrArg (s.bridge.ws.binaryPayloads.flatten ++ ·) forwards.conserved
    _ = reencryptedUp crypto session (s.read ++ chunk) := by
      rw [reencryptedUp_append, ← List.append_assoc, whole, cltDec, tgEnc]

theorem InOrder.clientRead (inOrder : InOrder crypto session s)
    (running : s.bridge.status = .running) :
    InOrder crypto session
      ⟨s.bridge.clientRead crypto overflowChecks chunk failsAfter,
        s.read ++ chunk⟩ := by
  obtain ⟨splits, cltDec, tgEnc, -⟩ := inOrder.running running
  have dropped : Bridge.Splits
      { s.bridge with ws := s.bridge.ws.dropRecv } := splits
  cases returned : Bridge.forwardUp crypto overflowChecks
      { s.bridge with ws := s.bridge.ws.dropRecv } chunk with
  | error panic =>
      simp only [Bridge.clientRead, returned]
      apply inOrder.stopped
      · rfl
      · intro running
        cases running
  | ok outcome =>
      obtain ⟨parts, next⟩ := outcome
      have frame := Bridge.forwardUp_frame returned
      have forwards := Bridge.forwardUp_forwards dropped returned
      have payloads : next.ws.binaryPayloads =
          s.bridge.ws.binaryPayloads := by
        rw [frame.ws]
        rfl
      have conserved := inOrder.conserved running forwards
      simp only [Bridge.clientRead, returned]
      cases batch : next.ws.sendBatch parts failsAfter with
      | error ws =>
          obtain ⟨written, isPrefix, sentNow⟩ := sendBatch_failed batch
          have sentBefore : ws.close.binaryPayloads <+:
              s.bridge.ws.binaryPayloads ++ parts := by
            rw [binaryPayloads_close, sentNow, payloads]
            exact (List.prefix_append_right_inj _).mpr isPrefix
          refine ⟨?_, fun running => ?_⟩
          · exact sentBefore.flatten.trans ⟨next.heldBack, conserved⟩
          · cases running
      | ok ws =>
          have sentNow : ws.binaryPayloads =
              s.bridge.ws.binaryPayloads ++ parts :=
            (sendBatch_payloads batch).trans (congrArg (· ++ parts) payloads)
          rw [← sentNow] at conserved
          refine ⟨⟨next.heldBack, conserved⟩, fun _ => ?_⟩
          refine ⟨forwards.splits, ?_, ?_, conserved⟩
          · exact forwards.cltDec.trans
              ((congrArg (·.advance chunk.length) cltDec).trans
                (AesCtr.advance_append _ _ _))
          · exact forwards.tgEnc.trans
              ((congrArg (·.advance chunk.length) tgEnc).trans
                (AesCtr.advance_append _ _ _))

theorem InOrder.step (event : BridgeEvent)
    (inOrder : InOrder crypto session s) :
    InOrder crypto session (s.step crypto overflowChecks event) := by
  have quiet (notRead : ∀ chunk failsAfter,
      event ≠ .clientRead chunk failsAfter) :
      InOrder crypto session
        ⟨s.bridge.step crypto overflowChecks event, s.read⟩ :=
    inOrder.of_keepsUp (Bridge.keepsUp_step s.bridge event notRead)
  cases event with
  | deliver count => exact quiet fun _ _ read => by cases read
  | pollRecv failsAfter => exact quiet fun _ _ read => by cases read
  | serverEnds => exact quiet fun _ _ read => by cases read
  | clientEnds => exact quiet fun _ _ read => by cases read
  | clientRead chunk failsAfter =>
      by_cases running : s.bridge.status = .running
      · by_cases readable : Bridge.Readable chunk
        · simp only [ReadingBridge.step, Bridge.step, running, readable,
            and_self, if_true]
          exact inOrder.clientRead running
        · simp only [ReadingBridge.step, Bridge.step, running, readable,
            and_false, if_true, if_false]
          exact inOrder
      · simp only [ReadingBridge.step, Bridge.step, running, false_and,
          if_false]
        exact inOrder

theorem new_passes {relayInit : Bytes} {protoInt : UInt32}
    {splitter : MsgSplitter}
    (made : MsgSplitter.new crypto relayInit protoInt = .ok splitter) :
    splitter.cipherBuf = [] ∧ splitter.Passes := by
  simp only [MsgSplitter.new, bind, Except.bind, pure, Except.pure] at made
  split at made
  · cases made
  split at made
  · cases made
  split at made
  · cases made
  cases made
  exact ⟨rfl, fun _ => rfl⟩

/-- A session without a splitter, or with the new one. -/
theorem chosen_passes {relayInit : Bytes} {protoInt : UInt32}
    {splitter : MsgSplitter} {chosen : Option MsgSplitter}
    (made : MsgSplitter.new crypto relayInit protoInt = .ok splitter)
    (known : chosen ∈ [none, some splitter]) (present : MsgSplitter)
    (isChosen : chosen = some present) :
    present.cipherBuf = [] ∧ present.Passes := by
  subst isChosen
  simp only [List.mem_cons, reduceCtorEq, Option.some.injEq, List.not_mem_nil,
    or_false, false_or] at known
  exact new_passes (known ▸ made)

theorem start_inOrder (incoming : Bytes) {splitter : Option MsgSplitter}
    (fresh : ∀ present, splitter = some present →
      present.cipherBuf = [] ∧ present.Passes) :
    InOrder crypto session
      ⟨Bridge.start session splitter incoming, []⟩ := by
  have nothing : reencryptedUp crypto session [] = [] := by
    apply List.eq_nil_of_length_eq_zero
    exact length_reencryptedUp []
  refine ⟨List.nil_prefix, fun _ => ⟨?_, rfl, rfl, ?_⟩⟩
  · intro present isPresent
    exact (fresh present isPresent).2
  · cases splitter with
    | none => exact nothing.symm
    | some present => exact (fresh present rfl).1.trans nothing.symm

end InOrder

/-- What Telegram reads of the frames is the beginning of the client's
plaintext.  While the bridge runs, only what the splitter holds is missing of
what was read. -/
def ReadsInOrder (crypto : Primitives) (secret handshake relayInit : Bytes)
    (s : ReadingBridge) : Prop :=
  ∀ plain, s.read <+: clientUpstream crypto secret handshake plain →
    relayPlain crypto relayInit s.bridge.ws.binaryPayloads.flatten <+: plain ∧
      (s.bridge.status = .running →
        relayPlain crypto relayInit
          (s.bridge.ws.binaryPayloads.flatten ++ s.bridge.heldBack) =
            plain.take s.read.length)

theorem InOrder.readsInOrder {crypto : Primitives}
    {secret handshake relayInit : Bytes} {s : ReadingBridge}
    (inOrder : InOrder crypto
      (sessionCiphers crypto secret handshake relayInit) s) :
    s.ReadsInOrder crypto secret handshake relayInit := by
  intro plain initialPart
  have decrypted :=
    relayPlain_reencryptedUp crypto secret handshake relayInit initialPart
  refine ⟨?_, fun running => ?_⟩
  · have sent := relayPlain_prefix crypto relayInit inOrder.sent
    rw [decrypted] at sent
    exact sent.trans (List.take_prefix _ _)
  · obtain ⟨-, -, -, whole⟩ := inOrder.running running
    exact (congrArg (relayPlain crypto relayInit) whole).trans decrypted

end ReadingBridge

/-- The ciphers and the splitter of an accepted session. -/
theorem session_starts (crypto : Primitives)
    {handshake secret relayInit : Bytes} {request : ClientRequest}
    (handshakeSize : handshake.length = 64)
    (accepted : tryHandshake crypto handshake secret = .ok (some request))
    (relaySize : relayInit.length = 64) (protoInt : UInt32) :
    buildCryptoCtx crypto request.decPrekeyIv secret relayInit =
        .ok (sessionCiphers crypto secret handshake relayInit) ∧
      ∃ splitter,
        MsgSplitter.new crypto relayInit protoInt = .ok splitter := by
  rw [tryHandshake_eq crypto secret handshakeSize, Except.ok.injEq] at accepted
  obtain ⟨-, request_eq⟩ := requestOf_eq_some accepted
  have keys : request.decPrekeyIv = slice handshake 8 56 := by
    rw [request_eq]
  have ciphers := @buildCryptoCtx_eq crypto handshake relayInit secret
    (by omega) (by omega)
  obtain ⟨splitter, made, -, -⟩ := @MsgSplitter.new_eq crypto relayInit
    protoInt (by omega)
  exact ⟨keys ▸ ciphers, splitter, made⟩

end TgWsProxy.Rust
