import TgWsProxy.Obfuscation
import TgWsProxy.Transport

/-!
# The Python packet splitter

`MsgSplitter` of `proxy/bridge.py` cuts the re-encrypted client stream into
transport packets, so that each can be sent as one WebSocket frame.  It keeps
the ciphertext which has not been sent, and its decryption, in two buffers.
-/

namespace TgWsProxy.Python

open Lib

structure MsgSplitter where
  dec : AesCtr
  proto : Nat
  cipherBuf : Bytes
  plainBuf : Bytes
  disabled : Bool
deriving DecidableEq, Repr

namespace MsgSplitter

/-- `__init__`. -/
def new (crypto : Primitives) (relayInit : Bytes) (protoInt : Nat) :
    Except PyError MsgSplitter := do
  let cipher ← encryptor (slice relayInit 8 40) (slice relayInit 40 56)
  let dec := (cipher.update crypto zero64).2
  return { dec, proto := protoInt, cipherBuf := [], plainBuf := [],
           disabled := false }

/-- The end of both header functions, from `if payload_len <= 0`. -/
def announce (avail headerLen payloadLen : Nat) : Option Nat :=
  if payloadLen = 0 then some 0
  else if avail < headerLen + payloadLen then none
  else some (headerLen + payloadLen)

/-- `_next_abridged_len`. -/
def nextAbridgedLen (s : MsgSplitter) (offset avail : Nat) :
    Except PyError (Option Nat) := do
  let first ← getByte s.plainBuf offset
  if first = 0x7F ∨ first = 0xFF then
    if avail < 4 then return none
    let payloadLen := leNat (slice s.plainBuf (offset + 1) (offset + 4)) * 4
    return announce avail 4 payloadLen
  else
    let payloadLen := (first &&& 0x7F).toNat * 4
    return announce avail 1 payloadLen

/-- `_st_I_le.unpack_from(data, offset)[0]`. -/
def unpackFromLe32 (data : Bytes) (offset : Nat) : Except PyError Nat :=
  if offset + 4 ≤ data.length then .ok (leNat (slice data offset (offset + 4)))
  else .error .structError

/-- `_next_intermediate_len`. -/
def nextIntermediateLen (s : MsgSplitter) (offset avail : Nat) :
    Except PyError (Option Nat) := do
  if avail < 4 then return none
  let payloadLen := (← unpackFromLe32 s.plainBuf offset) &&& 0x7FFFFFFF
  return announce avail 4 payloadLen

/-- `_next_packet_len`. -/
def nextPacketLen (s : MsgSplitter) (offset avail : Nat) :
    Except PyError (Option Nat) :=
  if avail = 0 then .ok none
  else if s.proto = protoAbridgedInt then s.nextAbridgedLen offset avail
  else if s.proto = protoIntermediateInt ∨
      s.proto = protoPaddedIntermediateInt then
    s.nextIntermediateLen offset avail
  else .ok (some 0)

/-- The `while` loop of `split`: the final offset, the parts, and whether the
splitter disabled itself. -/
def splitLoop (s : MsgSplitter) (bufLen offset : Nat) (parts : List Bytes) :
    Except PyError (Nat × List Bytes × Bool) :=
  if offset < bufLen then
    match s.nextPacketLen offset (bufLen - offset) with
    | .error error => .error error
    | .ok none => .ok (offset, parts, false)
    | .ok (some 0) => .ok (bufLen, parts ++ [s.cipherBuf.drop offset], true)
    | .ok (some (len + 1)) =>
        splitLoop s bufLen (offset + (len + 1))
          (parts ++ [slice s.cipherBuf offset (offset + (len + 1))])
  else .ok (offset, parts, false)
termination_by bufLen - offset

/-- `split`: the parts to send and the updated splitter. -/
def split (crypto : Primitives) (s : MsgSplitter) (chunk : Bytes) :
    Except PyError (List Bytes × MsgSplitter) := do
  if chunk = [] then return ([], s)
  if s.disabled then return ([chunk], s)
  let update := s.dec.update crypto chunk
  let s :=
    { s with
      cipherBuf := s.cipherBuf ++ chunk
      plainBuf := s.plainBuf ++ update.1
      dec := update.2 }
  let (offset, parts, disabled) ← splitLoop s s.cipherBuf.length 0 []
  return (parts,
    { s with
      cipherBuf := s.cipherBuf.drop offset
      plainBuf := s.plainBuf.drop offset
      disabled := disabled })

/-- `flush`. -/
def flush (s : MsgSplitter) : List Bytes × MsgSplitter :=
  if s.cipherBuf = [] then ([], s)
  else ([s.cipherBuf], { s with cipherBuf := [], plainBuf := [] })

/-- Successive calls of `split`, with the parts which each returned. -/
def splitAll (crypto : Primitives) :
    MsgSplitter → List Bytes → Except PyError (List (List Bytes) × MsgSplitter)
  | s, [] => .ok ([], s)
  | s, chunk :: chunks => do
      let (parts, s) ← s.split crypto chunk
      let (later, s) ← splitAll crypto s chunks
      return (parts :: later, s)

theorem announce_eq (avail headerLen payloadLen : Nat) :
    announce avail headerLen payloadLen =
      (some (packetLenOf headerLen payloadLen)).filter (· ≤ avail) := by
  unfold announce packetLenOf
  by_cases zero : payloadLen = 0
  · simp [zero, Option.filter_some]
  · by_cases short : avail < headerLen + payloadLen
    · simp [zero, Option.filter_some, short]
    · simp [zero, Option.filter_some, short, Nat.le_of_not_lt short]

section HeaderFunctions

variable {s : MsgSplitter} {offset : Nat} {first : UInt8} {rest : Bytes}

theorem nextAbridgedLen_eq
    (unparsed : s.plainBuf.drop offset = first :: rest) :
    s.nextAbridgedLen offset (rest.length + 1) =
      .ok ((abridgedLen (first :: rest)).filter (· ≤ rest.length + 1)) := by
  have front : getByte s.plainBuf offset = .ok first := by
    simp [getByte, getElem?_of_drop_eq_cons unparsed]
  have header : slice s.plainBuf (offset + 1) (offset + 4) = rest.take 3 := by
    rw [slice_eq_take_drop, unparsed]
    rfl
  simp only [nextAbridgedLen, front, header, announce_eq, bind, Except.bind,
    pure, Except.pure]
  by_cases extended : extendedMark first
  · have mark : first = 0x7F ∨ first = 0xFF := extended
    rw [if_pos mark]
    rcases rest with _ | ⟨low, _ | ⟨middle, _ | ⟨high, rest⟩⟩⟩
    · simp [abridgedLen, extended]
    · simp [abridgedLen, extended]
    · simp [abridgedLen, extended]
    · have long : ¬ (low :: middle :: high :: rest).length + 1 < 4 := by
        simp only [List.length_cons]
        omega
      rw [if_neg long]
      simp [abridgedLen, extended]
  · have mark : ¬ (first = 0x7F ∨ first = 0xFF) := extended
    rw [if_neg mark]
    simp [abridgedLen, extended]

theorem nextIntermediateLen_eq
    (unparsed : s.plainBuf.drop offset = first :: rest) :
    s.nextIntermediateLen offset (rest.length + 1) =
      .ok ((intermediateLen (first :: rest)).filter (· ≤ rest.length + 1)) := by
  have size := length_of_drop_eq_cons unparsed
  have header :
      slice s.plainBuf offset (offset + 4) = (first :: rest).take 4 := by
    have cut := slice_eq_take_drop s.plainBuf offset 0 4
    rwa [unparsed] at cut
  match rest with
  | b1 :: b2 :: b3 :: rest =>
      have inside : offset + 4 ≤ s.plainBuf.length := by
        simp only [size, List.length_cons]
        omega
      have long : ¬ (b1 :: b2 :: b3 :: rest).length + 1 < 4 := by
        simp only [List.length_cons]
        omega
      have masked (value : Nat) : value &&& 0x7FFFFFFF = value % 2 ^ 31 :=
        Nat.and_two_pow_sub_one_eq_mod value 31
      simp only [nextIntermediateLen, if_neg long, unpackFromLe32,
        if_pos inside, header, announce_eq, masked, bind, Except.bind, pure,
        Except.pure]
      rfl
  | [] | [_] | [_, _] => simp [nextIntermediateLen, intermediateLen, pure,
      Except.pure]

end HeaderFunctions

/-- The header functions read the packet length at the front of the unparsed
plaintext, once the packet is complete. -/
theorem nextPacketLen_eq (s : MsgSplitter) {offset : Nat}
    (inside : offset < s.plainBuf.length) :
    s.nextPacketLen offset (s.plainBuf.length - offset) =
      .ok ((transportFraming s.proto).completeLen
        (s.plainBuf.drop offset)) := by
  obtain ⟨first, rest, unparsed⟩ :=
    List.exists_cons_of_length_pos (l := s.plainBuf.drop offset)
      (by simp only [List.length_drop]; omega)
  have avail : s.plainBuf.length - offset = rest.length + 1 := by
    rw [← List.length_drop, unparsed, List.length_cons]
  rw [nextPacketLen, avail, if_neg (Nat.succ_ne_zero _), unparsed]
  unfold transportFraming Framing.completeLen
  by_cases abridged : s.proto = protoAbridgedInt
  · simp only [if_pos abridged]
    exact nextAbridgedLen_eq unparsed
  · simp only [if_neg abridged]
    by_cases intermediate : s.proto = protoIntermediateInt ∨
        s.proto = protoPaddedIntermediateInt
    · simp only [if_pos intermediate]
      exact nextIntermediateLen_eq unparsed
    · simp [if_neg intermediate, unknownLen, Option.filter_some]

/-- The outcome of the loop in terms of the parse of the unparsed plaintext. -/
def loopOutcome (crypto : Primitives) (key iv : Bytes) (base offset : Nat)
    (parts : List Bytes) (parsed : Parse UInt8) : Nat × List Bytes × Bool :=
  let later := parts ++ crypto.ctrXorEach key iv (base + offset) parsed.packets
  let stop := offset + parsed.packets.flatten.length
  if parsed.stopped then
    (stop + parsed.rest.length,
      later ++ [crypto.ctrXor key iv (base + stop) parsed.rest], true)
  else (stop, later, false)

theorem loopOutcome_of_running (crypto : Primitives) (key iv : Bytes)
    (base : Nat) {parsed : Parse UInt8} (running : parsed.stopped = false) :
    loopOutcome crypto key iv base 0 [] parsed =
      (parsed.packets.flatten.length,
        crypto.ctrXorEach key iv base parsed.packets, false) := by
  simp [loopOutcome, running]

theorem loopOutcome_of_stopped (crypto : Primitives) (key iv : Bytes)
    (base : Nat) {parsed : Parse UInt8} (stopped : parsed.stopped = true) :
    loopOutcome crypto key iv base 0 [] parsed =
      (parsed.packets.flatten.length + parsed.rest.length,
        crypto.ctrXorEach key iv base parsed.packets ++
          [crypto.ctrXor key iv (base + parsed.packets.flatten.length)
            parsed.rest], true) := by
  simp [loopOutcome, stopped]

theorem loopOutcome_le (crypto : Primitives) (key iv : Bytes) (base : Nat)
    (framing : Framing UInt8) (stream : Bytes) :
    (loopOutcome crypto key iv base 0 [] (framing.parse stream)).1 ≤
      stream.length := by
  have total := framing.length_packets_add_rest stream
  cases stopped : (framing.parse stream).stopped with
  | true =>
      rw [loopOutcome_of_stopped crypto key iv base stopped]
      exact Nat.le_of_eq total
  | false =>
      rw [loopOutcome_of_running crypto key iv base stopped]
      exact total ▸ Nat.le_add_right _ _

/-- The parts and what stays in the buffer make up the buffer. -/
theorem loopOutcome_conserved (crypto : Primitives) (key iv : Bytes)
    (base : Nat) (framing : Framing UInt8) (stream : Bytes) :
    (loopOutcome crypto key iv base 0 [] (framing.parse stream)).2.1.flatten ++
        (crypto.ctrXor key iv base stream).drop
          (loopOutcome crypto key iv base 0 [] (framing.parse stream)).1 =
      crypto.ctrXor key iv base stream := by
  have whole := framing.flatten_packets_append_rest stream
  generalize framing.parse stream = parsed at whole ⊢
  subst whole
  cases stopped : parsed.stopped with
  | true =>
      rw [loopOutcome_of_stopped crypto key iv base stopped]
      simp [crypto.flatten_ctrXorEach, crypto.ctrXor_append]
  | false =>
      rw [loopOutcome_of_running crypto key iv base stopped]
      simp [crypto.flatten_ctrXorEach, crypto.ctrXor_append]

theorem loopOutcome_nonempty (crypto : Primitives) (key iv : Bytes)
    (base : Nat) (framing : Framing UInt8) (stream : Bytes) :
    ∀ part ∈ (loopOutcome crypto key iv base 0 [] (framing.parse stream)).2.1,
      part ≠ [] := by
  have packets := @Primitives.ctrXorEach_nonempty crypto key iv base _
    (framing.packets_nonempty stream)
  cases stopped : (framing.parse stream).stopped with
  | true =>
      rw [loopOutcome_of_stopped crypto key iv base stopped]
      intro part member
      rcases List.mem_append.mp member with packet | last
      · exact packets part packet
      · rw [List.mem_singleton.mp last]
        apply List.ne_nil_of_length_pos
        rw [crypto.length_ctrXor]
        exact List.length_pos_of_ne_nil
          (framing.rest_nonempty_of_stopped stopped)
  | false =>
      rw [loopOutcome_of_running crypto key iv base stopped]
      exact packets

theorem splitLoop_step {s : MsgSplitter} {offset : Nat} (parts : List Bytes)
    (before : offset < s.plainBuf.length) :
    s.splitLoop s.plainBuf.length offset parts =
      match (transportFraming s.proto).completeLen (s.plainBuf.drop offset) with
      | none => .ok (offset, parts, false)
      | some 0 =>
          .ok (s.plainBuf.length, parts ++ [s.cipherBuf.drop offset], true)
      | some (len + 1) =>
          s.splitLoop s.plainBuf.length (offset + (len + 1))
            (parts ++ [slice s.cipherBuf offset (offset + (len + 1))]) := by
  rw [splitLoop, if_pos before, nextPacketLen_eq s before]
  split <;> simp_all

theorem splitLoop_waiting {s : MsgSplitter} {offset : Nat} (parts : List Bytes)
    (incomplete : (transportFraming s.proto).completeLen
      (s.plainBuf.drop offset) = none) :
    s.splitLoop s.plainBuf.length offset parts = .ok (offset, parts, false) := by
  by_cases before : offset < s.plainBuf.length
  · rw [splitLoop_step parts before, incomplete]
  · rw [splitLoop, if_neg before]

theorem splitLoop_eq (crypto : Primitives) {key iv : Bytes} {s : MsgSplitter}
    {base : Nat}
    (aligned : s.cipherBuf = crypto.ctrXor key iv base s.plainBuf)
    (offset : Nat) (parts : List Bytes) :
    s.splitLoop s.plainBuf.length offset parts =
      .ok (loopOutcome crypto key iv base offset parts
        ((transportFraming s.proto).parse (s.plainBuf.drop offset))) := by
  generalize stream : s.plainBuf.drop offset = unparsed
  induction unparsed using (transportFraming s.proto).parse_induction
    generalizing offset parts with
  | unknown unparsed unknown =>
      have incomplete := Framing.completeLen_of_none _ unknown
      rw [splitLoop_waiting parts (by rw [stream, incomplete]),
        Framing.parse_of_none _ unknown]
      simp [loopOutcome]
  | zero unparsed zero =>
      have stop := Framing.completeLen_of_available _ zero (Nat.zero_le _)
      have before := Framing.lt_length_of_announced _ stream zero
      have size : offset + unparsed.length = s.plainBuf.length := by
        rw [← stream, List.length_drop]
        omega
      have rest : s.cipherBuf.drop offset =
          crypto.ctrXor key iv (base + offset) unparsed := by
        rw [aligned, crypto.ctrXor_drop, stream]
      rw [splitLoop_step parts before, stream, stop,
        Framing.parse_of_zero _ zero]
      simp [loopOutcome, size, rest]
  | short unparsed len announced short =>
      have incomplete := Framing.completeLen_of_short _ announced short
      rw [splitLoop_waiting parts (by rw [stream, incomplete]),
        Framing.parse_of_short _ announced short]
      simp [loopOutcome]
  | packet unparsed len announced positive available induction =>
      have complete := Framing.completeLen_of_available _ announced available
      obtain ⟨len, rfl⟩ := Nat.exists_eq_succ_of_ne_zero positive
      have before := Framing.lt_length_of_announced _ stream announced
      have packet : slice s.cipherBuf offset (offset + (len + 1)) =
          crypto.ctrXor key iv (base + offset) (unparsed.take (len + 1)) := by
        have cut : unparsed.take (len + 1) =
            slice s.plainBuf offset (offset + (len + 1)) := by
          rw [← stream]
          exact slice_drop s.plainBuf offset 0 (len + 1)
        rw [aligned, crypto.slice_ctrXor, cut]
      have tail : s.plainBuf.drop (offset + (len + 1)) =
          unparsed.drop (len + 1) := by
        rw [← stream, List.drop_drop]
      rw [splitLoop_step parts before, stream, complete]
      simp only
      rw [induction _ _ tail, packet,
        Framing.parse_of_packet _ announced positive available]
      simp [loopOutcome, Primitives.ctrXorEach_cons, Nat.add_assoc,
        Nat.min_eq_left available]

/-- What `split` does while the splitter runs and its buffers are aligned. -/
theorem split_eq (crypto : Primitives) {key iv chunk : Bytes}
    {s : MsgSplitter} {base : Nat}
    (aligned : s.cipherBuf = crypto.ctrXor key iv base s.plainBuf)
    (cipherState : s.dec = ⟨key, iv, base + s.plainBuf.length⟩)
    (enabled : s.disabled = false) (nonempty : chunk ≠ []) :
    let plain := s.plainBuf ++
      crypto.ctrXor key iv (base + s.plainBuf.length) chunk
    let outcome := loopOutcome crypto key iv base 0 []
      ((transportFraming s.proto).parse plain)
    s.split crypto chunk =
      .ok (outcome.2.1,
        { s with
          dec := s.dec.advance chunk.length
          cipherBuf := (s.cipherBuf ++ chunk).drop outcome.1
          plainBuf := plain.drop outcome.1
          disabled := outcome.2.2 }) := by
  intro plain outcome
  let buffered : MsgSplitter :=
    { s with
      cipherBuf := s.cipherBuf ++ chunk
      plainBuf := plain
      dec := s.dec.advance chunk.length
      disabled := false }
  have bufferedAligned : buffered.cipherBuf =
      crypto.ctrXor key iv base buffered.plainBuf := by
    simp only [buffered, plain, crypto.ctrXor_append, ← aligned,
      crypto.ctrXor_ctrXor]
  have sameLength : buffered.plainBuf.length = buffered.cipherBuf.length := by
    rw [bufferedAligned, crypto.length_ctrXor]
  have loop := splitLoop_eq crypto bufferedAligned 0 []
  rw [sameLength] at loop
  have decrypted : s.dec.update crypto chunk =
      (crypto.ctrXor key iv (base + s.plainBuf.length) chunk,
        s.dec.advance chunk.length) := by
    rw [AesCtr.update_eq, AesCtr.apply, cipherState]
  simp only [split, if_neg nonempty, enabled, Bool.false_eq_true, if_false,
    decrypted, bind, Except.bind, pure, Except.pure]
  simp only [buffered, plain] at loop
  rw [loop]
  rfl

/-- The parse of the whole plaintext stream fed so far. -/
def parseFed (crypto : Primitives) (relayInit : Bytes) (proto : Nat)
    (fed : Bytes) : Parse UInt8 :=
  (transportFraming proto).parse (relayPlain crypto relayInit fed)

/-- How a splitter which was fed `fed` and has returned `returned` relates to
the parse of its stream. -/
structure Follows (crypto : Primitives) (relayInit : Bytes) (proto : Nat)
    (fed : Bytes) (returned : List Bytes) (s : MsgSplitter) : Prop where
  proto_eq : s.proto = proto
  conserved : returned.flatten ++ s.cipherBuf = fed
  running : s.disabled = false →
    s.dec = ⟨headerKey relayInit, headerIv relayInit, 64 + fed.length⟩ ∧
      (parseFed crypto relayInit proto fed).stopped = false ∧
      s.plainBuf = (parseFed crypto relayInit proto fed).rest ∧
      relayPlainEach crypto relayInit returned =
        (parseFed crypto relayInit proto fed).packets
  passing : s.disabled = true →
    s.cipherBuf = [] ∧ s.plainBuf = [] ∧
      (parseFed crypto relayInit proto fed).stopped = true ∧
      ∃ packets passed, returned = packets ++ passed ∧
        relayPlainEach crypto relayInit packets =
          (parseFed crypto relayInit proto fed).packets

section Follows

variable {crypto : Primitives} {relayInit : Bytes} {proto : Nat}
  {fed : Bytes} {returned : List Bytes} {s : MsgSplitter}

theorem parseFed_append (crypto : Primitives) (relayInit : Bytes) (proto : Nat)
    (fed chunk : Bytes) :
    parseFed crypto relayInit proto (fed ++ chunk) =
      (transportFraming proto).resume (parseFed crypto relayInit proto fed)
        (crypto.ctrXor (headerKey relayInit) (headerIv relayInit)
          (64 + fed.length) chunk) := by
  rw [parseFed, relayPlain, crypto.ctrXor_append, Framing.parse_append]
  rfl

theorem new_follows (crypto : Primitives) {relayInit : Bytes} (proto : Nat)
    (size : 56 ≤ relayInit.length) :
    ∃ s, new crypto relayInit proto = .ok s ∧
      Follows crypto relayInit proto [] [] s := by
  refine ⟨⟨⟨headerKey relayInit, headerIv relayInit, 64⟩, proto, [], [], false⟩,
    ?_, ?_⟩
  · simp only [new, slice_key, slice_iv, encryptor_of_length
      (length_headerKey size) (length_headerIv size), bind, Except.bind, pure,
      Except.pure, AesCtr.update]
    rfl
  · refine ⟨rfl, rfl, ?_, ?_⟩
    · intro _
      simp [parseFed, relayPlain, relayPlainEach]
    · simp

/-- While the splitter runs, its two buffers are the same part of the stream. -/
theorem Follows.aligned (follows : Follows crypto relayInit proto fed returned s)
    (enabled : s.disabled = false) :
    s.cipherBuf = crypto.ctrXor (headerKey relayInit) (headerIv relayInit)
      (64 + (parseFed crypto relayInit proto fed).packets.flatten.length)
      s.plainBuf := by
  obtain ⟨-, -, plain, packets⟩ := follows.running enabled
  have whole := (transportFraming proto).flatten_packets_append_rest
    (relayPlain crypto relayInit fed)
  have encrypted := congrArg (relayPlain crypto relayInit) whole
  simp only [relayPlain, crypto.ctrXor_append, crypto.ctrXor_ctrXor]
    at encrypted
  have sent : returned.flatten =
      crypto.ctrXor (headerKey relayInit) (headerIv relayInit) 64
        (parseFed crypto relayInit proto fed).packets.flatten := by
    rw [← packets, relayPlainEach, crypto.flatten_ctrXorEach,
      crypto.ctrXor_ctrXor]
  have cut := follows.conserved.trans encrypted.symm
  rw [sent] at cut
  rw [plain]
  exact List.append_cancel_left cut

/-- The splitter's cipher stands at the end of its buffers. -/
theorem Follows.offset_eq (follows : Follows crypto relayInit proto fed returned s)
    (enabled : s.disabled = false) :
    64 + fed.length =
      64 + (parseFed crypto relayInit proto fed).packets.flatten.length +
        s.plainBuf.length := by
  obtain ⟨-, -, plain, -⟩ := follows.running enabled
  have total := (transportFraming proto).length_packets_add_rest
    (relayPlain crypto relayInit fed)
  rw [relayPlain, crypto.length_ctrXor] at total
  rw [plain, Nat.add_assoc]
  exact congrArg (64 + ·) total.symm

/-- While the splitter runs, it has returned what was parsed. -/
theorem Follows.length_returned
    (follows : Follows crypto relayInit proto fed returned s)
    (enabled : s.disabled = false) :
    returned.flatten.length =
      (parseFed crypto relayInit proto fed).packets.flatten.length := by
  obtain ⟨-, -, -, packets⟩ := follows.running enabled
  rw [← packets, relayPlainEach, crypto.flatten_ctrXorEach,
    crypto.length_ctrXor]

/-- A disabled splitter passes chunks on. -/
theorem Follows.split_passing
    (follows : Follows crypto relayInit proto fed returned s) {chunk : Bytes}
    (nonempty : chunk ≠ []) (disabled : s.disabled = true) :
    s.split crypto chunk = .ok ([chunk], s) ∧
      Follows crypto relayInit proto (fed ++ chunk) (returned ++ [chunk]) s := by
  obtain ⟨cipher, plain, stopped, packets, passed, split, same⟩ :=
    follows.passing disabled
  have later := parseFed_append crypto relayInit proto fed chunk
  rw [Framing.resume_of_stopped _ _ stopped] at later
  refine ⟨?_, follows.proto_eq, ?_, ?_, ?_⟩
  · simp [MsgSplitter.split, nonempty, disabled, pure, Except.pure]
  · have cut := follows.conserved
    rw [cipher, List.append_nil] at cut
    simp [cipher, cut]
  · intro running
    rw [disabled] at running
    cases running
  · intro _
    refine ⟨cipher, plain, by rw [later], packets, passed ++ [chunk], ?_, ?_⟩
    · rw [split, List.append_assoc]
    · rw [later]
      exact same

/-- A running splitter returns the packets completed by the chunk. -/
theorem Follows.split_running
    (follows : Follows crypto relayInit proto fed returned s) {chunk : Bytes}
    (nonempty : chunk ≠ []) (enabled : s.disabled = false) :
    ∃ parts s', s.split crypto chunk = .ok (parts, s') ∧
      Follows crypto relayInit proto (fed ++ chunk) (returned ++ parts) s' := by
  obtain ⟨cipherState, stopped, plain, packets⟩ := follows.running enabled
  have later := parseFed_append crypto relayInit proto fed chunk
  have aligned := follows.aligned enabled
  have conserved := follows.conserved
  have fedSize := follows.offset_eq enabled
  have sentSize := follows.length_returned enabled
  obtain rfl := follows.proto_eq
  clear follows
  rw [Framing.resume_of_running _ _ stopped, ← plain] at later
  generalize parseFed crypto relayInit s.proto fed = old at *
  rw [fedSize] at cipherState later
  have step := split_eq crypto aligned cipherState enabled nonempty
  simp only at step
  generalize buffer : s.plainBuf ++
      crypto.ctrXor (headerKey relayInit) (headerIv relayInit)
        (64 + old.packets.flatten.length + s.plainBuf.length) chunk =
    unparsed at step later
  have whole := (transportFraming s.proto).flatten_packets_append_rest unparsed
  have kept := loopOutcome_conserved crypto (headerKey relayInit)
    (headerIv relayInit) (64 + old.packets.flatten.length)
    (transportFraming s.proto) unparsed
  have encrypted : crypto.ctrXor (headerKey relayInit) (headerIv relayInit)
      (64 + old.packets.flatten.length) unparsed = s.cipherBuf ++ chunk := by
    rw [← buffer, crypto.ctrXor_append, ← aligned, crypto.ctrXor_ctrXor]
  have size : (s.cipherBuf ++ chunk).length = unparsed.length := by
    rw [← encrypted, crypto.length_ctrXor]
  rw [encrypted] at kept
  generalize (transportFraming s.proto).parse unparsed = tail at *
  refine ⟨_, _, step, rfl, ?_, ?_, ?_⟩
  · rw [List.flatten_append, List.append_assoc, kept, ← List.append_assoc,
      conserved]
  · intro running
    cases tailStopped : tail.stopped with
    | true =>
        rw [loopOutcome_of_stopped _ _ _ _ tailStopped] at running
        cases running
    | false =>
        rw [loopOutcome_of_running _ _ _ _ tailStopped, later]
        refine ⟨?_, tailStopped, ?_, ?_⟩
        · rw [cipherState, ← fedSize, List.length_append, ← Nat.add_assoc]
          rfl
        · simp [← whole]
        · rw [relayPlainEach, crypto.ctrXorEach_append, sentSize,
            crypto.ctrXorEach_ctrXorEach]
          exact congrArg (· ++ tail.packets) packets
  · intro passing
    cases tailStopped : tail.stopped with
    | false =>
        rw [loopOutcome_of_running _ _ _ _ tailStopped] at passing
        cases passing
    | true =>
        rw [loopOutcome_of_stopped _ _ _ _ tailStopped, later]
        have consumed : tail.packets.flatten.length + tail.rest.length =
            unparsed.length := by
          rw [← whole, List.length_append]
        refine ⟨?_, ?_, tailStopped, ?_⟩
        · exact List.drop_eq_nil_of_le (by rw [size, consumed])
        · exact List.drop_eq_nil_of_le (by rw [consumed])
        · refine ⟨_, _, (List.append_assoc _ _ _).symm, ?_⟩
          rw [relayPlainEach, crypto.ctrXorEach_append, sentSize,
            crypto.ctrXorEach_ctrXorEach]
          exact congrArg (· ++ tail.packets) packets

theorem Follows.split (follows : Follows crypto relayInit proto fed returned s)
    (chunk : Bytes) :
    ∃ parts s', s.split crypto chunk = .ok (parts, s') ∧
      Follows crypto relayInit proto (fed ++ chunk) (returned ++ parts) s' := by
  by_cases empty : chunk = []
  · refine ⟨[], s, by simp [MsgSplitter.split, empty, pure, Except.pure], ?_⟩
    simpa [empty] using follows
  · cases enabled : s.disabled with
    | false => exact follows.split_running empty enabled
    | true => exact ⟨_, _, follows.split_passing empty enabled⟩

/-- No part is empty. -/
theorem Follows.split_nonempty
    (follows : Follows crypto relayInit proto fed returned s) {chunk : Bytes}
    {parts : List Bytes} {next : MsgSplitter}
    (split : s.split crypto chunk = .ok (parts, next)) :
    ∀ part ∈ parts, part ≠ [] := by
  by_cases empty : chunk = []
  · have nothing : s.split crypto chunk = .ok ([], s) := by
      simp [MsgSplitter.split, empty, pure, Except.pure]
    cases nothing.symm.trans split
    simp
  · cases enabled : s.disabled with
    | true =>
        cases (follows.split_passing empty enabled).1.symm.trans split
        simpa using empty
    | false =>
        obtain ⟨cipherState, -, -, -⟩ := follows.running enabled
        rw [follows.offset_eq enabled] at cipherState
        cases (split_eq crypto (follows.aligned enabled) cipherState enabled
          empty).symm.trans split
        exact loopOutcome_nonempty crypto _ _ _ _ _

/-- The packets of the stream so far were returned first. -/
theorem Follows.packets_isPrefix
    (follows : Follows crypto relayInit proto fed returned s) :
    (parseFed crypto relayInit proto fed).packets <+:
      relayPlainEach crypto relayInit returned := by
  cases enabled : s.disabled with
  | false =>
      obtain ⟨-, -, -, same⟩ := follows.running enabled
      rw [same]
  | true =>
      obtain ⟨-, -, -, packets, passed, split, same⟩ := follows.passing enabled
      rw [split, relayPlainEach, crypto.ctrXorEach_append, ← same]
      exact List.prefix_append _ _

/-- What the splitter holds is the packet which is not complete. -/
theorem Follows.holds_nothing_iff
    (follows : Follows crypto relayInit proto fed returned s) :
    s.cipherBuf = [] ↔
      (parseFed crypto relayInit proto fed).stopped = true ∨
        (parseFed crypto relayInit proto fed).rest = [] := by
  cases enabled : s.disabled with
  | true =>
      obtain ⟨held, -, stopped, -⟩ := follows.passing enabled
      exact iff_of_true held (Or.inl stopped)
  | false =>
      obtain ⟨-, running, plain, -⟩ := follows.running enabled
      have aligned := congrArg List.length (follows.aligned enabled)
      rw [crypto.length_ctrXor, plain] at aligned
      rw [running, or_iff_right Bool.false_ne_true]
      constructor
      · intro held
        exact List.eq_nil_of_length_eq_zero
          (aligned.symm.trans (congrArg List.length held))
      · intro none
        exact List.eq_nil_of_length_eq_zero
          (aligned.trans (congrArg List.length none))

theorem Follows.splitAll
    (follows : Follows crypto relayInit proto fed returned s)
    (chunks : List Bytes) :
    ∃ outs s', s.splitAll crypto chunks = .ok (outs, s') ∧
      Follows crypto relayInit proto (fed ++ chunks.flatten)
        (returned ++ outs.flatten) s' := by
  induction chunks generalizing fed returned s with
  | nil => exact ⟨[], s, rfl, by simpa using follows⟩
  | cons chunk chunks induction =>
      obtain ⟨parts, next, step, followsNext⟩ := follows.split chunk
      obtain ⟨outs, final, run, followsFinal⟩ := induction followsNext
      refine ⟨parts :: outs, final, ?_, ?_⟩
      · simp [MsgSplitter.splitAll, step, run, bind, Except.bind, pure,
          Except.pure]
      · simpa using followsFinal

theorem splitAll_append {outs laterOuts : List (List Bytes)}
    {earlier later : List Bytes} {next final : MsgSplitter}
    (before : s.splitAll crypto earlier = .ok (outs, next))
    (after : next.splitAll crypto later = .ok (laterOuts, final)) :
    s.splitAll crypto (earlier ++ later) = .ok (outs ++ laterOuts, final) := by
  induction earlier generalizing s outs with
  | nil =>
      cases before
      exact after
  | cons chunk earlier induction =>
      simp only [MsgSplitter.splitAll, List.cons_append, bind, Except.bind,
        pure, Except.pure] at before ⊢
      cases step : s.split crypto chunk with
      | error error => simp [step] at before
      | ok result =>
          cases tail : result.2.splitAll crypto earlier with
          | error error => simp [step, tail] at before
          | ok rest =>
              simp only [step, tail] at before
              cases before
              simp [induction tail]

/-- What a splitter has returned of the stream `fed`, which `later` is going to
continue, compared with the parse of the whole stream. -/
structure SplitsAsParsed (crypto : Primitives) (relayInit : Bytes)
    (proto : Nat) (fed later : Bytes) (returned : List Bytes)
    (s : MsgSplitter) : Prop where
  conserved : returned.flatten ++ s.cipherBuf = fed
  decrypted : s.disabled = false →
    s.plainBuf = crypto.ctrXor (headerKey relayInit) (headerIv relayInit)
      (64 + returned.flatten.length) s.cipherBuf
  running : s.disabled = false →
    relayPlainEach crypto relayInit returned =
      completeBy fed.length
        (parseFed crypto relayInit proto (fed ++ later)).packets
  passing : s.disabled = true →
    s.cipherBuf = [] ∧
      (∀ chunk, chunk ≠ [] → s.split crypto chunk = .ok ([chunk], s)) ∧
      ∃ packets passed, returned = packets ++ passed ∧
        relayPlainEach crypto relayInit packets =
          (parseFed crypto relayInit proto (fed ++ later)).packets ∧
        relayPlainEach crypto relayInit packets =
          completeBy fed.length
            (parseFed crypto relayInit proto (fed ++ later)).packets
  disabled_eq : s.disabled = (parseFed crypto relayInit proto fed).stopped

theorem Follows.splitsAsParsed
    (follows : Follows crypto relayInit proto fed returned s)
    (later : Bytes) :
    SplitsAsParsed crypto relayInit proto fed later returned s := by
  have whole := parseFed_append crypto relayInit proto fed later
  have complete := (transportFraming proto).completeBy_parse
    (relayPlain crypto relayInit fed)
    (crypto.ctrXor (headerKey relayInit) (headerIv relayInit)
      (64 + fed.length) later)
  have cut : relayPlain crypto relayInit (fed ++ later) =
      relayPlain crypto relayInit fed ++
        crypto.ctrXor (headerKey relayInit) (headerIv relayInit)
          (64 + fed.length) later := by
    rw [relayPlain, relayPlain, crypto.ctrXor_append]
  rw [← cut, relayPlain, crypto.length_ctrXor] at complete
  change completeBy fed.length
    (parseFed crypto relayInit proto (fed ++ later)).packets =
      (parseFed crypto relayInit proto fed).packets at complete
  refine ⟨follows.conserved, ?_, ?_, ?_, ?_⟩
  · intro enabled
    rw [follows.aligned enabled, follows.length_returned enabled,
      crypto.ctrXor_ctrXor]
  · intro enabled
    obtain ⟨-, -, -, packets⟩ := follows.running enabled
    rw [packets, complete]
  · intro disabled
    obtain ⟨cipher, -, stopped, packets, passed, split, same⟩ :=
      follows.passing disabled
    refine ⟨cipher, ?_, packets, passed, split, ?_, ?_⟩
    · intro chunk nonempty
      exact (follows.split_passing nonempty disabled).1
    · rw [whole, Framing.resume_of_stopped _ _ stopped]
      exact same
    · rw [same, complete]
  · cases enabled : s.disabled with
    | false => exact (follows.running enabled).2.1.symm
    | true => exact (follows.passing enabled).2.2.1.symm

end Follows

/-- However a stream is cut into chunks, after every call the splitter has
returned the packets of the parse of the whole stream which are complete by
then, and what follows a zero-length header unchanged.  A stream of well-formed
packets is returned packet by packet. -/
theorem split_follows_parse (crypto : Primitives) {relayInit : Bytes}
    (proto : Nat) (size : 56 ≤ relayInit.length)
    (earlier later : List Bytes) :
    ∃ start outs laterOuts s final,
      new crypto relayInit proto = .ok start ∧
      start.splitAll crypto earlier = .ok (outs, s) ∧
      start.splitAll crypto (earlier ++ later) =
        .ok (outs ++ laterOuts, final) ∧
      SplitsAsParsed crypto relayInit proto earlier.flatten later.flatten
        outs.flatten s ∧
      ∀ packets : List Bytes,
        (∀ packet ∈ packets, packet ≠ [] ∧
          (transportFraming proto).packetLen packet = some packet.length) →
        relayPlain crypto relayInit earlier.flatten = packets.flatten →
        relayPlainEach crypto relayInit outs.flatten = packets ∧
          s.cipherBuf = [] ∧ s.disabled = false := by
  obtain ⟨start, made, followsStart⟩ := new_follows crypto proto size
  obtain ⟨outs, s, before, follows⟩ := followsStart.splitAll earlier
  obtain ⟨laterOuts, final, after, -⟩ := follows.splitAll later
  simp only [List.nil_append] at follows
  refine ⟨start, outs, laterOuts, s, final, made, before,
    splitAll_append before after, follows.splitsAsParsed later.flatten, ?_⟩
  intro packets wellFormed plain
  have parsed : parseFed crypto relayInit proto earlier.flatten =
      ⟨packets, [], false⟩ := by
    rw [parseFed, plain, Framing.parse_flatten _ wellFormed]
  have enabled : s.disabled = false := by
    rw [(follows.splitsAsParsed []).disabled_eq, parsed]
  obtain ⟨-, -, empty, same⟩ := follows.running enabled
  have aligned := follows.aligned enabled
  rw [empty, parsed, crypto.ctrXor_nil] at aligned
  rw [parsed] at same
  exact ⟨same, aligned, enabled⟩

theorem split_follows_parse_recorded :
    ∃ start outs laterOuts s final,
      new recordedCrypto recordedDraw protoAbridgedInt = .ok start ∧
      start.splitAll recordedCrypto [[0xd8, 0x9a], [0xe0]] = .ok (outs, s) ∧
      start.splitAll recordedCrypto ([[0xd8, 0x9a], [0xe0]] ++ [[0xf0]]) =
        .ok (outs ++ laterOuts, final) ∧
      SplitsAsParsed recordedCrypto recordedDraw protoAbridgedInt
        [[0xd8, 0x9a], [0xe0]].flatten [[0xf0]].flatten outs.flatten s ∧
      ∀ packets : List Bytes,
        (∀ packet ∈ packets, packet ≠ [] ∧
          (transportFraming protoAbridgedInt).packetLen packet =
            some packet.length) →
        relayPlain recordedCrypto recordedDraw [[0xd8, 0x9a], [0xe0]].flatten =
          packets.flatten →
        relayPlainEach recordedCrypto recordedDraw outs.flatten = packets ∧
          s.cipherBuf = [] ∧ s.disabled = false :=
  split_follows_parse recordedCrypto protoAbridgedInt (by decide +kernel)
    [[0xd8, 0x9a], [0xe0]] [[0xf0]]

end MsgSplitter

end TgWsProxy.Python
