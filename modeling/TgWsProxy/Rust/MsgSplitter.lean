import TgWsProxy.Python.MsgSplitter

/-!
# The Rust packet splitter

`MsgSplitter` of `handshake.rs`, compared with the Python splitter.  For an
extended abridged header the Rust code converts a slice of three bytes to an
array of four and panics; everywhere else the two splitters do the same.
-/

namespace TgWsProxy.Rust

open Lib

structure MsgSplitter where
  dec : AesCtr
  proto : UInt32
  cipherBuf : Bytes
  plainBuf : Bytes
  disabled : Bool
deriving DecidableEq, Repr

namespace MsgSplitter

/-- `MsgSplitter::new`. -/
def new (crypto : Primitives) (relayInit : Bytes) (protoInt : UInt32) :
    Except Panic MsgSplitter := do
  let key ← subslice relayInit 8 40
  let iv ← subslice relayInit 40 56
  let cipher ← aesCtrNew key iv
  let dec := (cipher.update crypto zero64).2
  return { dec, proto := protoInt, cipherBuf := [], plainBuf := [],
           disabled := false }

def nextAbridgedLen (s : MsgSplitter) (offset avail : Nat) :
    Except Panic (Option Nat) := do
  let first ← getByte s.plainBuf offset
  if first = 0x7F ∨ first = 0xFF then
    if avail < 4 then return none
    let header ← subslice s.plainBuf (offset + 1) (offset + 4)
    let payload := leNat (← toArray 4 header) * 4
    if payload = 0 then return some 0
    return some (4 + payload)
  else
    let payload := (first &&& 0x7F).toNat * 4
    if payload = 0 then return some 0
    let packetLen := 1 + payload
    if avail < packetLen then return none
    return some packetLen

def nextIntermediateLen (s : MsgSplitter) (offset avail : Nat) :
    Except Panic (Option Nat) := do
  if avail < 4 then return none
  let header ← subslice s.plainBuf offset (offset + 4)
  let payload := leNat (← toArray 4 header) &&& 0x7FFFFFFF
  if payload = 0 then return some 0
  let packetLen := 4 + payload
  if avail < packetLen then return none
  return some packetLen

def nextPacketLen (s : MsgSplitter) (offset avail : Nat) :
    Except Panic (Option Nat) :=
  if avail = 0 then .ok none
  else if s.proto = .ofNat protoAbridgedInt then s.nextAbridgedLen offset avail
  else if s.proto = .ofNat protoIntermediateInt ∨
      s.proto = .ofNat protoPaddedIntermediateInt then
    s.nextIntermediateLen offset avail
  else .ok (some 0)

/-- The `while` loop of `split`: the final offset, the parts, and whether the
splitter disabled itself. -/
def splitLoop (s : MsgSplitter) (bufLen offset : Nat) (parts : List Bytes) :
    Except Panic (Nat × List Bytes × Bool) :=
  if offset < bufLen then
    match s.nextPacketLen offset (bufLen - offset) with
    | .error panic => .error panic
    | .ok none => .ok (offset, parts, false)
    | .ok (some 0) => do
        let part ← subslice s.cipherBuf offset s.cipherBuf.length
        return (bufLen, parts ++ [part], true)
    | .ok (some (len + 1)) =>
        if len + 1 ≤ bufLen - offset then
          match subslice s.cipherBuf offset (offset + (len + 1)) with
          | .error panic => .error panic
          | .ok part =>
              splitLoop s bufLen (offset + (len + 1)) (parts ++ [part])
        else .ok (offset, parts, false)
  else .ok (offset, parts, false)
termination_by bufLen - offset

/-- `data.drain(..count)`. -/
def drain (data : Bytes) (count : Nat) : Except Panic Bytes :=
  if count ≤ data.length then .ok (data.drop count) else .error .sliceIndex

/-- `split`: the parts to send and the updated splitter. -/
def split (crypto : Primitives) (s : MsgSplitter) (chunk : Bytes) :
    Except Panic (List Bytes × MsgSplitter) := do
  if chunk = [] then return ([], s)
  if s.disabled then return ([chunk], s)
  let update := s.dec.update crypto chunk
  let s :=
    { s with
      cipherBuf := s.cipherBuf ++ chunk
      plainBuf := s.plainBuf ++ update.1
      dec := update.2 }
  let (offset, parts, disabled) ← splitLoop s s.cipherBuf.length 0 []
  if 0 < offset then
    let cipherBuf ← drain s.cipherBuf offset
    let plainBuf ← drain s.plainBuf offset
    return (parts, { s with cipherBuf, plainBuf, disabled })
  else return (parts, { s with disabled })

/-- Successive calls of `split`, with the parts which each returned. -/
def splitAll (crypto : Primitives) :
    MsgSplitter → List Bytes → Except Panic (List (List Bytes) × MsgSplitter)
  | s, [] => .ok ([], s)
  | s, chunk :: chunks => do
      let (parts, s) ← s.split crypto chunk
      let (later, s) ← splitAll crypto s chunks
      return (parts :: later, s)

/-- The Python splitter in the same state. -/
def toPython (s : MsgSplitter) : Python.MsgSplitter :=
  { dec := s.dec
    proto := s.proto.toNat
    cipherBuf := s.cipherBuf
    plainBuf := s.plainBuf
    disabled := s.disabled }

end MsgSplitter

/-- A packet start with a whole extended abridged header. -/
def longHeader : Bytes → Bool
  | first :: _ :: _ :: _ :: _ => decide (extendedMark first)
  | _ => false

/-- The parse met an extended abridged header of four bytes. -/
def MeetsLongHeader (proto : Nat) (parsed : Parse UInt8) : Prop :=
  proto = protoAbridgedInt ∧
    ∃ packet ∈ parsed.packets ++ [parsed.rest], longHeader packet = true

/-- The header at the front of the unparsed plaintext makes the Rust code
panic. -/
def frontPanics (proto : Nat) (unparsed : Bytes) : Bool :=
  decide (proto = protoAbridgedInt) && longHeader unparsed

instance (proto : Nat) (parsed : Parse UInt8) :
    Decidable (MeetsLongHeader proto parsed) :=
  inferInstanceAs (Decidable (_ ∧ ∃ packet ∈ _, _))

section LongHeaders

theorem longHeader_cons (first : UInt8) (rest : Bytes) :
    longHeader (first :: rest) =
      decide (3 ≤ rest.length ∧ extendedMark first) := by
  rcases rest with _ | ⟨low, _ | ⟨middle, _ | ⟨high, rest⟩⟩⟩
  · simp [longHeader]
  · simp [longHeader]
  · simp [longHeader]
  · simp [longHeader]

theorem longHeader_append {seen : Bytes} (later : Bytes)
    (long : longHeader seen = true) : longHeader (seen ++ later) = true := by
  cases seen with
  | nil => cases long
  | cons first rest =>
      rw [longHeader_cons, decide_eq_true_eq] at long
      rw [List.cons_append, longHeader_cons, decide_eq_true_eq,
        List.length_append]
      exact ⟨Nat.le_add_right_of_le long.1, long.2⟩

theorem longHeader_append_of_announced {seen : Bytes} {len : Nat}
    (later : Bytes) (announced : abridgedLen seen = some len) :
    longHeader (seen ++ later) = longHeader seen := by
  cases seen with
  | nil => cases announced
  | cons first rest =>
      by_cases extended : extendedMark first
      · rcases rest with _ | ⟨low, _ | ⟨middle, _ | ⟨high, rest⟩⟩⟩
        · simp [abridgedLen, extended] at announced
        · simp [abridgedLen, extended] at announced
        · simp [abridgedLen, extended] at announced
        · rfl
      · simp [longHeader_cons, extended]

theorem longHeader_take {stream : Bytes} {len : Nat}
    (announced : abridgedLen stream = some len) (positive : len ≠ 0) :
    longHeader (stream.take len) = longHeader stream := by
  cases stream with
  | nil => cases announced
  | cons first rest =>
      obtain ⟨more, rfl⟩ := Nat.exists_eq_succ_of_ne_zero positive
      rw [List.take_succ_cons, longHeader_cons, longHeader_cons]
      by_cases extended : extendedMark first
      · rcases rest with _ | ⟨low, _ | ⟨middle, _ | ⟨high, rest⟩⟩⟩
        · simp [abridgedLen, extended] at announced
        · simp [abridgedLen, extended] at announced
        · simp [abridgedLen, extended] at announced
        · simp only [abridgedLen, extended, if_true, Option.some.injEq]
            at announced
          have beyond : 4 < more.succ := by
            rw [← announced] at positive ⊢
            exact header_le_packetLenOf positive
          have kept : 3 ≤ ((low :: middle :: high :: rest).take more).length := by
            rw [List.length_take, List.length_cons, List.length_cons,
              List.length_cons]
            omega
          have present : 3 ≤ (low :: middle :: high :: rest).length := by
            rw [List.length_cons, List.length_cons, List.length_cons]
            omega
          rw [decide_eq_true ⟨kept, extended⟩, decide_eq_true ⟨present, extended⟩]
      · simp [extended]

variable {proto : Nat}

theorem abridged_packetLen (abridged : proto = protoAbridgedInt) :
    (transportFraming proto).packetLen = abridgedLen := by
  simp [transportFraming, abridged]

theorem meetsLongHeader_rest {stream : Bytes} {stopped : Bool} :
    MeetsLongHeader proto ⟨[], stream, stopped⟩ ↔
      frontPanics proto stream = true := by
  simp [MeetsLongHeader, frontPanics]

theorem meetsLongHeader_packet {stream : Bytes} {len : Nat}
    (announced : (transportFraming proto).packetLen stream = some len)
    (positive : len ≠ 0) (available : len ≤ stream.length) :
    MeetsLongHeader proto ((transportFraming proto).parse stream) ↔
      frontPanics proto stream = true ∨
        MeetsLongHeader proto
          ((transportFraming proto).parse (stream.drop len)) := by
  rw [Framing.parse_of_packet _ announced positive available]
  simp only [MeetsLongHeader, frontPanics, Bool.and_eq_true, decide_eq_true_iff,
    List.cons_append, List.mem_cons, or_and_right, exists_or, exists_eq_left, ← and_or_left, and_congr_right_iff]
  intro abridged
  rw [abridged_packetLen abridged] at announced
  rw [longHeader_take announced positive]

/-- A long header at the front is met. -/
theorem meetsLongHeader_of_front {stream : Bytes}
    (panics : frontPanics proto stream = true) :
    MeetsLongHeader proto ((transportFraming proto).parse stream) := by
  rcases (transportFraming proto).step_cases stream with
    none | zero | ⟨len, announced, short⟩ |
      ⟨len, announced, positive, available⟩
  · rw [Framing.parse_of_none _ none]
    exact meetsLongHeader_rest.mpr panics
  · rw [Framing.parse_of_zero _ zero]
    exact meetsLongHeader_rest.mpr panics
  · rw [Framing.parse_of_short _ announced short]
    exact meetsLongHeader_rest.mpr panics
  · exact (meetsLongHeader_packet announced positive available).mpr
      (.inl panics)

/-- More bytes after a header of length zero change nothing. -/
theorem meetsLongHeader_of_stopped {stream : Bytes} (later : Bytes)
    (stopped : ((transportFraming proto).parse stream).stopped = true) :
    MeetsLongHeader proto
        ((transportFraming proto).parse (stream ++ later)) ↔
      MeetsLongHeader proto ((transportFraming proto).parse stream) := by
  have zero := (transportFraming proto).packetLen_rest_of_stopped stopped
  rw [Framing.parse_append, Framing.resume_of_stopped _ _ stopped]
  generalize (transportFraming proto).parse stream = parsed at zero ⊢
  simp only [MeetsLongHeader, List.mem_append, List.mem_singleton, or_and_right,
    exists_or, exists_eq_left, and_congr_right_iff]
  intro abridged
  rw [abridged_packetLen abridged] at zero
  rw [longHeader_append_of_announced later zero]

/-- While the framing runs, a long header is met in what was parsed before or
in the continuation. -/
theorem meetsLongHeader_of_running {stream : Bytes} (later : Bytes)
    (running : ((transportFraming proto).parse stream).stopped = false) :
    MeetsLongHeader proto
        ((transportFraming proto).parse (stream ++ later)) ↔
      MeetsLongHeader proto ((transportFraming proto).parse stream) ∨
        MeetsLongHeader proto ((transportFraming proto).parse
          (((transportFraming proto).parse stream).rest ++ later)) := by
  rw [Framing.parse_append, Framing.resume_of_running _ _ running]
  generalize (transportFraming proto).parse stream = parsed
  constructor
  · rintro ⟨abridged, packet, member, long⟩
    simp only [List.append_assoc, List.mem_append] at member
    rcases member with early | late
    · exact .inl ⟨abridged, packet, List.mem_append_left _ early, long⟩
    · exact .inr ⟨abridged, packet, List.mem_append.mpr late, long⟩
  · rintro (⟨abridged, packet, member, long⟩ | ⟨abridged, packet, member, long⟩)
    · rcases List.mem_append.mp member with early | rest
      · refine ⟨abridged, packet, ?_, long⟩
        exact List.mem_append_left _ (List.mem_append_left _ early)
      · obtain rfl := List.mem_singleton.mp rest
        obtain ⟨-, packet, member, long⟩ := @meetsLongHeader_of_front proto
          (parsed.rest ++ later)
          (by simp [frontPanics, abridged, longHeader_append later long])
        refine ⟨abridged, packet, ?_, long⟩
        rw [List.append_assoc]
        exact List.mem_append_right _ member
    · refine ⟨abridged, packet, ?_, long⟩
      rw [List.append_assoc]
      exact List.mem_append_right _ member

end LongHeaders

namespace MsgSplitter

section HeaderFunctions

variable {s : MsgSplitter} {offset : Nat} {first : UInt8} {rest : Bytes}

theorem nextAbridgedLen_eq
    (unparsed : s.plainBuf.drop offset = first :: rest) :
    s.nextAbridgedLen offset (rest.length + 1) =
      if longHeader (first :: rest) then .error .tryFromSlice
      else .ok ((abridgedLen (first :: rest)).filter
        (· ≤ rest.length + 1)) := by
  have size := length_of_drop_eq_cons unparsed
  have front : getByte s.plainBuf offset = .ok first := by
    simp [getByte, getElem?_of_drop_eq_cons unparsed]
  simp only [nextAbridgedLen, front, bind, Except.bind, pure, Except.pure]
  by_cases extended : extendedMark first
  · have mark : first = 0x7F ∨ first = 0xFF := extended
    rw [if_pos mark]
    rcases rest with _ | ⟨low, _ | ⟨middle, _ | ⟨high, rest⟩⟩⟩
    · simp [abridgedLen, longHeader, extended]
    · simp [abridgedLen, longHeader, extended]
    · simp [abridgedLen, longHeader, extended]
    · have long : ¬ (low :: middle :: high :: rest).length + 1 < 4 := by
        simp only [List.length_cons]
        omega
      have inside : offset + 4 ≤ s.plainBuf.length := by
        simp only [size, List.length_cons]
        omega
      have three :
          (slice s.plainBuf (offset + 1) (offset + 4)).length ≠ 4 := by
        rw [length_slice]
        omega
      have refused :
          toArray 4 (slice s.plainBuf (offset + 1) (offset + 4)) =
            .error .tryFromSlice := if_neg three
      rw [if_neg long, subslice_of_le (by omega) inside]
      simp [refused, longHeader, extended]
  · have mark : ¬ (first = 0x7F ∨ first = 0xFF) := extended
    have notLong : longHeader (first :: rest) = false := by
      simp [longHeader_cons, extended]
    have announced := Python.MsgSplitter.announce_eq (rest.length + 1) 1
      ((first &&& 0x7F).toNat * 4)
    rw [if_neg mark, notLong, if_neg Bool.false_ne_true]
    simp only [abridgedLen, extended, if_false, ← announced,
      Python.MsgSplitter.announce]
    split
    · rfl
    · split <;> rfl

theorem nextIntermediateLen_eq
    (unparsed : s.plainBuf.drop offset = first :: rest) :
    s.nextIntermediateLen offset (rest.length + 1) =
      .ok ((intermediateLen (first :: rest)).filter (· ≤ rest.length + 1)) := by
  have size := length_of_drop_eq_cons unparsed
  have header :
      slice s.plainBuf offset (offset + 4) = (first :: rest).take 4 := by
    have cut := slice_eq_take_drop s.plainBuf offset 0 4
    rwa [unparsed] at cut
  match rest with
  | b1 :: b2 :: b3 :: rest =>
      have inside : offset + 4 ≤ s.plainBuf.length := by
        simp only [size, List.length_cons]
        omega
      have long : ¬ (b1 :: b2 :: b3 :: rest).length + 1 < 4 := by
        simp only [List.length_cons]
        omega
      have masked (value : Nat) : value &&& 0x7FFFFFFF = value % 2 ^ 31 :=
        Nat.and_two_pow_sub_one_eq_mod value 31
      have announced := Python.MsgSplitter.announce_eq
        ((b1 :: b2 :: b3 :: rest).length + 1) 4
        (leNat [first, b1, b2, b3] % 2 ^ 31)
      have four : toArray 4 ((first :: b1 :: b2 :: b3 :: rest).take 4) =
          .ok [first, b1, b2, b3] := rfl
      simp only [nextIntermediateLen, if_neg long,
        subslice_of_le (Nat.le_add_right offset 4) inside, header, four,
        masked, bind, Except.bind, pure, Except.pure, intermediateLen,
        ← announced, Python.MsgSplitter.announce]
      split
      · rfl
      · split <;> rfl
  | [] | [_] | [_, _] => simp [nextIntermediateLen, intermediateLen, pure,
      Except.pure]

end HeaderFunctions

private theorem eq_ofNat_iff (value : UInt32) {constant : Nat}
    (small : constant < 2 ^ 32) :
    value = .ofNat constant ↔ value.toNat = constant := by
  rw [← UInt32.toNat_inj, UInt32.toNat_ofNat', Nat.mod_eq_of_lt small]

theorem nextPacketLen_eq (s : MsgSplitter) {offset : Nat}
    (inside : offset < s.plainBuf.length) :
    s.nextPacketLen offset (s.plainBuf.length - offset) =
      if frontPanics s.proto.toNat (s.plainBuf.drop offset) then
        .error .tryFromSlice
      else .ok ((transportFraming s.proto.toNat).completeLen
        (s.plainBuf.drop offset)) := by
  obtain ⟨first, rest, unparsed⟩ :=
    List.exists_cons_of_length_pos (l := s.plainBuf.drop offset)
      (by simp only [List.length_drop]; omega)
  have avail : s.plainBuf.length - offset = rest.length + 1 := by
    rw [← List.length_drop, unparsed, List.length_cons]
  rw [nextPacketLen, avail, if_neg (Nat.succ_ne_zero _), frontPanics, unparsed]
  simp only [eq_ofNat_iff s.proto (by decide : protoAbridgedInt < 2 ^ 32),
    eq_ofNat_iff s.proto (by decide : protoIntermediateInt < 2 ^ 32),
    eq_ofNat_iff s.proto (by decide : protoPaddedIntermediateInt < 2 ^ 32)]
  unfold transportFraming Framing.completeLen
  by_cases abridged : s.proto.toNat = protoAbridgedInt
  · simp only [abridged, if_true, decide_true, Bool.true_and]
    exact nextAbridgedLen_eq unparsed
  · simp only [abridged, decide_false, Bool.false_and,
      Bool.false_eq_true, if_false]
    by_cases intermediate : s.proto.toNat = protoIntermediateInt ∨
        s.proto.toNat = protoPaddedIntermediateInt
    · simp only [if_pos intermediate]
      exact nextIntermediateLen_eq unparsed
    · simp [if_neg intermediate, unknownLen, Option.filter_some]

theorem splitLoop_step {s : MsgSplitter} {offset : Nat} (parts : List Bytes)
    (sameLength : s.cipherBuf.length = s.plainBuf.length)
    (before : offset < s.plainBuf.length) :
    s.splitLoop s.plainBuf.length offset parts =
      if frontPanics s.proto.toNat (s.plainBuf.drop offset) then
        .error .tryFromSlice
      else
        match (transportFraming s.proto.toNat).completeLen
            (s.plainBuf.drop offset) with
        | none => .ok (offset, parts, false)
        | some 0 =>
            .ok (s.plainBuf.length, parts ++ [s.cipherBuf.drop offset], true)
        | some (len + 1) =>
            s.splitLoop s.plainBuf.length (offset + (len + 1))
              (parts ++ [slice s.cipherBuf offset (offset + (len + 1))]) := by
  rw [splitLoop, if_pos before, nextPacketLen_eq s before]
  cases frontPanics s.proto.toNat (s.plainBuf.drop offset) with
  | true => rfl
  | false =>
      simp only [Bool.false_eq_true, if_false]
      cases complete : (transportFraming s.proto.toNat).completeLen
          (s.plainBuf.drop offset) with
      | none => rfl
      | some len =>
          have available := Framing.le_length_of_completeLen _ complete
          rw [List.length_drop] at available
          cases len with
          | zero =>
              have rest : slice s.cipherBuf offset s.cipherBuf.length =
                  s.cipherBuf.drop offset := by
                simp [slice]
              simp only [subslice_of_le (by omega : offset ≤ s.cipherBuf.length)
                (Nat.le_refl _), rest, bind, Except.bind, pure, Except.pure]
          | succ len =>
              simp only [if_pos available, subslice_of_le
                (Nat.le_add_right offset (len + 1))
                (by omega : offset + (len + 1) ≤ s.cipherBuf.length)]

theorem splitLoop_waiting {s : MsgSplitter} {offset : Nat} (parts : List Bytes)
    (sameLength : s.cipherBuf.length = s.plainBuf.length)
    (incomplete : (transportFraming s.proto.toNat).completeLen
      (s.plainBuf.drop offset) = none) :
    s.splitLoop s.plainBuf.length offset parts =
      if frontPanics s.proto.toNat (s.plainBuf.drop offset) then
        .error .tryFromSlice
      else .ok (offset, parts, false) := by
  by_cases before : offset < s.plainBuf.length
  · rw [splitLoop_step parts sameLength before, incomplete]
  · have empty : s.plainBuf.drop offset = [] :=
      List.drop_eq_nil_of_le (Nat.le_of_not_lt before)
    rw [splitLoop, if_neg before, empty]
    simp [frontPanics, longHeader]

/-- The loop panics if it meets a long header, and does what the loop of the
Python splitter does otherwise. -/
theorem splitLoop_eq {s : MsgSplitter}
    (sameLength : s.cipherBuf.length = s.plainBuf.length) {offset : Nat}
    {parts : List Bytes} {result : Nat × List Bytes × Bool}
    (python : s.toPython.splitLoop s.plainBuf.length offset parts =
      .ok result) :
    s.splitLoop s.plainBuf.length offset parts =
      if MeetsLongHeader s.proto.toNat ((transportFraming s.proto.toNat).parse
          (s.plainBuf.drop offset)) then .error .tryFromSlice
      else .ok result := by
  generalize stream : s.plainBuf.drop offset = unparsed
  induction unparsed using (transportFraming s.proto.toNat).parse_induction
    generalizing offset parts with
  | unknown unparsed unknown =>
      have incomplete := Framing.completeLen_of_none _ unknown
      rw [← stream] at incomplete
      cases python.symm.trans (@Python.MsgSplitter.splitLoop_waiting s.toPython
        offset parts incomplete)
      rw [splitLoop_waiting parts sameLength incomplete, stream,
        Framing.parse_of_none _ unknown]
      simp only [meetsLongHeader_rest]
  | zero unparsed zero =>
      have stop := Framing.completeLen_of_available _ zero (Nat.zero_le _)
      have before := Framing.lt_length_of_announced _ stream zero
      have stepped := python.symm.trans (@Python.MsgSplitter.splitLoop_step
        s.toPython offset parts before)
      simp only [toPython, stream, stop] at stepped
      cases stepped
      rw [splitLoop_step parts sameLength before, stream, stop,
        Framing.parse_of_zero _ zero]
      simp only [meetsLongHeader_rest]
  | short unparsed len announced short =>
      have incomplete := Framing.completeLen_of_short _ announced short
      rw [← stream] at incomplete
      cases python.symm.trans (@Python.MsgSplitter.splitLoop_waiting s.toPython
        offset parts incomplete)
      rw [splitLoop_waiting parts sameLength incomplete, stream,
        Framing.parse_of_short _ announced short]
      simp only [meetsLongHeader_rest]
  | packet unparsed len announced positive available induction =>
      have complete := Framing.completeLen_of_available _ announced available
      have front := meetsLongHeader_packet announced positive available
      obtain ⟨len, rfl⟩ := Nat.exists_eq_succ_of_ne_zero positive
      have before := Framing.lt_length_of_announced _ stream announced
      have tail : s.plainBuf.drop (offset + (len + 1)) =
          unparsed.drop (len + 1) := by
        rw [← stream, List.drop_drop]
      have stepped := python.symm.trans (@Python.MsgSplitter.splitLoop_step
        s.toPython offset parts before)
      simp only [toPython, stream, complete] at stepped
      have later := induction stepped.symm tail
      rw [splitLoop_step parts sameLength before, stream, complete]
      simp only [front]
      cases frontPanics s.proto.toNat unparsed with
      | true => simp
      | false => simpa using later

theorem drain_of_le {data : Bytes} {count : Nat}
    (inside : count ≤ data.length) : drain data count = .ok (data.drop count) :=
  if_pos inside

/-- What `split` does while the splitter runs and its buffers are aligned. -/
theorem split_eq (crypto : Primitives) {key iv chunk : Bytes}
    {s : MsgSplitter} {base : Nat}
    (aligned : s.cipherBuf = crypto.ctrXor key iv base s.plainBuf)
    (cipherState : s.dec = ⟨key, iv, base + s.plainBuf.length⟩)
    (enabled : s.disabled = false) (nonempty : chunk ≠ []) :
    let plain := s.plainBuf ++
      crypto.ctrXor key iv (base + s.plainBuf.length) chunk
    let parsed := (transportFraming s.proto.toNat).parse plain
    let outcome := Python.MsgSplitter.loopOutcome crypto key iv base 0 [] parsed
    s.split crypto chunk =
      if MeetsLongHeader s.proto.toNat parsed then .error .tryFromSlice
      else .ok (outcome.2.1,
        { s with
          dec := s.dec.advance chunk.length
          cipherBuf := (s.cipherBuf ++ chunk).drop outcome.1
          plainBuf := plain.drop outcome.1
          disabled := outcome.2.2 }) := by
  intro plain parsed outcome
  let buffered : MsgSplitter :=
    { s with
      cipherBuf := s.cipherBuf ++ chunk
      plainBuf := plain
      dec := s.dec.advance chunk.length
      disabled := false }
  have bufferedAligned : buffered.cipherBuf =
      crypto.ctrXor key iv base buffered.plainBuf := by
    simp only [buffered, plain, crypto.ctrXor_append, ← aligned,
      crypto.ctrXor_ctrXor]
  have sameLength : buffered.cipherBuf.length = buffered.plainBuf.length := by
    rw [bufferedAligned, crypto.length_ctrXor]
  have inside : outcome.1 ≤ plain.length :=
    Python.MsgSplitter.loopOutcome_le crypto key iv base _ plain
  have insideCipher : outcome.1 ≤ (s.cipherBuf ++ chunk).length :=
    sameLength ▸ inside
  have loop : splitLoop buffered buffered.cipherBuf.length 0 [] =
      if MeetsLongHeader s.proto.toNat parsed then .error .tryFromSlice
      else .ok outcome := by
    rw [sameLength]
    exact splitLoop_eq sameLength (@Python.MsgSplitter.splitLoop_eq crypto key iv
      buffered.toPython base bufferedAligned 0 [])
  have decrypted : s.dec.update crypto chunk =
      (crypto.ctrXor key iv (base + s.plainBuf.length) chunk,
        s.dec.advance chunk.length) := by
    rw [AesCtr.update_eq, AesCtr.apply, cipherState]
  simp only [split, if_neg nonempty, enabled, Bool.false_eq_true, if_false,
    decrypted, bind, Except.bind, pure, Except.pure]
  simp only [buffered, plain] at loop
  rw [loop]
  have drained : drain (s.plainBuf ++
        crypto.ctrXor key iv (base + s.plainBuf.length) chunk) outcome.1 =
      .ok (plain.drop outcome.1) := drain_of_le inside
  by_cases long : MeetsLongHeader s.proto.toNat parsed
  · simp only [if_pos long]
  · simp only [if_neg long, drain_of_le insideCipher, drained]
    by_cases moved : 0 < outcome.1
    · simp only [if_pos moved]
    · have unmoved : outcome.1 = 0 := Nat.eq_zero_of_not_pos moved
      simp only [unmoved, Nat.lt_irrefl, if_false, List.drop_zero, plain]

section Follows

variable {crypto : Primitives} {relayInit : Bytes} {fed : Bytes}
  {returned : List Bytes} {s : MsgSplitter}

/-- The whole plaintext stream fed so far contains no long header. -/
def Harmless (crypto : Primitives) (relayInit : Bytes) (proto : Nat)
    (fed : Bytes) : Prop :=
  ¬ MeetsLongHeader proto (Python.MsgSplitter.parseFed crypto relayInit proto fed)

theorem Harmless.earlier {proto : Nat} {later : Bytes}
    (harmless : Harmless crypto relayInit proto (fed ++ later)) :
    Harmless crypto relayInit proto fed := by
  intro early
  apply harmless
  rw [Python.MsgSplitter.parseFed, relayPlain, crypto.ctrXor_append]
  cases stopped : (Python.MsgSplitter.parseFed crypto relayInit proto
      fed).stopped with
  | true => exact (meetsLongHeader_of_stopped _ stopped).mpr early
  | false => exact (meetsLongHeader_of_running _ stopped).mpr (.inl early)

/-- One call of both splitters on the same history. -/
theorem split_agrees
    (follows : Python.MsgSplitter.Follows crypto relayInit s.proto.toNat fed
      returned s.toPython)
    (before : Harmless crypto relayInit s.proto.toNat fed) (chunk : Bytes) :
    (Harmless crypto relayInit s.proto.toNat (fed ++ chunk) →
      ∃ parts s', s.split crypto chunk = .ok (parts, s') ∧
        s'.proto = s.proto ∧
        s.toPython.split crypto chunk = .ok (parts, s'.toPython)) ∧
    (¬ Harmless crypto relayInit s.proto.toNat (fed ++ chunk) →
      s.split crypto chunk = .error .tryFromSlice) := by
  by_cases empty : chunk = []
  · subst empty
    refine ⟨fun _ => ⟨[], s, rfl, rfl, rfl⟩, ?_⟩
    intro met
    rw [List.append_nil] at met
    exact (met before).elim
  · have cut : relayPlain crypto relayInit (fed ++ chunk) =
        relayPlain crypto relayInit fed ++
          crypto.ctrXor (headerKey relayInit) (headerIv relayInit)
            (64 + fed.length) chunk := crypto.ctrXor_append _ _ _ _ _
    cases enabled : s.disabled with
    | true =>
        obtain ⟨-, -, stopped, -⟩ := follows.passing enabled
        constructor
        · intro _
          refine ⟨[chunk], s, ?_, rfl,
            (follows.split_passing empty enabled).1⟩
          simp [split, empty, enabled, pure, Except.pure]
        · intro met
          apply (met ?_).elim
          intro long
          apply before
          rw [Python.MsgSplitter.parseFed, cut] at long
          exact (meetsLongHeader_of_stopped _ stopped).mp long
    | false =>
        obtain ⟨cipherState, stopped, plain, -⟩ := follows.running enabled
        have aligned := follows.aligned enabled
        rw [follows.offset_eq enabled] at cipherState
        have rust := split_eq crypto aligned cipherState enabled empty
        have python := Python.MsgSplitter.split_eq crypto aligned cipherState
          enabled empty
        have met : MeetsLongHeader s.proto.toNat
              (Python.MsgSplitter.parseFed crypto relayInit s.proto.toNat
                (fed ++ chunk)) ↔
            MeetsLongHeader s.proto.toNat
              ((transportFraming s.proto.toNat).parse (s.plainBuf ++
                crypto.ctrXor (headerKey relayInit) (headerIv relayInit)
                  (64 + fed.length) chunk)) := by
          have continued := meetsLongHeader_of_running
            (crypto.ctrXor (headerKey relayInit) (headerIv relayInit)
              (64 + fed.length) chunk) stopped
          have buffer : ((transportFraming s.proto.toNat).parse
              (relayPlain crypto relayInit fed)).rest = s.plainBuf := plain.symm
          rw [Python.MsgSplitter.parseFed, cut, continued, buffer]
          exact or_iff_right before
        rw [follows.offset_eq enabled] at met
        constructor
        · intro harmless
          have short := fun long => harmless (met.mpr long)
          exact ⟨_, _, rust.trans (if_neg short), rfl, python⟩
        · intro long
          exact rust.trans (if_pos (met.mp (Classical.not_not.mp long)))

theorem splitAll_agrees
    (follows : Python.MsgSplitter.Follows crypto relayInit s.proto.toNat fed
      returned s.toPython)
    (before : Harmless crypto relayInit s.proto.toNat fed)
    (chunks : List Bytes) :
    (∃ outs s' p, s.splitAll crypto chunks = .ok (outs, s') ∧
        s.toPython.splitAll crypto chunks = .ok (outs, p)) ↔
      Harmless crypto relayInit s.proto.toNat (fed ++ chunks.flatten) := by
  induction chunks generalizing fed returned s with
  | nil =>
      constructor
      · intro _
        simpa using before
      · intro _
        exact ⟨[], s, s.toPython, rfl, rfl⟩
  | cons chunk chunks induction =>
      obtain ⟨agree, panic⟩ := split_agrees follows before chunk
      rw [List.flatten_cons, ← List.append_assoc]
      by_cases harmless : Harmless crypto relayInit s.proto.toNat (fed ++ chunk)
      · obtain ⟨parts, next, rust, sameProto, python⟩ := agree harmless
        obtain ⟨parts', next', python', followsNext⟩ := follows.split chunk
        cases python.symm.trans python'
        rw [← sameProto] at followsNext harmless ⊢
        rw [← induction followsNext harmless]
        simp only [splitAll, Python.MsgSplitter.splitAll, rust, python, bind,
          Except.bind, pure, Except.pure]
        constructor
        · rintro ⟨outs, s', p, rustRun, pythonRun⟩
          cases rustRest : next.splitAll crypto chunks with
          | error panic => simp [rustRest] at rustRun
          | ok rest =>
              cases pythonRest : next.toPython.splitAll crypto chunks with
              | error error => simp [pythonRest] at pythonRun
              | ok pyRest =>
                  simp only [rustRest, Except.ok.injEq, Prod.mk.injEq]
                    at rustRun
                  simp only [pythonRest, Except.ok.injEq, Prod.mk.injEq]
                    at pythonRun
                  have same := rustRun.1.trans pythonRun.1.symm
                  have tails : rest.1 = pyRest.1 := (List.cons.inj same).2
                  exact ⟨rest.1, rest.2, pyRest.2, rfl, by rw [tails]⟩
        · rintro ⟨outs, s', p, rustRest, pythonRest⟩
          exact ⟨parts :: outs, s', p, by simp [rustRest],
            by simp [pythonRest]⟩
      · constructor
        · rintro ⟨outs, s', p, rust, -⟩
          simp [splitAll, panic harmless, bind, Except.bind] at rust
        · exact fun met => (harmless met.earlier).elim

end Follows

theorem new_eq (crypto : Primitives) {relayInit : Bytes} (proto : UInt32)
    (size : 56 ≤ relayInit.length) :
    ∃ start, new crypto relayInit proto = .ok start ∧ start.proto = proto ∧
      Python.MsgSplitter.new crypto relayInit proto.toNat =
        .ok start.toPython := by
  refine ⟨⟨⟨headerKey relayInit, headerIv relayInit, 64⟩, proto, [], [], false⟩,
    ?_, rfl, ?_⟩
  · simp only [new, subslice_of_le (by omega : 8 ≤ 40)
      (by omega : 40 ≤ relayInit.length), subslice_of_le (by omega : 40 ≤ 56)
      size, slice_key, slice_iv, aesCtrNew_of_length (length_headerKey size)
      (length_headerIv size), bind, Except.bind, pure, Except.pure,
      AesCtr.update]
    rfl
  · simp only [Python.MsgSplitter.new, slice_key, slice_iv,
      Python.encryptor_of_length (length_headerKey size) (length_headerIv size),
      bind, Except.bind, pure, Except.pure, AesCtr.update]
    rfl

/-- Both splitters are constructed and return the same parts in every call. -/
def AgreesWithPython (crypto : Primitives) (relayInit : Bytes) (proto : UInt32)
    (chunks : List Bytes) : Prop :=
  ∃ start pythonStart outs s p,
    new crypto relayInit proto = .ok start ∧
      Python.MsgSplitter.new crypto relayInit proto.toNat = .ok pythonStart ∧
      start.splitAll crypto chunks = .ok (outs, s) ∧
      pythonStart.splitAll crypto chunks = .ok (outs, p)

/-- The splitters agree on exactly the streams without an extended abridged
header. -/
theorem agreesWithPython_iff (crypto : Primitives) {relayInit : Bytes}
    (proto : UInt32) (size : 56 ≤ relayInit.length) (chunks : List Bytes) :
    AgreesWithPython crypto relayInit proto chunks ↔
      ¬ MeetsLongHeader proto.toNat (Python.MsgSplitter.parseFed crypto
        relayInit proto.toNat chunks.flatten) := by
  obtain ⟨start, made, sameProto, pythonMade⟩ := new_eq crypto proto size
  obtain ⟨pythonStart, pythonMade', follows⟩ :=
    Python.MsgSplitter.new_follows crypto proto.toNat size
  cases pythonMade.symm.trans pythonMade'
  rw [← sameProto] at follows ⊢
  have nothing : Harmless crypto relayInit start.proto.toNat [] := by
    simp [Harmless, Python.MsgSplitter.parseFed, relayPlain, MeetsLongHeader,
      longHeader]
  have runs := splitAll_agrees follows nothing chunks
  rw [List.nil_append] at runs
  rw [← Harmless, ← runs]
  constructor
  · rintro ⟨start', pythonStart', outs, s, p, made', pythonMade'', rust, python⟩
    rw [sameProto] at made' pythonMade''
    cases made.symm.trans made'
    cases pythonMade.symm.trans pythonMade''
    exact ⟨outs, s, p, rust, python⟩
  · rintro ⟨outs, s, p, rust, python⟩
    rw [← sameProto] at made pythonMade
    exact ⟨start, start.toPython, outs, s, p, made, pythonMade, rust, python⟩

theorem agreesWithPython_iff_recorded :
    AgreesWithPython recordedCrypto recordedDraw 0xEEEEEEEE [[0xd9], [0x9a]] ↔
      ¬ MeetsLongHeader (0xEEEEEEEE : UInt32).toNat
        (Python.MsgSplitter.parseFed recordedCrypto recordedDraw
          (0xEEEEEEEE : UInt32).toNat [[0xd9], [0x9a]].flatten) :=
  agreesWithPython_iff recordedCrypto 0xEEEEEEEE (by decide +kernel)
    [[0xd9], [0x9a]]

/-- The header 7F 01 00 00 of an abridged packet of four bytes. -/
theorem extended_header_panics_recorded :
    ¬ AgreesWithPython recordedCrypto recordedDraw 0xEFEFEFEF
      [[0xa6, 0x9b, 0xe0, 0xf0]] := by
  rintro ⟨start, pythonStart, outs, s, p, made, -, rust, -⟩
  have panics : (new recordedCrypto recordedDraw 0xEFEFEFEF).bind
      (fun start => start.splitAll recordedCrypto [[0xa6, 0x9b, 0xe0, 0xf0]]) =
        .error .tryFromSlice := by
    decide +kernel
  rw [made] at panics
  cases rust.symm.trans panics

end MsgSplitter

end TgWsProxy.Rust
