import TgWsProxy.Python.Bridge
import TgWsProxy.Python.FakeTlsStream

/-!
# What the Python bridge sends at the end of the client's stream

`tcp_to_ws` flushes its splitter when `reader.read` returns no data.  A plain
`StreamReader` does so at the end of the stream.  A `FakeTlsStream` reads the
next header with `readexactly`, which raises there.
-/

namespace TgWsProxy.Python

open Lib

/-- The reader of a session: that of the connection, or a Fake-TLS stream on
it. -/
inductive ClientReader where
  | plain (reader : StreamReader)
  | fakeTls (stream : FakeTlsStream)

/-- `reader.read(n)`. -/
def ClientReader.read (n : Nat) : ClientReader →
    Except IncompleteReadError (Bytes × ClientReader)
  | .plain reader => .ok ((reader.read n).1, .plain (reader.read n).2)
  | .fakeTls stream =>
      match stream.read n with
      | .error error => .error error
      | .ok (data, stream) => .ok (data, .fakeTls stream)

/-- A bridge with the reader of its client. -/
structure ClientBridge where
  bridge : RecordedBridge
  reader : ClientReader

inductive ClientBridgeEvent where
  /-- The call of `reader.read` returns or raises. -/
  | readReturns (aboveHighWater : Bool)
  | other (event : BridgeEvent)
deriving DecidableEq, Repr

namespace ClientBridge

/-- The exception of a read ends `tcp_to_ws`. -/
def step (crypto : Primitives) (s : ClientBridge) :
    ClientBridgeEvent → ClientBridge
  | .readReturns aboveHighWater =>
      if s.bridge.up = .reading then
        match s.reader.read 65536 with
        | .error _ => { s with bridge := s.bridge.step crypto .clientFails }
        | .ok (chunk, reader) =>
            ⟨s.bridge.step crypto (.clientRead chunk aboveHighWater), reader⟩
      else s
  | .other event => { s with bridge := s.bridge.step crypto event }

/-- The WebSocket stays open and is written to without errors, and `tcp_to_ws`
is not cancelled. -/
def Healthy (s : ClientBridge) : ClientBridgeEvent → Prop
  | .readReturns _ => True
  | .other (.clientRead _ _) => False
  | .other .clientFails => False
  | .other (.upDrained succeeds) => succeeds = true
  | .other (.wsFrame opcode _ _) => opcode ≠ opClose
  | .other .wsFails => False
  | .other (.downDrained _) => True
  | .other .cancelTasks => s.bridge.up = .finished
  | .other .close => s.bridge.up = .finished

end ClientBridge

/-- What is left of the client's stream when the bridge starts.  In Fake-TLS
mode the stream ends with a record; of the first ones, some bytes are in
`_read_buf`, and some are the rest of the record which is being read. -/
inductive ClientInput where
  | plain (stream : Bytes)
  | fakeTls (buffered current : Bytes) (records : List WireRecord)

namespace ClientInput

def reader (arrived : Nat → Nat) : ClientInput → ClientReader
  | .plain stream => .plain ⟨stream, arrived⟩
  | .fakeTls buffered current records =>
      .fakeTls ⟨⟨current ++ encodeRecords records, arrived⟩, buffered,
        current.length⟩

/-- What the reader can return. -/
def clientBytes : ClientInput → Bytes
  | .plain stream => stream
  | .fakeTls buffered current records => buffered ++ current ++ appData records

/-- The last read returns no data, and does not raise. -/
def EndsEmpty : ClientInput → Prop
  | .plain _ => True
  | .fakeTls _ _ records => ∃ record ∈ records, record.EndsReading

end ClientInput

section Records

variable {record : WireRecord} {records : List WireRecord}

/-- The next record with data. -/
theorem readRecord_some (arrived : Nat → Nat) (some : appData records ≠ []) :
    ∃ data rest later next,
      readRecord ⟨encodeRecords records, arrived⟩ =
        .ok (data, rest.length, ⟨rest ++ encodeRecords later, next⟩) ∧
      appData records = data ++ (rest ++ appData later) ∧ data ≠ [] ∧
      ((∃ record ∈ later, record.EndsReading) ↔
        ∃ record ∈ records, record.EndsReading) := by
  induction records with
  | nil => exact absurd rfl some
  | cons record records induction =>
      by_cases ccs : record.rtype = tlsRecordCcs
      · have skipped : appData (record :: records) = appData records :=
          if_pos ccs
        have goesOn : ¬ record.EndsReading := fun ends => ends.1 ccs
        rw [skipped] at some ⊢
        obtain ⟨data, rest, later, next, read, split, nonempty, ends⟩ :=
          induction some
        refine ⟨data, rest, later, next, ?_, split, nonempty, ?_⟩
        · rw [encodeRecords_cons, readRecord_ccs ccs, read]
        · rw [ends]
          simp [goesOn]
      · by_cases goesOn : record.EndsReading
        · exact absurd ((if_neg ccs).trans (if_pos goesOn)) some
        · obtain ⟨data, rest, next, read, body, nonempty⟩ :=
            readRecord_data ccs goesOn (encodeRecords records) arrived
          rw [← encodeRecords_cons] at read
          have front : appData (record :: records) =
              record.body ++ appData records :=
            (if_neg ccs).trans (if_neg goesOn)
          refine ⟨data, rest, records, next, read, ?_, nonempty, ?_⟩
          · rw [front, body, List.append_assoc]
          · simp [goesOn]

/-- Behind the last record with data, the next read returns nothing or
raises. -/
theorem readRecord_none (arrived : Nat → Nat) (none : appData records = []) :
    ((∃ record ∈ records, record.EndsReading) →
      ∃ readLeft reader, readRecord ⟨encodeRecords records, arrived⟩ =
        .ok ([], readLeft, reader)) ∧
    ((¬ ∃ record ∈ records, record.EndsReading) →
      ∃ error, readRecord ⟨encodeRecords records, arrived⟩ =
        .error error) := by
  induction records with
  | nil =>
      refine ⟨?_, fun _ => ⟨_, readRecord_nil arrived⟩⟩
      rintro ⟨record, member, -⟩
      cases member
  | cons record records induction =>
      by_cases ccs : record.rtype = tlsRecordCcs
      · have skipped : appData (record :: records) = appData records :=
          if_pos ccs
        have goesOn : ¬ record.EndsReading := fun ends => ends.1 ccs
        rw [skipped] at none
        rw [encodeRecords_cons, readRecord_ccs ccs]
        simpa [goesOn] using induction none
      · by_cases ends : record.EndsReading
        · refine ⟨fun _ => ?_, fun never => ?_⟩
          · rw [encodeRecords_cons]
            exact readRecord_ends ends _ arrived
          · exact absurd ⟨record, List.mem_cons_self, ends⟩ never
        · have front : appData (record :: records) =
              record.body ++ appData records :=
            (if_neg ccs).trans (if_neg ends)
          obtain ⟨data, rest, -, -, body, nonempty⟩ :=
            readRecord_data ccs ends (encodeRecords records) arrived
          rw [front, body] at none
          exact absurd (List.append_eq_nil_iff.mp
            (List.append_eq_nil_iff.mp none).1).1 nonempty

end Records

namespace ClientInput

variable {input : ClientInput}

/-- The payload is what comes first in the current record, or in the next one
with data. -/
theorem readTlsPayload_some (arrived : Nat → Nat) {current : Bytes}
    {records : List WireRecord} (some : current ++ appData records ≠ []) :
    ∃ payload rest later next,
      FakeTlsStream.readTlsPayload ⟨⟨current ++ encodeRecords records, arrived⟩,
          [], current.length⟩ =
        .ok (payload, rest.length, ⟨rest ++ encodeRecords later, next⟩) ∧
      current ++ appData records = payload ++ (rest ++ appData later) ∧
      payload ≠ [] ∧
      ((∃ record ∈ later, record.EndsReading) ↔
        ∃ record ∈ records, record.EndsReading) := by
  unfold FakeTlsStream.readTlsPayload
  by_cases inRecord : 0 < current.length
  · obtain ⟨payload, rest, next, read, body, nonempty, -⟩ :=
      StreamReader.read_inside (encodeRecords records) arrived inRecord
        (Nat.le_refl _)
    have remaining : current.length - payload.length = rest.length := by
      rw [body, List.length_append, Nat.add_sub_cancel_left]
    simp only [if_pos inRecord, read, remaining]
    refine ⟨payload, rest, records, next, rfl, ?_, nonempty, Iff.rfl⟩
    rw [body, List.append_assoc]
  · obtain rfl : current = [] :=
      List.eq_nil_of_length_eq_zero (Nat.eq_zero_of_not_pos inRecord)
    simp only [if_neg inRecord, List.nil_append] at some ⊢
    exact readRecord_some arrived some

/-- While there is data, a read returns some of it. -/
theorem read_some (arrived : Nat → Nat) (some : input.clientBytes ≠ []) :
    ∃ piece later next,
      (input.reader arrived).read 65536 = .ok (piece, reader next later) ∧
      input.clientBytes = piece ++ later.clientBytes ∧ piece ≠ [] ∧
      (later.EndsEmpty ↔ input.EndsEmpty) := by
  cases input with
  | plain stream =>
      refine ⟨_, .plain _, _, rfl, (List.take_append_drop _ _).symm, ?_,
        Iff.rfl⟩
      have positive : 0 < stream.length := List.length_pos_of_ne_nil some
      apply List.ne_nil_of_length_pos
      change 0 < (stream.take (min 65536 (max 1 (arrived 0)))).length
      rw [List.length_take]
      omega
  | fakeTls buffered current records =>
      by_cases empty : buffered = []
      · subst empty
        rw [clientBytes, List.nil_append] at some ⊢
        obtain ⟨payload, rest, later, next, read, split, nonempty, ends⟩ :=
          readTlsPayload_some arrived some
        have positive := List.length_pos_of_ne_nil nonempty
        simp only [reader, ClientReader.read, FakeTlsStream.read, read, bind,
          Except.bind, pure, Except.pure, if_neg nonempty, ne_eq,
          not_true_eq_false, if_false, List.nil_append]
        by_cases longer : 65536 < payload.length
        · simp only [if_pos longer]
          refine ⟨payload.take 65536,
            .fakeTls (payload.drop 65536) rest later, next, rfl, ?_, ?_, ends⟩
          · rw [split, clientBytes, ← List.append_assoc, ← List.append_assoc,
              ← List.append_assoc, List.take_append_drop]
          · apply List.ne_nil_of_length_pos
            rw [List.length_take]
            omega
        · simp only [if_neg longer]
          refine ⟨payload, .fakeTls [] rest later, next, rfl, split, nonempty,
            ends⟩
      · simp only [reader, ClientReader.read, FakeTlsStream.read, if_pos empty]
        refine ⟨buffered.take 65536,
          .fakeTls (buffered.drop 65536) current records, arrived, rfl, ?_, ?_,
          Iff.rfl⟩
        · rw [clientBytes, clientBytes, ← List.append_assoc,
            ← List.append_assoc, List.take_append_drop]
        · have positive := List.length_pos_of_ne_nil empty
          apply List.ne_nil_of_length_pos
          rw [List.length_take]
          omega

/-- At its end, a read returns nothing or raises. -/
theorem read_none (arrived : Nat → Nat) (none : input.clientBytes = []) :
    (input.EndsEmpty →
      ∃ later, (input.reader arrived).read 65536 = .ok ([], later)) ∧
    (¬ input.EndsEmpty →
      ∃ error, (input.reader arrived).read 65536 = .error error) := by
  cases input with
  | plain stream =>
      obtain rfl : stream = [] := none
      refine ⟨fun _ => ?_, fun never => absurd trivial never⟩
      refine ⟨.plain ⟨[], fun index => arrived (index + 1)⟩, ?_⟩
      simp [reader, ClientReader.read, StreamReader.read]
  | fakeTls buffered current records =>
      obtain ⟨front, noData⟩ := List.append_eq_nil_iff.mp none
      obtain ⟨rfl, rfl⟩ := List.append_eq_nil_iff.mp front
      obtain ⟨empty, raises⟩ := readRecord_none arrived noData
      simp only [EndsEmpty, reader, ClientReader.read, FakeTlsStream.read,
        FakeTlsStream.readTlsPayload, List.length_nil, Nat.lt_irrefl, if_false,
        List.nil_append, ne_eq, not_true_eq_false]
      constructor
      · intro ends
        obtain ⟨readLeft, reader, read⟩ := empty ends
        simp [read, bind, Except.bind, pure, Except.pure]
      · intro never
        obtain ⟨error, read⟩ := raises never
        simp [read, bind, Except.bind]

end ClientInput

namespace ClientBridge

/-- The stream ends with a packet, or the splitter has disabled itself. -/
def EndsWhole (crypto : Primitives) (session : CryptoCtx) (relayInit : Bytes)
    (proto : Nat) (stream : Bytes) : Prop :=
  (MsgSplitter.parseFed crypto relayInit proto
      (reencryptedUp crypto session stream)).stopped = true ∨
    (MsgSplitter.parseFed crypto relayInit proto
      (reencryptedUp crypto session stream)).rest = []

/-- The reader has returned what the bridge has read, and has the rest. -/
def Reads (input : ClientInput) (s : ClientBridge) : Prop :=
  ∃ left : ClientInput, ∃ arrived, s.reader = left.reader arrived ∧
    s.bridge.read ++ left.clientBytes = input.clientBytes ∧
    (left.EndsEmpty ↔ input.EndsEmpty)

/-- Until `tcp_to_ws` has come to the end of the stream it can send; from then
on its splitter is empty if it was flushed or held nothing. -/
structure Flushing (crypto : Primitives) (session : CryptoCtx)
    (relayInit : Bytes) (proto : Nat) (input : ClientInput)
    (s : ClientBridge) : Prop where
  upward : ∃ returned splitter,
    s.bridge.UpFaithful crypto session relayInit proto s.bridge.read returned
      splitter
  active : s.bridge.up = .reading ∨ s.bridge.up = .draining →
    s.bridge.ws.closed = false ∧ Reads input s
  settled : s.bridge.up = .drainingTail ∨ s.bridge.up = .finished →
    s.bridge.read = input.clientBytes ∧
      (s.bridge.pending = [] ↔ input.EndsEmpty ∨
        EndsWhole crypto session relayInit proto input.clientBytes)

section Flushing

variable {crypto : Primitives} {session : CryptoCtx} {relayInit : Bytes}
  {proto : Nat} {input : ClientInput} {s : ClientBridge} {bridge : Bridge}
  {read : Bytes} {returned : List Bytes} {splitter : MsgSplitter}
  {chunk : Bytes}

/-- After the flush nothing is pending, and `tcp_to_ws` does not read again. -/
theorem flushTail_settled
    (up : bridge.UpFaithful crypto session relayInit proto read returned
      splitter)
    (opened : bridge.ws.closed = false) :
    (bridge.flushTail.up = .drainingTail ∨ bridge.flushTail.up = .finished) ∧
      bridge.flushTail.pending = [] := by
  unfold Bridge.flushTail
  rw [up.splitter_eq]
  by_cases nothing : splitter.cipherBuf = []
  · have flushed : splitter.flush = ([], splitter) := if_pos nothing
    simp only [flushed]
    exact ⟨Or.inr trivial, nothing⟩
  · have flushed : splitter.flush = ([splitter.cipherBuf],
        { splitter with cipherBuf := [], plainBuf := [] }) := if_neg nothing
    have sent : bridge.ws.send splitter.cipherBuf = .ok { bridge.ws with
        frames := bridge.ws.frames ++ [(opBinary, splitter.cipherBuf)] } := by
      rw [RawWebSocket.send, if_neg (by simp [opened])]
    simp only [flushed, sent, Bridge.sendOrFinish]
    exact ⟨Or.inl trivial, rfl⟩

/-- What happens outside `tcp_to_ws` leaves its half alone. -/
structure KeepsUp (before after : Bridge) : Prop where
  up : after.up = before.up
  pending : after.pending = before.pending
  opened : before.up ≠ .finished → before.ws.closed = false →
    after.ws.closed = false

theorem wsToTcp_keepsUp (bridge : Bridge) {opcode : Nat}
    (notClose : opcode ≠ opClose) (payload : Bytes) (aboveHighWater : Bool) :
    KeepsUp bridge (bridge.wsToTcp crypto opcode payload aboveHighWater) := by
  simp only [Bridge.wsToTcp, if_neg notClose, AesCtr.update_eq]
  split
  · exact ⟨rfl, rfl, fun _ => id⟩
  · split
    · split
      · exact ⟨rfl, rfl, fun _ => id⟩
      · exact ⟨rfl, rfl, fun _ => id⟩
    · exact ⟨rfl, rfl, fun _ => id⟩

theorem Flushing.of_keepsUp
    (flushing : Flushing crypto session relayInit proto input s)
    (kept : KeepsUp s.bridge.toBridge bridge)
    (upward : ∀ returned splitter,
      s.bridge.UpFaithful crypto session relayInit proto s.bridge.read returned
        splitter →
      bridge.UpFaithful crypto session relayInit proto s.bridge.read returned
        splitter)
    (received : Bytes) :
    Flushing crypto session relayInit proto input
      ⟨⟨bridge, s.bridge.read, received⟩, s.reader⟩ := by
  obtain ⟨returned, splitter, up⟩ := flushing.upward
  refine ⟨⟨returned, splitter, upward returned splitter up⟩, ?_, ?_⟩
  · intro active
    simp only [kept.up] at active
    obtain ⟨opened, left, arrived, reader, split, ends⟩ :=
      flushing.active active
    have unfinished : s.bridge.up ≠ .finished := by
      rcases active with reading | draining
      · rw [reading]
        exact fun finished => by cases finished
      · rw [draining]
        exact fun finished => by cases finished
    exact ⟨kept.opened unfinished opened, left, arrived, reader, split, ends⟩
  · intro settled
    simp only [kept.up] at settled
    simp only [kept.pending]
    exact flushing.settled settled

/-- A read returns a chunk. -/
theorem Flushing.returns
    (flushing : Flushing crypto session relayInit proto input s)
    (reading : s.bridge.up = .reading) {left : ClientInput}
    {arrived : Nat → Nat} (some : chunk ≠ [])
    (split : s.bridge.read ++ chunk ++ left.clientBytes = input.clientBytes)
    (ends : left.EndsEmpty ↔ input.EndsEmpty) (aboveHighWater : Bool) :
    Flushing crypto session relayInit proto input
      ⟨⟨s.bridge.tcpToWs crypto chunk aboveHighWater, s.bridge.read ++ chunk,
        s.bridge.received⟩, left.reader arrived⟩ := by
  obtain ⟨returned, splitter, up⟩ := flushing.upward
  have opened := (flushing.active (Or.inl reading)).1
  obtain ⟨goesOn, stillOpened, -⟩ :=
    Bridge.tcpToWs_active up reading opened some aboveHighWater
  refine ⟨up.tcpToWs reading opened chunk aboveHighWater, ?_, ?_⟩
  · intro _
    exact ⟨stillOpened, left, arrived, rfl, split, ends⟩
  · intro settled
    exfalso
    rcases goesOn with reads | drains
    · simp [reads] at settled
    · simp [drains] at settled

/-- A read returns no data. -/
theorem Flushing.eof
    (flushing : Flushing crypto session relayInit proto input s)
    (reading : s.bridge.up = .reading)
    (all : s.bridge.read = input.clientBytes) (ends : input.EndsEmpty)
    (reader : ClientReader) (aboveHighWater : Bool) :
    Flushing crypto session relayInit proto input
      ⟨⟨s.bridge.tcpToWs crypto [] aboveHighWater, s.bridge.read ++ [],
        s.bridge.received⟩, reader⟩ := by
  obtain ⟨returned, splitter, up⟩ := flushing.upward
  have opened := (flushing.active (Or.inl reading)).1
  have flushed : s.bridge.tcpToWs crypto [] aboveHighWater =
      s.bridge.flushTail := if_pos rfl
  obtain ⟨stops, pending⟩ := flushTail_settled up opened
  rw [flushed, List.append_nil]
  refine ⟨up.flushTail opened, ?_, ?_⟩
  · intro active
    exfalso
    rcases stops with drains | finished
    · simp [drains] at active
    · simp [finished] at active
  · intro _
    exact ⟨all, iff_of_true pending (Or.inl ends)⟩

/-- A read raises. -/
theorem Flushing.raises
    (flushing : Flushing crypto session relayInit proto input s)
    (reading : s.bridge.up = .reading)
    (all : s.bridge.read = input.clientBytes) (never : ¬ input.EndsEmpty) :
    Flushing crypto session relayInit proto input
      ⟨{ s.bridge with up := .finished }, s.reader⟩ := by
  obtain ⟨returned, splitter, up⟩ := flushing.upward
  obtain ⟨-, -, follows⟩ := up.running (.inl reading)
  refine ⟨⟨returned, splitter, up.payloads, up.splitter_eq, up.conserved, ?_⟩,
    ?_, ?_⟩
  · rintro (active | active)
    · cases active
    · cases active
  · rintro (active | active)
    · cases active
    · cases active
  · intro _
    refine ⟨all, ?_⟩
    have pending : Bridge.pending { s.bridge.toBridge with up := .finished } =
        splitter.cipherBuf := by
      simp only [Bridge.pending, up.splitter_eq]
    rw [pending, or_iff_right never, EndsWhole, ← all]
    exact follows.holds_nothing_iff

theorem Flushing.readReturns
    (flushing : Flushing crypto session relayInit proto input s)
    (aboveHighWater : Bool) :
    Flushing crypto session relayInit proto input
      (s.step crypto (.readReturns aboveHighWater)) := by
  simp only [step]
  split
  · rename_i reading
    obtain ⟨opened, left, arrived, reader, split, ends⟩ :=
      flushing.active (Or.inl reading)
    simp only [RecordedBridge.step, Bridge.step, if_pos reading, reader]
    by_cases none : left.clientBytes = []
    · have all : s.bridge.read = input.clientBytes := by
        rw [← split, none, List.append_nil]
      obtain ⟨empty, raises⟩ := ClientInput.read_none arrived none
      by_cases endsEmpty : left.EndsEmpty
      · obtain ⟨later, read⟩ := empty endsEmpty
        rw [read]
        exact flushing.eof reading all (ends.mp endsEmpty) later aboveHighWater
      · obtain ⟨error, read⟩ := raises endsEmpty
        rw [read]
        have raised := flushing.raises reading all fun empty =>
          endsEmpty (ends.mpr empty)
        rwa [reader] at raised
    · obtain ⟨piece, later, next, read, front, some, sameEnds⟩ :=
        ClientInput.read_some arrived none
      rw [read]
      apply flushing.returns reading some
      · rw [List.append_assoc, ← front, split]
      · exact sameEnds.trans ends
  · exact flushing

theorem Flushing.resumes
    (flushing : Flushing crypto session relayInit proto input s)
    (draining : s.bridge.up = .draining) :
    Flushing crypto session relayInit proto input
      ⟨{ s.bridge with up := .reading }, s.reader⟩ := by
  obtain ⟨returned, splitter, up⟩ := flushing.upward
  refine ⟨⟨returned, splitter, up.payloads, up.splitter_eq, up.conserved,
    fun _ => up.running (Or.inr draining)⟩, ?_, ?_⟩
  · intro _
    exact flushing.active (Or.inr draining)
  · rintro (settled | settled)
    · cases settled
    · cases settled

theorem Flushing.finishes
    (flushing : Flushing crypto session relayInit proto input s)
    (draining : s.bridge.up = .drainingTail) :
    Flushing crypto session relayInit proto input
      ⟨{ s.bridge with up := .finished }, s.reader⟩ := by
  obtain ⟨returned, splitter, up⟩ := flushing.upward
  refine ⟨⟨returned, splitter, up.payloads, up.splitter_eq, up.conserved, ?_⟩,
    ?_, ?_⟩
  · rintro (active | active)
    · cases active
    · cases active
  · rintro (active | active)
    · cases active
    · cases active
  · intro _
    exact flushing.settled (Or.inl draining)

theorem Flushing.step {event : ClientBridgeEvent}
    (flushing : Flushing crypto session relayInit proto input s)
    (healthy : s.Healthy event) :
    Flushing crypto session relayInit proto input (s.step crypto event) := by
  have tasks (down : DownTask) (main : MainTask) (received : Bytes) :
      Flushing crypto session relayInit proto input
        ⟨⟨{ s.bridge.toBridge with down, main }, s.bridge.read, received⟩,
          s.reader⟩ := by
    have kept : KeepsUp s.bridge.toBridge
        { s.bridge.toBridge with down, main } := ⟨rfl, rfl, fun _ => id⟩
    apply flushing.of_keepsUp kept
    intro _ _ up
    exact ⟨up.payloads, up.splitter_eq, up.conserved, up.running⟩
  cases event with
  | readReturns aboveHighWater => exact flushing.readReturns aboveHighWater
  | other event =>
      cases event with
      | clientRead chunk aboveHighWater => exact healthy.elim
      | clientFails => exact healthy.elim
      | wsFails => exact healthy.elim
      | upDrained succeeds =>
          obtain rfl : succeeds = true := healthy
          simp only [ClientBridge.step, RecordedBridge.step, Bridge.step]
          split
          · rename_i draining
            exact flushing.resumes draining
          · split
            · rename_i draining
              exact flushing.finishes draining
            · exact flushing
      | wsFrame opcode payload aboveHighWater =>
          simp only [ClientBridge.step, RecordedBridge.step, Bridge.step]
          split
          · exact flushing.of_keepsUp
              (wsToTcp_keepsUp s.bridge.toBridge healthy _ _)
              (fun _ _ up => up.wsToTcp opcode payload aboveHighWater) _
          · exact tasks _ _ _
      | downDrained succeeds =>
          simp only [ClientBridge.step, RecordedBridge.step, Bridge.step]
          split
          · exact tasks _ _ _
          · exact tasks _ _ _
          · split
            · exact tasks _ _ _
            · exact tasks _ _ _
          · exact flushing
          · exact flushing
      | cancelTasks =>
          simp only [ClientBridge.step, RecordedBridge.step, Bridge.step]
          split
          · rw [← (healthy : s.bridge.up = .finished)]
            exact tasks _ _ _
          · exact flushing
      | close =>
          have finished : s.bridge.up = .finished := healthy
          simp only [ClientBridge.step, RecordedBridge.step, Bridge.step]
          split
          · apply flushing.of_keepsUp
            · exact ⟨rfl, rfl, fun unfinished => absurd finished unfinished⟩
            · intro _ _ up
              exact ⟨up.payloads, up.splitter_eq, up.conserved, up.running⟩
          · exact flushing

end Flushing

/-- The frames behind the relay header carry all which was read. -/
def SentAll (crypto : Primitives) (session : CryptoCtx) (relayInit : Bytes)
    (s : ClientBridge) : Prop :=
  ∃ sent, s.bridge.ws.payloads = relayInit :: sent ∧
    sent.flatten = reencryptedUp crypto session s.bridge.read

theorem start_flushing (crypto : Primitives) {handshake relayInit : Bytes}
    (secret : Bytes) {request : ClientRequest}
    (keys : request.decPrekeyIv = slice handshake 8 56)
    (handshakeSize : 56 ≤ handshake.length)
    (relaySize : 56 ≤ relayInit.length) (input : ClientInput)
    (arrived : Nat → Nat) :
    ∃ start, Bridge.start crypto request secret relayInit = .ok start ∧
      Flushing crypto (sessionCiphers crypto secret handshake relayInit)
        relayInit (protoIntOfTag request.protoTag) input
        ⟨⟨start, [], []⟩, input.reader arrived⟩ := by
  obtain ⟨start, started, faithful, reading, -, opened⟩ :=
    Bridge.start_faithful crypto secret keys handshakeSize relaySize
  refine ⟨start, started, faithful.upward opened, ?_, ?_⟩
  · intro _
    exact ⟨opened, input, arrived, rfl, List.nil_append _, Iff.rfl⟩
  · simp [reading]

end ClientBridge

/-- When `tcp_to_ws` has ended with the client's stream, all which was read is
sent if and only if the last read returned no data, or the splitter held
nothing. -/
theorem sends_tail_iff (crypto : Primitives)
    {handshake secret relayInit : Bytes} {request : ClientRequest}
    (handshakeSize : handshake.length = 64)
    (accepted : tryHandshake crypto handshake secret = .ok (some request))
    (relaySize : relayInit.length = 64) (input : ClientInput)
    (arrived : Nat → Nat) :
    ∃ start, Bridge.start crypto request secret relayInit = .ok start ∧
      ∀ events,
        AllSteps (ClientBridge.step crypto) ClientBridge.Healthy
          ⟨⟨start, [], []⟩, input.reader arrived⟩ events →
        let s := run (ClientBridge.step crypto)
          ⟨⟨start, [], []⟩, input.reader arrived⟩ events
        s.bridge.up = .finished →
          s.bridge.read = input.clientBytes ∧
          (s.SentAll crypto (sessionCiphers crypto secret handshake relayInit)
              relayInit ↔
            input.EndsEmpty ∨
              ClientBridge.EndsWhole crypto
                (sessionCiphers crypto secret handshake relayInit) relayInit
                (protoIntOfTag request.protoTag) input.clientBytes) := by
  rw [tryHandshake_eq crypto secret handshakeSize, Except.ok.injEq] at accepted
  obtain ⟨-, request_eq⟩ := requestOf_eq_some accepted
  have keys : request.decPrekeyIv = slice handshake 8 56 := by
    rw [request_eq]
  obtain ⟨start, started, initial⟩ := @ClientBridge.start_flushing crypto
    handshake relayInit secret request keys (by omega) (by omega) input arrived
  refine ⟨start, started, ?_⟩
  intro events healthy s finished
  have flushing : ClientBridge.Flushing crypto
      (sessionCiphers crypto secret handshake relayInit) relayInit
      (protoIntOfTag request.protoTag) input s :=
    AllSteps.invariant (fun _ _ => ClientBridge.Flushing.step) initial healthy
  obtain ⟨read, held⟩ := flushing.settled (Or.inr finished)
  obtain ⟨returned, splitter, up⟩ := flushing.upward
  refine ⟨read, ?_⟩
  have pending : s.bridge.pending = splitter.cipherBuf := by
    rw [Bridge.pending, up.splitter_eq]
  rw [← held, pending]
  constructor
  · rintro ⟨sent, payloads, all⟩
    obtain ⟨-, rfl⟩ := List.cons.inj (up.payloads.symm.trans payloads)
    exact List.append_right_eq_self.mp (up.conserved.trans all.symm)
  · intro none
    refine ⟨returned, up.payloads, ?_⟩
    rw [← up.conserved, none, List.append_nil]

/-- The client sends one application-data record with the first byte of an
intermediate header. -/
def cutHeaderInput : ClientInput :=
  .fakeTls [] [] [⟨0x17, 0x03, 0x03, [0x00], by decide⟩]

def cutHeaderReads : List ClientBridgeEvent :=
  [.readReturns false, .readReturns false]

theorem cutHeader_run :
    ∃ start, Bridge.start recordedCrypto
        ⟨2, true, protoTagIntermediate, slice recordedHandshake 8 56⟩
        recordedSecret recordedDraw = .ok start ∧
      let s := run (ClientBridge.step recordedCrypto)
        ⟨⟨start, [], []⟩, cutHeaderInput.reader fun _ => 1⟩ cutHeaderReads
      s.bridge.up = .finished ∧ s.bridge.read = [0x00] ∧
        s.bridge.ws.payloads = [recordedDraw] := by
  have computed : (Bridge.start recordedCrypto
      ⟨2, true, protoTagIntermediate, slice recordedHandshake 8 56⟩
      recordedSecret recordedDraw).map (fun start =>
        let s := run (ClientBridge.step recordedCrypto)
          ⟨⟨start, [], []⟩, cutHeaderInput.reader fun _ => 1⟩ cutHeaderReads
        (s.bridge.up, s.bridge.read, s.bridge.ws.payloads)) =
      .ok (.finished, [0x00], [recordedDraw]) := by
    decide +kernel
  cases started : Bridge.start recordedCrypto
      ⟨2, true, protoTagIntermediate, slice recordedHandshake 8 56⟩
      recordedSecret recordedDraw with
  | error error =>
      rw [started] at computed
      cases computed
  | ok start =>
      rw [started] at computed
      obtain ⟨finished, others⟩ := Prod.mk.inj (Except.ok.inj computed)
      obtain ⟨read, payloads⟩ := Prod.mk.inj others
      exact ⟨start, rfl, finished, read, payloads⟩

theorem sends_tail_iff_cutHeader :
    ∃ start, Bridge.start recordedCrypto
        ⟨2, true, protoTagIntermediate, slice recordedHandshake 8 56⟩
        recordedSecret recordedDraw = .ok start ∧
      let s := run (ClientBridge.step recordedCrypto)
        ⟨⟨start, [], []⟩, cutHeaderInput.reader fun _ => 1⟩ cutHeaderReads
      s.bridge.up = .finished ∧ s.bridge.read = cutHeaderInput.clientBytes ∧
        (s.SentAll recordedCrypto (sessionCiphers recordedCrypto
            recordedSecret recordedHandshake recordedDraw) recordedDraw ↔
          cutHeaderInput.EndsEmpty ∨
            ClientBridge.EndsWhole recordedCrypto (sessionCiphers
              recordedCrypto recordedSecret recordedHandshake recordedDraw)
              recordedDraw (protoIntOfTag protoTagIntermediate)
              cutHeaderInput.clientBytes) := by
  obtain ⟨start, started, finished, -, -⟩ := cutHeader_run
  obtain ⟨start', started', always⟩ :=
    @sends_tail_iff recordedCrypto recordedHandshake recordedSecret recordedDraw
      ⟨2, true, protoTagIntermediate, slice recordedHandshake 8 56⟩
      (by decide +kernel) (by decide +kernel) (by decide +kernel)
      cutHeaderInput fun _ => 1
  cases started.symm.trans started'
  exact ⟨start, started, finished,
    always cutHeaderReads ⟨trivial, trivial, trivial⟩ finished⟩

/-- The read behind the record raises, and the byte is not sent. -/
theorem cutHeader_not_flushed :
    ∃ start, Bridge.start recordedCrypto
        ⟨2, true, protoTagIntermediate, slice recordedHandshake 8 56⟩
        recordedSecret recordedDraw = .ok start ∧
      AllSteps (ClientBridge.step recordedCrypto) ClientBridge.Healthy
        ⟨⟨start, [], []⟩, cutHeaderInput.reader fun _ => 1⟩ cutHeaderReads ∧
      let s := run (ClientBridge.step recordedCrypto)
        ⟨⟨start, [], []⟩, cutHeaderInput.reader fun _ => 1⟩ cutHeaderReads
      s.bridge.up = .finished ∧ s.bridge.read = [0x00] ∧
        ¬ s.SentAll recordedCrypto (sessionCiphers recordedCrypto
          recordedSecret recordedHandshake recordedDraw) recordedDraw := by
  obtain ⟨start, started, finished, read, payloads⟩ := cutHeader_run
  refine ⟨start, started, ⟨trivial, trivial, trivial⟩, finished, read, ?_⟩
  rintro ⟨sent, behind, all⟩
  obtain ⟨-, rfl⟩ := List.cons.inj (payloads.symm.trans behind)
  have lengths := congrArg List.length all
  rw [reencryptedUp, AesCtr.length_apply, AesCtr.length_apply, read] at lengths
  cases lengths

end TgWsProxy.Python
