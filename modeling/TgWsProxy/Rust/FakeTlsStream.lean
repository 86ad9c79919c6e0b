import TgWsProxy.Bytes
import TgWsProxy.Lib.Runs
import Mathlib.Algebra.GroupWithZero.Nat

/-!
# The Fake-TLS reader

`FakeTlsStream::poll_read` of `fake_tls.rs` unwraps TLS records.  It reads each
header and each body by one poll of the underlying stream and keeps no state
between the two, so what it does depends on how the stream is cut into reads.
-/

namespace TgWsProxy.Rust

open Lib

inductive ErrorKind where
  | unexpectedEof
  | invalidData
deriving DecidableEq, Repr

structure IoError where
  kind : ErrorKind
  message : String
deriving DecidableEq, Repr

/-- A read poll: the bytes put into the buffer once it is ready. -/
inductive ReadPoll where
  | pending
  | failed (error : IoError)
  | ready (bytes : Bytes)
deriving DecidableEq, Repr

/-- What one read of the underlying stream meets. -/
inductive Arrival where
  | pending
  | failure (error : IoError)
  | data (bytes : Bytes)
deriving DecidableEq, Repr

/-- The underlying stream: what is still to arrive, and whether a read has
reported its end. -/
structure Source where
  arrivals : List Arrival
  ended : Bool
deriving DecidableEq, Repr

namespace Source

/-- `poll_read` of the underlying stream with room for `capacity` bytes. -/
def poll (capacity : Nat) (source : Source) : ReadPoll × Source :=
  match source.arrivals with
  | [] => (.ready [], { source with ended := true })
  | .pending :: later => (.pending, { source with arrivals := later })
  | .failure error :: later =>
      (.failed error, { source with arrivals := later })
  | .data bytes :: later =>
      (.ready (bytes.take capacity),
        { source with
          arrivals :=
            if bytes.length ≤ capacity then later
            else .data (bytes.drop capacity) :: later })

def arrivalSize : Arrival → Nat
  | .pending | .failure _ => 0
  | .data bytes => bytes.length

/-- The number of bytes still to arrive. -/
def size (source : Source) : Nat := (source.arrivals.map arrivalSize).sum

theorem poll_size {capacity : Nat} {source later : Source} {result : ReadPoll}
    (polled : source.poll capacity = (result, later)) :
    later.size ≤ source.size ∧
      ∀ bytes, result = .ready bytes →
        later.size + bytes.length = source.size := by
  obtain ⟨arrivals, ended⟩ := source
  unfold poll at polled
  cases arrivals with
  | nil =>
      cases polled
      simp [size]
  | cons arrival arrivals =>
      cases arrival with
      | pending =>
          cases polled
          simp [size, arrivalSize]
      | failure error =>
          cases polled
          simp [size, arrivalSize]
      | data bytes =>
          cases polled
          by_cases fits : bytes.length ≤ capacity
          · simp [size, arrivalSize, fits, Nat.add_comm]
          · simp [size, arrivalSize, fits]
            omega

end Source

def hexDigit (value : Nat) : Char := "0123456789ABCDEF".toList.getD value '0'

/-- `{:02X}`. -/
def upperHex (byte : UInt8) : String :=
  String.ofList [hexDigit (byte.toNat / 16), hexDigit (byte.toNat % 16)]

/-- The outcome of reading one record. -/
inductive RecordPoll where
  | pending
  | failed (error : IoError)
  | record (recordType : UInt8) (body : Bytes)
deriving DecidableEq, Repr

/-- The two reads of `poll_read`, each a single poll of the stream. -/
def pollRecord (source : Source) : RecordPoll × Source :=
  match source.poll 5 with
  | (.pending, source) => (.pending, source)
  | (.failed error, source) => (.failed error, source)
  | (.ready hdr, source) =>
      if hdr.length < 5 then
        (.failed ⟨.unexpectedEof, "short TLS record header"⟩, source)
      else
        let len := beNat (slice hdr 3 5)
        match source.poll len with
        | (.pending, source) => (.pending, source)
        | (.failed error, source) => (.failed error, source)
        | (.ready body, source) =>
            if body.length < len then
              (.failed ⟨.unexpectedEof, "short TLS record body"⟩, source)
            else (.record (hdr.headD 0) body, source)

theorem pollRecord_size {source later : Source} {recordType : UInt8}
    {body : Bytes}
    (polled : pollRecord source = (.record recordType body, later)) :
    later.size < source.size := by
  unfold pollRecord at polled
  split at polled
  · cases polled
  · cases polled
  · rename_i hdr afterHeader header
    have headerSize := (Source.poll_size header).2 hdr rfl
    split at polled
    · cases polled
    · simp only at polled
      split at polled
      · cases polled
      · cases polled
      · rename_i read afterBody bodyRead
        have bodySize := (Source.poll_size bodyRead).1
        split at polled
        · cases polled
        · cases polled
          omega

structure FakeTlsStream where
  reader : Source
  buf : Bytes
deriving DecidableEq, Repr

/-- `poll_read`, for a buffer with room for `remaining` bytes. -/
def FakeTlsStream.pollRead (remaining : Nat) (s : FakeTlsStream) :
    ReadPoll × FakeTlsStream :=
  if s.buf ≠ [] then
    let n := min remaining s.buf.length
    (.ready (s.buf.take n), { s with buf := s.buf.drop n })
  else
    match _polled : pollRecord s.reader with
    | (.pending, reader) => (.pending, { s with reader })
    | (.failed error, reader) => (.failed error, { s with reader })
    | (.record recordType body, reader) =>
        if recordType = 0x17 then
          let n := min remaining body.length
          (.ready (body.take n), { reader, buf := body.drop n })
        else if recordType = 0x14 then pollRead remaining { s with reader }
        else
          (.failed ⟨.invalidData,
            "unexpected TLS record type 0x" ++ upperHex recordType⟩,
            { s with reader })
termination_by s.reader.size
decreasing_by exact pollRecord_size _polled

section PollRead

variable {remaining : Nat} {s : FakeTlsStream} {reader : Source}

theorem pollRead_buffered (stored : s.buf ≠ []) :
    s.pollRead remaining =
      (.ready (s.buf.take remaining),
        { s with buf := s.buf.drop remaining }) := by
  rw [FakeTlsStream.pollRead, if_pos stored, List.take_eq_take_min,
    List.drop_eq_drop_min]

theorem pollRead_pending (empty : s.buf = [])
    (polled : pollRecord s.reader = (.pending, reader)) :
    s.pollRead remaining = (.pending, { s with reader }) := by
  rw [FakeTlsStream.pollRead, if_neg (not_not_intro empty)]
  split <;> simp_all

theorem pollRead_failed (empty : s.buf = []) {error : IoError}
    (polled : pollRecord s.reader = (.failed error, reader)) :
    s.pollRead remaining = (.failed error, { s with reader }) := by
  rw [FakeTlsStream.pollRead, if_neg (not_not_intro empty)]
  split <;> simp_all

theorem pollRead_applicationData (empty : s.buf = []) {body : Bytes}
    (polled : pollRecord s.reader = (.record 0x17 body, reader)) :
    s.pollRead remaining =
      (.ready (body.take remaining),
        { reader, buf := body.drop remaining }) := by
  rw [FakeTlsStream.pollRead, if_neg (not_not_intro empty)]
  split <;> simp_all

theorem pollRead_changeCipherSpec (empty : s.buf = []) {body : Bytes}
    (polled : pollRecord s.reader = (.record 0x14 body, reader)) :
    s.pollRead remaining =
      FakeTlsStream.pollRead remaining { s with reader } := by
  rw [FakeTlsStream.pollRead, if_neg (not_not_intro empty)]
  split <;> simp_all

theorem pollRead_unexpected (empty : s.buf = []) {recordType : UInt8}
    {body : Bytes}
    (polled : pollRecord s.reader = (.record recordType body, reader))
    (notApplicationData : recordType ≠ 0x17)
    (notChangeCipherSpec : recordType ≠ 0x14) :
    ∃ error, s.pollRead remaining = (.failed error, { s with reader }) := by
  rw [FakeTlsStream.pollRead, if_neg (not_not_intro empty)]
  split <;> simp_all

end PollRead

inductive RecordKind where
  | applicationData
  | changeCipherSpec
deriving DecidableEq, Repr

def RecordKind.byte : RecordKind → UInt8
  | .applicationData => 0x17
  | .changeCipherSpec => 0x14

/-- A complete TLS record which the client may send. -/
structure TlsRecord where
  kind : RecordKind
  major : UInt8
  minor : UInt8
  body : Bytes
  fits : body.length < 65536
  nonempty : kind = .applicationData → body ≠ []

namespace TlsRecord

def header (record : TlsRecord) : Bytes :=
  [record.kind.byte, record.major, record.minor] ++
    natToBe 2 record.body.length

def encode (record : TlsRecord) : Bytes := record.header ++ record.body

/-- The bytes of a record which belong to the application. -/
def payload (record : TlsRecord) : Bytes :=
  match record.kind with
  | .applicationData => record.body
  | .changeCipherSpec => []

theorem length_header (record : TlsRecord) : record.header.length = 5 := by
  simp [header]

theorem header_len (record : TlsRecord) :
    beNat (slice record.header 3 5) = record.body.length := by
  have cut : slice record.header 3 5 = natToBe 2 record.body.length := by
    simp [slice, header]
  rw [cut]
  exact beNat_natToBe record.fits

end TlsRecord

/-- The application bytes of a sequence of records. -/
def payloads (records : List TlsRecord) : Bytes :=
  (records.map TlsRecord.payload).flatten

/-- Every header is returned whole by one read of the underlying stream and
every body by the next read; only before a header may a read be pending. -/
inductive WholeReads : List TlsRecord → Source → Prop where
  | ended (ended : Bool) : WholeReads [] ⟨[], ended⟩
  | pending {records : List TlsRecord} {later : List Arrival} {ended : Bool} :
      WholeReads records ⟨later, ended⟩ →
      WholeReads records ⟨.pending :: later, ended⟩
  | record {record : TlsRecord} {records : List TlsRecord}
      {source afterHeader afterBody : Source} :
      source.poll 5 = (.ready record.header, afterHeader) →
      afterHeader.poll record.body.length = (.ready record.body, afterBody) →
      WholeReads records afterBody →
      WholeReads (record :: records) source

theorem pollRecord_whole {record : TlsRecord}
    {source afterHeader afterBody : Source}
    (header : source.poll 5 = (.ready record.header, afterHeader))
    (body : afterHeader.poll record.body.length =
      (.ready record.body, afterBody)) :
    pollRecord source = (.record record.kind.byte record.body, afterBody) := by
  have whole : ¬ record.header.length < 5 := by
    rw [record.length_header]
    exact Nat.lt_irrefl 5
  simp only [pollRecord, header, if_neg whole, record.header_len, body,
    Nat.lt_irrefl, if_false]
  rfl

/-- The number of pending reads still to come. -/
def Source.pendings (source : Source) : Nat := source.arrivals.count .pending

theorem Source.poll_pendings {capacity : Nat} {source later : Source}
    {bytes : Bytes} (polled : source.poll capacity = (.ready bytes, later)) :
    later.pendings = source.pendings := by
  obtain ⟨arrivals, ended⟩ := source
  unfold poll at polled
  cases arrivals with
  | nil =>
      cases polled
      rfl
  | cons arrival arrivals =>
      cases arrival with
      | pending => cases polled
      | failure error => cases polled
      | data bytes =>
          cases polled
          by_cases fits : bytes.length ≤ capacity
          · simp [pendings, fits]
          · simp [pendings, fits]

/-- What one poll with an empty buffer does while the reads are whole. -/
inductive PollOutcome (capacity : Nat) (records : List TlsRecord)
    (source : Source) : ReadPoll × FakeTlsStream → Prop where
  | pending {later : Source} :
      WholeReads records later → later.pendings < source.pendings →
      PollOutcome capacity records source (.pending, ⟨later, []⟩)
  | ended {error : IoError} :
      payloads records = [] →
      PollOutcome capacity records source (.failed error, ⟨⟨[], true⟩, []⟩)
  | delivered {body : Bytes} {later : Source} {rest : List TlsRecord} :
      body ≠ [] → payloads records = body ++ payloads rest →
      WholeReads rest later → later.pendings ≤ source.pendings →
      PollOutcome capacity records source
        (.ready (body.take capacity), ⟨later, body.drop capacity⟩)

theorem payloads_cons (record : TlsRecord) (records : List TlsRecord) :
    payloads (record :: records) = record.payload ++ payloads records := rfl

theorem pollRead_whole {records : List TlsRecord} {source : Source}
    (whole : WholeReads records source) (capacity : Nat) :
    ∃ left, payloads left = payloads records ∧
      PollOutcome capacity left source
        (FakeTlsStream.pollRead capacity ⟨source, []⟩) := by
  induction whole with
  | ended ended =>
      have polled : pollRecord ⟨[], ended⟩ =
          (.failed ⟨.unexpectedEof, "short TLS record header"⟩,
            ⟨[], true⟩) := rfl
      refine ⟨[], rfl, ?_⟩
      rw [pollRead_failed rfl polled]
      exact .ended rfl
  | @pending records later ended whole =>
      have polled : pollRecord ⟨.pending :: later, ended⟩ =
          (.pending, ⟨later, ended⟩) := rfl
      refine ⟨records, rfl, ?_⟩
      rw [pollRead_pending rfl polled]
      exact .pending whole (by simp [Source.pendings])
  | @record record records source afterHeader afterBody header body whole
      induction =>
      have polled := pollRecord_whole header body
      have pendings : afterBody.pendings = source.pendings :=
        (Source.poll_pendings body).trans (Source.poll_pendings header)
      cases kind : record.kind with
      | applicationData =>
          rw [kind] at polled
          refine ⟨record :: records, rfl, ?_⟩
          rw [pollRead_applicationData rfl polled]
          refine .delivered (record.nonempty kind) ?_ whole
            (Nat.le_of_eq pendings)
          simp [payloads_cons, TlsRecord.payload, kind]
      | changeCipherSpec =>
          rw [kind] at polled
          obtain ⟨left, same, outcome⟩ := induction
          refine ⟨left, ?_, ?_⟩
          · simp [payloads_cons, TlsRecord.payload, kind, same]
          · have skipped : FakeTlsStream.pollRead capacity ⟨source, []⟩ =
                FakeTlsStream.pollRead capacity ⟨afterBody, []⟩ :=
              pollRead_changeCipherSpec rfl polled
            rw [skipped]
            generalize FakeTlsStream.pollRead capacity ⟨afterBody, []⟩ = result
              at outcome ⊢
            cases outcome with
            | pending later fewer => exact .pending later (pendings ▸ fewer)
            | ended nothing => exact .ended nothing
            | delivered nonempty split later fewer =>
                exact .delivered nonempty split later (pendings ▸ fewer)

/-- What repeated polls have made of the stream. -/
structure Transcript where
  stream : FakeTlsStream
  delivered : Bytes
  /-- A poll failed although the underlying stream had not ended. -/
  premature : Bool
deriving DecidableEq, Repr

/-- One more poll, with a buffer of the given size. -/
def Transcript.poll (t : Transcript) (capacity : Nat) : Transcript :=
  match t.stream.pollRead capacity with
  | (.pending, stream) => { t with stream }
  | (.ready bytes, stream) =>
      { t with stream, delivered := t.delivered ++ bytes }
  | (.failed _, stream) =>
      { t with stream, premature := t.premature || !stream.reader.ended }

/-- The first `count` polls of a stream. -/
def transcript (arrivals : List Arrival) (capacities : Nat → Nat)
    (count : Nat) : Transcript :=
  run Transcript.poll ⟨⟨⟨arrivals, false⟩, []⟩, [], false⟩
    ((List.range count).map capacities)

/-- For every sequence of buffer sizes, no poll fails before the underlying
stream ends, and the application bytes of the records are delivered. -/
def Delivers (records : List TlsRecord) (arrivals : List Arrival) : Prop :=
  ∀ capacities : Nat → Nat, (∀ index, 1 ≤ capacities index) →
    (∀ count, (transcript arrivals capacities count).premature = false ∧
      (transcript arrivals capacities count).delivered <+: payloads records) ∧
    ∃ count, (transcript arrivals capacities count).delivered =
      payloads records

/-- The transcript of whole reads, with `left` still to be read. -/
structure InStep (records : List TlsRecord) (t : Transcript)
    (left : List TlsRecord) : Prop where
  whole : WholeReads left t.stream.reader
  split : payloads records = t.delivered ++ t.stream.buf ++ payloads left
  mature : t.premature = false

/-- Each poll of whole reads comes closer to the end until everything is
delivered. -/
def Transcript.effort (t : Transcript) (records : List TlsRecord) : Nat :=
  (payloads records).length - t.delivered.length + t.stream.reader.pendings

theorem InStep.poll {records left : List TlsRecord} {t : Transcript}
    (inStep : InStep records t left) {capacity : Nat}
    (positive : 1 ≤ capacity) :
    (∃ left', InStep records (t.poll capacity) left') ∧
      ((t.poll capacity).delivered = payloads records ∨
        (t.poll capacity).effort records < t.effort records) := by
  obtain ⟨⟨reader, buf⟩, delivered, premature⟩ := t
  obtain ⟨whole, split, mature⟩ := inStep
  simp only at whole split mature
  by_cases empty : buf = []
  · subst empty
    obtain ⟨behind, same, outcome⟩ := pollRead_whole whole capacity
    generalize result : FakeTlsStream.pollRead capacity ⟨reader, []⟩ = next
      at outcome
    rw [List.append_nil, ← same] at split
    cases outcome with
    | pending later fewer =>
        simp only [Transcript.poll, result]
        refine ⟨⟨behind, later, by simpa using split, mature⟩, .inr ?_⟩
        simp only [Transcript.effort]
        omega
    | ended nothing =>
        simp only [Transcript.poll, result]
        rw [nothing, List.append_nil] at split
        refine ⟨⟨[], .ended true, ?_, by simp [mature]⟩, .inl split.symm⟩
        simpa [payloads] using split
    | @delivered body _ rest nonempty bodySplit later fewer =>
        simp only [Transcript.poll, result]
        rw [bodySplit, ← List.take_append_drop capacity body] at split
        refine ⟨⟨rest, later, by simpa using split, mature⟩, .inr ?_⟩
        have size := congrArg List.length split
        have some := List.length_pos_of_ne_nil nonempty
        simp only [List.length_append, List.length_take] at size
        simp only [Transcript.effort, List.length_append, List.length_take]
        omega
  · simp only [Transcript.poll, @pollRead_buffered capacity ⟨reader, buf⟩ empty]
    rw [← List.take_append_drop capacity buf] at split
    refine ⟨⟨left, whole, by simpa using split, mature⟩, .inr ?_⟩
    have size := congrArg List.length split
    have some := List.length_pos_of_ne_nil empty
    simp only [List.length_append, List.length_take] at size
    simp only [Transcript.effort, List.length_append, List.length_take]
    omega

theorem transcript_succ (arrivals : List Arrival) (capacities : Nat → Nat)
    (count : Nat) :
    transcript arrivals capacities (count + 1) =
      (transcript arrivals capacities count).poll (capacities count) := by
  simp [transcript, List.range_succ, run_append]

/-- Whole reads are enough. -/
theorem delivers_of_wholeReads {records : List TlsRecord}
    {arrivals : List Arrival} (whole : WholeReads records ⟨arrivals, false⟩) :
    Delivers records arrivals := by
  intro capacities positive
  have inStep (count : Nat) : ∃ left,
      InStep records (transcript arrivals capacities count) left := by
    induction count with
    | zero => exact ⟨records, whole, rfl, rfl⟩
    | succ count induction =>
        obtain ⟨left, before⟩ := induction
        rw [transcript_succ]
        exact (before.poll (positive count)).1
  refine ⟨?_, ?_⟩
  · intro count
    obtain ⟨left, now⟩ := inStep count
    refine ⟨now.mature, ?_⟩
    rw [now.split, List.append_assoc]
    exact List.prefix_append _ _
  · by_contra never
    -- Otherwise every poll takes some of the effort away.
    have shrinking (count : Nat) :
        (transcript arrivals capacities count).effort records + count ≤
          (transcript arrivals capacities 0).effort records := by
      induction count with
      | zero => exact Nat.le_refl _
      | succ count induction =>
          obtain ⟨left, before⟩ := inStep count
          have next := (before.poll (positive count)).2
          rw [← transcript_succ] at next
          rcases next with done | less
          · exact (never ⟨count + 1, done⟩).elim
          · omega
    have impossible := shrinking
      ((transcript arrivals capacities 0).effort records + 1)
    omega

section Segmentation

def arrivalBytes : Arrival → Bytes
  | .data bytes => bytes
  | .pending | .failure _ => []

/-- The stream brings these bytes in non-empty reads, with pending reads
anywhere between them. -/
structure Carries (arrivals : List Arrival) (bytes : Bytes) : Prop where
  segments : ∀ arrival ∈ arrivals, arrival = .pending ∨
    ∃ segment, segment ≠ [] ∧ arrival = .data segment
  total : (arrivals.map arrivalBytes).flatten = bytes

/-- One read of such a stream. -/
inductive ReadOutcome (capacity : Nat) (bytes : Bytes) :
    ReadPoll × Source → Prop where
  | ended : bytes = [] → ReadOutcome capacity bytes (.ready [], ⟨[], true⟩)
  | pending {later : List Arrival} :
      Carries later bytes →
      ReadOutcome capacity bytes (.pending, ⟨later, false⟩)
  | read {taken rest : Bytes} {later : List Arrival} :
      bytes = taken ++ rest → taken.length ≤ capacity →
      (capacity ≠ 0 → taken ≠ []) → Carries later rest →
      ReadOutcome capacity bytes (.ready taken, ⟨later, false⟩)

theorem Carries.poll {arrivals : List Arrival} {bytes : Bytes}
    (carries : Carries arrivals bytes) (capacity : Nat) :
    ReadOutcome capacity bytes (Source.poll capacity ⟨arrivals, false⟩) := by
  obtain ⟨segments, total⟩ := carries
  cases arrivals with
  | nil => exact .ended total.symm
  | cons arrival later =>
      have laterSegments := fun arrival member =>
        segments arrival (List.mem_cons_of_mem _ member)
      rcases segments arrival List.mem_cons_self with
        rfl | ⟨segment, nonempty, rfl⟩
      · exact .pending ⟨laterSegments, total⟩
      · have cut : bytes = segment.take capacity ++ (segment.drop capacity ++
            (later.map arrivalBytes).flatten) := by
          rw [← List.append_assoc, List.take_append_drop, ← total]
          rfl
        have taken : capacity ≠ 0 → segment.take capacity ≠ [] := by
          intro room empty
          rcases List.take_eq_nil_iff.mp empty with zero | none
          · exact room zero
          · exact nonempty none
        by_cases fits : segment.length ≤ capacity
        · have polled : Source.poll capacity ⟨.data segment :: later, false⟩ =
              (.ready (segment.take capacity), ⟨later, false⟩) := by
            simp [Source.poll, fits]
          rw [polled]
          refine .read cut (List.length_take_le _ _) taken ⟨laterSegments, ?_⟩
          rw [List.drop_eq_nil_of_le fits, List.nil_append]
        · have polled : Source.poll capacity ⟨.data segment :: later, false⟩ =
              (.ready (segment.take capacity),
                ⟨.data (segment.drop capacity) :: later, false⟩) := by
            simp [Source.poll, fits]
          rw [polled]
          refine .read cut (List.length_take_le _ _) taken ⟨?_, rfl⟩
          intro arrival member
          rcases List.mem_cons.mp member with rfl | old
          · refine .inr ⟨segment.drop capacity, ?_, rfl⟩
            intro empty
            exact fits (List.drop_eq_nil_iff.mp empty)
          · exact laterSegments arrival old

end Segmentation

/-- A read is pending between a header and its body; everything before was
read whole. -/
inductive Interrupted : List TlsRecord → Source → Prop where
  | here {record : TlsRecord} {records : List TlsRecord} {source : Source}
      {later : List Arrival} {ended : Bool} :
      source.poll 5 = (.ready record.header, ⟨.pending :: later, ended⟩) →
      Interrupted (record :: records) source
  | pending {records : List TlsRecord} {later : List Arrival} {ended : Bool} :
      Interrupted records ⟨later, ended⟩ →
      Interrupted records ⟨.pending :: later, ended⟩
  | record {record : TlsRecord} {records : List TlsRecord}
      {source afterHeader afterBody : Source} :
      source.poll 5 = (.ready record.header, afterHeader) →
      afterHeader.poll record.body.length = (.ready record.body, afterBody) →
      Interrupted records afterBody →
      Interrupted (record :: records) source

/-- Some poll with buffers of this size fails too early. -/
def FailsEarly (capacity : Nat) (source : Source) : Prop :=
  ∃ count, ∀ delivered,
    (run Transcript.poll ⟨⟨source, []⟩, delivered, false⟩
      (List.replicate count capacity)).premature = true

section Converse

variable {capacity : Nat} {source afterHeader afterBody : Source}

theorem FailsEarly.pending {later : List Arrival} {ended : Bool}
    (fails : FailsEarly capacity ⟨later, ended⟩) :
    FailsEarly capacity ⟨.pending :: later, ended⟩ := by
  obtain ⟨count, early⟩ := fails
  refine ⟨count + 1, ?_⟩
  intro delivered
  have polled : FakeTlsStream.pollRead capacity
      ⟨⟨.pending :: later, ended⟩, []⟩ = (.pending, ⟨⟨later, ended⟩, []⟩) :=
    pollRead_pending rfl rfl
  rw [List.replicate_succ, run_cons, Transcript.poll, polled]
  exact early delivered

theorem FailsEarly.record {record : TlsRecord}
    (header : source.poll 5 = (.ready record.header, afterHeader))
    (body : afterHeader.poll record.body.length =
      (.ready record.body, afterBody))
    (room : record.body.length ≤ capacity)
    (fails : FailsEarly capacity afterBody) : FailsEarly capacity source := by
  have polled := pollRecord_whole header body
  obtain ⟨count, early⟩ := fails
  cases kind : record.kind with
  | applicationData =>
      rw [kind] at polled
      refine ⟨count + 1, ?_⟩
      intro delivered
      have read : FakeTlsStream.pollRead capacity ⟨source, []⟩ =
          (.ready record.body, ⟨afterBody, []⟩) := by
        rw [pollRead_applicationData rfl polled, List.take_of_length_le room,
          List.drop_eq_nil_of_le room]
      rw [List.replicate_succ, run_cons, Transcript.poll, read]
      exact early (delivered ++ record.body)
  | changeCipherSpec =>
      rw [kind] at polled
      refine ⟨count, ?_⟩
      intro delivered
      have skipped : FakeTlsStream.pollRead capacity ⟨source, []⟩ =
          FakeTlsStream.pollRead capacity ⟨afterBody, []⟩ :=
        pollRead_changeCipherSpec rfl polled
      have later := early delivered
      cases count with
      | zero => cases later
      | succ count =>
          rw [List.replicate_succ, run_cons, Transcript.poll] at later ⊢
          rw [skipped]
          exact later

theorem failsEarly_of_failed {error : IoError} {later : List Arrival}
    (polled : pollRecord source = (.failed error, ⟨later, false⟩)) :
    FailsEarly capacity source := by
  refine ⟨1, ?_⟩
  intro delivered
  have failed : FakeTlsStream.pollRead capacity ⟨source, []⟩ =
      (.failed error, ⟨⟨later, false⟩, []⟩) := pollRead_failed rfl polled
  rw [List.replicate_one, run_cons, run_nil, Transcript.poll, failed]
  rfl

end Converse

def encodeAll (records : List TlsRecord) : Bytes :=
  (records.map TlsRecord.encode).flatten

theorem encodeAll_cons (record : TlsRecord) (records : List TlsRecord) :
    encodeAll (record :: records) =
      record.header ++ (record.body ++ encodeAll records) := by
  simp [encodeAll, TlsRecord.encode]

theorem encodeAll_eq_nil {records : List TlsRecord}
    (empty : encodeAll records = []) : records = [] := by
  cases records with
  | nil => rfl
  | cons record records =>
      have size := congrArg List.length empty
      rw [encodeAll_cons, List.length_append, record.length_header] at size
      simp only [List.length_nil] at size
      omega

theorem Source.pending_of_poll {capacity : Nat} {arrivals : List Arrival}
    {ended : Bool} {later : Source}
    (polled : Source.poll capacity ⟨arrivals, ended⟩ = (.pending, later)) :
    arrivals = .pending :: later.arrivals := by
  cases arrivals with
  | nil => cases polled
  | cons arrival arrivals =>
      cases arrival with
      | pending =>
          cases polled
          rfl
      | failure error => cases polled
      | data bytes => cases polled

/-- The record at the front is read whole, interrupted or cut short. -/
theorem front_record {capacity : Nat} {record : TlsRecord}
    {records : List TlsRecord} {arrivals : List Arrival}
    (carries : Carries arrivals (encodeAll (record :: records)))
    (notPending : arrivals.head? ≠ some .pending) :
    FailsEarly capacity ⟨arrivals, false⟩ ∨
      Interrupted (record :: records) ⟨arrivals, false⟩ ∨
      ∃ afterHeader afterBody,
        Source.poll 5 ⟨arrivals, false⟩ = (.ready record.header, afterHeader) ∧
        afterHeader.poll record.body.length = (.ready record.body, afterBody) ∧
        ((records = [] ∧ afterBody = ⟨[], true⟩) ∨
          ∃ later, afterBody = ⟨later, false⟩ ∧
            Carries later (encodeAll records)) := by
  have headerSize := record.length_header
  rw [encodeAll_cons] at carries
  have outcome := carries.poll 5
  generalize header : Source.poll 5 ⟨arrivals, false⟩ = result at outcome
  cases outcome with
  | ended empty =>
      have size := congrArg List.length empty
      rw [List.length_append, headerSize] at size
      simp only [List.length_nil] at size
      omega
  | pending later =>
      rw [Source.pending_of_poll header] at notPending
      exact (notPending rfl).elim
  | @read taken rest afterHeader cut short _ carriesRest =>
      by_cases whole : taken.length < 5
      · refine .inl (@failsEarly_of_failed _ _
          ⟨.unexpectedEof, "short TLS record header"⟩ afterHeader ?_)
        simp only [pollRecord, header, if_pos whole]
      · obtain ⟨rfl, rfl⟩ := List.append_inj cut (by omega)
        have bodyOutcome := carriesRest.poll record.body.length
        generalize body : Source.poll record.body.length
          ⟨afterHeader, false⟩ = result at bodyOutcome
        cases bodyOutcome with
        | ended empty =>
            obtain ⟨noBody, noRecords⟩ := List.append_eq_nil_iff.mp empty
            refine .inr (.inr ⟨_, _, rfl, ?_, .inl
              ⟨encodeAll_eq_nil noRecords, rfl⟩⟩)
            rw [body, noBody]
        | pending later =>
            rw [Source.pending_of_poll body] at header
            exact .inr (.inl (.here header))
        | @read taken rest afterBody cutBody shortBody _ carriesLater =>
            by_cases cutShort : taken.length < record.body.length
            · refine .inl (@failsEarly_of_failed _ _
                ⟨.unexpectedEof, "short TLS record body"⟩ afterBody ?_)
              simp only [pollRecord, header, if_neg whole, record.header_len,
                body, if_pos cutShort]
            · obtain ⟨sameBody, rfl⟩ := List.append_inj cutBody (by omega)
              refine .inr (.inr ⟨_, _, rfl, ?_, .inr
                ⟨afterBody, rfl, carriesLater⟩⟩)
              rw [body, sameBody]

theorem wholeReads_or_fails {capacity : Nat} {records : List TlsRecord}
    {arrivals : List Arrival} (carries : Carries arrivals (encodeAll records))
    (room : ∀ record ∈ records, record.body.length ≤ capacity) :
    WholeReads records ⟨arrivals, false⟩ ∨
      Interrupted records ⟨arrivals, false⟩ ∨
      FailsEarly capacity ⟨arrivals, false⟩ := by
  induction records generalizing arrivals with
  | nil =>
      induction arrivals with
      | nil => exact .inl (.ended false)
      | cons arrival later induction =>
          obtain ⟨segments, total⟩ := carries
          rcases segments arrival List.mem_cons_self with
            rfl | ⟨segment, nonempty, rfl⟩
          · rcases induction ⟨fun arrival member =>
                segments arrival (List.mem_cons_of_mem _ member), total⟩ with
              whole | interrupted | fails
            · exact .inl (.pending whole)
            · exact .inr (.inl (.pending interrupted))
            · exact .inr (.inr fails.pending)
          · obtain ⟨none, -⟩ := List.append_eq_nil_iff.mp total
            exact (nonempty none).elim
  | cons record records outer =>
      have ownRoom := room record List.mem_cons_self
      have laterRoom := fun later member =>
        room later (List.mem_cons_of_mem _ member)
      induction arrivals with
      | nil =>
          have empty := carries.total
          cases encodeAll_eq_nil empty.symm
      | cons arrival later induction =>
          by_cases pending : arrival = .pending
          · subst pending
            rcases induction ⟨fun arrival member =>
                carries.segments arrival (List.mem_cons_of_mem _ member),
                carries.total⟩ with whole | interrupted | fails
            · exact .inl (.pending whole)
            · exact .inr (.inl (.pending interrupted))
            · exact .inr (.inr fails.pending)
          · rcases @front_record capacity _ _ _ carries (by simpa using pending)
              with fails | interrupted | ⟨afterHeader, afterBody, header, body,
                ⟨rfl, rfl⟩ | ⟨rest, rfl, carriesRest⟩⟩
            · exact .inr (.inr fails)
            · exact .inr (.inl interrupted)
            · exact .inl (.record header body (.ended true))
            · rcases outer carriesRest laterRoom with
                whole | interrupted | fails
              · exact .inl (.record header body whole)
              · exact .inr (.inl (.record header body interrupted))
              · exact .inr (.inr (fails.record header body ownRoom))

/-- The reader delivers the records when every header and every body is
returned whole by one read; and unless a read is pending between a header and
its body, it delivers them only then. -/
theorem delivers_iff_wholeReads {records : List TlsRecord}
    {arrivals : List Arrival} (carries : Carries arrivals (encodeAll records)) :
    (WholeReads records ⟨arrivals, false⟩ → Delivers records arrivals) ∧
      (¬ Interrupted records ⟨arrivals, false⟩ →
        Delivers records arrivals → WholeReads records ⟨arrivals, false⟩) := by
  refine ⟨delivers_of_wholeReads, ?_⟩
  intro uninterrupted delivers
  -- A buffer of this size takes every body at once.
  have room : ∀ record ∈ records, record.body.length ≤ 65536 := by
    intro record _
    exact Nat.le_of_lt record.fits
  rcases wholeReads_or_fails carries room with whole | interrupted | fails
  · exact whole
  · exact (uninterrupted interrupted).elim
  · obtain ⟨count, early⟩ := fails
    have mature := ((delivers (fun _ => 65536) (by simp)).1 count).1
    rw [transcript, List.map_const', List.length_range, early []] at mature
    cases mature

/-- A record of three bytes whose header is cut after three bytes. -/
def cutHeader : List Arrival :=
  [.data [0x17, 0x03, 0x03], .data [0x00, 0x03, 0x61, 0x62, 0x63]]

def shortRecord : TlsRecord :=
  { kind := .applicationData, major := 3, minor := 3, body := [0x61, 0x62, 0x63]
    fits := by decide, nonempty := by decide }

theorem cutHeader_carries : Carries cutHeader (encodeAll [shortRecord]) := by
  refine ⟨?_, by decide⟩
  intro arrival member
  simp only [cutHeader, List.mem_cons, List.not_mem_nil, or_false] at member
  rcases member with rfl | rfl
  · exact .inr ⟨_, by simp, rfl⟩
  · exact .inr ⟨_, by simp, rfl⟩

theorem delivers_iff_wholeReads_cutHeader :
    (WholeReads [shortRecord] ⟨cutHeader, false⟩ →
        Delivers [shortRecord] cutHeader) ∧
      (¬ Interrupted [shortRecord] ⟨cutHeader, false⟩ →
        Delivers [shortRecord] cutHeader →
          WholeReads [shortRecord] ⟨cutHeader, false⟩) :=
  delivers_iff_wholeReads cutHeader_carries

/-- The first poll fails with `short TLS record header`. -/
theorem cutHeader_fails : ¬ Delivers [shortRecord] cutHeader := by
  intro delivers
  have mature := ((delivers (fun _ => 16) (by simp)).1 1).1
  have failed : (transcript cutHeader (fun _ => 16) 1).premature = true := by
    decide +kernel
  rw [failed] at mature
  cases mature

end TgWsProxy.Rust
