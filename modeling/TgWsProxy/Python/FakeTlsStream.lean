import TgWsProxy.Rust.FakeTlsWriter

/-!
# The Python Fake-TLS stream

`wrap_tls_record` and `FakeTlsStream` of `proxy/fake_tls.py`.  Reading keeps two
leftovers: `_read_buf` holds decoded bytes which were not returned yet, and
`_read_left` counts the bytes of the current record which were not read yet.
The records are those of `TlsRecord`.
-/

namespace TgWsProxy.Python

open Lib
open Rust (TlsRecord encodeAll payloads)

def tlsRecordCcs : UInt8 := 0x14
def tlsRecordAppdata : UInt8 := 0x17
def tlsAppdataMax : Nat := 16384

/-- The loop of `wrap_tls_record`. -/
def wrapLoop (data : Bytes) (offset : Nat) (parts : List Bytes) : List Bytes :=
  if offset < data.length then
    let chunk := slice data offset (offset + tlsAppdataMax)
    wrapLoop data (offset + chunk.length)
      (parts ++ [[0x17, 0x03, 0x03] ++ natToBe 2 chunk.length ++ chunk])
  else parts
termination_by data.length - offset
decreasing_by
  simp only [length_slice, tlsAppdataMax]
  omega

def wrapTlsRecord (data : Bytes) : Bytes := (wrapLoop data 0 []).flatten

/-- `asyncio.IncompleteReadError`. -/
structure IncompleteReadError where
  received : Bytes
  expected : Nat
deriving DecidableEq, Repr

/-- `asyncio.StreamReader`: the bytes which are still to be read before the end
of the stream, and how many of them have arrived by each of the next reads. -/
structure StreamReader where
  unread : Bytes
  arrived : Nat → Nat

namespace StreamReader

/-- `read(n)`, which waits for the first byte only. -/
def read (n : Nat) (r : StreamReader) : Bytes × StreamReader :=
  let count := min n (max 1 (r.arrived 0))
  (r.unread.take count,
    { unread := r.unread.drop count
      arrived := fun index => r.arrived (index + 1) })

/-- `readexactly(n)`. -/
def readexactly (n : Nat) (r : StreamReader) :
    Except IncompleteReadError (Bytes × StreamReader) :=
  if r.unread.length < n then .error ⟨r.unread, n⟩
  else .ok (r.unread.take n, { r with unread := r.unread.drop n })

variable {n : Nat} {r : StreamReader}

theorem readexactly_shrinks {data : Bytes} {later : StreamReader}
    (returned : r.readexactly n = .ok (data, later)) :
    later.unread.length + n = r.unread.length := by
  unfold readexactly at returned
  split at returned
  · cases returned
  · cases returned
    simp only [List.length_drop]
    omega

theorem readexactly_append {front : Bytes} (later : Bytes)
    (arrived : Nat → Nat) (size : front.length = n) :
    readexactly n ⟨front ++ later, arrived⟩ = .ok (front, ⟨later, arrived⟩) := by
  have enough : ¬ (front ++ later).length < n := by
    rw [List.length_append]
    omega
  simp only [readexactly, if_neg enough]
  rw [List.take_left' size, List.drop_left' size]

/-- A read inside a body returns some of it. -/
theorem read_inside {body : Bytes} (later : Bytes) (arrived : Nat → Nat)
    (positive : 0 < n) (inside : n ≤ body.length) :
    ∃ data rest next, read n ⟨body ++ later, arrived⟩ =
        (data, ⟨rest ++ later, next⟩) ∧
      body = data ++ rest ∧ data ≠ [] ∧ data.length ≤ n := by
  have within : min n (max 1 (arrived 0)) ≤ body.length := by omega
  refine ⟨body.take (min n (max 1 (arrived 0))),
    body.drop (min n (max 1 (arrived 0))), fun index => arrived (index + 1), ?_,
    (List.take_append_drop _ _).symm, ?_, ?_⟩
  · simp only [read, List.take_append_of_le_length within,
      List.drop_append_of_le_length within]
  · apply List.ne_nil_of_length_pos
    rw [List.length_take]
    omega
  · rw [List.length_take]
    omega

end StreamReader

structure FakeTlsStream where
  reader : StreamReader
  readBuf : Bytes
  readLeft : Nat

/-- The `while True` of `_read_tls_payload`: the data, what remains of its
record, and the reader. -/
def readRecord (reader : StreamReader) :
    Except IncompleteReadError (Bytes × Nat × StreamReader) :=
  match _header : reader.readexactly 5 with
  | .error error => .error error
  | .ok (hdr, afterHeader) =>
      let rtype := hdr.getD 0 0
      let recLen := beNat (slice hdr 3 5)
      if rtype = tlsRecordCcs then
        if 0 < recLen then
          match _body : afterHeader.readexactly recLen with
          | .error error => .error error
          | .ok (_, afterBody) => readRecord afterBody
        else readRecord afterHeader
      else if rtype ≠ tlsRecordAppdata then .ok ([], 0, afterHeader)
      else
        let (data, reader) := afterHeader.read (min recLen 65536)
        if data = [] then .ok ([], 0, reader)
        else .ok (data, recLen - data.length, reader)
termination_by reader.unread.length
decreasing_by
  · have := StreamReader.readexactly_shrinks _header
    have := StreamReader.readexactly_shrinks _body
    omega
  · have := StreamReader.readexactly_shrinks _header
    omega

namespace FakeTlsStream

/-- `_read_tls_payload`: the data, the new `_read_left` and the reader. -/
def readTlsPayload (s : FakeTlsStream) :
    Except IncompleteReadError (Bytes × Nat × StreamReader) :=
  if 0 < s.readLeft then
    let (data, reader) := s.reader.read s.readLeft
    .ok (data, s.readLeft - data.length, reader)
  else readRecord s.reader

/-- The loop of `readexactly`. -/
def fill (n : Nat) (s : FakeTlsStream) :
    Except IncompleteReadError FakeTlsStream :=
  if s.readBuf.length < n then
    match s.readTlsPayload with
    | .error error => .error error
    | .ok (payload, readLeft, reader) =>
        if payload = [] then .error ⟨s.readBuf, n⟩
        else fill n { reader, readLeft, readBuf := s.readBuf ++ payload }
  else .ok s
termination_by n - s.readBuf.length
decreasing_by
  have := List.length_pos_of_ne_nil ‹payload ≠ []›
  simp only [List.length_append]
  omega

def readexactly (n : Nat) (s : FakeTlsStream) :
    Except IncompleteReadError (Bytes × FakeTlsStream) := do
  let s ← s.fill n
  return (s.readBuf.take n, { s with readBuf := s.readBuf.drop n })

def read (n : Nat) (s : FakeTlsStream) :
    Except IncompleteReadError (Bytes × FakeTlsStream) :=
  if s.readBuf ≠ [] then
    .ok (s.readBuf.take n, { s with readBuf := s.readBuf.drop n })
  else do
    let (payload, readLeft, reader) ← s.readTlsPayload
    if payload = [] then return ([], { s with reader, readLeft })
    else if n < payload.length then
      return (payload.take n,
        { reader, readLeft, readBuf := s.readBuf ++ payload.drop n })
    else return (payload, { s with reader, readLeft })

end FakeTlsStream

inductive ReadCall where
  | read (n : Nat)
  | readexactly (n : Nat)
deriving DecidableEq, Repr

def FakeTlsStream.call (s : FakeTlsStream) :
    ReadCall → Except IncompleteReadError (Bytes × FakeTlsStream)
  | .read n => s.read n
  | .readexactly n => s.readexactly n

/-- A stream with the calls which it has answered. -/
structure ReadLog where
  stream : FakeTlsStream
  results : List (ReadCall × Bytes)
  error : Option IncompleteReadError

namespace ReadLog

def start (wire : Bytes) (arrived : Nat → Nat) : ReadLog :=
  ⟨⟨⟨wire, arrived⟩, [], 0⟩, [], none⟩

def returned (log : ReadLog) : Bytes := (log.results.map (·.2)).flatten

def step (log : ReadLog) (call : ReadCall) : ReadLog :=
  match log.stream.call call with
  | .error error => { log with error := some error }
  | .ok (data, stream) =>
      { log with stream, results := log.results ++ [(call, data)] }

/-- A `read` while some of the written bytes are unread, a `readexactly` while
enough of them are. -/
def Callable (written : Bytes) (log : ReadLog) : ReadCall → Prop
  | .read n => 1 ≤ n ∧ log.returned.length < written.length
  | .readexactly n => log.returned.length + n ≤ written.length

end ReadLog

/-- What a call has to return. -/
def Answers : ReadCall → Bytes → Prop
  | .read n, data => data ≠ [] ∧ data.length ≤ n
  | .readexactly n, data => data.length = n

section Wrapping

theorem wrapLoop_eq (data : Bytes) (offset : Nat) (parts : List Bytes) :
    wrapLoop data offset parts =
      parts ++ (chunksOf tlsAppdataMax (data.drop offset)).map fun chunk =>
        [0x17, 0x03, 0x03] ++ natToBe 2 chunk.length ++ chunk := by
  induction offset, parts using wrapLoop.induct data with
  | case1 offset parts inside chunk induction =>
      have nonempty : data.drop offset ≠ [] := by
        apply List.ne_nil_of_length_pos
        rw [List.length_drop]
        omega
      have first : (data.drop offset).take tlsAppdataMax = chunk := by
        simp [chunk, slice, List.take_drop]
      have next : (data.drop offset).drop tlsAppdataMax =
          data.drop (offset + chunk.length) := by
        rw [← first, List.drop_drop]
        by_cases long : tlsAppdataMax ≤ (data.drop offset).length
        · rw [List.length_take, Nat.min_eq_left long]
        · rw [List.length_take, Nat.min_eq_right (Nat.le_of_not_le long)]
          rw [List.length_drop] at long ⊢
          rw [List.drop_eq_nil_of_le (by omega),
            List.drop_eq_nil_of_le (by omega)]
      rw [wrapLoop, if_pos inside, induction,
        chunksOf_of_ne_nil (by decide) nonempty, first, next]
      simp
  | case2 offset parts outside =>
      rw [wrapLoop, if_neg outside,
        List.drop_eq_nil_of_le (Nat.le_of_not_lt outside)]
      simp

/-- Both implementations wrap alike. -/
theorem wrapTlsRecord_eq (data : Bytes) :
    wrapTlsRecord data = Rust.wrapTlsRecord data := by
  rw [wrapTlsRecord, wrapLoop_eq]
  rfl

/-- What is wrapped is a sequence of application-data records. -/
theorem wrapTlsRecord_records (data : Bytes) :
    ∃ records, wrapTlsRecord data = encodeAll records ∧
      payloads records = data ∧
      ∀ record ∈ records, 1 ≤ record.body.length ∧
        record.body.length ≤ tlsAppdataMax := by
  have bounds : ∀ chunk ∈ chunksOf tlsAppdataMax data,
      0 < chunk.length ∧ chunk.length ≤ tlsAppdataMax :=
    fun chunk member => mem_chunksOf (by decide) member
  have made (chunks : List Bytes)
      (bounds : ∀ chunk ∈ chunks,
        0 < chunk.length ∧ chunk.length ≤ tlsAppdataMax) :
      ∃ records, (chunks.map fun chunk => [0x17, 0x03, 0x03] ++
          natToBe 2 chunk.length ++ chunk).flatten = encodeAll records ∧
        payloads records = chunks.flatten ∧
        ∀ record ∈ records, 1 ≤ record.body.length ∧
          record.body.length ≤ tlsAppdataMax := by
    induction chunks with
    | nil => exact ⟨[], rfl, rfl, by simp⟩
    | cons chunk chunks induction =>
        obtain ⟨positive, small⟩ := bounds chunk List.mem_cons_self
        obtain ⟨records, wire, bodies, sizes⟩ := induction fun chunk member =>
          bounds chunk (List.mem_cons_of_mem _ member)
        let record : TlsRecord :=
          { kind := .applicationData
            major := 0x03
            minor := 0x03
            body := chunk
            fits := Nat.lt_of_le_of_lt small (by decide)
            nonempty := fun _ => List.ne_nil_of_length_pos positive }
        refine ⟨record :: records, ?_, ?_, ?_⟩
        · rw [List.map_cons, List.flatten_cons, wire, Rust.encodeAll_cons]
          simp [record, TlsRecord.header, Rust.RecordKind.byte]
        · rw [Rust.payloads_cons, bodies]
          rfl
        · intro other member
          rcases List.mem_cons.mp member with rfl | later
          · exact ⟨positive, small⟩
          · exact sizes other later
  obtain ⟨records, wire, bodies, sizes⟩ := made _ bounds
  rw [flatten_chunksOf] at bodies
  refine ⟨records, ?_, bodies, sizes⟩
  rw [wrapTlsRecord_eq, ← wire]
  rfl

theorem encodeAll_append (front back : List TlsRecord) :
    encodeAll (front ++ back) = encodeAll front ++ encodeAll back := by
  simp [encodeAll]

theorem payloads_append (front back : List TlsRecord) :
    payloads (front ++ back) = payloads front ++ payloads back := by
  simp [payloads]

theorem wrapTlsRecords_records (writes : List Bytes) :
    ∃ records, (writes.map wrapTlsRecord).flatten = encodeAll records ∧
      payloads records = writes.flatten ∧
      ∀ record ∈ records, 1 ≤ record.body.length ∧
        record.body.length ≤ tlsAppdataMax := by
  induction writes with
  | nil => exact ⟨[], rfl, rfl, by simp⟩
  | cons data writes induction =>
      obtain ⟨first, firstWire, firstBodies, firstSizes⟩ :=
        wrapTlsRecord_records data
      obtain ⟨later, laterWire, laterBodies, laterSizes⟩ := induction
      refine ⟨first ++ later, ?_, ?_, ?_⟩
      · rw [List.map_cons, List.flatten_cons, firstWire, laterWire,
          encodeAll_append]
      · rw [payloads_append, firstBodies, laterBodies, List.flatten_cons]
      · intro record member
        rcases List.mem_append.mp member with early | late
        · exact firstSizes record early
        · exact laterSizes record late

/-- CCS records carry nothing of what was written. -/
theorem payloads_filter (records : List TlsRecord) :
    payloads (records.filter (·.kind = .applicationData)) =
      payloads records := by
  induction records with
  | nil => rfl
  | cons record records induction =>
      cases kind : record.kind with
      | applicationData =>
          simp [kind, Rust.payloads_cons, induction]
      | changeCipherSpec =>
          simp [kind, Rust.payloads_cons, TlsRecord.payload, induction]

/-- A wire can be cut into records in one way only. -/
theorem encodeAll_injective {left right : List TlsRecord}
    (same : encodeAll left = encodeAll right) : left = right := by
  induction left generalizing right with
  | nil => exact (Rust.encodeAll_eq_nil same.symm).symm
  | cons first left induction =>
      cases right with
      | nil => exact Rust.encodeAll_eq_nil same
      | cons other right =>
          rw [Rust.encodeAll_cons, Rust.encodeAll_cons] at same
          obtain ⟨headers, later⟩ := List.append_inj same
            (by rw [first.length_header, other.length_header])
          have sizes : first.body.length = other.body.length := by
            rw [← first.header_len, ← other.header_len, headers]
          obtain ⟨bodies, rest⟩ := List.append_inj later sizes
          obtain ⟨kind, major, minor, body, fits, nonempty⟩ := first
          obtain ⟨kind', major', minor', body', fits', nonempty'⟩ := other
          simp only [TlsRecord.header, List.cons_append, List.cons.injEq]
            at headers
          obtain ⟨kinds, rfl, rfl, -⟩ := headers
          have sameKind : kind = kind' := by
            revert kinds
            cases kind <;> cases kind' <;> decide
          subst sameKind bodies
          rw [induction rest]

end Wrapping

/-- A record as it may stand in the client's stream. -/
structure WireRecord where
  rtype : UInt8
  major : UInt8
  minor : UInt8
  body : Bytes
  fits : body.length < 65536

namespace WireRecord

def header (record : WireRecord) : Bytes :=
  [record.rtype, record.major, record.minor] ++ natToBe 2 record.body.length

def encode (record : WireRecord) : Bytes := record.header ++ record.body

/-- `_read_tls_payload` returns no data when it comes to this record. -/
def EndsReading (record : WireRecord) : Prop :=
  record.rtype ≠ tlsRecordCcs ∧
    (record.rtype ≠ tlsRecordAppdata ∨ record.body = [])

instance (record : WireRecord) : Decidable record.EndsReading :=
  inferInstanceAs (Decidable (_ ∧ _))

theorem length_header (record : WireRecord) : record.header.length = 5 := by
  simp [header]

theorem header_len (record : WireRecord) :
    beNat (slice record.header 3 5) = record.body.length := by
  have cut : slice record.header 3 5 = natToBe 2 record.body.length := by
    simp [slice, header]
  rw [cut]
  exact beNat_natToBe record.fits

end WireRecord

def encodeRecords (records : List WireRecord) : Bytes :=
  (records.map WireRecord.encode).flatten

/-- The application data in front of the first record which ends reading. -/
def appData : List WireRecord → Bytes
  | [] => []
  | record :: records =>
      if record.rtype = tlsRecordCcs then appData records
      else if record.EndsReading then []
      else record.body ++ appData records

section Records

variable {record : WireRecord}

theorem encodeRecords_cons (record : WireRecord) (records : List WireRecord) :
    encodeRecords (record :: records) =
      record.header ++ (record.body ++ encodeRecords records) :=
  List.append_assoc _ _ _

theorem readRecord_nil (arrived : Nat → Nat) :
    readRecord ⟨[], arrived⟩ = .error ⟨[], 5⟩ := by
  rw [readRecord]
  rfl

/-- A CCS record is passed over. -/
theorem readRecord_ccs (ccs : record.rtype = tlsRecordCcs) (behind : Bytes)
    (arrived : Nat → Nat) :
    readRecord ⟨record.header ++ (record.body ++ behind), arrived⟩ =
      readRecord ⟨behind, arrived⟩ := by
  have header := StreamReader.readexactly_append (record.body ++ behind) arrived
    record.length_header
  rw [readRecord, header]
  simp only [record.header_len]
  rw [if_pos (show record.header.getD 0 0 = tlsRecordCcs from ccs)]
  by_cases long : 0 < record.body.length
  · have body := StreamReader.readexactly_append behind arrived
      record.header_len.symm
    rw [if_pos long]
    split
    · rename_i failed
      rw [body] at failed
      cases failed
    · rename_i returned
      rw [body] at returned
      cases returned
      rfl
  · have empty : record.body = [] :=
      List.eq_nil_of_length_eq_zero (Nat.eq_zero_of_not_pos long)
    rw [if_neg long, empty, List.nil_append]

theorem readRecord_ends (ends : record.EndsReading) (behind : Bytes)
    (arrived : Nat → Nat) :
    ∃ readLeft reader,
      readRecord ⟨record.header ++ (record.body ++ behind), arrived⟩ =
        .ok ([], readLeft, reader) := by
  obtain ⟨notCcs, other⟩ := ends
  have header := StreamReader.readexactly_append (record.body ++ behind) arrived
    record.length_header
  rw [readRecord, header]
  simp only [record.header_len]
  rw [if_neg (show ¬ record.header.getD 0 0 = tlsRecordCcs from notCcs)]
  by_cases application : record.rtype = tlsRecordAppdata
  · have empty : record.body = [] := other.resolve_left (not_not_intro application)
    rw [if_neg (not_not_intro
      (show record.header.getD 0 0 = tlsRecordAppdata from application))]
    simp [StreamReader.read, empty]
  · rw [if_pos (show record.header.getD 0 0 ≠ tlsRecordAppdata from application)]
    exact ⟨0, _, rfl⟩

/-- The reader stands at the end of a record's header, or behind `rest` fewer
bytes of its body. -/
theorem readRecord_data (notCcs : record.rtype ≠ tlsRecordCcs)
    (goesOn : ¬ record.EndsReading) (behind : Bytes) (arrived : Nat → Nat) :
    ∃ data rest next,
      readRecord ⟨record.header ++ (record.body ++ behind), arrived⟩ =
        .ok (data, rest.length, ⟨rest ++ behind, next⟩) ∧
      record.body = data ++ rest ∧ data ≠ [] := by
  obtain ⟨application, some⟩ : record.rtype = tlsRecordAppdata ∧
      record.body ≠ [] := by
    have neither := not_or.mp fun other => goesOn ⟨notCcs, other⟩
    exact ⟨not_not.mp neither.1, neither.2⟩
  have header := StreamReader.readexactly_append (record.body ++ behind) arrived
    record.length_header
  have positive := List.length_pos_of_ne_nil some
  obtain ⟨data, rest, next, read, body, nonempty, -⟩ :=
    @StreamReader.read_inside (min record.body.length 65536) record.body
      behind arrived (by omega) (Nat.min_le_left _ _)
  have remaining : record.body.length - data.length = rest.length := by
    rw [body, List.length_append, Nat.add_sub_cancel_left]
  refine ⟨data, rest, next, ?_, body, nonempty⟩
  rw [readRecord, header]
  simp only [record.header_len]
  rw [if_neg (show ¬ record.header.getD 0 0 = tlsRecordCcs from notCcs),
    if_neg (not_not_intro
      (show record.header.getD 0 0 = tlsRecordAppdata from application))]
  simp only [read, if_neg nonempty, remaining]

end Records

section Reading

/-- A record of the reader's client, on the wire. -/
def wireRecord (record : TlsRecord) : WireRecord :=
  ⟨record.kind.byte, record.major, record.minor, record.body, record.fits⟩

theorem readRecord_spec {left : List TlsRecord} (behind : Bytes)
    (arrived : Nat → Nat) (some : payloads left ≠ []) :
    ∃ data rest later next,
      readRecord ⟨encodeAll left ++ behind, arrived⟩ =
        .ok (data, rest.length, ⟨rest ++ (encodeAll later ++ behind), next⟩) ∧
      payloads left = data ++ (rest ++ payloads later) ∧ data ≠ [] := by
  induction left with
  | nil => exact absurd rfl some
  | cons record left induction =>
      rw [Rust.payloads_cons] at some
      rw [Rust.encodeAll_cons, List.append_assoc, List.append_assoc,
        Rust.payloads_cons]
      cases kind : record.kind with
      | changeCipherSpec =>
          have ccs : (wireRecord record).rtype = tlsRecordCcs := by
            rw [wireRecord, kind]
            rfl
          have noPayload : record.payload = [] := by
            simp [TlsRecord.payload, kind]
          have passed := readRecord_ccs ccs (encodeAll left ++ behind) arrived
          rw [noPayload, List.nil_append] at some ⊢
          obtain ⟨data, rest, later, next, read, split, nonempty⟩ :=
            induction some
          exact ⟨data, rest, later, next, passed.trans read, split, nonempty⟩
      | applicationData =>
          have application : (wireRecord record).rtype = tlsRecordAppdata := by
            rw [wireRecord, kind]
            rfl
          have notCcs : (wireRecord record).rtype ≠ tlsRecordCcs := by
            rw [application]
            decide
          have goesOn : ¬ (wireRecord record).EndsReading := by
            rintro ⟨-, other | empty⟩
            · exact other application
            · exact record.nonempty kind empty
          obtain ⟨data, rest, next, read, body, nonempty⟩ :=
            readRecord_data notCcs goesOn (encodeAll left ++ behind) arrived
          refine ⟨data, rest, left, next, read, ?_, nonempty⟩
          rw [TlsRecord.payload, kind, ← List.append_assoc, ← body]
          rfl

namespace FakeTlsStream

/-- The written bytes which the stream has not returned yet. -/
def Undelivered (s : FakeTlsStream) (data : Bytes) : Prop :=
  ∃ rest left, s.reader.unread = rest ++ encodeAll left ∧
    s.readLeft = rest.length ∧ data = s.readBuf ++ (rest ++ payloads left)

/-- The same, with something else behind the records. -/
def UndeliveredBefore (behind : Bytes) (s : FakeTlsStream) (data : Bytes) : Prop :=
  ∃ rest left, s.reader.unread = rest ++ (encodeAll left ++ behind) ∧
    s.readLeft = rest.length ∧ data = s.readBuf ++ (rest ++ payloads left)

variable {behind : Bytes} {s : FakeTlsStream} {data : Bytes} {n : Nat}

theorem undelivered_iff : s.Undelivered data ↔ UndeliveredBefore [] s data := by
  simp only [Undelivered, UndeliveredBefore, List.append_nil]

/-- Reading a payload moves a piece of what is ahead of `_read_buf`. -/
theorem readTlsPayload_spec (undelivered : UndeliveredBefore behind s data)
    (some : s.readBuf.length < data.length) :
    ∃ payload readLeft reader,
      s.readTlsPayload = .ok (payload, readLeft, reader) ∧ payload ≠ [] ∧
      UndeliveredBefore behind ⟨reader, s.readBuf ++ payload, readLeft⟩ data := by
  obtain ⟨⟨unread, arrived⟩, readBuf, readLeft⟩ := s
  obtain ⟨rest, left, wire, count, ahead⟩ := undelivered
  simp only at wire count ahead some
  subst wire count
  unfold readTlsPayload
  by_cases inRecord : 0 < rest.length
  · obtain ⟨payload, after, next, read, body, nonempty, -⟩ :=
      StreamReader.read_inside (encodeAll left ++ behind) arrived inRecord
        (Nat.le_refl _)
    have remaining : rest.length - payload.length = after.length := by
      rw [body, List.length_append, Nat.add_sub_cancel_left]
    simp only [if_pos inRecord, read, remaining]
    refine ⟨payload, _, _, rfl, nonempty, after, left, rfl, rfl, ?_⟩
    rw [ahead, body]
    simp
  · have none : rest = [] :=
      List.eq_nil_of_length_eq_zero (Nat.eq_zero_of_not_pos inRecord)
    subst none
    have recordsAhead : payloads left ≠ [] := by
      intro nothing
      rw [ahead, nothing] at some
      simp at some
    obtain ⟨payload, after, later, next, read, split, nonempty⟩ :=
      readRecord_spec behind arrived recordsAhead
    simp only [if_neg inRecord, List.nil_append, read]
    refine ⟨payload, _, _, rfl, nonempty, after, later, rfl, rfl, ?_⟩
    rw [ahead, List.nil_append, split]
    simp

theorem fill_spec (undelivered : UndeliveredBefore behind s data)
    (enough : n ≤ data.length) :
    ∃ later, s.fill n = .ok later ∧ UndeliveredBefore behind later data ∧
      n ≤ later.readBuf.length := by
  induction missing : n - s.readBuf.length using Nat.strong_induction_on
    generalizing s with
  | _ missing induction =>
      rw [fill]
      by_cases short : s.readBuf.length < n
      · obtain ⟨payload, readLeft, reader, read, nonempty, next⟩ :=
          readTlsPayload_spec undelivered (by omega)
        have progress := List.length_pos_of_ne_nil nonempty
        simp only [if_pos short, read, if_neg nonempty]
        refine induction _ ?_ next rfl
        rw [List.length_append]
        omega
      · rw [if_neg short]
        exact ⟨s, rfl, undelivered, Nat.le_of_not_lt short⟩

/-- What is in `_read_buf` can be returned. -/
theorem UndeliveredBefore.take (undelivered : UndeliveredBefore behind s data)
    (within : n ≤ s.readBuf.length) :
    data.take n = s.readBuf.take n ∧
      UndeliveredBefore behind { s with readBuf := s.readBuf.drop n }
        (data.drop n) := by
  obtain ⟨rest, left, wire, count, rfl⟩ := undelivered
  refine ⟨List.take_append_of_le_length within, rest, left, wire, count, ?_⟩
  exact List.drop_append_of_le_length within

theorem readexactly_spec (undelivered : UndeliveredBefore behind s data)
    (enough : n ≤ data.length) :
    ∃ later, s.readexactly n = .ok (data.take n, later) ∧
      UndeliveredBefore behind later (data.drop n) := by
  obtain ⟨filled, ok, next, within⟩ := fill_spec undelivered enough
  obtain ⟨front, after⟩ := next.take within
  refine ⟨{ filled with readBuf := filled.readBuf.drop n }, ?_, after⟩
  rw [readexactly, ok, front]
  rfl

theorem read_spec (undelivered : UndeliveredBefore behind s data) (positive : 1 ≤ n)
    (some : data ≠ []) :
    ∃ piece rest later, s.read n = .ok (piece, later) ∧
      data = piece ++ rest ∧ UndeliveredBefore behind later rest ∧ piece ≠ [] ∧
      piece.length ≤ n := by
  unfold read
  by_cases empty : s.readBuf = []
  · obtain ⟨payload, readLeft, reader, read, nonempty, next⟩ :=
      readTlsPayload_spec undelivered (by
        rw [empty]
        exact List.length_pos_of_ne_nil some)
    rw [empty, List.nil_append] at next
    rw [if_neg (not_not_intro empty), read]
    simp only [bind, Except.bind, pure, Except.pure, if_neg nonempty, empty,
      List.nil_append]
    have length := List.length_pos_of_ne_nil nonempty
    by_cases longer : n < payload.length
    · have front := next.take (Nat.le_of_lt longer)
      rw [if_pos longer]
      refine ⟨payload.take n, data.drop n, _, rfl, ?_, front.2, ?_, ?_⟩
      · rw [← front.1, List.take_append_drop]
      · apply List.ne_nil_of_length_pos
        rw [List.length_take]
        omega
      · rw [List.length_take]
        omega
    · have front := next.take (Nat.le_refl _)
      simp only [List.take_length, List.drop_length] at front
      rw [if_neg longer]
      refine ⟨payload, data.drop payload.length, _, rfl, ?_, front.2, nonempty,
        Nat.le_of_not_lt longer⟩
      exact ((List.take_append_drop _ _).symm.trans
        (congrArg (· ++ _) front.1))
  · have length := List.length_pos_of_ne_nil empty
    obtain ⟨rest, left, wire, count, ahead⟩ := undelivered
    rw [if_pos empty]
    refine ⟨s.readBuf.take n, s.readBuf.drop n ++ (rest ++ payloads left), _,
      rfl, ?_, ⟨rest, left, wire, count, rfl⟩, ?_, ?_⟩
    · rw [ahead, ← List.append_assoc (s.readBuf.take n),
        List.take_append_drop]
    · apply List.ne_nil_of_length_pos
      rw [List.length_take]
      omega
    · rw [List.length_take]
      omega

theorem call_spec {written returned : Bytes} (call : ReadCall)
    (undelivered : UndeliveredBefore behind s data)
    (split : written = returned ++ data)
    (callable : match call with
      | .read n => 1 ≤ n ∧ returned.length < written.length
      | .readexactly n => returned.length + n ≤ written.length) :
    ∃ piece rest later, s.call call = .ok (piece, later) ∧
      data = piece ++ rest ∧ UndeliveredBefore behind later rest ∧
      Answers call piece := by
  rw [split, List.length_append] at callable
  cases call with
  | read n =>
      obtain ⟨positive, unread⟩ := callable
      have some : data ≠ [] := by
        apply List.ne_nil_of_length_pos
        omega
      obtain ⟨piece, rest, later, read, front, next, nonempty, short⟩ :=
        read_spec undelivered positive some
      exact ⟨piece, rest, later, read, front, next, nonempty, short⟩
  | readexactly n =>
      have enough : n ≤ data.length := by
        simp only at callable
        omega
      obtain ⟨later, read, next⟩ := readexactly_spec undelivered enough
      refine ⟨data.take n, data.drop n, later, read,
        (List.take_append_drop n data).symm, next, ?_⟩
      simp [Answers, enough]

end FakeTlsStream

end Reading

namespace ReadLog

/-- The results so far are right, and the rest of what was written is ahead. -/
structure InStep (written : Bytes) (log : ReadLog) : Prop where
  noError : log.error = none
  answered : ∀ result ∈ log.results, Answers result.1 result.2
  ahead : ∃ data, written = log.returned ++ data ∧
    log.stream.Undelivered data

/-- What of the written bytes has not been returned is ahead, in front of
something else. -/
def Ahead (behind written : Bytes) (log : ReadLog) : Prop :=
  ∃ data, written = log.returned ++ data ∧
    FakeTlsStream.UndeliveredBefore behind log.stream data

variable {behind written : Bytes} {log : ReadLog}

/-- A call for bytes which are ahead. -/
theorem Ahead.step {call : ReadCall} (ahead : log.Ahead behind written)
    (callable : log.Callable written call) :
    ∃ piece stream, log.stream.call call = .ok (piece, stream) ∧
      Answers call piece ∧ (log.step call).Ahead behind written := by
  obtain ⟨data, split, undelivered⟩ := ahead
  obtain ⟨piece, rest, stream, returned, front, next, answers⟩ :=
    FakeTlsStream.call_spec call undelivered split (by
      cases call <;> exact callable)
  refine ⟨piece, stream, returned, answers, rest, ?_, ?_⟩
  · rw [ReadLog.step, returned, split, front]
    simp [ReadLog.returned]
  · rw [ReadLog.step, returned]
    exact next

theorem InStep.step {call : ReadCall} (inStep : log.InStep written)
    (callable : log.Callable written call) :
    (log.step call).InStep written ∧
      (log.step call).results.map (·.1) = log.results.map (·.1) ++ [call] := by
  obtain ⟨noError, answered, data, split, undelivered⟩ := inStep
  have ahead : log.Ahead [] written :=
    ⟨data, split, FakeTlsStream.undelivered_iff.mp undelivered⟩
  obtain ⟨piece, stream, returned, answers, rest, front, next⟩ :=
    ahead.step callable
  refine ⟨⟨?_, ?_, rest, front, FakeTlsStream.undelivered_iff.mpr next⟩, ?_⟩
  · rw [ReadLog.step, returned]
    exact noError
  · rw [ReadLog.step, returned]
    intro result member
    rcases List.mem_append.mp member with earlier | last
    · exact answered result earlier
    · rw [List.mem_singleton.mp last]
      exact answers
  · rw [ReadLog.step, returned, List.map_append]
    rfl

theorem InStep.run {calls : List ReadCall} (inStep : log.InStep written)
    (met : AllSteps ReadLog.step (Callable written) log calls) :
    (run ReadLog.step log calls).InStep written ∧
      (run ReadLog.step log calls).results.map (·.1) =
        log.results.map (·.1) ++ calls := by
  induction calls generalizing log with
  | nil => exact ⟨inStep, by simp⟩
  | cons call calls induction =>
      obtain ⟨next, recorded⟩ := inStep.step met.1
      obtain ⟨after, all⟩ := induction next met.2
      refine ⟨after, ?_⟩
      rw [run_cons, all, recorded, List.append_assoc]
      rfl

theorem start_inStep {records : List TlsRecord} (arrived : Nat → Nat)
    (bodies : payloads records = written) :
    (start (encodeAll records) arrived).InStep written :=
  ⟨rfl, by simp [start], written, rfl, [], records, rfl, rfl, bodies.symm⟩

end ReadLog

/-- What was written through `wrap_tls_record` is read back, with any CCS
records put between the records and however the bytes arrive. -/
theorem records_read_back {writes : List Bytes} {records : List TlsRecord}
    (inserted :
      encodeAll (records.filter (·.kind = .applicationData)) =
        (writes.map wrapTlsRecord).flatten)
    (arrived : Nat → Nat) {calls : List ReadCall}
    (met : AllSteps ReadLog.step (ReadLog.Callable writes.flatten)
      (ReadLog.start (encodeAll records) arrived) calls) :
    let log := run ReadLog.step (ReadLog.start (encodeAll records) arrived) calls
    (∀ record ∈ records, record.kind = .applicationData →
      1 ≤ record.body.length ∧ record.body.length ≤ tlsAppdataMax) ∧
    log.error = none ∧ log.results.map (·.1) = calls ∧
    (∀ result ∈ log.results, Answers result.1 result.2) ∧
    log.returned <+: writes.flatten := by
  obtain ⟨wrapped, wire, bodies, sizes⟩ := wrapTlsRecords_records writes
  have same := encodeAll_injective (inserted.trans wire)
  have written : payloads records = writes.flatten := by
    rw [← payloads_filter, same, bodies]
  obtain ⟨after, recorded⟩ := (ReadLog.start_inStep arrived written).run met
  obtain ⟨data, split, -⟩ := after.ahead
  refine ⟨?_, after.noError, recorded, after.answered, data, split.symm⟩
  intro record member application
  apply sizes
  rw [← same]
  simp [member, application]

/-- `abc` was written; a CCS record without a body comes first, and the reader
is given one byte at a time. -/
def interleavedRecords : List TlsRecord :=
  [⟨.changeCipherSpec, 0x03, 0x03, [], by decide, by simp⟩,
    Rust.shortRecord]

theorem records_read_back_interleaved :
    let log := run ReadLog.step
      (ReadLog.start (encodeAll interleavedRecords) fun _ => 1)
      [.read 5, .readexactly 2]
    (∀ record ∈ interleavedRecords, record.kind = .applicationData →
      1 ≤ record.body.length ∧ record.body.length ≤ tlsAppdataMax) ∧
    log.error = none ∧ log.results.map (·.1) = [.read 5, .readexactly 2] ∧
    (∀ result ∈ log.results, Answers result.1 result.2) ∧
    log.returned <+: [0x61, 0x62, 0x63] := by
  refine @records_read_back [[0x61, 0x62, 0x63]] interleavedRecords ?_ _ _
    ⟨?_, ?_, trivial⟩
  · decide +kernel
  · exact ⟨by decide, by decide⟩
  · have first : ((ReadLog.start (encodeAll interleavedRecords)
        fun _ => 1).step (.read 5)).returned = [0x61] := by
      decide +kernel
    rw [ReadLog.Callable, first]
    decide

end TgWsProxy.Python
