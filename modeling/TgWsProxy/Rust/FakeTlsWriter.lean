import TgWsProxy.Rust.FakeTlsStream
import TgWsProxy.Lib.Chunks

/-!
# The Fake-TLS writer

`wrap_tls_record` and `FakeTlsStream::poll_write` of `fake_tls.rs`, driven by
`write_all`.  `poll_write` hands the wrapped bytes to the underlying writer and
reports how many of those were taken, although its caller counts the bytes of
the buffer.
-/

namespace TgWsProxy.Rust

open Lib

def tlsAppdataMax : Nat := 16384

def wrapTlsRecord (data : Bytes) : Bytes :=
  ((chunksOf tlsAppdataMax data).map fun chunk =>
    [0x17, 0x03, 0x03] ++ natToBe 2 chunk.length ++ chunk).flatten

/-- The underlying writer: what went out on the wire, and how many bytes its
next writes accept. -/
structure Sink where
  wire : Bytes
  accepts : Nat → Nat

def Sink.pollWrite (sink : Sink) (data : Bytes) : Nat × Sink :=
  let count := min (sink.accepts 0) data.length
  (count,
    { wire := sink.wire ++ data.take count
      accepts := fun index => sink.accepts (index + 1) })

/-- `FakeTlsStream::poll_write`. -/
def pollWrite (sink : Sink) (buf : Bytes) : Nat × Sink :=
  sink.pollWrite (wrapTlsRecord buf)

inductive WriteResult where
  | ok
  /-- `ErrorKind::WriteZero`. -/
  | writeZero
  | panicked (panic : Panic)
deriving DecidableEq, Repr

/-- `write_all`, which splits its buffer at the reported count. -/
def writeAll (sink : Sink) (buf : Bytes) : WriteResult × Sink :=
  if buf = [] then (.ok, sink)
  else
    let (count, sink) := pollWrite sink buf
    if buf.length < count then (.panicked .sliceIndex, sink)
    else if count = 0 then (.writeZero, sink)
    else writeAll sink (buf.drop count)
termination_by buf.length
decreasing_by
  have := List.length_pos_of_ne_nil ‹buf ≠ []›
  simp only [List.length_drop]
  omega

/-- Successive calls of `write_all`, until one of them fails. -/
def writeBuffers (sink : Sink) : List Bytes → WriteResult × Sink
  | [] => (.ok, sink)
  | buf :: bufs =>
      match writeAll sink buf with
      | (.ok, sink) => writeBuffers sink bufs
      | (failure, sink) => (failure, sink)

/-- Every call returns, and the wire carries application-data records whose
bodies are the buffers. -/
def WritesRecords (accepts : Nat → Nat) (buffers : List Bytes) : Prop :=
  ∃ sink records, writeBuffers ⟨[], accepts⟩ buffers = (.ok, sink) ∧
    sink.wire = encodeAll records ∧
    (∀ record ∈ records, record.kind = .applicationData) ∧
    payloads records = buffers.flatten

section WrapTlsRecord

/-- Wrapping adds a header, so it makes every buffer longer. -/
theorem length_lt_wrapTlsRecord {data : Bytes} (nonempty : data ≠ []) :
    data.length < (wrapTlsRecord data).length := by
  have framed (chunks : List Bytes) :
      (chunks.map fun chunk =>
        [0x17, 0x03, 0x03] ++ natToBe 2 chunk.length ++ chunk).flatten.length =
        5 * chunks.length + chunks.flatten.length := by
    induction chunks with
    | nil => rfl
    | cons chunk chunks induction =>
        simp only [List.map_cons, List.flatten_cons, List.length_append,
          induction, List.length_cons, List.length_nil, length_natToBe]
        omega
  have some : 0 < (chunksOf tlsAppdataMax data).length := by
    rw [chunksOf_of_ne_nil (by decide) nonempty]
    simp
  rw [wrapTlsRecord, framed, flatten_chunksOf]
  omega

theorem length_encodeAll (records : List TlsRecord)
    (application : ∀ record ∈ records, record.kind = .applicationData) :
    (encodeAll records).length =
      5 * records.length + (payloads records).length := by
  induction records with
  | nil => rfl
  | cons record records induction =>
      have own := application record List.mem_cons_self
      have later := induction fun record member =>
        application record (List.mem_cons_of_mem _ member)
      rw [encodeAll_cons, payloads_cons, TlsRecord.payload, own]
      simp only [List.length_append, record.length_header, later,
        List.length_cons]
      omega

end WrapTlsRecord

section WriteAll

variable {sink later : Sink} {buf : Bytes}

/-- The count is one of the buffer only if the writer accepts no more. -/
theorem pollWrite_count_le_iff (sink : Sink) (nonempty : buf ≠ []) :
    (pollWrite sink buf).1 ≤ buf.length ↔ sink.accepts 0 ≤ buf.length := by
  have longer := length_lt_wrapTlsRecord nonempty
  simp only [pollWrite, Sink.pollWrite]
  omega

theorem length_wire_pollWrite (sink : Sink) (buf : Bytes) :
    (pollWrite sink buf).2.wire.length =
      sink.wire.length + (pollWrite sink buf).1 := by
  simp only [pollWrite, Sink.pollWrite, List.length_append, List.length_take]
  omega

/-- A `write_all` which returns has put as many bytes on the wire as its
buffer has, and so no whole record. -/
theorem length_wire_writeAll (written : writeAll sink buf = (.ok, later)) :
    later.wire.length = sink.wire.length + buf.length := by
  induction sink, buf using writeAll.induct with
  | case1 sink =>
      rw [writeAll, if_pos rfl] at written
      cases written
      rfl
  | case2 sink buf nonempty count next polled beyond =>
      rw [writeAll, if_neg nonempty, polled] at written
      simp only [if_pos beyond] at written
      cases written
  | case3 sink buf nonempty next polled beyond =>
      rw [writeAll, if_neg nonempty, polled] at written
      simp only [if_neg beyond, if_true] at written
      cases written
  | case4 sink buf nonempty count next polled within positive induction =>
      rw [writeAll, if_neg nonempty, polled] at written
      simp only [if_neg within, if_neg positive] at written
      have grown := length_wire_pollWrite sink buf
      rw [polled] at grown
      rw [induction written, grown, List.length_drop]
      omega

theorem length_wire_writeBuffers {bufs : List Bytes}
    (written : writeBuffers sink bufs = (.ok, later)) :
    later.wire.length = sink.wire.length + bufs.flatten.length := by
  induction bufs generalizing sink with
  | nil =>
      cases written
      simp
  | cons buf bufs induction =>
      rw [writeBuffers] at written
      split at written
      · rename_i next first
        rw [induction written, length_wire_writeAll first, List.flatten_cons,
          List.length_append]
        omega
      · rename_i failure next failed first
        cases written
        exact (failed rfl).elim

theorem writeBuffers_of_empty {bufs : List Bytes}
    (empty : ∀ buf ∈ bufs, buf = []) : writeBuffers sink bufs = (.ok, sink) := by
  induction bufs with
  | nil => rfl
  | cons buf bufs induction =>
      have first : writeAll sink buf = (.ok, sink) := by
        rw [writeAll, if_pos (empty buf List.mem_cons_self)]
      rw [writeBuffers, first]
      exact induction fun buf member => empty buf (List.mem_cons_of_mem _ member)

end WriteAll

/-- Where the writer keeps the contract of `AsyncWrite`: a single poll reports
a count of its buffer if the underlying writer takes no more bytes than the
buffer has, and a sequence of writes comes out as records only if there is
nothing to write. -/
theorem writer_keeps_contract_iff (sink : Sink) {buf : Bytes}
    (nonempty : buf ≠ []) (accepts : Nat → Nat) (buffers : List Bytes) :
    ((pollWrite sink buf).1 ≤ buf.length ↔ sink.accepts 0 ≤ buf.length) ∧
    (WritesRecords accepts buffers ↔ ∀ buf ∈ buffers, buf = []) := by
  refine ⟨pollWrite_count_le_iff sink nonempty, ?_⟩
  constructor
  · rintro ⟨sink, records, written, wire, application, bodies⟩
    have size := length_wire_writeBuffers written
    rw [wire, length_encodeAll records application, bodies, List.length_nil,
      Nat.zero_add] at size
    have none : records = [] := by
      apply List.eq_nil_of_length_eq_zero
      omega
    have nothing : buffers.flatten = [] := by
      rw [← bodies, none]
      rfl
    exact List.flatten_eq_nil_iff.mp nothing
  · intro empty
    refine ⟨⟨[], accepts⟩, [], writeBuffers_of_empty empty, rfl, by simp, ?_⟩
    rw [List.flatten_eq_nil_iff.mpr empty]
    rfl

theorem writer_keeps_contract_iff_single :
    ((pollWrite ⟨[], fun _ => 6⟩ [0x61]).1 ≤ [(0x61 : UInt8)].length ↔
      (6 : Nat) ≤ [(0x61 : UInt8)].length) ∧
    (WritesRecords (fun _ => 6) [[0x61]] ↔
      ∀ buf ∈ ([[0x61]] : List Bytes), buf = []) :=
  writer_keeps_contract_iff ⟨[], fun _ => 6⟩ (by decide) (fun _ => 6) [[0x61]]

/-- A writer which takes everything is given six bytes for a buffer of one. -/
theorem wholeRecord_panics :
    ¬ ((∀ (sink : Sink) (buf : Bytes), buf ≠ [] → 1 ≤ sink.accepts 0 →
          (pollWrite sink buf).1 ≤ buf.length) ∧
        ∀ (accepts : Nat → Nat) (buffers : List Bytes),
          (∀ index, 1 ≤ accepts index) → WritesRecords accepts buffers) := by
  rintro ⟨reports, -⟩
  have count := reports ⟨[], fun _ => 6⟩ [0x61] (by decide) (by decide)
  revert count
  decide +kernel

end TgWsProxy.Rust
