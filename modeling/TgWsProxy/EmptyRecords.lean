import TgWsProxy.Python.FakeTlsStream

/-!
# Empty records of application data

A record of application data may be empty.  Both Fake-TLS streams then return
nothing from a read, which is how the end of a stream is reported.
-/

namespace TgWsProxy

open Lib

namespace Python

open Rust (TlsRecord)

/-- A call which asks for something. -/
abbrev DataCall := { call : ReadCall // call ≠ .read 0 }

/-- The result says that the stream has ended. -/
def ReadCall.SaysEnded :
    ReadCall → Except IncompleteReadError (Bytes × FakeTlsStream) → Prop
  | _, .error _ => True
  | .read _, .ok (data, _) => data = []
  | .readexactly _, .ok _ => False

namespace FakeTlsStream

/-- More is sent. -/
def followedBy (s : FakeTlsStream) (later : Bytes) : FakeTlsStream :=
  { s with reader.unread := s.reader.unread ++ later }

/-- The call reports the end of a stream which goes on.  On such a stream a call
waits if it needs more than was sent; what it returns without that, it returns
whatever follows. -/
def ReportsEnd (s : FakeTlsStream) (call : ReadCall) : Prop :=
  ∀ later, call.SaysEnded ((s.followedBy later).call call)

end FakeTlsStream

namespace ReadLog

/-- The call is for bytes which are there. -/
def Within (written : Bytes) (log : ReadLog) : ReadCall → Prop
  | .read _ => log.returned.length < written.length
  | .readexactly n => log.returned.length + n ≤ written.length

/-- The call does not get to a record which ends reading: it is for bytes in
front of the first one, if there is any. -/
def Careful (records : List WireRecord) (log : ReadLog) (call : DataCall) :
    Prop :=
  (∃ record ∈ records, record.EndsReading) →
    log.Within (appData records) call.val

def stepData (log : ReadLog) (call : DataCall) : ReadLog := log.step call.val

end ReadLog

/-- What stands behind the records which the reader takes: nothing, or the first
record which ends reading. -/
inductive Follows (records : List WireRecord) : Bytes → Prop where
  | nothing (none : ¬ ∃ record ∈ records, record.EndsReading) : Follows records []
  | ending {record : WireRecord} (some : ∃ record ∈ records, record.EndsReading)
      (ends : record.EndsReading) (after : Bytes) :
      Follows records (record.header ++ (record.body ++ after))

theorem Follows.cons {record : WireRecord} {records : List WireRecord}
    {behind : Bytes} (goesOn : ¬ record.EndsReading)
    (follows : Follows records behind) : Follows (record :: records) behind := by
  cases follows with
  | nothing none =>
      apply Follows.nothing
      rintro ⟨other, member, ends⟩
      rcases List.mem_cons.mp member with rfl | later
      · exact goesOn ends
      · exact none ⟨other, later, ends⟩
  | ending some ends after =>
      obtain ⟨other, member, otherEnds⟩ := some
      exact .ending ⟨other, List.mem_cons_of_mem _ member, otherEnds⟩ ends after

theorem appData_cons {record : WireRecord} (goesOn : ¬ record.EndsReading)
    (records : List WireRecord) :
    appData (record :: records) =
      (if record.rtype = tlsRecordCcs then [] else record.body) ++
        appData records := by
  rw [appData, if_neg goesOn]
  split
  · rfl
  · rfl

/-- A record which does not end reading. -/
theorem wireRecord_of_goesOn {record : WireRecord}
    (goesOn : ¬ record.EndsReading) :
    ∃ whole : TlsRecord, wireRecord whole = record ∧
      whole.payload = if record.rtype = tlsRecordCcs then [] else record.body := by
  by_cases ccs : record.rtype = tlsRecordCcs
  · refine ⟨⟨.changeCipherSpec, record.major, record.minor, record.body,
      record.fits, nofun⟩, ?_, (if_pos ccs).symm⟩
    obtain ⟨rtype, major, minor, body, fits⟩ := record
    cases ccs
    rfl
  · obtain ⟨application, some⟩ : record.rtype = tlsRecordAppdata ∧
        record.body ≠ [] := by
      have neither := not_or.mp fun other => goesOn ⟨ccs, other⟩
      exact ⟨not_not.mp neither.1, neither.2⟩
    refine ⟨⟨.applicationData, record.major, record.minor, record.body,
      record.fits, fun _ => some⟩, ?_, (if_neg ccs).symm⟩
    obtain ⟨rtype, major, minor, body, fits⟩ := record
    cases application
    rfl

/-- Records up to the first which ends reading. -/
theorem encodeRecords_split (records : List WireRecord) :
    ∃ left behind, encodeRecords records = Rust.encodeAll left ++ behind ∧
      Rust.payloads left = appData records ∧ Follows records behind := by
  induction records with
  | nil =>
      refine ⟨[], [], rfl, rfl, .nothing ?_⟩
      rintro ⟨record, member, -⟩
      cases member
  | cons record records induction =>
      by_cases ends : record.EndsReading
      · refine ⟨[], _, encodeRecords_cons record records, ?_,
          .ending ⟨record, List.mem_cons_self, ends⟩ ends _⟩
        rw [appData, if_neg ends.1, if_pos ends]
        rfl
      · obtain ⟨left, behind, split, ahead, follows⟩ := induction
        obtain ⟨whole, same, payload⟩ := wireRecord_of_goesOn ends
        refine ⟨whole :: left, behind, ?_, ?_, follows.cons ends⟩
        · rw [encodeRecords_cons, split, Rust.encodeAll_cons, List.append_assoc,
            List.append_assoc, ← same]
          rfl
        · rw [Rust.payloads_cons, ahead, payload, appData_cons ends]

/-- The call is for more than the data. -/
def Exhausts (data : Bytes) : ReadCall → Prop
  | .read _ => data = []
  | .readexactly n => data.length < n

/-- Nothing comes out of the bytes. -/
def Barren (behind : Bytes) : Prop :=
  ∀ arrived, match readRecord ⟨behind, arrived⟩ with
    | .error _ => True
    | .ok (payload, _) => payload = []

theorem barren_nil : Barren [] := by
  intro arrived
  rw [readRecord_nil]
  trivial

theorem barren_ending {record : WireRecord} (ends : record.EndsReading)
    (after : Bytes) : Barren (record.header ++ (record.body ++ after)) := by
  intro arrived
  obtain ⟨readLeft, reader, read⟩ := readRecord_ends ends after arrived
  rw [read]

/-- Records without application data are passed over. -/
theorem readRecord_passes {left : List TlsRecord} (behind : Bytes)
    (arrived : Nat → Nat) (nothing : Rust.payloads left = []) :
    readRecord ⟨Rust.encodeAll left ++ behind, arrived⟩ =
      readRecord ⟨behind, arrived⟩ := by
  induction left with
  | nil => rfl
  | cons record left induction =>
      rw [Rust.payloads_cons] at nothing
      obtain ⟨noPayload, later⟩ := List.append_eq_nil_iff.mp nothing
      have ccs : (wireRecord record).rtype = tlsRecordCcs := by
        cases kind : record.kind with
        | changeCipherSpec =>
            rw [wireRecord, kind]
            rfl
        | applicationData =>
            simp only [TlsRecord.payload, kind] at noPayload
            exact absurd noPayload (record.nonempty kind)
      rw [Rust.encodeAll_cons, List.append_assoc, List.append_assoc]
      exact (readRecord_ccs ccs _ arrived).trans (induction later)

namespace FakeTlsStream

variable {behind data : Bytes} {s : FakeTlsStream} {n : Nat}

theorem UndeliveredBefore.followedBy (undelivered : UndeliveredBefore behind s data)
    (later : Bytes) :
    UndeliveredBefore (behind ++ later) (s.followedBy later) data := by
  obtain ⟨rest, left, wire, count, ahead⟩ := undelivered
  refine ⟨rest, left, ?_, count, ahead⟩
  simp only [FakeTlsStream.followedBy, wire, List.append_assoc]

/-- More records are data which comes later. -/
theorem UndeliveredBefore.followedByRecords
    (undelivered : UndeliveredBefore [] s data) (more : List TlsRecord) :
    UndeliveredBefore [] (s.followedBy (Rust.encodeAll more))
      (data ++ Rust.payloads more) := by
  obtain ⟨rest, left, wire, count, ahead⟩ := undelivered
  refine ⟨rest, left ++ more, ?_, count, ?_⟩
  · simp only [FakeTlsStream.followedBy, wire, encodeAll_append,
      List.append_assoc, List.append_nil]
  · simp only [ahead, payloads_append, List.append_assoc, FakeTlsStream.followedBy]

/-- With all data in `_read_buf` the next payload comes from behind. -/
theorem readTlsPayload_exhausted (undelivered : UndeliveredBefore behind s data)
    (exhausted : data.length ≤ s.readBuf.length) :
    s.readTlsPayload = readRecord ⟨behind, s.reader.arrived⟩ := by
  obtain ⟨⟨unread, arrived⟩, readBuf, readLeft⟩ := s
  obtain ⟨rest, left, wire, count, ahead⟩ := undelivered
  simp only at wire count ahead exhausted
  subst wire count
  rw [ahead, List.length_append, List.length_append] at exhausted
  have noRest : rest = [] := List.eq_nil_of_length_eq_zero (by omega)
  have nothing : Rust.payloads left = [] :=
    List.eq_nil_of_length_eq_zero (by omega)
  subst noRest
  exact (if_neg (Nat.lt_irrefl 0)).trans
    (readRecord_passes behind arrived nothing)

theorem fill_exhausted (barren : Barren behind)
    (undelivered : UndeliveredBefore behind s data) (tooFew : data.length < n) :
    ∃ error, s.fill n = .error error := by
  induction missing : n - s.readBuf.length using Nat.strong_induction_on
    generalizing s with
  | _ missing induction =>
      have within : s.readBuf.length ≤ data.length := by
        obtain ⟨rest, left, -, -, ahead⟩ := undelivered
        rw [ahead, List.length_append]
        exact Nat.le_add_right _ _
      rw [fill, if_pos (by omega)]
      by_cases more : s.readBuf.length < data.length
      · obtain ⟨payload, readLeft, reader, read, nonempty, next⟩ :=
          readTlsPayload_spec undelivered more
        have progress := List.length_pos_of_ne_nil nonempty
        simp only [read, if_neg nonempty]
        refine induction _ ?_ next rfl
        rw [List.length_append]
        omega
      · have none := barren s.reader.arrived
        rw [readTlsPayload_exhausted undelivered (Nat.le_of_not_lt more)]
        split
        · exact ⟨_, rfl⟩
        · rename_i payload readLeft reader read
          rw [read] at none
          rw [if_pos none]
          exact ⟨_, rfl⟩

theorem readexactly_exhausted (barren : Barren behind)
    (undelivered : UndeliveredBefore behind s data) (tooFew : data.length < n) :
    ∃ error, s.readexactly n = .error error := by
  obtain ⟨error, filled⟩ := fill_exhausted barren undelivered tooFew
  refine ⟨error, ?_⟩
  rw [readexactly, filled]
  rfl

theorem read_exhausted (undelivered : UndeliveredBefore behind s []) :
    s.read n = do
      let (payload, readLeft, reader) ← readRecord ⟨behind, s.reader.arrived⟩
      if payload = [] then return ([], { s with reader, readLeft })
      else if n < payload.length then
        return (payload.take n,
          { reader, readLeft, readBuf := s.readBuf ++ payload.drop n })
      else return (payload, { s with reader, readLeft }) := by
  have empty : s.readBuf = [] := by
    obtain ⟨rest, left, -, -, ahead⟩ := undelivered
    exact (List.append_eq_nil_iff.mp ahead.symm).1
  rw [read, if_neg (not_not_intro empty),
    readTlsPayload_exhausted undelivered (Nat.zero_le _)]

end FakeTlsStream

namespace ReadLog

variable {records : List WireRecord} {behind : Bytes} {log : ReadLog}

theorem one_le_of_asks {n : Nat} (asks : ReadCall.read n ≠ .read 0) : 1 ≤ n := by
  apply Nat.one_le_iff_ne_zero.mpr
  intro zero
  exact asks (congrArg ReadCall.read zero)

theorem Within.callable {written : Bytes} {call : DataCall}
    (within : log.Within written call.val) : log.Callable written call.val := by
  obtain ⟨call, asks⟩ := call
  cases call with
  | read n => exact ⟨one_le_of_asks asks, within⟩
  | readexactly n => exact within

theorem exhausts_of_not_within {written data : Bytes} {call : ReadCall}
    (split : written = log.returned ++ data) (beyond : ¬ log.Within written call) :
    Exhausts data call := by
  rw [split] at beyond
  cases call with
  | read n =>
      simp only [Within, List.length_append] at beyond
      apply List.eq_nil_of_length_eq_zero
      omega
  | readexactly n =>
      simp only [Within, List.length_append] at beyond
      simp only [Exhausts]
      omega

/-- Behind the data a call says that the stream has ended. -/
theorem saysEnded_of_exhausted {s : FakeTlsStream} {call : ReadCall} {data : Bytes}
    (barren : Barren behind)
    (undelivered : FakeTlsStream.UndeliveredBefore behind s data)
    (exhausted : Exhausts data call) : call.SaysEnded (s.call call) := by
  cases call with
  | read n =>
      simp only [Exhausts] at exhausted
      subst exhausted
      have none := barren s.reader.arrived
      rw [FakeTlsStream.call, FakeTlsStream.read_exhausted undelivered]
      split at none
      · rename_i error raised
        rw [raised]
        trivial
      · rename_i payload readLeft reader read
        rw [read]
        simp only [bind, Except.bind, if_pos none]
        rfl
  | readexactly n =>
      obtain ⟨error, raised⟩ :=
        FakeTlsStream.readexactly_exhausted barren undelivered exhausted
      rw [FakeTlsStream.call, raised]
      trivial

theorem not_saysEnded {call : ReadCall} {piece : Bytes} {s : FakeTlsStream}
    (answers : Answers call piece) : ¬ call.SaysEnded (.ok (piece, s)) := by
  cases call with
  | read n => exact answers.1
  | readexactly n => exact id

/-- Enough may follow for any call. -/
theorem not_reportsEnd_of_open {s : FakeTlsStream} {data : Bytes} (call : DataCall)
    (undelivered : FakeTlsStream.UndeliveredBefore [] s data) :
    ¬ s.ReportsEnd call.val := by
  intro reports
  have enough (size : Nat) : ∃ more, (Rust.payloads more).length = size := by
    obtain ⟨more, -, bodies, -⟩ := wrapTlsRecord_records (List.replicate size 0)
    exact ⟨more, by rw [bodies, List.length_replicate]⟩
  have answered : ∃ more piece stream,
      (s.followedBy (Rust.encodeAll more)).call call.val = .ok (piece, stream) ∧
        Answers call.val piece := by
    obtain ⟨call, asks⟩ := call
    cases call with
    | read n =>
        obtain ⟨more, length⟩ := enough 1
        have nonempty : data ++ Rust.payloads more ≠ [] := by
          apply List.ne_nil_of_length_pos
          rw [List.length_append]
          omega
        obtain ⟨piece, rest, stream, read, -, -, answers⟩ :=
          FakeTlsStream.read_spec (undelivered.followedByRecords more)
            (one_le_of_asks asks) nonempty
        exact ⟨more, piece, stream, read, answers⟩
    | readexactly n =>
        obtain ⟨more, length⟩ := enough n
        have room : n ≤ (data ++ Rust.payloads more).length := by
          rw [List.length_append]
          omega
        obtain ⟨stream, read, -⟩ := FakeTlsStream.readexactly_spec
          (undelivered.followedByRecords more) room
        exact ⟨more, _, stream, read, List.length_take_of_le room⟩
  obtain ⟨more, piece, stream, returned, answers⟩ := answered
  have ended := reports (Rust.encodeAll more)
  rw [returned] at ended
  exact not_saysEnded answers ended

/-- A call reports the end too early exactly if it gets to a record which ends
reading. -/
theorem not_reportsEnd_iff (follows : Follows records behind)
    (ahead : log.Ahead behind (appData records)) (call : DataCall) :
    ¬ log.stream.ReportsEnd call.val ↔ log.Careful records call := by
  obtain ⟨data, split, undelivered⟩ := ahead
  cases follows with
  | nothing none =>
      constructor
      · intro _ some
        exact absurd some none
      · intro _
        exact not_reportsEnd_of_open call undelivered
  | @ending record some ends after =>
      constructor
      · intro notReported _
        by_contra beyond
        apply notReported
        intro later
        have next := undelivered.followedBy later
        simp only [List.append_assoc] at next
        exact saysEnded_of_exhausted (barren_ending ends _) next
          (exhausts_of_not_within split beyond)
      · intro careful reports
        have next := undelivered.followedBy []
        have callable := (careful some).callable
        obtain ⟨piece, rest, stream, returned, -, -, answers⟩ :=
          FakeTlsStream.call_spec call.val next split (by
            obtain ⟨call, asks⟩ := call
            cases call <;> exact callable)
        have ended := reports []
        rw [returned] at ended
        exact not_saysEnded answers ended

/-- The reader stays where it was expected. -/
theorem ahead_stepData (follows : Follows records behind)
    (ahead : log.Ahead behind (appData records)) (call : DataCall)
    (careful : log.Careful records call) :
    (log.stepData call).Ahead behind (appData records) := by
  by_cases within : log.Within (appData records) call.val
  · obtain ⟨-, -, -, -, next⟩ := ahead.step within.callable
    exact next
  · cases follows with
    | ending some ends after => exact absurd (careful some) within
    | nothing none =>
        obtain ⟨data, split, undelivered⟩ := ahead
        have exhausted := exhausts_of_not_within split within
        have raised : ∃ error, log.stream.call call.val = .error error := by
          obtain ⟨call, asks⟩ := call
          cases call with
          | read n =>
              simp only [Exhausts] at exhausted
              subst exhausted
              refine ⟨⟨[], 5⟩, ?_⟩
              rw [FakeTlsStream.call, FakeTlsStream.read_exhausted undelivered,
                readRecord_nil]
              rfl
          | readexactly n =>
              exact FakeTlsStream.readexactly_exhausted barren_nil undelivered
                exhausted
        obtain ⟨error, raised⟩ := raised
        rw [stepData, ReadLog.step, raised]
        exact ⟨data, split, undelivered⟩

theorem start_ahead (arrived : Nat → Nat) {left : List TlsRecord}
    (wire : encodeRecords records = Rust.encodeAll left ++ behind)
    (bodies : Rust.payloads left = appData records) :
    (start (encodeRecords records) arrived).Ahead behind (appData records) :=
  ⟨appData records, rfl, [], left, wire, rfl, bodies.symm⟩

/-- No call reports the end of a stream which goes on exactly if none gets to a
record which ends reading. -/
theorem reportsEnd_iff (records : List WireRecord) (arrived : Nat → Nat)
    (calls : List DataCall) :
    AllSteps stepData (fun log call => ¬ log.stream.ReportsEnd call.val)
        (start (encodeRecords records) arrived) calls ↔
      AllSteps stepData (Careful records) (start (encodeRecords records) arrived)
        calls := by
  obtain ⟨left, behind, wire, bodies, follows⟩ := encodeRecords_split records
  apply allSteps_congr_of_kept (Ahead behind (appData records))
  · exact fun log call ahead => not_reportsEnd_iff follows ahead call
  · exact fun log call ahead careful => ahead_stepData follows ahead call careful
  · exact start_ahead arrived wire bodies

end ReadLog

end Python

namespace Rust

/-- A read with room for something returns nothing, and the underlying stream has
not ended. -/
def FakeTlsStream.ReadsNothing (s : FakeTlsStream) (capacity : Nat) : Prop :=
  (s.pollRead capacity).1 = .ready [] ∧
    (s.pollRead capacity).2.reader.ended = false

def FakeTlsStream.stepRead (s : FakeTlsStream) (capacity : { n : Nat // 0 < n }) :
    FakeTlsStream :=
  (s.pollRead capacity.val).2

/-- Behind records which are passed over, the source is read as an empty record of
application data, and has not ended. -/
inductive MeetsEmpty : Source → Prop where
  | empty {source later : Source} :
      pollRecord source = (.record 0x17 [], later) → later.ended = false →
      MeetsEmpty source
  | passes {source later : Source} {body : Bytes} :
      pollRecord source = (.record 0x14 body, later) → MeetsEmpty later →
      MeetsEmpty source

/-- The next read gets to an empty record. -/
def FakeTlsStream.Careful (s : FakeTlsStream) (_ : { n : Nat // 0 < n }) : Prop :=
  s.buf = [] → ¬ MeetsEmpty s.reader

section MeetsEmpty

variable {source later : Source} {body : Bytes}

theorem meetsEmpty_applicationData
    (polled : pollRecord source = (.record 0x17 body, later)) :
    MeetsEmpty source ↔ body = [] ∧ later.ended = false := by
  constructor
  · intro meets
    cases meets with
    | empty other isOpen =>
        rw [polled] at other
        cases other
        exact ⟨rfl, isOpen⟩
    | passes other next =>
        rw [polled] at other
        cases other
  · rintro ⟨rfl, isOpen⟩
    exact .empty polled isOpen

theorem meetsEmpty_changeCipherSpec
    (polled : pollRecord source = (.record 0x14 body, later)) :
    MeetsEmpty source ↔ MeetsEmpty later := by
  constructor
  · intro meets
    cases meets with
    | empty other isOpen =>
        rw [polled] at other
        cases other
    | passes other next =>
        rw [polled] at other
        cases other
        exact next
  · exact .passes polled

theorem not_meetsEmpty {result : RecordPoll}
    (polled : pollRecord source = (result, later))
    (neither : ∀ recordType body, result = .record recordType body →
      recordType ≠ 0x17 ∧ recordType ≠ 0x14) : ¬ MeetsEmpty source := by
  intro meets
  cases meets with
  | empty other isOpen =>
      rw [polled] at other
      cases other
      exact (neither _ _ rfl).1 rfl
  | passes other next =>
      rw [polled] at other
      cases other
      exact (neither _ _ rfl).2 rfl

/-- While headers and bodies are read whole, the empty records which are met are
those of the client. -/
theorem meetsEmpty_whole_iff {record : Python.WireRecord} {afterHeader : Source}
    (header : source.poll 5 = (.ready record.header, afterHeader))
    (read : afterHeader.poll record.body.length = (.ready record.body, later)) :
    MeetsEmpty source ↔
      (record.rtype = 0x17 ∧ record.body = [] ∧ later.ended = false) ∨
        (record.rtype = 0x14 ∧ MeetsEmpty later) := by
  have whole : ¬ record.header.length < 5 := by
    rw [record.length_header]
    exact Nat.lt_irrefl 5
  have polled : pollRecord source = (.record record.rtype record.body, later) := by
    simp only [pollRecord, header, if_neg whole, record.header_len, read,
      Nat.lt_irrefl, if_false]
    rfl
  by_cases application : record.rtype = 0x17
  · rw [application] at polled
    rw [meetsEmpty_applicationData polled, application]
    simp
  · by_cases ccs : record.rtype = 0x14
    · rw [ccs] at polled
      rw [meetsEmpty_changeCipherSpec polled, ccs]
      simp
    · have neither := not_meetsEmpty polled (by
        intro recordType body same
        cases same
        exact ⟨application, ccs⟩)
      simp only [neither, application, ccs, false_and, or_false]

end MeetsEmpty

namespace FakeTlsStream

theorem readsNothing_iff {s : FakeTlsStream} {capacity : Nat}
    (room : 0 < capacity) :
    s.ReadsNothing capacity ↔ s.buf = [] ∧ MeetsEmpty s.reader := by
  have nothing (bytes : Bytes) : bytes.take capacity = [] ↔ bytes = [] := by
    rw [List.take_eq_nil_iff]
    exact or_iff_right (Nat.ne_of_gt room)
  induction size : s.reader.size using Nat.strong_induction_on generalizing s with
  | _ size induction =>
      by_cases empty : s.buf = []
      · simp only [ReadsNothing, empty, true_and]
        cases polled : pollRecord s.reader with
        | mk result later =>
            cases result with
            | pending =>
                simp only [pollRead_pending empty polled, reduceCtorEq,
                  false_and, false_iff]
                exact not_meetsEmpty polled nofun
            | failed error =>
                simp only [pollRead_failed empty polled, reduceCtorEq,
                  false_and, false_iff]
                exact not_meetsEmpty polled nofun
            | record recordType body =>
                by_cases application : recordType = 0x17
                · rw [application] at polled
                  simp only [pollRead_applicationData empty polled,
                    ReadPoll.ready.injEq, nothing]
                  exact (meetsEmpty_applicationData polled).symm
                · by_cases ccs : recordType = 0x14
                  · rw [ccs] at polled
                    have smaller := pollRecord_size polled
                    have next := @induction later.size (size ▸ smaller)
                      { s with reader := later } rfl
                    simp only [ReadsNothing, empty, true_and] at next
                    simp only [pollRead_changeCipherSpec empty polled, empty]
                    exact next.trans (meetsEmpty_changeCipherSpec polled).symm
                  · obtain ⟨error, failed⟩ :=
                      @pollRead_unexpected capacity s later empty recordType body
                        polled application ccs
                    simp only [failed, reduceCtorEq, false_and, false_iff]
                    apply not_meetsEmpty polled
                    intro otherType otherBody same
                    cases same
                    exact ⟨application, ccs⟩
      · simp only [empty, false_and, iff_false]
        intro reads
        rw [ReadsNothing, pollRead_buffered empty] at reads
        simp only [ReadPoll.ready.injEq, nothing] at reads
        exact empty reads.1

theorem readsNothing_run_iff (s : FakeTlsStream)
    (capacities : List { n : Nat // 0 < n }) :
    AllSteps stepRead (fun s capacity => ¬ s.ReadsNothing capacity.val) s
        capacities ↔
      AllSteps stepRead Careful s capacities := by
  apply allSteps_congr_of_kept (fun _ => True)
  · intro s capacity _
    rw [readsNothing_iff capacity.property, Careful, not_and]
  · exact fun _ _ _ _ => trivial
  · trivial

end FakeTlsStream

end Rust

/-- As long as the stream goes on, neither implementation reports its end exactly
if no read gets to an empty record of application data, or in Python to one of
another type.  In Rust these are the records of the client as long as headers and
bodies are read whole. -/
theorem endOfStream_iff (records : List Python.WireRecord) (arrived : Nat → Nat)
    (calls : List Python.DataCall) (arrivals : List Rust.Arrival)
    (capacities : List { n : Nat // 0 < n }) :
    (AllSteps Python.ReadLog.stepData
          (fun log call => ¬ log.stream.ReportsEnd call.val)
          (Python.ReadLog.start (Python.encodeRecords records) arrived) calls ↔
        AllSteps Python.ReadLog.stepData (Python.ReadLog.Careful records)
          (Python.ReadLog.start (Python.encodeRecords records) arrived) calls) ∧
      (AllSteps Rust.FakeTlsStream.stepRead
          (fun s capacity => ¬ s.ReadsNothing capacity.val)
          ⟨⟨arrivals, false⟩, []⟩ capacities ↔
        AllSteps Rust.FakeTlsStream.stepRead Rust.FakeTlsStream.Careful
          ⟨⟨arrivals, false⟩, []⟩ capacities) ∧
      ∀ (record : Python.WireRecord) (source afterHeader later : Rust.Source),
        source.poll 5 = (.ready record.header, afterHeader) →
        afterHeader.poll record.body.length = (.ready record.body, later) →
        (Rust.MeetsEmpty source ↔
          (record.rtype = 0x17 ∧ record.body = [] ∧ later.ended = false) ∨
            (record.rtype = 0x14 ∧ Rust.MeetsEmpty later)) := by
  refine ⟨?_, ?_, ?_⟩
  · exact Python.ReadLog.reportsEnd_iff records arrived calls
  · exact Rust.FakeTlsStream.readsNothing_run_iff _ capacities
  · intro record source afterHeader later header read
    exact Rust.meetsEmpty_whole_iff header read

/-- An empty record, and one with the letter `a`. -/
def emptyThenLetter : List Python.WireRecord :=
  [⟨0x17, 3, 3, [], Nat.zero_lt_succ _⟩, ⟨0x17, 3, 3, [0x61], by decide⟩]

/-- Both report the end in front of the letter. -/
theorem emptyThenLetter_ends :
    (Python.ReadLog.start (Python.encodeRecords emptyThenLetter)
        fun _ => 5).stream.ReportsEnd (.read 5) ∧
      Rust.FakeTlsStream.ReadsNothing
        ⟨⟨[.data (Python.encodeRecords emptyThenLetter)], false⟩, []⟩ 5 := by
  have ends : (Python.WireRecord.mk 0x17 3 3 [] (Nat.zero_lt_succ _)).EndsReading :=
    ⟨nofun, Or.inr rfl⟩
  constructor
  · intro later
    exact Python.ReadLog.saysEnded_of_exhausted (Python.barren_ending ends _)
      ⟨[], [], rfl, rfl, rfl⟩ rfl
  · apply (Rust.FakeTlsStream.readsNothing_iff (by decide)).mpr
    exact ⟨rfl, .empty rfl rfl⟩

end TgWsProxy
