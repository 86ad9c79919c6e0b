import TgWsProxy.ClientInit
import TgWsProxy.Rust.ClientHello
import TgWsProxy.Rust.FakeTlsStream
import TgWsProxy.Rust.Handshake

/-!
# The Rust accept path

`handle_client` of `main.rs` until the handshake is accepted.  Each read is
`timeout(HANDSHAKE_TIMEOUT, reader.read_exact(&mut buf))`, whose result nests a
second one: the outer error is the time limit, the inner one the end of the
stream or an error.  The code looks at the outer one only.
-/

namespace TgWsProxy.Rust

open Lib

/-- `is_err()` of the result of `timeout`. -/
def isErr : TimedRead → Bool
  | .elapsed => true
  | .filled _ | .ended _ | .failed _ => false

/-- The zeroed buffer of `size` bytes after the read. -/
def bufferAfter (size : Nat) : TimedRead → Bytes
  | .filled bytes => bytes
  | .ended taken | .failed taken =>
      taken ++ List.replicate (size - taken.length) 0
  | .elapsed => List.replicate size 0

/-- `handle_client` from `try_handshake` to the request. -/
def acceptHandshake (handshake : Bytes) :
    InitProgram Panic (Option ClientRequest) := do
  let result ← initAct (.tryHandshake handshake)
  match result with
  | .error _ => return none
  | .ok (some request) => return some request
  | .ok none =>
      initAct .countBad
      return none

/-- `handle_client` with a ClientHello which has been read. -/
def acceptHello (clientHello : Bytes) :
    InitProgram Panic (Option ClientRequest) := do
  let verified ← initAct (.verifyClientHello clientHello)
  match verified with
  | .error _ => return none
  | .ok none => return none
  | .ok (some verdict) =>
      let sent ← initAct (.serverHello verdict.clientRandom verdict.sessionId)
      if sent then
        let hs ← initAct (.read .handshakeInTls handshakeLen)
        if isErr hs then return none
        else acceptHandshake (bufferAfter handshakeLen hs)
      else return none

/-- `handle_client` behind the header of a TLS record. -/
def acceptRecord (firstByte hdrRest : Bytes) :
    InitProgram Panic (Option ClientRequest) := do
  let recordLen := beNat [hdrRest.getD 0 0, hdrRest.getD 1 0]
  let recordBody ← initAct (.read .recordBody recordLen)
  if isErr recordBody then return none
  else acceptHello (firstByte ++ hdrRest ++ bufferAfter recordLen recordBody)

/-- `handle_client` behind the first byte of a TLS record. -/
def acceptTls (firstByte : Bytes) :
    InitProgram Panic (Option ClientRequest) := do
  let hdrRest ← initAct (.read .recordHeader 4)
  if isErr hdrRest then return none
  else acceptRecord firstByte (bufferAfter 4 hdrRest)

/-- `handle_client` without Fake TLS. -/
def acceptPlain (firstByte : Bytes) :
    InitProgram Panic (Option ClientRequest) := do
  let rest ← initAct (.read .handshakeRest (handshakeLen - 1))
  if isErr rest then return none
  else acceptHandshake (firstByte ++ bufferAfter (handshakeLen - 1) rest)

/-- The three ways of `handle_client` on from the first byte. -/
def acceptBy (masking : String) (firstByte : Bytes) :
    InitProgram Panic (Option ClientRequest) := do
  if firstByte.getD 0 0 = tlsRecordHandshake ∧ masking ≠ "" then
    acceptTls firstByte
  else if masking ≠ "" then
    let _ ← initAct (.redirect (redirectResponse masking))
    return none
  else acceptPlain firstByte

/-- `handle_client` from `first_byte` to the request. -/
def acceptFirstByte (masking : String) :
    InitProgram Panic (Option ClientRequest) := do
  let firstByte ← initAct (.read .firstByte 1)
  if isErr firstByte then return none
  else acceptBy masking (bufferAfter 1 firstByte)

/-- `handle_client` to the request, with `proxy_protocol` and
`fake_tls_domain` of the configuration. -/
def acceptClient (proxyProtocol : Bool) (masking : String) :
    InitProgram Panic (Option ClientRequest) := do
  if proxyProtocol then
    let line ← initAct .proxyLine
    if line then acceptFirstByte masking else return none
  else acceptFirstByte masking

/-- `read_exact` under a time limit, which elapses when a read is pending after
`patience` others were. -/
def readExact {Reader : Type} (poll : Nat → Reader → ReadPoll × Reader)
    (remaining patience : Nat) (taken : Bytes) (reader : Reader) :
    TimedRead × Reader :=
  if remaining = 0 then (.filled taken, reader)
  else
    match poll remaining reader with
    | (.failed _, reader) => (.failed taken, reader)
    | (.ready [], reader) => (.ended taken, reader)
    | (.ready (first :: bytes), reader) =>
        readExact poll (remaining - (bytes.length + 1)) patience
          (taken ++ first :: bytes) reader
    | (.pending, reader) =>
        match patience with
        | 0 => (.elapsed, reader)
        | patience + 1 => readExact poll remaining patience taken reader
termination_by remaining + patience

/-- A read which is pending leaves the bytes to come. -/
theorem Source.poll_pending {capacity : Nat} {source later : Source}
    (polled : source.poll capacity = (.pending, later)) :
    later.pendings + 1 = source.pendings ∧ later.size = source.size := by
  obtain ⟨arrivals, ended⟩ := source
  have front := Source.pending_of_poll polled
  subst front
  constructor
  · simp [pendings]
  · simp [size, arrivalSize]

/-- The loop over the PROXY line, whose reads have no time limit; whether it
reached the end of the line. -/
def proxyLine (source : Source) : Bool × Source :=
  match _polled : source.poll 1 with
  | (.failed _, later) => (false, later)
  | (.ready [], later) => (false, later)
  | (.ready (byte :: _), later) =>
      if byte = 0x0A then (true, later) else proxyLine later
  | (.pending, later) => proxyLine later
termination_by source.size + source.pendings
decreasing_by
  · have same := Source.poll_pendings _polled
    have smaller := (Source.poll_size _polled).2 _ rfl
    rw [List.length_cons] at smaller
    omega
  · obtain ⟨fewer, same⟩ := Source.poll_pending _polled
    omega

/-- A read of the raw stream, or of `FakeTlsStream` over it. -/
def timedRead (step : InitRead) (count patience : Nat) (s : FakeTlsStream) :
    TimedRead × FakeTlsStream :=
  match step with
  | .handshakeInTls => readExact FakeTlsStream.pollRead count patience [] s
  | .firstByte | .recordHeader | .recordBody | .handshakeRest =>
      let (result, reader) := readExact Source.poll count patience [] s.reader
      (result, { s with reader })

theorem timedRead_raw {step : InitRead} (raw : step ≠ .handshakeInTls)
    (count patience : Nat) (s : FakeTlsStream) :
    timedRead step count patience s =
      ((readExact Source.poll count patience [] s.reader).1,
        { s with
          reader := (readExact Source.poll count patience [] s.reader).2 }) := by
  cases step with
  | handshakeInTls => exact absurd rfl raw
  | firstByte | recordHeader | recordBody | handshakeRest => rfl

/-- A read takes some patience, and a write succeeds or not. -/
@[reducible] def InitOutcome : InitOp → Type
  | .read _ _ => Nat
  | .serverHello _ _ | .redirect _ => Bool
  | .proxyLine | .verifyClientHello _ | .proxyToMaskingDomain _ _
  | .tryHandshake _ | .countBad => Unit

/-- The surroundings of `handle_client`: the stream of the client.  There is
no Fake-TLS data before the ServerHello was sent. -/
@[reducible] def acceptWorld (crypto : Primitives) (secret : Bytes) (now : Nat) :
    Surroundings InitOp (InitOp.Reply Panic) where
  State := FakeTlsStream
  Outcome := InitOutcome
  perform s op outcome :=
    match op, outcome with
    | .proxyLine, _ =>
        let (ended, reader) := proxyLine s.reader
        (ended, { s with reader })
    | .read step count, patience => timedRead step count patience s
    | .verifyClientHello clientHello, _ =>
        (verifyClientHello crypto now clientHello secret, s)
    | .serverHello _ _, sent => (sent, s)
    | .redirect _, sent => (sent, s)
    | .proxyToMaskingDomain _ _, _ => ((), s)
    | .tryHandshake handshake, _ => (tryHandshake crypto handshake secret, s)
    | .countBad, _ => ((), s)

/-- How often a read is pending before `count` bytes have arrived. -/
def waitsAmong (count : Nat) : List Arrival → Nat
  | [] => 0
  | arrival :: later =>
      if count = 0 then 0
      else
        match arrival with
        | .pending => waitsAmong count later + 1
        | .failure _ => 0
        | .data bytes => waitsAmong (count - bytes.length) later

@[simp] theorem waitsAmong_zero (arrivals : List Arrival) :
    waitsAmong 0 arrivals = 0 := by
  cases arrivals with
  | nil => rfl
  | cons arrival later => rfl

theorem waitsAmong_pending {count : Nat} (later : List Arrival)
    (positive : count ≠ 0) :
    waitsAmong count (.pending :: later) = waitsAmong count later + 1 := by
  rw [waitsAmong, if_neg positive]

theorem waitsAmong_mono {fewer more : Nat} (le : fewer ≤ more)
    (arrivals : List Arrival) :
    waitsAmong fewer arrivals ≤ waitsAmong more arrivals := by
  induction arrivals generalizing fewer more with
  | nil => exact Nat.le_refl 0
  | cons arrival later induction =>
      by_cases nothing : fewer = 0
      · rw [nothing, waitsAmong_zero]
        exact Nat.zero_le _
      · have something : more ≠ 0 := by omega
        simp only [waitsAmong, if_neg nothing, if_neg something]
        cases arrival with
        | pending => exact Nat.succ_le_succ (induction le)
        | failure error => exact Nat.le_refl 0
        | data bytes => exact induction (Nat.sub_le_sub_right le _)

/-- What is taken from a segment does not wait. -/
theorem waitsAmong_poll {capacity : Nat} {taken : Bytes}
    {arrivals later : List Arrival} {ended : Bool}
    (nonempty : arrivals ≠ [])
    (polled : Source.poll capacity ⟨arrivals, false⟩ =
      (.ready taken, ⟨later, ended⟩)) (count : Nat) :
    waitsAmong count later = waitsAmong (taken.length + count) arrivals := by
  cases arrivals with
  | nil => exact absurd rfl nonempty
  | cons arrival arrivals =>
      cases arrival with
      | pending => cases polled
      | failure error => cases polled
      | data bytes =>
          by_cases fits : bytes.length ≤ capacity
          · simp only [Source.poll, if_pos fits] at polled
            cases polled
            rw [List.take_of_length_le fits, waitsAmong]
            by_cases nothing : bytes.length + count = 0
            · rw [if_pos nothing, Nat.eq_zero_of_add_eq_zero_left nothing,
                waitsAmong_zero]
            · rw [if_neg nothing, Nat.add_sub_cancel_left]
          · simp only [Source.poll, if_neg fits] at polled
            cases polled
            have size : (bytes.take capacity).length = capacity := by
              rw [List.length_take]
              omega
            rw [size, waitsAmong, waitsAmong, List.length_drop]
            by_cases nothing : count = 0
            · subst nothing
              have spent : capacity + 0 - bytes.length = 0 := by omega
              simp only [spent, if_true, waitsAmong_zero, ite_self]
            · have more : ¬ capacity + count = 0 := by omega
              have left : count - (bytes.length - capacity) =
                  capacity + count - bytes.length := by omega
              rw [if_neg nothing, if_neg more, left]

/-- The bytes of a client, in non-empty segments, with pending reads anywhere
between them, and then an error or the end of the stream. -/
structure ClientStream where
  segments : List Arrival
  valid : ∀ arrival ∈ segments, arrival = .pending ∨
    ∃ segment, segment ≠ [] ∧ arrival = .data segment
  error : Option IoError

namespace ClientStream

def ending (stream : ClientStream) : List Arrival :=
  (stream.error.map Arrival.failure).toList

def source (stream : ClientStream) : Source :=
  ⟨stream.segments ++ stream.ending, false⟩

def bytes (stream : ClientStream) : Bytes :=
  (stream.segments.map arrivalBytes).flatten

/-- How often a read is pending before `count` bytes have arrived. -/
def waitsWithin (stream : ClientStream) (count : Nat) : Nat :=
  waitsAmong count stream.segments

theorem waitsWithin_mono (stream : ClientStream) {fewer more : Nat}
    (le : fewer ≤ more) : stream.waitsWithin fewer ≤ stream.waitsWithin more :=
  waitsAmong_mono le stream.segments

/-- One poll of the stream of a client. -/
inductive Polled (capacity : Nat) (stream : ClientStream) :
    ReadPoll × Source → Prop where
  | ended : stream.bytes = [] → Polled capacity stream (.ready [], ⟨[], true⟩)
  | failed {error : IoError} : stream.bytes = [] →
      Polled capacity stream (.failed error, ⟨[], false⟩)
  | pending {rest : ClientStream} : rest.bytes = stream.bytes →
      (∀ count, count ≠ 0 →
        rest.waitsWithin count + 1 = stream.waitsWithin count) →
      Polled capacity stream (.pending, rest.source)
  | read {taken : Bytes} {rest : ClientStream} :
      stream.bytes = taken ++ rest.bytes → taken.length ≤ capacity →
      (capacity ≠ 0 → taken ≠ []) →
      (∀ count, rest.waitsWithin count =
        stream.waitsWithin (taken.length + count)) →
      Polled capacity stream (.ready taken, rest.source)

/-- What comes after the segments waits. -/
theorem poll_append {capacity : Nat} {segments later tail : List Arrival}
    {ended : Bool} {result : ReadPoll} (nonempty : segments ≠ [])
    (polled : Source.poll capacity ⟨segments, false⟩ = (result, ⟨later, ended⟩)) :
    Source.poll capacity ⟨segments ++ tail, false⟩ =
        (result, ⟨later ++ tail, false⟩) ∧ ended = false := by
  cases segments with
  | nil => exact absurd rfl nonempty
  | cons arrival segments =>
      cases arrival with
      | pending =>
          cases polled
          exact ⟨rfl, rfl⟩
      | failure error =>
          cases polled
          exact ⟨rfl, rfl⟩
      | data bytes =>
          by_cases fits : bytes.length ≤ capacity
          · simp only [Source.poll, if_pos fits] at polled
            cases polled
            simp only [List.cons_append, Source.poll, if_pos fits, and_self]
          · simp only [Source.poll, if_neg fits] at polled
            cases polled
            simp only [List.cons_append, Source.poll, if_neg fits, and_self]

theorem poll (stream : ClientStream) (capacity : Nat) :
    stream.Polled capacity (stream.source.poll capacity) := by
  obtain ⟨segments, valid, error⟩ := stream
  by_cases spent : segments = []
  · subst spent
    cases error with
    | none => exact .ended rfl
    | some error => exact .failed rfl
  · have carries : Carries segments (segments.map arrivalBytes).flatten :=
      ⟨valid, rfl⟩
    have outcome := carries.poll capacity
    generalize polled : Source.poll capacity ⟨segments, false⟩ = result
      at outcome
    cases outcome with
    | ended =>
        obtain ⟨-, impossible⟩ := @poll_append _ _ _ [] _ _ spent polled
        cases impossible
    | @pending later carriesLater =>
        have front := Source.pending_of_poll polled
        have whole := (@poll_append _ _ _
          (error.map Arrival.failure).toList _ _ spent polled).1
        simp only [source, ending, whole]
        refine @Polled.pending _ _ ⟨later, carriesLater.segments, error⟩
          carriesLater.total ?_
        intro count positive
        have waits : waitsAmong count segments = waitsAmong count later + 1 :=
          (congrArg (waitsAmong count) front).trans
            (waitsAmong_pending later positive)
        exact waits.symm
    | @read taken rest later cut short taking carriesLater =>
        have whole := (@poll_append _ _ _
          (error.map Arrival.failure).toList _ _ spent polled).1
        simp only [source, ending, whole]
        refine @Polled.read _ _ taken ⟨later, carriesLater.segments, error⟩
          ?_ short taking (waitsAmong_poll spent polled)
        rw [bytes, bytes, carriesLater.total]
        exact cut

/-- The loop over the PROXY line of the stream of a client. -/
inductive Line (stream : ClientStream) : Bool × Source → Prop where
  | whole {line : Bytes} {rest : ClientStream} : 0x0A ∉ line →
      stream.bytes = line ++ 0x0A :: rest.bytes →
      (∀ more, rest.waitsWithin more ≤
        stream.waitsWithin (line.length + 1 + more)) →
      Line stream (true, rest.source)
  | cut {later : Source} : 0x0A ∉ stream.bytes → Line stream (false, later)

theorem Line.after_pending {stream rest : ClientStream}
    {result : Bool × Source} (same : rest.bytes = stream.bytes)
    (fewer : ∀ count, count ≠ 0 →
      rest.waitsWithin count + 1 = stream.waitsWithin count)
    (line : Line rest result) : Line stream result := by
  cases line with
  | @whole line last clean split earlier =>
      apply Line.whole clean (same ▸ split)
      intro more
      have before := fewer (line.length + 1 + more) (by omega)
      have moved := earlier more
      omega
  | cut clean => exact .cut (same ▸ clean)

/-- The line goes on behind a byte which is not its end. -/
theorem Line.after_byte {stream rest : ClientStream} {byte : UInt8}
    {result : Bool × Source} (other : byte ≠ 0x0A)
    (cut : stream.bytes = byte :: rest.bytes)
    (waits : ∀ count, rest.waitsWithin count = stream.waitsWithin (1 + count))
    (line : Line rest result) : Line stream result := by
  cases line with
  | @whole line last clean split earlier =>
      apply @Line.whole _ (byte :: line)
      · exact List.not_mem_cons_of_ne_of_not_mem (Ne.symm other) clean
      · rw [cut, split]
        rfl
      · intro more
        have moved := (earlier more).trans
          (Nat.le_of_eq (waits (line.length + 1 + more)))
        have total : 1 + (line.length + 1 + more) =
            (byte :: line).length + 1 + more := by
          rw [List.length_cons]
          omega
        rwa [total] at moved
  | cut clean =>
      apply Line.cut
      rw [cut]
      exact List.not_mem_cons_of_ne_of_not_mem (Ne.symm other) clean

theorem proxyLine (stream : ClientStream) :
    stream.Line (proxyLine stream.source) := by
  induction size : stream.source.size + stream.source.pendings
    using Nat.strong_induction_on generalizing stream with
  | _ size induction =>
      have polled := stream.poll 1
      rw [Rust.proxyLine]
      split
      · rename_i error later result
        rw [result] at polled
        cases polled with
        | failed spent => exact .cut (spent ▸ List.not_mem_nil)
      · rename_i later result
        rw [result] at polled
        cases polled with
        | ended spent => exact .cut (spent ▸ List.not_mem_nil)
        | read cut short taking waits => exact absurd rfl (taking Nat.one_ne_zero)
      · rename_i byte bytes later result
        rw [result] at polled
        cases polled with
        | @read taken rest cut short taking waits =>
            have single : bytes = [] := by
              rw [List.length_cons] at short
              exact List.eq_nil_of_length_eq_zero (by omega)
            subst single
            by_cases newline : byte = 0x0A
            · rw [if_pos newline]
              apply Line.whole List.not_mem_nil
              · rw [cut, newline]
                rfl
              · intro more
                exact Nat.le_of_eq (waits more)
            · rw [if_neg newline]
              apply Line.after_byte newline cut waits
              have smaller := (Source.poll_size result).2 _ rfl
              have same := Source.poll_pendings result
              rw [List.length_singleton] at smaller
              exact induction _ (by omega) rest rfl
      · rename_i later result
        rw [result] at polled
        cases polled with
        | pending same fewer =>
            apply Line.after_pending same fewer
            obtain ⟨less, kept⟩ := Source.poll_pending result
            exact induction _ (by omega) _ rfl

/-- A timed read of the stream of a client, after `before` was taken from it. -/
inductive Read (count patience : Nat) (before : Bytes) (stream : ClientStream) :
    TimedRead × Source → Prop where
  | filled {taken : Bytes} {rest : ClientStream} :
      stream.bytes = taken ++ rest.bytes → taken.length = count →
      (∀ more, rest.waitsWithin more ≤ stream.waitsWithin (count + more)) →
      Read count patience before stream (.filled (before ++ taken), rest.source)
  | ended {ended : Bool} : stream.bytes.length < count →
      Read count patience before stream
        (.ended (before ++ stream.bytes), ⟨[], ended⟩)
  | failed {ended : Bool} : stream.bytes.length < count →
      Read count patience before stream
        (.failed (before ++ stream.bytes), ⟨[], ended⟩)
  | elapsed {later : Source} : patience < stream.waitsWithin count →
      Read count patience before stream (.elapsed, later)

theorem Read.after_pending {count patience : Nat} {before : Bytes}
    {stream rest : ClientStream} {result : TimedRead × Source}
    (positive : count ≠ 0) (same : rest.bytes = stream.bytes)
    (fewer : ∀ count, count ≠ 0 →
      rest.waitsWithin count + 1 = stream.waitsWithin count)
    (read : Read count patience before rest result) :
    Read count (patience + 1) before stream result := by
  cases read with
  | filled cut size waits =>
      apply Read.filled (same ▸ cut) size
      intro more
      have earlier := waits more
      have before := fewer (count + more) (by omega)
      omega
  | ended short =>
      rw [same] at short ⊢
      exact .ended short
  | failed short =>
      rw [same] at short ⊢
      exact .failed short
  | elapsed impatient =>
      apply Read.elapsed
      rw [← fewer count positive]
      exact Nat.succ_lt_succ impatient

theorem Read.after_read {count patience : Nat} {before taken : Bytes}
    {stream rest : ClientStream} {result : TimedRead × Source}
    (cut : stream.bytes = taken ++ rest.bytes) (short : taken.length ≤ count)
    (same : ∀ count, rest.waitsWithin count =
      stream.waitsWithin (taken.length + count))
    (read : Read (count - taken.length) patience (before ++ taken) rest result) :
    Read count patience before stream result := by
  have sizes : stream.bytes.length = taken.length + rest.bytes.length := by
    rw [cut, List.length_append]
  cases read with
  | @filled more last split size waits =>
      rw [List.append_assoc]
      apply Read.filled
      · rw [cut, split, List.append_assoc]
      · rw [List.length_append]
        omega
      · intro further
        have whole : taken.length + (count - taken.length + further) =
            count + further := by omega
        rw [← whole, ← same]
        exact waits further
  | ended missing =>
      rw [List.append_assoc, ← cut]
      exact .ended (by omega)
  | failed missing =>
      rw [List.append_assoc, ← cut]
      exact .failed (by omega)
  | elapsed impatient =>
      apply Read.elapsed
      rwa [same, Nat.add_sub_cancel' short] at impatient

theorem short_of_spent {stream : ClientStream} {count : Nat}
    (spent : stream.bytes = []) (more : count ≠ 0) :
    stream.bytes.length < count := by
  rw [spent]
  exact Nat.pos_of_ne_zero more

theorem read (stream : ClientStream) (count patience : Nat) (before : Bytes) :
    stream.Read count patience before
      (readExact Source.poll count patience before stream.source) := by
  induction size : count + patience using Nat.strong_induction_on
    generalizing stream count patience before with
  | _ size induction =>
      rw [readExact]
      by_cases complete : count = 0
      · rw [if_pos complete]
        have nothing := @Read.filled count patience before stream [] stream rfl
          complete.symm (fun more => by rw [complete, Nat.zero_add])
        rwa [List.append_nil] at nothing
      · rw [if_neg complete]
        have polled := stream.poll count
        generalize stream.source.poll count = result at polled
        cases polled with
        | ended spent =>
            have result := @Read.ended count patience before stream true
              (short_of_spent spent complete)
            rwa [spent, List.append_nil] at result
        | failed spent =>
            have result := @Read.failed count patience before stream false
              (short_of_spent spent complete)
            rwa [spent, List.append_nil] at result
        | @pending rest same fewer =>
            cases patience with
            | zero =>
                apply Read.elapsed
                rw [← fewer count complete]
                exact Nat.succ_pos _
            | succ patience =>
                apply Read.after_pending complete same fewer
                exact induction (count + patience) (by omega) rest count
                  patience before rfl
        | @read taken rest cut short taking same =>
            cases taken with
            | nil => exact absurd rfl (taking complete)
            | cons first taken =>
                apply Read.after_read cut short same
                rw [List.length_cons] at short
                exact induction _ (by omega) rest (count - (taken.length + 1))
                  patience (before ++ first :: taken) rfl

/-- A read of bytes which the client sends is filled with them, unless the
client lets it wait too often before. -/
theorem read_front (stream : ClientStream) {count : Nat} (patience : Nat)
    {front back : Bytes} (cut : stream.bytes = front ++ back)
    (size : front.length = count) :
    (∃ rest : ClientStream,
      readExact Source.poll count patience [] stream.source =
        (.filled front, rest.source) ∧
      rest.bytes = back ∧
      ∀ more, rest.waitsWithin more ≤ stream.waitsWithin (count + more)) ∨
    ∃ later, readExact Source.poll count patience [] stream.source =
        (.elapsed, later) ∧ patience < stream.waitsWithin count := by
  have sizes : stream.bytes.length = front.length + back.length := by
    rw [cut, List.length_append]
  have read := stream.read count patience []
  generalize readExact Source.poll count patience [] stream.source = result
    at read ⊢
  cases read with
  | @filled taken rest split takenSize waits =>
      have parts := List.append_inj (cut.symm.trans split)
        (size.trans takenSize.symm)
      refine .inl ⟨rest, ?_, parts.2.symm, waits⟩
      rw [parts.1]
      rfl
  | ended short => omega
  | failed short => omega
  | elapsed impatient => exact .inr ⟨_, rfl, impatient⟩

/-- What is still to be read of the stream. -/
theorem source_unread (stream : ClientStream) :
    (stream.source.arrivals.map arrivalBytes).flatten = stream.bytes := by
  have spent : (stream.ending.map arrivalBytes).flatten = [] := by
    obtain ⟨segments, valid, error⟩ := stream
    cases error with
    | none => rfl
    | some error => rfl
  rw [source, List.map_append, List.flatten_append, spent, List.append_nil]
  rfl

end ClientStream

/-- The calls which `handle_client` makes until it has the handshake. -/
def acceptCalls (crypto : Primitives) (secret : Bytes) (now : Nat)
    (proxyProtocol : Bool) (masking : String) (stream : ClientStream)
    (outcomes : Nat → (op : InitOp) → InitOutcome op) :
    List (Program.Performed (acceptWorld crypto secret now)) :=
  (acceptClient proxyProtocol masking).history (acceptWorld crypto secret now)
    outcomes ⟨stream.source, []⟩

/-- Every read waits `patience` times, and every write succeeds. -/
def waiting (patience : Nat) : Nat → (op : InitOp) → InitOutcome op
  | _, .read _ _ => patience
  | _, .serverHello _ _ | _, .redirect _ => true
  | _, .proxyLine | _, .verifyClientHello _ | _, .proxyToMaskingDomain _ _
  | _, .tryHandshake _ | _, .countBad => ()

end TgWsProxy.Rust
