import TgWsProxy.Rust.ClientInit

/-!
# Short reads on the Rust accept path

A read which meets the end of the stream or an error is not an outer error of
`timeout`, so `handle_client` goes on with a buffer which is partly zero.  Only
a read which reaches its time limit ends the connection.
-/

namespace TgWsProxy.Rust

open Lib

section

variable (crypto : Primitives) (secret : Bytes) (now : Nat) {Result : Type}

/-- A call which does something about the bytes of the client is still made. -/
def StillActs (program : InitProgram Panic Result) (s : FakeTlsStream) : Prop :=
  Program.Makes (acceptWorld crypto secret now) (fun _ _ => True)
    (fun performed => performed.op.Acts = true) program s

/-- After a short read the program acts, unless it reached its time limit. -/
def Tells (program : InitProgram Panic Result) (s : FakeTlsStream) : Prop :=
  ∀ outcomes result later,
    shortRead (program.history (acceptWorld crypto secret now) outcomes s) =
        some (result, later) →
      ((∀ performed ∈ later, performed.op.Acts = false) ↔ result = .elapsed)

/-- What the program goes on to do after a read. -/
inductive TellsAfter (next : TimedRead → InitProgram Panic Result) :
    TimedRead × FakeTlsStream → Prop where
  | filled {bytes : Bytes} {s : FakeTlsStream} :
      Tells crypto secret now (next (.filled bytes)) s →
      TellsAfter next (.filled bytes, s)
  | ended {taken : Bytes} {s : FakeTlsStream} :
      StillActs crypto secret now (next (.ended taken)) s →
      TellsAfter next (.ended taken, s)
  | failed {taken : Bytes} {s : FakeTlsStream} :
      StillActs crypto secret now (next (.failed taken)) s →
      TellsAfter next (.failed taken, s)
  | elapsed {result : Result} {s : FakeTlsStream} :
      next .elapsed = pure result → TellsAfter next (.elapsed, s)

variable {crypto : Primitives} {secret : Bytes} {now : Nat}

theorem Tells.pure (result : Result) (s : FakeTlsStream) :
    Tells crypto secret now (Pure.pure result) s := by
  intro outcomes reply later short
  cases short

/-- A call which is not a read. -/
theorem Tells.call {op : InitOp}
    {next : op.Reply Panic → InitProgram Panic Result} {s : FakeTlsStream}
    (other : ∀ reply, @shortReply Panic (acceptWorld crypto secret now)
      ⟨s, op, reply⟩ = none)
    (later : ∀ outcome, Tells crypto secret now
      (next ((acceptWorld crypto secret now).perform s op outcome).1)
      ((acceptWorld crypto secret now).perform s op outcome).2) :
    Tells crypto secret now (initAct op >>= next) s := by
  intro outcomes result calls short
  rw [Program.history_perform, shortRead_of_not_short _ (other _)] at short
  exact later _ _ result calls short

theorem Tells.read {step : InitRead} {count : Nat}
    {next : TimedRead → InitProgram Panic Result} {s : FakeTlsStream}
    (each : ∀ patience, TellsAfter crypto secret now next
      (timedRead step count patience s)) :
    Tells crypto secret now (initAct (.read step count) >>= next) s := by
  intro outcomes result later short
  rw [Program.history_perform] at short
  have after := each (outcomes 0 (.read step count))
  simp only [acceptWorld] at short
  generalize timedRead step count (outcomes 0 (.read step count)) s = reply
    at after short
  have unlike {reply : TimedRead} {outcomes : Nat → (op : InitOp) → InitOutcome op}
      {later : FakeTlsStream} (acts : StillActs crypto secret now (next reply) later)
      (limit : reply ≠ .elapsed) :
      (∀ performed ∈ (next reply).history (acceptWorld crypto secret now)
          outcomes later, performed.op.Acts = false) ↔ reply = .elapsed := by
    constructor
    · intro quiet
      obtain ⟨performed, member, active⟩ := acts outcomes fun _ _ => trivial
      rw [quiet performed member] at active
      cases active
    · intro reached
      exact absurd reached limit
  cases after with
  | filled tells =>
      rw [shortRead_of_not_short _ rfl] at short
      exact tells _ _ _ short
  | ended acts =>
      rw [shortRead_of_short _ rfl] at short
      cases short
      apply unlike acts
      intro reached
      cases reached
  | failed acts =>
      rw [shortRead_of_short _ rfl] at short
      cases short
      apply unlike acts
      intro reached
      cases reached
  | elapsed spent =>
      rw [shortRead_of_short _ rfl, spent] at short
      cases short
      constructor
      · intro quiet
        rfl
      · intro reached performed member
        cases member

end

section Drained

/-- A raw read of a stream which has ended or failed is not an outer error. -/
theorem readExact_drained {count patience : Nat} {taken : Bytes}
    {source : Source} (drained : source.arrivals = []) :
    ∃ result later, readExact Source.poll count patience taken source =
      (result, later) ∧ isErr result = false ∧ later.arrivals = [] := by
  rw [readExact]
  by_cases complete : count = 0
  · rw [if_pos complete]
    exact ⟨_, _, rfl, rfl, drained⟩
  · rw [if_neg complete]
    obtain ⟨arrivals, ended⟩ := source
    subst drained
    exact ⟨_, _, rfl, rfl, rfl⟩

theorem timedRead_drained {step : InitRead} {count patience : Nat}
    {s : FakeTlsStream} (raw : step ≠ .handshakeInTls)
    (drained : s.reader.arrivals = []) :
    ∃ result later, timedRead step count patience s = (result, later) ∧
      isErr result = false ∧ later.reader.arrivals = [] := by
  obtain ⟨result, later, read, inner, drained⟩ :=
    @readExact_drained count patience [] s.reader drained
  refine ⟨result, { s with reader := later }, ?_, inner, drained⟩
  rw [timedRead_raw raw, read]

variable {crypto : Primitives} {secret : Bytes} {now : Nat} {Result : Type}

theorem StillActs.read {step : InitRead} {count : Nat}
    {next : TimedRead → InitProgram Panic Result} {s : FakeTlsStream}
    (raw : step ≠ .handshakeInTls) (drained : s.reader.arrivals = [])
    (goesOn : ∀ result later, isErr result = false →
      later.reader.arrivals = [] →
      StillActs crypto secret now (next result) later) :
    StillActs crypto secret now (initAct (.read step count) >>= next) s := by
  apply Program.Makes.later
  intro patience _
  obtain ⟨result, later, read, inner, drained⟩ :=
    @timedRead_drained step count patience s raw drained
  simp only [acceptWorld, read]
  exact goesOn result later inner drained

theorem acceptHandshake_acts (handshake : Bytes) (s : FakeTlsStream) :
    StillActs crypto secret now (acceptHandshake handshake) s := by
  apply Program.Makes.here
  intro outcome _
  rfl

theorem acceptHello_acts (clientHello : Bytes) (s : FakeTlsStream) :
    StillActs crypto secret now (acceptHello clientHello) s := by
  apply Program.Makes.here
  intro outcome _
  rfl

theorem acceptRecord_acts (firstByte hdrRest : Bytes) {s : FakeTlsStream}
    (drained : s.reader.arrivals = []) :
    StillActs crypto secret now (acceptRecord firstByte hdrRest) s := by
  apply StillActs.read (by decide) drained
  intro recordBody later noError _
  rw [if_neg (ne_true_of_eq_false noError)]
  exact acceptHello_acts _ _

theorem acceptTls_acts (firstByte : Bytes) {s : FakeTlsStream}
    (drained : s.reader.arrivals = []) :
    StillActs crypto secret now (acceptTls firstByte) s := by
  apply StillActs.read (by decide) drained
  intro hdrRest later noError drained
  rw [if_neg (ne_true_of_eq_false noError)]
  exact acceptRecord_acts _ _ drained

theorem acceptPlain_acts (firstByte : Bytes) {s : FakeTlsStream}
    (drained : s.reader.arrivals = []) :
    StillActs crypto secret now (acceptPlain firstByte) s := by
  apply StillActs.read (by decide) drained
  intro rest later noError _
  rw [if_neg (ne_true_of_eq_false noError)]
  exact acceptHandshake_acts _ _

theorem acceptBy_acts (masking : String) (firstByte : Bytes)
    {s : FakeTlsStream} (drained : s.reader.arrivals = []) :
    StillActs crypto secret now (acceptBy masking firstByte) s := by
  unfold acceptBy
  split
  · exact acceptTls_acts _ drained
  · split
    · apply Program.Makes.here
      intro sent _
      rfl
    · exact acceptPlain_acts _ drained

end Drained

section Accepting

variable {crypto : Primitives} {secret : Bytes} {now : Nat} {Result : Type}

/-- A raw read of the stream of a client. -/
theorem Tells.raw {step : InitRead} {count : Nat}
    {next : TimedRead → InitProgram Panic Result} {stream : ClientStream}
    (raw : step ≠ .handshakeInTls)
    (filled : ∀ bytes (rest : ClientStream),
      Tells crypto secret now (next (.filled bytes)) ⟨rest.source, []⟩)
    (short : ∀ result later, isErr result = false →
      later.reader.arrivals = [] →
      StillActs crypto secret now (next result) later)
    (elapsed : ∃ result, next .elapsed = Pure.pure result) :
    Tells crypto secret now (initAct (.read step count) >>= next)
      ⟨stream.source, []⟩ := by
  apply Tells.read
  intro patience
  have read := stream.read count patience []
  rw [timedRead_raw raw]
  simp only
  generalize readExact Source.poll count patience [] stream.source = reply
    at read
  cases read with
  | @filled taken rest cut size waits =>
      exact .filled (filled _ rest)
  | ended missing =>
      apply TellsAfter.ended
      exact short _ _ rfl rfl
  | failed missing =>
      apply TellsAfter.failed
      exact short _ _ rfl rfl
  | elapsed impatient =>
      obtain ⟨result, spent⟩ := elapsed
      exact .elapsed spent

theorem acceptHandshake_tells (handshake : Bytes) (s : FakeTlsStream) :
    Tells crypto secret now (acceptHandshake handshake) s := by
  apply Tells.call (fun _ => rfl)
  intro outcome
  generalize (acceptWorld crypto secret now).perform s
    (.tryHandshake handshake) outcome = reply
  obtain ⟨result, later⟩ := reply
  rcases result with panic | _ | request
  · exact Tells.pure _ _
  · apply Tells.call (fun _ => rfl)
    intro counted
    exact Tells.pure _ _
  · exact Tells.pure _ _

theorem acceptHello_tells (clientHello : Bytes) (s : FakeTlsStream) :
    Tells crypto secret now (acceptHello clientHello) s := by
  apply Tells.call (fun _ => rfl)
  intro outcome
  generalize (acceptWorld crypto secret now).perform s
    (.verifyClientHello clientHello) outcome = reply
  obtain ⟨result, later⟩ := reply
  rcases result with panic | _ | verdict
  · exact Tells.pure _ _
  · exact Tells.pure _ _
  · apply Tells.call (fun _ => rfl)
    intro sent
    cases sent with
    | false => exact Tells.pure _ _
    | true =>
        apply Tells.read
        intro patience
        generalize timedRead .handshakeInTls handshakeLen patience later = hs
        obtain ⟨result, inTls⟩ := hs
        cases result with
        | filled bytes => exact .filled (acceptHandshake_tells _ _)
        | ended taken => exact .ended (acceptHandshake_acts _ _)
        | failed taken => exact .failed (acceptHandshake_acts _ _)
        | elapsed => exact .elapsed rfl

theorem acceptRecord_tells (firstByte hdrRest : Bytes)
    (stream : ClientStream) :
    Tells crypto secret now (acceptRecord firstByte hdrRest)
      ⟨stream.source, []⟩ := by
  apply Tells.raw (by decide)
  · intro recordBody later
    exact acceptHello_tells _ _
  · intro recordBody later noError _
    rw [if_neg (ne_true_of_eq_false noError)]
    exact acceptHello_acts _ _
  · exact ⟨none, rfl⟩

theorem acceptTls_tells (firstByte : Bytes) (stream : ClientStream) :
    Tells crypto secret now (acceptTls firstByte) ⟨stream.source, []⟩ := by
  apply Tells.raw (by decide)
  · intro hdrRest later
    exact acceptRecord_tells _ _ later
  · intro hdrRest later noError drained
    rw [if_neg (ne_true_of_eq_false noError)]
    exact acceptRecord_acts _ _ drained
  · exact ⟨none, rfl⟩

theorem acceptPlain_tells (firstByte : Bytes) (stream : ClientStream) :
    Tells crypto secret now (acceptPlain firstByte) ⟨stream.source, []⟩ := by
  apply Tells.raw (by decide)
  · intro rest later
    exact acceptHandshake_tells _ _
  · intro rest later noError _
    rw [if_neg (ne_true_of_eq_false noError)]
    exact acceptHandshake_acts _ _
  · exact ⟨none, rfl⟩

theorem acceptBy_tells (masking : String) (firstByte : Bytes)
    (stream : ClientStream) :
    Tells crypto secret now (acceptBy masking firstByte)
      ⟨stream.source, []⟩ := by
  unfold acceptBy
  split
  · exact acceptTls_tells _ _
  · split
    · apply Tells.call (fun _ => rfl)
      intro sent
      exact Tells.pure _ _
    · exact acceptPlain_tells _ _

theorem acceptFirstByte_tells (masking : String) (stream : ClientStream) :
    Tells crypto secret now (acceptFirstByte masking) ⟨stream.source, []⟩ := by
  apply Tells.raw (by decide)
  · intro firstByte later
    exact acceptBy_tells masking firstByte later
  · intro firstByte later noError drained
    rw [if_neg (ne_true_of_eq_false noError)]
    exact acceptBy_acts masking _ drained
  · exact ⟨none, rfl⟩

theorem acceptClient_tells (proxyProtocol : Bool) (masking : String)
    (stream : ClientStream) :
    Tells crypto secret now (acceptClient proxyProtocol masking)
      ⟨stream.source, []⟩ := by
  cases proxyProtocol with
  | false => exact acceptFirstByte_tells masking stream
  | true =>
      apply Tells.call (fun _ => rfl)
      intro outcome
      have line := stream.proxyLine
      change Tells crypto secret now
        (if (proxyLine stream.source).1 = true then acceptFirstByte masking
          else pure none)
        (FakeTlsStream.mk (proxyLine stream.source).2 [])
      generalize proxyLine stream.source = reply at line ⊢
      cases line with
      | @whole line rest clean cut waits =>
          exact acceptFirstByte_tells masking rest
      | cut missing => exact Tells.pure _ _

end Accepting

/-- A read which does not get all its bytes ends the connection if and only if
it reaches its time limit. -/
theorem leavesShortRead_iff (crypto : Primitives) (secret : Bytes) (now : Nat)
    (proxyProtocol : Bool) (masking : String) (stream : ClientStream)
    (outcomes : Nat → (op : InitOp) → InitOutcome op)
    {result : TimedRead}
    {later : List (Program.Performed (acceptWorld crypto secret now))}
    (short : shortRead (acceptCalls crypto secret now proxyProtocol masking
      stream outcomes) = some (result, later)) :
    LeavesShortRead (acceptCalls crypto secret now proxyProtocol masking stream
      outcomes) ↔ result = .elapsed := by
  have tells := acceptClient_tells proxyProtocol masking stream outcomes result
    later short
  constructor
  · intro leaves
    exact tells.mp (leaves result later short)
  · intro limit other calls first
    rw [short] at first
    cases first
    exact tells.mpr limit

/-- A handshake without its last four bytes. -/
def cutHandshake (further : List Arrival)
    (pending : ∀ arrival ∈ further, arrival = .pending) : ClientStream where
  segments := .data (recordedHandshake.take 60) :: further
  valid := by
    intro arrival member
    rcases List.mem_cons.mp member with rfl | later
    · exact .inr ⟨_, by decide +kernel, rfl⟩
    · exact .inl (pending arrival later)
  error := none

/-- The client waits before the rest of its handshake. -/
theorem leavesShortRead_iff_stalled :
    ∃ later, shortRead (acceptCalls recordedCrypto recordedSecret 0 false ""
        (cutHandshake [.pending] (by simp)) (waiting 0)) =
      some (.elapsed, later) ∧
    (LeavesShortRead (acceptCalls recordedCrypto recordedSecret 0 false ""
      (cutHandshake [.pending] (by simp)) (waiting 0)) ↔
      TimedRead.elapsed = .elapsed) := by
  have reached : (shortRead (acceptCalls recordedCrypto recordedSecret 0 false ""
      (cutHandshake [.pending] (by simp)) (waiting 0))).map Prod.fst =
        some .elapsed := by
    decide +kernel
  obtain ⟨⟨result, later⟩, short, rfl⟩ := Option.map_eq_some_iff.mp reached
  exact ⟨later, short, leavesShortRead_iff _ _ _ _ _ _ _ short⟩

/-- The client closes its end after 60 bytes of its handshake; the handshake
which is tried, and accepted, ends in four zero bytes. -/
theorem cutHandshake_accepted :
    ¬ LeavesShortRead (acceptCalls recordedCrypto recordedSecret 0 false ""
      (cutHandshake [] (by simp)) (waiting 0)) := by
  have acts : (shortRead (acceptCalls recordedCrypto recordedSecret 0 false ""
      (cutHandshake [] (by simp)) (waiting 0))).map
        (fun pair => pair.2.map (·.op)) =
      some [.tryHandshake (recordedHandshake.take 60 ++ [0, 0, 0, 0])] := by
    decide +kernel
  intro leaves
  obtain ⟨⟨result, later⟩, short, calls⟩ := Option.map_eq_some_iff.mp acts
  have quiet := leaves result later short
  cases later with
  | nil => cases calls
  | cons performed later =>
      have first : performed.op = _ := (List.cons.inj calls).1
      have active := quiet performed List.mem_cons_self
      rw [first] at active
      cases active

end TgWsProxy.Rust
