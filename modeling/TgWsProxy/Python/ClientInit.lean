import TgWsProxy.ClientInit
import TgWsProxy.Python.ClientHello
import TgWsProxy.Python.FakeTlsStream
import TgWsProxy.Python.Handshake

/-!
# The Python accept path

`_read_client_init` of `proxy/tg_ws_proxy.py`, and `_handle_client` until the
handshake is accepted.  Each read is `await asyncio.wait_for(
reader.readexactly(n), timeout=10)`: the end of the stream raises
`IncompleteReadError`, which the function answers by returning `None`, while a
time limit or a lost connection raises an exception which leaves it.
-/

namespace TgWsProxy.Python

open Lib

/-- The limit of `asyncio.StreamReader`. -/
def streamLimit : Nat := 65536

/-- `readline()`, which raises if the line is longer than the limit. -/
def StreamReader.readline (r : StreamReader) : Option (Bytes × StreamReader) :=
  let size := (r.unread.takeWhile (· ≠ 0x0A)).length
  if streamLimit < size then none
  else some (r.unread.take (size + 1),
    { r with unread := r.unread.drop (size + 1) })

/-- How `_read_client_init` is left. -/
inductive ClientInit where
  | nothing
  | handshake (bytes : Bytes)
  | raised
deriving DecidableEq, Repr

/-- On from a read whose `IncompleteReadError` makes the function return
`None`. -/
def afterRead (next : Bytes → InitProgram PyError ClientInit) :
    TimedRead → InitProgram PyError ClientInit
  | .filled data => next data
  | .ended _ => return .nothing
  | .failed _ | .elapsed => return .raised

def readexactlyOrNone (step : InitRead) (count : Nat)
    (next : Bytes → InitProgram PyError ClientInit) :
    InitProgram PyError ClientInit := do
  let result ← initAct (.read step count)
  afterRead next result

/-- `_read_client_init` with a ClientHello which has been read. -/
def readHelloInit (masking : String) (clientHello : Bytes) :
    InitProgram PyError ClientInit := do
  let tlsResult ← initAct (.verifyClientHello clientHello)
  match tlsResult with
  | .error _ => return .raised
  | .ok none =>
      initAct (.proxyToMaskingDomain clientHello masking)
      return .nothing
  | .ok (some verdict) =>
      let sent ← initAct (.serverHello verdict.clientRandom verdict.sessionId)
      if sent then
        readexactlyOrNone .handshakeInTls handshakeLen fun handshake =>
          return .handshake handshake
      else return .raised

/-- `_read_client_init` behind the first byte of a TLS record. -/
def readTlsInit (masking : String) (firstByte : Bytes) :
    InitProgram PyError ClientInit :=
  readexactlyOrNone .recordHeader 4 fun hdrRest =>
    let tlsHeader := firstByte ++ hdrRest
    let recordLen := beNat (slice tlsHeader 3 5)
    readexactlyOrNone .recordBody recordLen fun recordBody =>
      readHelloInit masking (tlsHeader ++ recordBody)

/-- `_read_client_init` from `first_byte` on. -/
def readFirstByteInit (masking : String) : InitProgram PyError ClientInit :=
  readexactlyOrNone .firstByte 1 fun firstByte => do
    if firstByte.getD 0 0 = tlsRecordHandshake ∧ masking ≠ "" then
      readTlsInit masking firstByte
    else if masking ≠ "" then
      let sent ← initAct (.redirect (redirectResponse masking))
      if sent then return .nothing else return .raised
    else
      readexactlyOrNone .handshakeRest (handshakeLen - 1) fun rest =>
        return .handshake (firstByte ++ rest)

/-- `_read_client_init`, with `proxy_protocol` and `fake_tls_domain` of the
configuration. -/
def readClientInit (proxyProtocol : Bool) (masking : String) :
    InitProgram PyError ClientInit := do
  if proxyProtocol then
    let line ← initAct .proxyLine
    if line then readFirstByteInit masking else return .raised
  else readFirstByteInit masking

/-- `_handle_client` from `init` to the request. -/
def requestAfter (init : ClientInit) :
    InitProgram PyError (Option ClientRequest) := do
  match init with
  | .nothing => return none
  | .raised => return none
  | .handshake bytes =>
      let result ← initAct (.tryHandshake bytes)
      match result with
      | .error _ => return none
      | .ok (some request) => return some request
      | .ok none =>
          initAct .countBad
          return none

/-- `_handle_client` to the request. -/
def handleClientInit (proxyProtocol : Bool) (masking : String) :
    InitProgram PyError (Option ClientRequest) := do
  let init ← readClientInit proxyProtocol masking
  requestAfter init

/-- What `asyncio.wait_for` makes of a read. -/
inductive WaitOutcome where
  | inTime
  | timesOut
  | connectionLost
deriving DecidableEq, Repr

/-- A read of the raw stream, or of `FakeTlsStream` over it. -/
def timedRead (step : InitRead) (count : Nat) (outcome : WaitOutcome)
    (s : FakeTlsStream) : TimedRead × FakeTlsStream :=
  match outcome with
  | .timesOut => (.elapsed, s)
  | .connectionLost => (.failed [], s)
  | .inTime =>
      match step with
      | .handshakeInTls =>
          match s.readexactly count with
          | .error error => (.ended error.received, s)
          | .ok (data, s) => (.filled data, s)
      | .firstByte | .recordHeader | .recordBody | .handshakeRest =>
          match s.reader.readexactly count with
          | .error error =>
              (.ended error.received, { s with reader.unread := [] })
          | .ok (data, reader) => (.filled data, { s with reader })

@[reducible] def InitOutcome : InitOp → Type
  | .read _ _ | .proxyLine => WaitOutcome
  | .serverHello _ _ | .redirect _ => Bool
  | .verifyClientHello _ | .proxyToMaskingDomain _ _ | .tryHandshake _
  | .countBad => Unit

/-- The surroundings of `_read_client_init`: the stream of the client.  There
is no Fake-TLS data before the ServerHello was sent. -/
@[reducible] def initWorld (crypto : Primitives) (secret : Bytes) (now : Nat) :
    Surroundings InitOp (InitOp.Reply PyError) where
  State := FakeTlsStream
  Outcome := InitOutcome
  perform s op outcome :=
    match op, outcome with
    | .proxyLine, .inTime =>
        match s.reader.readline with
        | none => (false, s)
        | some (_, reader) => (true, { s with reader })
    | .proxyLine, .timesOut => (false, s)
    | .proxyLine, .connectionLost => (false, s)
    | .read step count, outcome => timedRead step count outcome s
    | .verifyClientHello clientHello, _ =>
        (verifyClientHello crypto now clientHello secret, s)
    | .serverHello _ _, sent => (sent, s)
    | .redirect _, sent => (sent, s)
    | .proxyToMaskingDomain _ _, _ => ((), s)
    | .tryHandshake handshake, _ => (tryHandshake crypto handshake secret, s)
    | .countBad, _ => ((), s)

section Reads

variable (crypto : Primitives) (secret : Bytes) (now : Nat) {Result : Type}
  {step : InitRead} {count : Nat}
  {next : Bytes → InitProgram PyError ClientInit}
  {after : ClientInit → InitProgram PyError Result}
  (outcomes : Nat → (op : InitOp) → InitOutcome op) (s : FakeTlsStream)

theorem history_read :
    (readexactlyOrNone step count next >>= after).history
        (initWorld crypto secret now) outcomes s =
      ⟨s, .read step count,
        (timedRead step count (outcomes 0 (.read step count)) s).1⟩ ::
      (afterRead next (timedRead step count
        (outcomes 0 (.read step count)) s).1 >>= after).history
          (initWorld crypto secret now) (fun index => outcomes (index + 1))
          (timedRead step count (outcomes 0 (.read step count)) s).2 :=
  rfl

theorem finish_read :
    (readexactlyOrNone step count next >>= after).finish
        (initWorld crypto secret now) outcomes s =
      (afterRead next (timedRead step count
        (outcomes 0 (.read step count)) s).1 >>= after).finish
          (initWorld crypto secret now) (fun index => outcomes (index + 1))
          (timedRead step count (outcomes 0 (.read step count)) s).2 :=
  rfl

end Reads

section ShortReads

variable (crypto : Primitives) (secret : Bytes) (now : Nat) {Result : Type}

/-- Whatever the outcomes, a read which does not get all its bytes is the last
call, and the result is `None`. -/
def Leaves (program : InitProgram PyError (Option Result))
    (s : FakeTlsStream) : Prop :=
  ∀ outcomes reply later,
    shortRead (program.history (initWorld crypto secret now) outcomes s) =
        some (reply, later) →
      later = [] ∧
        (program.finish (initWorld crypto secret now) outcomes s).1 = none

/-- The call acts on the bytes of the client, or has not got the PROXY line. -/
def IsAnswer {world : Surroundings InitOp (InitOp.Reply PyError)}
    (performed : Program.Performed world) : Prop :=
  performed.op.Acts = true ∨
    ∃ before, performed = ⟨before, .proxyLine, false⟩

/-- Whatever the outcomes, there is an answer if every read gets all its
bytes. -/
def Responds (program : InitProgram PyError (Option Result))
    (s : FakeTlsStream) : Prop :=
  ∀ outcomes,
    shortRead (program.history (initWorld crypto secret now) outcomes s) =
        none →
      ∃ performed ∈ program.history (initWorld crypto secret now) outcomes s,
        IsAnswer performed

variable {crypto : Primitives} {secret : Bytes} {now : Nat}

theorem Leaves.pure (result : Option Result) (s : FakeTlsStream) :
    Leaves crypto secret now (Pure.pure result) s := by
  intro outcomes reply later short
  cases short

section Calls

variable {op : InitOp}
  {next : op.Reply PyError → InitProgram PyError (Option Result)}
  {s : FakeTlsStream}

/-- A call which is not a read. -/
theorem Leaves.call
    (other : ∀ reply, @shortReply PyError (initWorld crypto secret now)
      ⟨s, op, reply⟩ = none)
    (later : ∀ outcome, Leaves crypto secret now
      (next ((initWorld crypto secret now).perform s op outcome).1)
      ((initWorld crypto secret now).perform s op outcome).2) :
    Leaves crypto secret now (initAct op >>= next) s := by
  intro outcomes reply calls short
  rw [Program.history_perform, shortRead_of_not_short _ (other _)] at short
  rw [Program.finish_perform]
  exact later _ _ reply calls short

theorem Responds.act (acts : op.Acts = true) :
    Responds crypto secret now (initAct op >>= next) s := by
  intro outcomes _
  rw [Program.history_perform]
  exact ⟨_, List.mem_cons_self, Or.inl acts⟩

end Calls

section Reads

variable {step : InitRead} {count : Nat}
  {next : Bytes → InitProgram PyError ClientInit}
  {after : ClientInit → InitProgram PyError (Option Result)}
  {s : FakeTlsStream}

/-- After a read the function goes on with all the bytes, or returns. -/
theorem Leaves.read
    (filled : ∀ data s, Leaves crypto secret now (next data >>= after) s)
    (nothing : after .nothing = Pure.pure none)
    (raised : after .raised = Pure.pure none) :
    Leaves crypto secret now (readexactlyOrNone step count next >>= after)
      s := by
  intro outcomes result later short
  rw [history_read] at short
  rw [finish_read]
  generalize timedRead step count (outcomes 0 (.read step count)) s = reply
    at short
  obtain ⟨reply, last⟩ := reply
  have spent {init : ClientInit} (finished : after init = Pure.pure none) :
      (Pure.pure init >>= after : InitProgram PyError (Option Result)) =
        Pure.pure none :=
    finished
  cases reply with
  | filled data =>
      rw [shortRead_of_not_short _ rfl] at short
      exact filled data last _ result later short
  | ended taken =>
      rw [shortRead_of_short _ rfl, afterRead, spent nothing] at short
      rw [afterRead, spent nothing]
      cases short
      exact ⟨rfl, rfl⟩
  | failed taken =>
      rw [shortRead_of_short _ rfl, afterRead, spent raised] at short
      rw [afterRead, spent raised]
      cases short
      exact ⟨rfl, rfl⟩
  | elapsed =>
      rw [shortRead_of_short _ rfl, afterRead, spent raised] at short
      rw [afterRead, spent raised]
      cases short
      exact ⟨rfl, rfl⟩

theorem Responds.read
    (filled : ∀ data s, Responds crypto secret now (next data >>= after) s) :
    Responds crypto secret now (readexactlyOrNone step count next >>= after)
      s := by
  intro outcomes whole
  rw [history_read] at whole ⊢
  generalize timedRead step count (outcomes 0 (.read step count)) s = reply
    at whole ⊢
  obtain ⟨reply, last⟩ := reply
  cases reply with
  | filled data =>
      rw [shortRead_of_not_short _ rfl] at whole
      obtain ⟨performed, member, answer⟩ := filled data last _ whole
      exact ⟨performed, List.mem_cons_of_mem _ member, answer⟩
  | ended taken | failed taken | elapsed => cases whole

end Reads

theorem requestAfter_leaves (init : ClientInit) (s : FakeTlsStream) :
    Leaves crypto secret now (requestAfter init) s := by
  cases init with
  | nothing => exact Leaves.pure _ _
  | raised => exact Leaves.pure _ _
  | handshake bytes =>
      apply Leaves.call (fun _ => rfl)
      intro outcome
      generalize (initWorld crypto secret now).perform s (.tryHandshake bytes)
        outcome = reply
      obtain ⟨result, later⟩ := reply
      rcases result with error | _ | request
      · exact Leaves.pure _ _
      · apply Leaves.call (fun _ => rfl)
        intro counted
        exact Leaves.pure _ _
      · exact Leaves.pure _ _

theorem readHelloInit_leaves (masking : String) (clientHello : Bytes)
    (s : FakeTlsStream) :
    Leaves crypto secret now
      (readHelloInit masking clientHello >>= requestAfter) s := by
  apply Leaves.call (fun _ => rfl)
  intro outcome
  generalize (initWorld crypto secret now).perform s
    (.verifyClientHello clientHello) outcome = reply
  obtain ⟨result, later⟩ := reply
  rcases result with error | _ | verdict
  · exact requestAfter_leaves .raised _
  · apply Leaves.call (fun _ => rfl)
    intro relayed
    exact requestAfter_leaves .nothing _
  · apply Leaves.call (fun _ => rfl)
    intro sent
    cases sent with
    | false => exact requestAfter_leaves .raised _
    | true =>
        apply Leaves.read
        · intro handshake s
          exact requestAfter_leaves (.handshake handshake) s
        · rfl
        · rfl

theorem readFirstByteInit_leaves (masking : String) (s : FakeTlsStream) :
    Leaves crypto secret now (readFirstByteInit masking >>= requestAfter)
      s := by
  apply Leaves.read
  · intro firstByte afterFirst
    split
    · apply Leaves.read
      · intro hdrRest afterHeader
        apply Leaves.read
        · intro recordBody afterBody
          exact readHelloInit_leaves masking _ afterBody
        · rfl
        · rfl
      · rfl
      · rfl
    · split
      · apply Leaves.call (fun _ => rfl)
        intro sent
        cases sent with
        | false => exact requestAfter_leaves .raised _
        | true => exact requestAfter_leaves .nothing _
      · apply Leaves.read
        · intro rest later
          exact requestAfter_leaves (.handshake _) later
        · rfl
        · rfl
  · rfl
  · rfl

theorem readFirstByteInit_responds (masking : String) (s : FakeTlsStream) :
    Responds crypto secret now (readFirstByteInit masking >>= requestAfter)
      s := by
  apply Responds.read
  intro firstByte afterFirst
  split
  · apply Responds.read
    intro hdrRest afterHeader
    apply Responds.read
    intro recordBody afterBody
    exact Responds.act rfl
  · split
    · exact Responds.act rfl
    · apply Responds.read
      intro rest later
      exact Responds.act rfl

theorem handleClientInit_leaves (proxyProtocol : Bool) (masking : String)
    (s : FakeTlsStream) :
    Leaves crypto secret now (handleClientInit proxyProtocol masking) s := by
  cases proxyProtocol with
  | false => exact readFirstByteInit_leaves masking s
  | true =>
      apply Leaves.call (fun _ => rfl)
      intro outcome
      generalize (initWorld crypto secret now).perform s .proxyLine outcome =
        reply
      obtain ⟨line, later⟩ := reply
      cases line with
      | false => exact requestAfter_leaves .raised _
      | true => exact readFirstByteInit_leaves masking _

theorem handleClientInit_responds (proxyProtocol : Bool) (masking : String)
    (s : FakeTlsStream) :
    Responds crypto secret now (handleClientInit proxyProtocol masking) s := by
  cases proxyProtocol with
  | false => exact readFirstByteInit_responds masking s
  | true =>
      intro outcomes whole
      have first : (handleClientInit true masking).history
          (initWorld crypto secret now) outcomes s =
        ⟨s, .proxyLine, ((initWorld crypto secret now).perform s .proxyLine
          (outcomes 0 .proxyLine)).1⟩ ::
        ((if ((initWorld crypto secret now).perform s .proxyLine
            (outcomes 0 .proxyLine)).1 then readFirstByteInit masking
          else Pure.pure .raised) >>= requestAfter).history
            (initWorld crypto secret now) (fun index => outcomes (index + 1))
            ((initWorld crypto secret now).perform s .proxyLine
              (outcomes 0 .proxyLine)).2 :=
        rfl
      rw [first] at whole ⊢
      generalize (initWorld crypto secret now).perform s .proxyLine
        (outcomes 0 .proxyLine) = reply at whole ⊢
      obtain ⟨line, later⟩ := reply
      cases line with
      | false => exact ⟨_, List.mem_cons_self, Or.inr ⟨s, rfl⟩⟩
      | true =>
          rw [shortRead_of_not_short _ rfl] at whole
          obtain ⟨performed, member, answer⟩ :=
            readFirstByteInit_responds masking later _ whole
          exact ⟨performed, List.mem_cons_of_mem _ member, answer⟩

end ShortReads

end TgWsProxy.Python
