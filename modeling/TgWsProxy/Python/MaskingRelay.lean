import TgWsProxy.Python.HelloFraming
import TgWsProxy.Lib.Runs
import Mathlib.Logic.Function.Basic

/-!
# The relay to the masking server

`proxy_to_masking_domain` of `proxy/fake_tls.py` passes the bytes of a client on to
a real server and back.  A task for each direction reads one connection and
writes to the other, which it closes when the first has ended; the connection
which is closed is no longer read, either.
-/

namespace TgWsProxy.Python

open Lib

/-- The peers of the proxy. -/
inductive Peer where
  | client
  | server
deriving DecidableEq, Repr

def Peer.other : Peer → Peer
  | .client => .server
  | .server => .client

/-- A connection with a peer. -/
structure PeerLink where
  /-- All that the peer has sent since the record of the ClientHello began. -/
  sent : Bytes
  /-- What it has sent and the transport has not received. -/
  inFlight : Bytes
  /-- The buffer of the `StreamReader`. -/
  buffer : Bytes
  /-- The peer has ended its sending side. -/
  ended : Bool
  /-- The peer has closed both sides. -/
  closed : Bool
  /-- The proxy has closed the transport. -/
  transportClosed : Bool
  /-- What the proxy has written to the peer. -/
  delivered : Bytes
deriving DecidableEq, Repr

/-- The reader has nothing more to come: its transport is closed, or has received
the end of the peer. -/
def PeerLink.atEnd (link : PeerLink) : Bool :=
  link.transportClosed || (link.ended && link.inFlight.isEmpty)

theorem PeerLink.atEnd_iff {link : PeerLink} : link.atEnd = true ↔
    link.transportClosed = true ∨ link.ended = true ∧ link.inFlight = [] := by
  simp only [atEnd, Bool.or_eq_true, Bool.and_eq_true, List.isEmpty_iff]

inductive RelayPhase where
  | reading
  /-- A chunk is written, and `drain` has not returned. -/
  | draining
  | finished
deriving DecidableEq, Repr

/-- The connections, and for each peer the task which reads from it. -/
structure MaskingRelay where
  link : Peer → PeerLink
  relay : Peer → RelayPhase

inductive MaskingEvent where
  | sends (peer : Peer) (bytes : Bytes)
  | ends (peer : Peer)
  | closes (peer : Peer)
  /-- The transport receives bytes from the peer. -/
  | receives (peer : Peer) (count : Nat)
  /-- The task which reads from the peer goes on. -/
  | reads (peer : Peer)
  | drains (peer : Peer)

/-- The size which `_relay` reads at most. -/
def relayChunk : Nat := 16384

namespace MaskingRelay

/-- The ClientHello is written to the server, and some bytes behind it may be in
the buffer. -/
def start (initialData behind : Bytes) : MaskingRelay where
  link
    | .client =>
        { sent := initialData ++ behind, inFlight := [], buffer := behind
          ended := false, closed := false, transportClosed := false
          delivered := [] }
    | .server =>
        { sent := [], inFlight := [], buffer := [], ended := false
          closed := false, transportClosed := false
          delivered := initialData }
  relay _ := .reading

def setLink (s : MaskingRelay) (peer : Peer) (link : PeerLink) :
    MaskingRelay :=
  { s with link := Function.update s.link peer link }

def setRelay (s : MaskingRelay) (peer : Peer) (phase : RelayPhase) :
    MaskingRelay :=
  { s with relay := Function.update s.relay peer phase }

/-- A pass of the loop of `_relay`, or the `finally` behind it. -/
def relayStep (s : MaskingRelay) (src : Peer) : MaskingRelay :=
  let link := s.link src
  let dst := s.link src.other
  if link.buffer ≠ [] then
    let chunk := link.buffer.take relayChunk
    let s := s.setLink src { link with buffer := link.buffer.drop relayChunk }
    let s := s.setLink src.other { dst with delivered := dst.delivered ++ chunk }
    s.setRelay src .draining
  else if link.atEnd then
    let s := s.setLink src.other { dst with transportClosed := true }
    s.setRelay src .finished
  else s

def step (s : MaskingRelay) : MaskingEvent → MaskingRelay
  | .sends peer bytes =>
      let link := s.link peer
      if link.ended then s
      else s.setLink peer { link with
        sent := link.sent ++ bytes
        inFlight := link.inFlight ++ bytes }
  | .ends peer => s.setLink peer { s.link peer with ended := true }
  | .closes peer =>
      s.setLink peer { s.link peer with ended := true, closed := true }
  | .receives peer count =>
      let link := s.link peer
      if link.transportClosed then s
      else s.setLink peer { link with
        inFlight := link.inFlight.drop count
        buffer := link.buffer ++ link.inFlight.take count }
  | .reads peer =>
      match s.relay peer with
      | .reading => s.relayStep peer
      | _ => s
  | .drains peer =>
      match s.relay peer with
      | .draining => s.setRelay peer .reading
      | _ => s

/-- The task which reads from the peer goes on alone: each time its drain
returns, and it makes a pass of its loop. -/
def passes (src : Peer) (count : Nat) : List MaskingEvent :=
  (List.replicate count [.drains src, .reads src]).flatten

/-- A task which goes on often enough has passed on all that has arrived, and has
ended if nothing more can come. -/
def CatchesUp (s : MaskingRelay) : Prop :=
  ∀ src count, (s.link src).buffer.length < count →
    let later := run step s (passes src count)
    (later.link src.other).delivered ++ (s.link src).inFlight =
        (s.link src).sent ∧
      ((s.link src).atEnd = true → later.relay src = .finished)

/-- Something holds of both directions, each from its source to its destination. -/
def Both (holds : PeerLink → PeerLink → RelayPhase → Prop) (s : MaskingRelay) :
    Prop :=
  ∀ peer, holds (s.link peer) (s.link peer.other) (s.relay peer)

end MaskingRelay

/-- What the source has sent arrives at the destination in order, and all of it
does unless the destination has closed. -/
structure Transparent (src dst : PeerLink) (phase : RelayPhase) : Prop where
  inOrder : dst.delivered <+: src.sent
  received : src.transportClosed = true → src.inFlight = [] ∨ dst.closed = true
  complete : phase = .finished → dst.delivered = src.sent ∨ dst.closed = true

/-- Nothing is on its way to a transport which is not read any more. -/
def Receives (src dst : PeerLink) (_ : RelayPhase) : Prop :=
  src.transportClosed = true → src.inFlight = [] ∨ dst.closed = true

/-- Where the bytes of the source are, and when the task has closed the
destination. -/
structure Routed (src dst : PeerLink) (phase : RelayPhase) : Prop where
  passed : src.sent = dst.delivered ++ src.buffer ++ src.inFlight
  finished : phase = .finished → src.buffer = [] ∧ src.atEnd = true
  running : phase ≠ .finished → dst.transportClosed = false

/-- The bytes of a peer are accounted for, so that only those can be lost which
are on their way to a closed transport. -/
theorem Routed.transparent_iff {src dst : PeerLink} {phase : RelayPhase}
    (routed : Routed src dst phase) :
    Transparent src dst phase ↔ Receives src dst phase := by
  constructor
  · intro transparent
    exact transparent.received
  · intro receives
    refine ⟨?_, receives, ?_⟩
    · rw [routed.passed, List.append_assoc]
      exact List.prefix_append _ _
    · intro finished
      obtain ⟨empty, atEnd⟩ := routed.finished finished
      have passed := routed.passed
      rw [empty, List.append_nil] at passed
      have arrived : src.inFlight = [] ∨ dst.closed = true := by
        rcases PeerLink.atEnd_iff.mp atEnd with closed | ⟨-, none⟩
        · exact receives closed
        · exact Or.inl none
      rcases arrived with none | closed
      · left
        rw [passed, none, List.append_nil]
      · exact Or.inr closed

/-- The source ends its sending side. -/
theorem Routed.whenEnded {src dst : PeerLink} {phase : RelayPhase}
    (routed : Routed src dst phase) (closed : Bool) :
    Routed { src with ended := true, closed } dst phase := by
  refine ⟨routed.passed, ?_, routed.running⟩
  intro finished
  obtain ⟨empty, atEnd⟩ := routed.finished finished
  have ended := (PeerLink.atEnd_iff.mp atEnd).imp_right
    fun ended => And.intro (rfl : true = true) ended.2
  exact ⟨empty, PeerLink.atEnd_iff.mpr ended⟩

namespace MaskingRelay

/-- No task closes a connection over which more is on its way, and no peer sends
more over one that is closed, unless the receiver of it has closed. -/
def Careful (s : MaskingRelay) : MaskingEvent → Prop
  | .sends peer bytes =>
      (s.link peer).ended = true ∨ bytes = [] ∨
        (s.link peer).transportClosed = false ∨
          (s.link peer.other).closed = true
  | .reads peer =>
      s.relay peer = .reading → (s.link peer).buffer = [] →
        (s.link peer).atEnd = true →
          (s.link peer.other).inFlight = [] ∨ (s.link peer).closed = true
  | _ => True

section ClientInit

variable {crypto : Primitives} {secret : Bytes} {now : Nat}

/-- The relay, if it is called, begins with all the bytes of a client. -/
def RelaysAll (crypto : Primitives) (secret : Bytes) (now : Nat) (all : Bytes)
    (performed : Program.Performed (initWorld crypto secret now)) : Prop :=
  ∀ initialData domain,
    performed.op = .proxyToMaskingDomain initialData domain →
      ((start initialData performed.before.reader.unread).link .client).sent =
        all

/-- A read which is in time takes the first bytes of the stream. -/
theorem timedRead_filled {step : InitRead} {count : Nat}
    {outcome : WaitOutcome} {s later : FakeTlsStream} {data : Bytes}
    (raw : step ≠ .handshakeInTls)
    (filled : timedRead step count outcome s = (.filled data, later)) :
    data ++ later.reader.unread = s.reader.unread := by
  cases outcome with
  | timesOut => cases filled
  | connectionLost => cases filled
  | inTime =>
      cases step with
      | handshakeInTls => exact absurd rfl raw
      | firstByte | recordHeader | recordBody | handshakeRest =>
          simp only [timedRead] at filled
          split at filled
          · cases filled
          · rename_i read
            cases filled
            simp only [StreamReader.readexactly] at read
            split at read
            · cases read
            · cases read
              exact List.take_append_drop _ _

/-- A call which is not that of the relay, and all that follows. -/
theorem RelaysAll.read {step : InitRead} {count : Nat} {all : Bytes}
    {next : Bytes → InitProgram PyError ClientInit} {s : FakeTlsStream}
    (later : ∀ data later, timedRead step count .inTime s = (.filled data, later) →
      Program.Only (initWorld crypto secret now) (RelaysAll crypto secret now all)
        (next data) later) :
    Program.Only (initWorld crypto secret now) (RelaysAll crypto secret now all)
      (readexactlyOrNone step count next) s := by
  apply Program.Only.perform
  · intro outcome initialData domain same
    cases same
  · intro outcome
    cases outcome with
    | timesOut => exact Program.Only.pure _
    | connectionLost => exact Program.Only.pure _
    | inTime =>
        have performed : (initWorld crypto secret now).perform s
            (.read step count) .inTime = timedRead step count .inTime s := rfl
        rw [performed]
        cases read : timedRead step count .inTime s with
        | mk reply rest =>
            cases reply with
            | filled data => exact later data rest read
            | ended taken => exact Program.Only.pure _
            | failed taken => exact Program.Only.pure _
            | elapsed => exact Program.Only.pure _

theorem readHelloInit_relaysAll (masking : String) (clientHello : Bytes)
    (s : FakeTlsStream) :
    Program.Only (initWorld crypto secret now)
      (RelaysAll crypto secret now (clientHello ++ s.reader.unread))
      (readHelloInit masking clientHello) s := by
  apply Program.Only.perform
  · intro outcome initialData domain same
    cases same
  · intro outcome
    have performed : (initWorld crypto secret now).perform s
        (.verifyClientHello clientHello) outcome =
          (verifyClientHello crypto now clientHello secret, s) := rfl
    rw [performed]
    rcases verifyClientHello crypto now clientHello secret with error | _ | verdict
    · exact Program.Only.pure _
    · apply Program.Only.perform
      · intro relayed initialData domain same
        cases same
        rfl
      · intro relayed
        exact Program.Only.pure _
    · apply Program.Only.perform
      · intro sent initialData domain same
        cases same
      · intro sent
        cases sent with
        | false => exact Program.Only.pure _
        | true =>
            apply RelaysAll.read
            intro handshake later _
            exact Program.Only.pure _

/-- No byte of the record which was read first is kept back from the server. -/
theorem readFirstByteInit_relaysAll (masking : String) (s : FakeTlsStream) :
    Program.Only (initWorld crypto secret now)
      (RelaysAll crypto secret now s.reader.unread)
      (readFirstByteInit masking) s := by
  apply RelaysAll.read
  intro firstByte afterFirst first
  rw [← timedRead_filled (by exact nofun) first]
  split
  · apply RelaysAll.read
    intro hdrRest afterHeader header
    rw [← timedRead_filled (by exact nofun) header]
    apply RelaysAll.read
    intro recordBody afterBody body
    rw [← timedRead_filled (by exact nofun) body, ← List.append_assoc,
      ← List.append_assoc]
    exact readHelloInit_relaysAll masking _ afterBody
  · split
    · apply Program.Only.perform
      · intro sent initialData domain same
        cases same
      · intro sent
        cases sent with
        | false => exact Program.Only.pure _
        | true => exact Program.Only.pure _
    · apply RelaysAll.read
      intro rest later _
      exact Program.Only.pure _

/-- A record which does not verify is relayed, with what is behind it. -/
def RelaysRefused (crypto : Primitives) (secret : Bytes) (now : Nat)
    (masking : String) : Prop :=
  ∀ (hello : HelloRecord) (further : Bytes) (arrived : Nat → Nat),
    verifyClientHello crypto now hello.encode secret = .ok none →
      Program.Makes (initWorld crypto secret now) Timely
        (fun performed =>
          performed.op = .proxyToMaskingDomain hello.encode masking ∧
            performed.before.reader.unread = further)
        (readFirstByteInit masking)
        (FakeTlsStream.mk ⟨hello.encode ++ further, arrived⟩ [] 0)

theorem readFirstByteInit_relaysRefused {masking : String}
    (masked : masking ≠ "") : RelaysRefused crypto secret now masking := by
  intro hello further arrived refused
  apply makes_hello masked
  apply Program.Makes.later
  intro verified _
  simp only [initWorld, refused]
  apply Program.Makes.here
  intro relayed _
  exact ⟨rfl, rfl⟩

end ClientInit

section Peers

variable {s : MaskingRelay} {holds : PeerLink → PeerLink → RelayPhase → Prop}

theorem other_ne (peer : Peer) : peer.other ≠ peer := by
  cases peer with
  | client => exact nofun
  | server => exact nofun

theorem other_other (peer : Peer) : peer.other.other = peer := by
  cases peer with
  | client => rfl
  | server => rfl

theorem both_iff (peer : Peer) :
    s.Both holds ↔
      holds (s.link peer) (s.link peer.other) (s.relay peer) ∧
        holds (s.link peer.other) (s.link peer) (s.relay peer.other) := by
  constructor
  · intro both
    have back := both peer.other
    rw [other_other] at back
    exact ⟨both peer, back⟩
  · intro ⟨there, back⟩ any
    by_cases same : any = peer
    · rw [same]
      exact there
    · have isOther : any = peer.other := by
        cases any with
        | client =>
            cases peer with
            | client => exact absurd rfl same
            | server => rfl
        | server =>
            cases peer with
            | client => rfl
            | server => exact absurd rfl same
      rw [isOther, other_other]
      exact back

/-- One connection changes. -/
theorem both_setLink_iff (peer : Peer) (link : PeerLink) :
    (s.setLink peer link).Both holds ↔
      holds link (s.link peer.other) (s.relay peer) ∧
        holds (s.link peer.other) link (s.relay peer.other) := by
  rw [both_iff peer]
  simp only [setLink, Function.update_self,
    Function.update_of_ne (other_ne peer)]

/-- A task goes on. -/
theorem both_setRelay_iff (peer : Peer) (phase : RelayPhase) :
    (s.setRelay peer phase).Both holds ↔
      holds (s.link peer) (s.link peer.other) phase ∧
        holds (s.link peer.other) (s.link peer) (s.relay peer.other) := by
  rw [both_iff peer]
  simp only [setRelay, Function.update_self,
    Function.update_of_ne (other_ne peer)]

/-- A task goes on and changes the destination. -/
theorem both_setOther_iff (peer : Peer) (dst : PeerLink) (phase : RelayPhase) :
    ((s.setLink peer.other dst).setRelay peer phase).Both holds ↔
      holds (s.link peer) dst phase ∧
        holds dst (s.link peer) (s.relay peer.other) := by
  rw [both_setRelay_iff]
  simp only [setLink, Function.update_self,
    Function.update_of_ne (other_ne peer).symm]

/-- A chunk is passed on. -/
theorem both_relayStep_chunk {peer : Peer} {src dst : PeerLink}
    (filled : (s.link peer).buffer ≠ [])
    (read : { s.link peer with
      buffer := (s.link peer).buffer.drop relayChunk } = src)
    (written : { s.link peer.other with
      delivered := (s.link peer.other).delivered ++
        (s.link peer).buffer.take relayChunk } = dst) :
    (s.relayStep peer).Both holds ↔
      holds src dst .draining ∧ holds dst src (s.relay peer.other) := by
  subst read written
  simp only [relayStep, if_pos filled]
  rw [both_setOther_iff]
  simp only [setLink, Function.update_self]

/-- The source has ended, and the destination is closed. -/
theorem both_relayStep_end {peer : Peer} {dst : PeerLink}
    (empty : (s.link peer).buffer = []) (atEnd : (s.link peer).atEnd = true)
    (shut : { s.link peer.other with transportClosed := true } = dst) :
    (s.relayStep peer).Both holds ↔
      holds (s.link peer) dst .finished ∧
        holds dst (s.link peer) (s.relay peer.other) := by
  subst shut
  simp only [relayStep, if_neg (not_not_intro empty), if_pos atEnd]
  rw [both_setOther_iff]

theorem relayStep_waits {peer : Peer} (empty : (s.link peer).buffer = [])
    (more : (s.link peer).atEnd ≠ true) : s.relayStep peer = s := by
  simp only [relayStep, if_neg (not_not_intro empty), if_neg more]

end Peers

section Steps

variable {s : MaskingRelay} {peer : Peer}

theorem routed_relayStep (routed : s.Both Routed)
    (reading : s.relay peer = .reading) : (s.relayStep peer).Both Routed := by
  obtain ⟨there, back⟩ := (both_iff peer).mp routed
  have running := there.running (by rw [reading]; exact nofun)
  by_cases empty : (s.link peer).buffer = []
  · by_cases atEnd : (s.link peer).atEnd = true
    · rw [both_relayStep_end empty atEnd rfl]
      refine ⟨⟨there.passed, fun _ => ⟨empty, atEnd⟩, ?_⟩,
        ⟨back.passed, ?_, back.running⟩⟩
      · intro notFinished
        exact absurd rfl notFinished
      · intro finished
        exact ⟨(back.finished finished).1,
          PeerLink.atEnd_iff.mpr (Or.inl rfl)⟩
    · rw [relayStep_waits empty atEnd]
      exact routed
  · rw [both_relayStep_chunk empty rfl rfl]
    refine ⟨⟨?_, nofun, fun _ => running⟩,
      ⟨back.passed, back.finished, back.running⟩⟩
    simp only [there.passed, List.append_assoc, List.append_cancel_left_eq]
    rw [← List.append_assoc, List.take_append_drop]

theorem receives_relayStep_iff (receives : s.Both Receives) :
    (s.relayStep peer).Both Receives ↔
      ((s.link peer).buffer = [] → (s.link peer).atEnd = true →
        (s.link peer.other).inFlight = [] ∨ (s.link peer).closed = true) := by
  obtain ⟨there, back⟩ := (both_iff peer).mp receives
  by_cases empty : (s.link peer).buffer = []
  · by_cases atEnd : (s.link peer).atEnd = true
    · rw [both_relayStep_end empty atEnd rfl]
      constructor
      · intro ⟨_, next⟩ _ _
        exact next rfl
      · intro careful
        refine ⟨there, ?_⟩
        intro _
        exact careful empty atEnd
    · rw [relayStep_waits empty atEnd]
      constructor
      · intro _ _ ended
        exact absurd ended atEnd
      · intro _
        exact receives
  · rw [both_relayStep_chunk empty rfl rfl]
    constructor
    · intro _ isEmpty
      exact absurd isEmpty empty
    · intro _
      exact ⟨there, back⟩

theorem routed_step (routed : s.Both Routed) (event : MaskingEvent) :
    (s.step event).Both Routed := by
  cases event with
  | sends peer bytes =>
      obtain ⟨there, back⟩ := (both_iff peer).mp routed
      simp only [step]
      split
      · exact routed
      · rename_i notEnded
        rw [both_setLink_iff]
        refine ⟨⟨?_, ?_, there.running⟩,
          ⟨back.passed, back.finished, back.running⟩⟩
        · simp only [there.passed, List.append_assoc]
        · intro finished
          obtain ⟨empty, atEnd⟩ := there.finished finished
          have closed := (PeerLink.atEnd_iff.mp atEnd).resolve_right
            fun ended => notEnded ended.1
          exact ⟨empty, PeerLink.atEnd_iff.mpr (Or.inl closed)⟩
  | ends peer =>
      obtain ⟨there, back⟩ := (both_iff peer).mp routed
      rw [step, both_setLink_iff]
      exact ⟨there.whenEnded _, ⟨back.passed, back.finished, back.running⟩⟩
  | closes peer =>
      obtain ⟨there, back⟩ := (both_iff peer).mp routed
      rw [step, both_setLink_iff]
      exact ⟨there.whenEnded _, ⟨back.passed, back.finished, back.running⟩⟩
  | receives peer count =>
      obtain ⟨there, back⟩ := (both_iff peer).mp routed
      simp only [step]
      split
      · exact routed
      · rename_i isOpen
        rw [both_setLink_iff]
        refine ⟨⟨?_, ?_, there.running⟩,
          ⟨back.passed, back.finished, back.running⟩⟩
        · simp only [there.passed, List.append_assoc, List.take_append_drop]
        · intro finished
          obtain ⟨empty, atEnd⟩ := there.finished finished
          obtain ⟨ended, none⟩ :=
            (PeerLink.atEnd_iff.mp atEnd).resolve_left isOpen
          simp only [empty, none, List.take_nil, List.drop_nil, List.append_nil,
            true_and]
          exact PeerLink.atEnd_iff.mpr (Or.inr ⟨ended, rfl⟩)
  | reads peer =>
      simp only [step]
      split
      · rename_i reading
        exact routed_relayStep routed reading
      · exact routed
  | drains peer =>
      obtain ⟨there, back⟩ := (both_iff peer).mp routed
      simp only [step]
      split
      · rename_i draining
        have running := there.running (by rw [draining]; exact nofun)
        rw [both_setRelay_iff]
        exact ⟨⟨there.passed, nofun, fun _ => running⟩, back⟩
      · exact routed

/-- The careful steps are those after which nothing is lost. -/
theorem receives_step_iff (receives : s.Both Receives) (event : MaskingEvent) :
    (s.step event).Both Receives ↔ s.Careful event := by
  cases event with
  | sends peer bytes =>
      obtain ⟨there, back⟩ := (both_iff peer).mp receives
      simp only [step, Careful]
      split
      · rename_i ended
        simp only [ended, true_or, iff_true]
        exact receives
      · rename_i notEnded
        rw [both_setLink_iff]
        constructor
        · intro ⟨next, _⟩
          right
          cases closed : (s.link peer).transportClosed with
          | false => exact Or.inr (Or.inl rfl)
          | true =>
              rcases next closed with none | gone
              · exact Or.inl (List.append_eq_nil_iff.mp none).2
              · exact Or.inr (Or.inr gone)
        · intro careful
          refine ⟨?_, back⟩
          intro closed
          rcases careful with ended | none | isOpen | gone
          · exact absurd ended notEnded
          · have before := there closed
            simp only [none, List.append_nil]
            exact before
          · exact absurd closed (Bool.eq_false_iff.mp isOpen)
          · exact Or.inr gone
  | ends peer =>
      obtain ⟨there, back⟩ := (both_iff peer).mp receives
      rw [step, both_setLink_iff]
      exact ⟨fun _ => trivial, fun _ => ⟨there, back⟩⟩
  | closes peer =>
      obtain ⟨there, back⟩ := (both_iff peer).mp receives
      rw [step, both_setLink_iff]
      exact ⟨fun _ => trivial, fun _ => ⟨there, fun _ => Or.inr rfl⟩⟩
  | receives peer count =>
      obtain ⟨there, back⟩ := (both_iff peer).mp receives
      simp only [step, Careful, iff_true]
      split
      · exact receives
      · rename_i isOpen
        rw [both_setLink_iff]
        exact ⟨fun closed => absurd closed isOpen, back⟩
  | reads peer =>
      simp only [step, Careful]
      split
      · rename_i reading
        simp only [reading, true_imp_iff]
        exact receives_relayStep_iff receives
      · rename_i busy
        constructor
        · intro _ reading
          exact absurd reading busy
        · intro _
          exact receives
  | drains peer =>
      simp only [step, Careful, iff_true]
      split
      · obtain ⟨there, back⟩ := (both_iff peer).mp receives
        rw [both_setRelay_iff]
        exact ⟨there, back⟩
      · exact receives

theorem start_routed (initialData behind : Bytes) :
    (start initialData behind).Both Routed := by
  rw [both_iff .client]
  refine ⟨⟨?_, nofun, fun _ => rfl⟩, ⟨rfl, nofun, fun _ => rfl⟩⟩
  simp [start, Peer.other]

theorem start_receives (initialData behind : Bytes) :
    (start initialData behind).Both Receives := by
  rw [both_iff .client]
  exact ⟨nofun, nofun⟩

theorem transparent_iff_receives (routed : s.Both Routed) :
    s.Both Transparent ↔ s.Both Receives := by
  constructor
  · intro transparent peer
    exact (routed peer).transparent_iff.mp (transparent peer)
  · intro receives peer
    exact (routed peer).transparent_iff.mpr (receives peer)

/-- A drain and a pass of the loop take a chunk from the buffer; without one, a
task whose source is at its end is finished. -/
theorem pass_cases (routed : s.Both Routed) (src : Peer) :
    let next := (s.step (.drains src)).step (.reads src)
    next.link src =
        { s.link src with buffer := (s.link src).buffer.drop relayChunk } ∧
      ((s.link src).buffer = [] → (s.link src).atEnd = true →
        next.relay src = .finished) := by
  have reads {s : MaskingRelay} (reading : s.relay src = .reading) :
      (s.step (.reads src)).link src =
          { s.link src with buffer := (s.link src).buffer.drop relayChunk } ∧
        ((s.link src).buffer = [] → (s.link src).atEnd = true →
          (s.step (.reads src)).relay src = .finished) := by
    simp only [step, reading, relayStep]
    by_cases empty : (s.link src).buffer = []
    · have unread : s.link src =
          { s.link src with buffer := (s.link src).buffer.drop relayChunk } := by
        rw [empty, List.drop_nil, ← empty]
      by_cases atEnd : (s.link src).atEnd = true
      · simp only [if_neg (not_not_intro empty), if_pos atEnd, setRelay,
          setLink, Function.update_of_ne (other_ne src).symm,
          Function.update_self]
        exact ⟨unread, fun _ _ => trivial⟩
      · simp only [if_neg (not_not_intro empty), if_neg atEnd]
        exact ⟨unread, fun _ ended => absurd ended atEnd⟩
    · simp only [if_pos empty, setRelay, setLink,
        Function.update_of_ne (other_ne src).symm, Function.update_self]
      exact ⟨trivial, fun none => absurd none empty⟩
  cases phase : s.relay src with
  | reading =>
      have drained : s.step (.drains src) = s := by
        simp only [step, phase]
      rw [drained]
      exact reads phase
  | draining =>
      have drained : s.step (.drains src) = s.setRelay src .reading := by
        simp only [step, phase]
      rw [drained]
      exact @reads (s.setRelay src .reading) (Function.update_self _ _ _)
  | finished =>
      obtain ⟨empty, -⟩ := (routed src).finished phase
      have stays : (s.step (.drains src)).step (.reads src) = s := by
        simp only [step, phase]
      rw [stays, empty, List.drop_nil]
      refine ⟨?_, fun _ _ => phase⟩
      rw [← empty]

/-- By induction on the number of passes: each takes a chunk from what has
arrived, and the last one finds the end. -/
theorem run_passes (routed : s.Both Routed) (src : Peer) {count : Nat}
    (enough : (s.link src).buffer.length < count) :
    (run step s (passes src count)).link src =
        { s.link src with buffer := [] } ∧
      ((s.link src).atEnd = true →
        (run step s (passes src count)).relay src = .finished) := by
  induction count generalizing s with
  | zero => exact absurd enough (Nat.not_lt_zero _)
  | succ count induction =>
      obtain ⟨taken, ends⟩ := pass_cases routed src
      have passed : run step s (passes src (count + 1)) =
          run step ((s.step (.drains src)).step (.reads src))
            (passes src count) := rfl
      rw [passed]
      have routedNext := routed_step (routed_step routed (.drains src))
        (.reads src)
      generalize (s.step (.drains src)).step (.reads src) = next at *
      have left : (next.link src).buffer =
          (s.link src).buffer.drop relayChunk := by
        rw [taken]
      have lengths := congrArg List.length left
      rw [List.length_drop] at lengths
      have positive : 0 < relayChunk := by decide
      by_cases more : (next.link src).buffer.length < count
      · obtain ⟨same, finished⟩ := induction routedNext more
        rw [same, taken]
        refine ⟨rfl, fun atEnd => finished ?_⟩
        rw [taken]
        exact atEnd
      · obtain rfl : count = 0 := by omega
        have empty : (s.link src).buffer = [] :=
          List.eq_nil_of_length_eq_zero (by omega)
        refine ⟨?_, ends empty⟩
        change next.link src = _
        rw [taken, empty, List.drop_nil]

theorem catchesUp_of_routed (routed : s.Both Routed) : s.CatchesUp := by
  intro src count enough later
  obtain ⟨link, finished⟩ := run_passes routed src enough
  have kept : later.Both Routed :=
    @run_invariant _ _ step (Both Routed)
      (fun _ event routed => routed_step routed event) s _ routed
  have passed := (kept src).passed
  rw [link, List.append_nil] at passed
  exact ⟨passed.symm, finished⟩

/-- The relay of a record which does not verify begins with it and all that
follows it; it stays transparent exactly if no peer ends its sending side while
the other has something on the way or goes on sending; and what has arrived is
passed on by the task whose turn it is. -/
theorem relay_transparent_iff (crypto : Primitives) (secret : Bytes) (now : Nat)
    (initialData behind : Bytes) (events : List MaskingEvent) :
    (∀ masking, (masking ≠ "" → RelaysRefused crypto secret now masking) ∧
      ∀ s, Program.Only (initWorld crypto secret now)
        (RelaysAll crypto secret now s.reader.unread)
        (readFirstByteInit masking) s) ∧
    ((∀ earlier, earlier <+: events →
        (run step (start initialData behind) earlier).Both Transparent) ↔
      AllSteps step Careful (start initialData behind) events) ∧
    (run step (start initialData behind) events).CatchesUp := by
  have preserved (s : MaskingRelay) (event : MaskingEvent)
      (routed : s.Both Routed) : (s.step event).Both Routed :=
    routed_step routed event
  have accounted (earlier : List MaskingEvent) :
      (run step (start initialData behind) earlier).Both Routed :=
    @run_invariant _ _ step (Both Routed) preserved _ earlier
      (start_routed initialData behind)
  have exact_ (s : MaskingRelay) (event : MaskingEvent)
      (receives : s.Both Receives) :
      (s.step event).Both Receives ↔ s.Careful event :=
    receives_step_iff receives event
  refine ⟨?_, ?_, catchesUp_of_routed (accounted events)⟩
  · intro masking
    exact ⟨readFirstByteInit_relaysRefused, readFirstByteInit_relaysAll masking⟩
  · rw [← invariant_throughout_iff_allSteps exact_
      (start_receives initialData behind) events]
    constructor
    · intro transparent earlier isPrefix
      exact (transparent_iff_receives (accounted earlier)).mp
        (transparent earlier isPrefix)
    · intro receives earlier isPrefix
      exact (transparent_iff_receives (accounted earlier)).mpr
        (receives earlier isPrefix)

/-- A client which has sent its record and ends its sending side does not get the
answer of the server. -/
theorem half_closed_client_gets_nothing :
    let s := run step (start [22, 3, 1, 0, 0] [])
      [.ends .client, .reads .client, .sends .server [21, 3, 3],
        .receives .server 3, .reads .server]
    s.relay .server = .finished ∧ (s.link .client).closed = false ∧
      (s.link .server).sent = [21, 3, 3] ∧ (s.link .client).delivered = [] := by
  decide

end Steps

end MaskingRelay

end TgWsProxy.Python
