import TgWsProxy.PlainClient
import TgWsProxy.Rust.Upstream

/-!
# A plain Rust client from its first byte

`handle_client` of `main.rs` without Fake TLS, and the bridge which it starts:
the stream from which the handshake is read is the one which the bridge goes on
to read.
-/

namespace TgWsProxy.Rust

open Lib

/-- The events of the branch which reads from the client. -/
def BridgeEvent.OfClient : BridgeEvent → Bool
  | .clientRead _ _ | .clientEnds => true
  | .deliver _ | .pollRecv _ | .serverEnds => false

/-- A bridge with the reader of the session. -/
structure StreamBridge where
  bridge : ReadingBridge
  reader : Source

inductive StreamEvent where
  /-- `reader.read(&mut buf)` is polled.  The send of a chunk may fail after some
  frames. -/
  | pollRead (failsAfter : Option Nat)
  /-- An event of the branch of Telegram. -/
  | telegram (event : BridgeEvent)

namespace Bridge

variable {crypto : Primitives} {overflowChecks : Bool} {s : Bridge}
  {chunk : Bytes} {failsAfter : Option Nat}

/-- A send on a closed WebSocket ends the bridge. -/
theorem clientRead_opened
    (running : (s.clientRead crypto overflowChecks chunk failsAfter).status =
      .running) :
    (s.clientRead crypto overflowChecks chunk failsAfter).ws.closed = false := by
  unfold clientRead at running ⊢
  dsimp only at running ⊢
  cases returned : forwardUp crypto overflowChecks
      { s with ws := s.ws.dropRecv } chunk with
  | error panic =>
      rw [returned] at running
      cases running
  | ok outcome =>
      obtain ⟨parts, next⟩ := outcome
      rw [returned] at running
      dsimp only at running ⊢
      cases sending : next.ws.sendBatch parts failsAfter with
      | error ws =>
          rw [sending] at running
          cases running
      | ok ws => exact sendBatch_opened sending

/-- A read whose send does not fail goes on, or panics. -/
theorem clientRead_goesOn (running : s.status = .running)
    (opened : s.ws.closed = false) :
    (s.clientRead crypto overflowChecks chunk none).status = .running ∨
      ∃ panic, (s.clientRead crypto overflowChecks chunk none).status =
        .panicked panic := by
  unfold clientRead
  dsimp only
  cases returned : forwardUp crypto overflowChecks
      { s with ws := s.ws.dropRecv } chunk with
  | error panic => exact .inr ⟨panic, rfl⟩
  | ok outcome =>
      obtain ⟨parts, next⟩ := outcome
      have frame := forwardUp_frame returned
      have stillOpened : next.ws.closed = false := by
        rw [frame.ws]
        exact opened
      obtain ⟨ws, sent, -, -⟩ := sendBatch_eq stillOpened parts
      refine .inl ?_
      simp only [sent]
      exact frame.status.trans running

end Bridge

namespace StreamBridge

section Steps

variable (crypto : Primitives) (overflowChecks : Bool)

def bridgeStep (s : StreamBridge) (event : BridgeEvent) : StreamBridge :=
  { s with bridge := s.bridge.step crypto overflowChecks event }

/-- The branch of the client. -/
def pollRead (s : StreamBridge) (failsAfter : Option Nat) : StreamBridge :=
  match s.reader.poll 65536 with
  | (.pending, reader) => { s with reader }
  | (.failed _, reader) =>
      { s with reader }.bridgeStep crypto overflowChecks .clientEnds
  | (.ready chunk, reader) =>
      let s := { s with reader }
      if chunk = [] then s.bridgeStep crypto overflowChecks .clientEnds
      else s.bridgeStep crypto overflowChecks (.clientRead chunk failsAfter)

def step (s : StreamBridge) : StreamEvent → StreamBridge
  | .pollRead failsAfter =>
      if s.bridge.bridge.status = .running then
        s.pollRead crypto overflowChecks failsAfter
      else s
  | .telegram event =>
      if event.OfClient then s else s.bridgeStep crypto overflowChecks event

end Steps

/-- What was read is the beginning of `further`, which the client sends, and
while the bridge runs the rest is still to be read. -/
structure Kept (crypto : Primitives) (session : CryptoCtx) (further : Bytes)
    (s : StreamBridge) : Prop where
  inOrder : s.bridge.InOrder crypto session
  readPart : s.bridge.read <+: further
  left : s.bridge.bridge.status = .running →
    ∃ rest : ClientStream, s.reader = rest.source ∧
      s.bridge.read ++ rest.bytes = further
  opened : s.bridge.bridge.status = .running →
    s.bridge.bridge.ws.closed = false

section Kept

variable {crypto : Primitives} {session : CryptoCtx} {overflowChecks : Bool}
  {further : Bytes} {s : StreamBridge}

theorem read_step {bridge : ReadingBridge} {event : BridgeEvent}
    (notClient : event.OfClient = false) :
    (bridge.step crypto overflowChecks event).read = bridge.read := by
  cases event with
  | deliver count => rfl
  | pollRecv failsAfter => rfl
  | serverEnds => rfl
  | clientRead chunk failsAfter => cases notClient
  | clientEnds => cases notClient

/-- A bridge which runs has been running. -/
theorem running_step {bridge : ReadingBridge} {event : BridgeEvent}
    (running : (bridge.step crypto overflowChecks event).bridge.status =
      .running) : bridge.bridge.status = .running := by
  by_contra stopped
  have same : (bridge.step crypto overflowChecks event).bridge =
      bridge.bridge := if_neg stopped
  rw [same] at running
  exact stopped running

/-- The stream of the client ends or fails. -/
theorem Kept.clientEnds (kept : Kept crypto session further s)
    (running : s.bridge.bridge.status = .running) (reader : Source) :
    Kept crypto session further
      ({ s with reader }.bridgeStep crypto overflowChecks .clientEnds) := by
  have ended : (s.bridge.step crypto overflowChecks .clientEnds).bridge =
      s.bridge.bridge.finish := if_pos running
  refine ⟨kept.inOrder.step .clientEnds, kept.readPart, ?_, ?_⟩
  · intro again
    simp only [bridgeStep, ended, Bridge.finish] at again
    cases again
  · intro again
    simp only [bridgeStep, ended, Bridge.finish] at again
    cases again

theorem Kept.clientRead (kept : Kept crypto session further s)
    (running : s.bridge.bridge.status = .running) {chunk : Bytes}
    {rest : ClientStream} (readable : Bridge.Readable chunk)
    (cut : s.bridge.read ++ (chunk ++ rest.bytes) = further)
    (failsAfter : Option Nat) :
    Kept crypto session further
      ({ s with reader := rest.source }.bridgeStep crypto overflowChecks
        (.clientRead chunk failsAfter)) := by
  have read : (s.bridge.step crypto overflowChecks
      (.clientRead chunk failsAfter)).read = s.bridge.read ++ chunk := by
    simp only [ReadingBridge.step, running, readable, and_self, if_true]
  have whole : (s.bridge.step crypto overflowChecks
      (.clientRead chunk failsAfter)).read ++ rest.bytes = further := by
    rw [read, List.append_assoc, cut]
  refine ⟨kept.inOrder.step _, ⟨rest.bytes, whole⟩,
    fun _ => ⟨rest, rfl, whole⟩, ?_⟩
  simp only [bridgeStep, ReadingBridge.step, Bridge.step, running, readable,
    if_true]
  exact Bridge.clientRead_opened

theorem Kept.pollRead (kept : Kept crypto session further s)
    (running : s.bridge.bridge.status = .running) (failsAfter : Option Nat) :
    Kept crypto session further
      (s.pollRead crypto overflowChecks failsAfter) := by
  obtain ⟨stream, isReader, whole⟩ := kept.left running
  have polled := stream.poll 65536
  rw [← isReader] at polled
  unfold StreamBridge.pollRead
  generalize s.reader.poll 65536 = result at polled
  cases polled with
  | ended none => exact kept.clientEnds running _
  | failed none => exact kept.clientEnds running _
  | @pending rest same fewer =>
      refine ⟨kept.inOrder, kept.readPart, fun _ => ⟨rest, rfl, ?_⟩, kept.opened⟩
      rw [same]
      exact whole
  | @read taken rest cut short nonempty order =>
      have some : taken ≠ [] := nonempty (by decide)
      have readable : Bridge.Readable taken :=
        ⟨List.length_pos_iff.mpr some, short⟩
      simp only [if_neg some]
      apply kept.clientRead running readable
      rw [← cut]
      exact whole

theorem Kept.step (kept : Kept crypto session further s)
    (event : StreamEvent) :
    Kept crypto session further (s.step crypto overflowChecks event) := by
  cases event with
  | pollRead failsAfter =>
      simp only [StreamBridge.step]
      split
      · rename_i running
        exact kept.pollRead running failsAfter
      · exact kept
  | telegram event =>
      simp only [StreamBridge.step]
      split
      · exact kept
      · rename_i notClient
        have read := @read_step crypto overflowChecks s.bridge event
          (Bool.eq_false_iff.mpr notClient)
        have notRead : ∀ chunk failsAfter,
            event ≠ .clientRead chunk failsAfter := by
          rintro chunk failsAfter rfl
          exact notClient rfl
        refine ⟨kept.inOrder.step event, ?_, fun running => ?_,
          fun running => ?_⟩
        · exact read.symm ▸ kept.readPart
        · obtain ⟨rest, isReader, whole⟩ := kept.left (running_step running)
          refine ⟨rest, isReader, ?_⟩
          exact (congrArg (· ++ rest.bytes) read).trans whole
        · have keepsUp := @Bridge.keepsUp_step crypto overflowChecks
            s.bridge.bridge event notRead
          exact (keepsUp.opened running).trans
            (kept.opened (running_step running))

end Kept

/-- What Telegram reads of the frames is the beginning of the plaintext of a
client which sends `further` behind its handshake, as far as it was read.  While
the bridge runs, what was read and what its reader still has make up `further`,
and only what the splitter holds is missing of what was read. -/
def Delivers (crypto : Primitives) (secret handshake relayInit further : Bytes)
    (s : StreamBridge) : Prop :=
  s.bridge.read <+: further ∧
    (s.bridge.bridge.status = .running → ∃ rest : ClientStream,
      s.reader = rest.source ∧ s.bridge.read ++ rest.bytes = further) ∧
    ∀ plain, further <+: clientUpstream crypto secret handshake plain →
      let frames := s.bridge.bridge.ws.binaryPayloads.flatten
      relayPlain crypto relayInit frames <+: plain.take s.bridge.read.length ∧
        (s.bridge.bridge.status = .running →
          relayPlain crypto relayInit (frames ++ s.bridge.bridge.heldBack) =
            plain.take s.bridge.read.length)

theorem Kept.delivers {crypto : Primitives}
    {secret handshake relayInit further : Bytes} {s : StreamBridge}
    (kept : Kept crypto (sessionCiphers crypto secret handshake relayInit)
      further s) :
    s.Delivers crypto secret handshake relayInit further := by
  refine ⟨kept.readPart, kept.left, fun plain initialPart => ?_⟩
  have decrypted := relayPlain_reencryptedUp crypto secret handshake relayInit
    (kept.readPart.trans initialPart)
  refine ⟨?_, fun running => ?_⟩
  · have sent := relayPlain_prefix crypto relayInit kept.inOrder.sent
    exact decrypted ▸ sent
  · obtain ⟨-, -, -, whole⟩ := kept.inOrder.running running
    exact (congrArg (relayPlain crypto relayInit) whole).trans decrypted

/-- The bridge on what the accept path has left of the stream. -/
theorem start_kept (crypto : Primitives) {session : CryptoCtx}
    {relayInit : Bytes} {protoInt : UInt32} {splitter : MsgSplitter}
    (made : MsgSplitter.new crypto relayInit protoInt = .ok splitter)
    {chosen : Option MsgSplitter} (known : chosen ∈ [none, some splitter])
    (incoming : Bytes) (rest : ClientStream) :
    Kept crypto session rest.bytes
      ⟨⟨Bridge.start session chosen incoming, []⟩, rest.source⟩ := by
  refine ⟨?_, List.nil_prefix, fun _ => ⟨rest, rfl, List.nil_append _⟩,
    fun _ => rfl⟩
  apply ReadingBridge.start_inOrder
  exact ReadingBridge.chosen_passes made known

theorem Kept.run {crypto : Primitives} {session : CryptoCtx}
    {further : Bytes} {s : StreamBridge} (kept : Kept crypto session further s)
    (overflowChecks : Bool) (events : List StreamEvent) :
    Kept crypto session further
      (Lib.run (StreamBridge.step crypto overflowChecks) s events) := by
  have preserved (s : StreamBridge) (event : StreamEvent)
      (kept : Kept crypto session further s) :
      Kept crypto session further (s.step crypto overflowChecks event) :=
    kept.step event
  exact run_invariant preserved events kept

section Progress

variable {crypto : Primitives} {session : CryptoCtx} {overflowChecks : Bool}
  {further : Bytes} {s : StreamBridge} {stream : ClientStream}

/-- A bound for the polls which read a stream to its end. -/
def pollsLeft (stream : ClientStream) : Nat :=
  stream.bytes.length + stream.waitsWithin (stream.bytes.length + 1)

/-- All that the client sends was read, unless the splitter or a counter has
panicked. -/
def ReadsAll (further : Bytes) (s : StreamBridge) : Prop :=
  s.bridge.read = further ∨ ∃ panic, s.bridge.bridge.status = .panicked panic

/-- A chunk is read, and the bridge goes on or panics. -/
theorem bridgeStep_clientRead {chunk : Bytes}
    (running : s.bridge.bridge.status = .running)
    (opened : s.bridge.bridge.ws.closed = false)
    (readable : Bridge.Readable chunk) :
    let next := s.bridgeStep crypto overflowChecks (.clientRead chunk none)
    next.bridge.read = s.bridge.read ++ chunk ∧
      (next.bridge.bridge.status = .running ∨
        ∃ panic, next.bridge.bridge.status = .panicked panic) := by
  have goesOn := @Bridge.clientRead_goesOn crypto overflowChecks s.bridge.bridge
    chunk running opened
  simp only [bridgeStep, ReadingBridge.step, Bridge.step, running, readable,
    and_self, true_and, if_true]
  exact goesOn

/-- A poll of the reader reads the last of the stream, or leaves less of it. -/
theorem Kept.pollRead_reads (kept : Kept crypto session further s)
    (running : s.bridge.bridge.status = .running)
    (isReader : s.reader = stream.source)
    (whole : s.bridge.read ++ stream.bytes = further) :
    let next := s.pollRead crypto overflowChecks none
    ReadsAll further next ∨
      next.bridge.bridge.status = .running ∧ ∃ rest : ClientStream,
        next.reader = rest.source ∧ next.bridge.read ++ rest.bytes = further ∧
          pollsLeft rest < pollsLeft stream := by
  have polled := stream.poll 65536
  rw [← isReader] at polled
  unfold StreamBridge.pollRead
  generalize s.reader.poll 65536 = result at polled
  cases polled with
  | ended none | failed none =>
      rw [none, List.append_nil] at whole
      exact .inl (.inl whole)
  | @pending rest same fewer =>
      refine .inr ⟨running, rest, rfl, ?_, ?_⟩
      · rw [same]
        exact whole
      · have waits := fewer (stream.bytes.length + 1) (Nat.succ_ne_zero _)
        rw [pollsLeft, pollsLeft, same]
        omega
  | @read taken rest cut short nonempty order =>
      have some : taken ≠ [] := nonempty (by decide)
      have positive := List.length_pos_iff.mpr some
      simp only [if_neg some]
      obtain ⟨read, goesOn | panicked⟩ := @bridgeStep_clientRead crypto
        overflowChecks { s with reader := rest.source } taken running
        (kept.opened running) ⟨positive, short⟩
      · refine .inr ⟨goesOn, rest, rfl, ?_, ?_⟩
        · rw [read, List.append_assoc, ← cut]
          exact whole
        · have size := congrArg List.length cut
          have waits := order (rest.bytes.length + 1)
          rw [List.length_append] at size
          have behind : taken.length + (rest.bytes.length + 1) =
              stream.bytes.length + 1 := by omega
          rw [behind] at waits
          rw [pollsLeft, pollsLeft, waits]
          omega
      · exact .inl (.inr panicked)

/-- By induction on what is left of the stream. -/
theorem Kept.reads_all (kept : Kept crypto session further s)
    (running : s.bridge.bridge.status = .running) :
    ∃ count, ReadsAll further (Lib.run (StreamBridge.step crypto overflowChecks)
      s (List.replicate count (.pollRead none))) := by
  obtain ⟨stream, isReader, whole⟩ := kept.left running
  induction polls : pollsLeft stream using Nat.strongRecOn
    generalizing s stream with
  | ind left induction =>
      have stepped : s.step crypto overflowChecks (.pollRead none) =
          s.pollRead crypto overflowChecks none := if_pos running
      have first := @Kept.pollRead_reads crypto session overflowChecks further s
        stream kept running isReader whole
      have later := @Kept.step crypto session overflowChecks further s kept
        (.pollRead none)
      rw [← stepped] at first
      rcases first with all | ⟨stillRuns, rest, behind, cut, fewer⟩
      · exact ⟨1, all⟩
      · obtain ⟨count, all⟩ := induction _ (polls ▸ fewer) later stillRuns rest
          behind cut rfl
        exact ⟨count + 1, all⟩

end Progress

end StreamBridge

/-- The handshake and two bytes behind it. -/
def recordedSegments : List Arrival :=
  [.data (recordedHandshake.take 10), .pending,
    .data (recordedHandshake.drop 10 ++ [9]), .data [8]]

theorem recordedSegments_valid (arrival : Arrival)
    (member : arrival ∈ recordedSegments) :
    arrival = .pending ∨ ∃ segment, segment ≠ [] ∧ arrival = .data segment := by
  simp only [recordedSegments, List.mem_cons, List.not_mem_nil, or_false]
    at member
  have front : recordedHandshake.take 10 ≠ [] := by decide +kernel
  rcases member with rfl | rfl | rfl | rfl
  · exact .inr ⟨_, front, rfl⟩
  · exact .inl rfl
  · exact .inr ⟨_, List.append_ne_nil_of_right_ne_nil _ (List.cons_ne_nil _ _),
      rfl⟩
  · exact .inr ⟨_, List.cons_ne_nil _ _, rfl⟩

def recordedStream : ClientStream :=
  ⟨recordedSegments, recordedSegments_valid, none⟩

end TgWsProxy.Rust
