import TgWsProxy.Rust.Bridge

/-!
# What the Rust bridge delivers to the client

The future of `recv` takes the bytes of a frame as they arrive.  A client read
which is ready in the meantime drops that future, and the bytes are lost.  The
bridge delivers what Telegram sends as long as this does not happen.
-/

namespace TgWsProxy.Rust

open Lib

namespace Bridge

/-- The branch of a client read does not panic. -/
structure UpReturns (crypto : Primitives) (overflowChecks : Bool) (s : Bridge)
    (chunk : Bytes) : Prop where
  counts : overflowChecks = true →
    s.stats.bytesUp + chunk.length < 2 ^ 64 ∧ s.stats.packetsUp + 1 < 2 ^ 64
  splits : ∀ splitter, s.splitter = some splitter →
    ∃ parts next,
      splitter.split crypto
        (s.ctx.tgEnc.apply crypto (s.ctx.cltDec.apply crypto chunk)) =
          .ok (parts, next) ∧
      (overflowChecks = true →
        0 < parts.length ∧ s.stats.packetsUp + parts.length < 2 ^ 64)

/-- The branch of a message from Telegram does not panic. -/
def DownReturns (overflowChecks : Bool) (s : Bridge) : Prop :=
  overflowChecks = true → ∀ payload, s.ws.pollRecv.1 = .message payload →
    s.stats.bytesDown + payload.length < 2 ^ 64 ∧
      s.stats.packetsDown + 1 < 2 ^ 64

/-- No client read is forwarded while `recv` has taken a part of a frame, and
nothing panics. -/
def Undisturbed (crypto : Primitives) (overflowChecks : Bool) (s : Bridge) :
    BridgeEvent → Prop
  | .clientRead chunk failsAfter => s.status = .running → Readable chunk →
      (failsAfter = none → s.ws.taken = []) ∧
        s.UpReturns crypto overflowChecks chunk
  | .pollRecv _ => s.status = .running → s.DownReturns overflowChecks
  | .deliver _ | .serverEnds | .clientEnds => True

end Bridge

/-- The frames which are complete in the bytes which have arrived. -/
def completeFrames : List WsFrame → Bytes → List WsFrame
  | [], _ => []
  | frame :: frames, arrived =>
      if frame.encode <+: arrived then
        frame :: completeFrames frames (arrived.drop frame.encode.length)
      else []

/-- The client gets the WsFrame.payloads of the frames which have arrived, re-encrypted
and in order, and gets all of them once `recv` has taken all bytes at hand,
unless the session has ended. -/
def Bridge.Delivers (crypto : Primitives) (session : CryptoCtx)
    (frames : List WsFrame) (s : Bridge) : Prop :=
  ∃ arrived, arrived ++ s.incoming = WsFrame.encodeAll frames ∧
    s.written <+: reencryptedDown crypto session
      (WsFrame.payloads (completeFrames frames arrived)) ∧
    (s.status ≠ .ended → s.ws.unread = [] →
      s.written = reencryptedDown crypto session
        (WsFrame.payloads (completeFrames frames arrived)))

/-- One poll of `recv` more than there are frames, whose writes do not fail, and
all that has arrived was read, and the payloads of its frames are written. -/
def Bridge.CatchesUp (crypto : Primitives) (overflowChecks : Bool)
    (session : CryptoCtx) (frames : List WsFrame) (s : Bridge) : Prop :=
  ∀ count, frames.length < count →
    AllSteps (Bridge.step crypto overflowChecks)
      (Bridge.Undisturbed crypto overflowChecks) s
      (List.replicate count (.pollRecv none)) →
    ∃ arrived, arrived ++ s.incoming = WsFrame.encodeAll frames ∧
      let polled := run (Bridge.step crypto overflowChecks) s
        (List.replicate count (.pollRecv none))
      polled.ws.unread = [] ∧
        polled.written = reencryptedDown crypto session
          (WsFrame.payloads (completeFrames frames arrived))

section Frames

theorem reencryptedDown_isPrefix (crypto : Primitives) (session : CryptoCtx)
    {front whole : Bytes} (isPrefix : front <+: whole) :
    reencryptedDown crypto session front <+:
      reencryptedDown crypto session whole := by
  obtain ⟨back, rfl⟩ := isPrefix
  rw [reencryptedDown_append]
  exact List.prefix_append _ _

theorem completeFrames_append (front back : List WsFrame) (later : Bytes) :
    completeFrames (front ++ back) (WsFrame.encodeAll front ++ later) =
      front ++ completeFrames back later := by
  induction front with
  | nil => rfl
  | cons frame front induction =>
      have complete : frame.encode <+: WsFrame.encodeAll (frame :: front) ++ later := by
        rw [WsFrame.encodeAll_cons, List.append_assoc]
        exact List.prefix_append _ _
      rw [List.cons_append, completeFrames, if_pos complete, WsFrame.encodeAll_cons,
        List.append_assoc, List.drop_left, induction, List.cons_append]

theorem completeFrames_encodeAll (frames : List WsFrame) :
    completeFrames frames (WsFrame.encodeAll frames) = frames := by
  have whole := completeFrames_append frames [] []
  simpa [completeFrames] using whole

/-- While `read_frame` waits, no frame is complete. -/
theorem completeFrames_of_waiting {seen : Bytes}
    (waiting : readFrame.on seen = .waiting) (frames : List WsFrame) :
    completeFrames frames seen = [] := by
  cases frames with
  | nil => rfl
  | cons frame frames =>
      rw [completeFrames, if_neg]
      intro complete
      obtain ⟨later, rfl⟩ := complete
      rw [readFrame_encode] at waiting
      cases waiting

/-- `read_frame` on a stream of frames of which a part has arrived. -/
theorem readFrame_arrived {seen incoming : Bytes} {frames : List WsFrame}
    (stream : seen ++ incoming = WsFrame.encodeAll frames) :
    readFrame.on seen = .waiting ∨
      ∃ frame later rest, frames = frame :: later ∧
        seen = frame.encode ++ rest ∧ rest ++ incoming = WsFrame.encodeAll later ∧
        readFrame.on seen =
          .done (UInt8.ofNat frame.opcode, frame.payload) rest := by
  cases frames with
  | nil =>
      have empty : seen = [] := (List.append_eq_nil_iff.mp stream).1
      left
      rw [empty]
      rfl
  | cons frame later =>
      rw [WsFrame.encodeAll_cons] at stream
      obtain ⟨rest, split⟩ | ⟨missing, split⟩ :=
        (List.append_eq_append_iff.mp stream).symm
      · right
        refine ⟨frame, later, rest, rfl, split.1, split.2.symm, ?_⟩
        rw [split.1, readFrame_encode]
      · by_cases whole : missing = []
        · right
          rw [whole, List.append_nil] at split
          refine ⟨frame, later, [], rfl, ?_, ?_, ?_⟩
          · rw [split.1, List.append_nil]
          · rw [split.2]
            rfl
          · rw [← split.1]
            simpa using readFrame_encode frame []
        · left
          have alone := readFrame_encode frame []
          rw [List.append_nil] at alone
          apply Reading.on_of_isPrefix alone
          · rw [split.1]
            exact List.prefix_append _ _
          · intro same
            apply whole
            simpa [same] using split.1

end Frames

namespace Bridge

/-- A running session: the frames `front` were delivered, and what is left of
the stream is the frames `back`, of which `recv` has taken a beginning. -/
structure InStep (crypto : Primitives) (session : CryptoCtx)
    (front back : List WsFrame) (s : Bridge) : Prop where
  stream : s.ws.taken ++ s.ws.unread ++ s.incoming = WsFrame.encodeAll back
  waiting : readFrame.on s.ws.taken = .waiting
  tgDec : s.ctx.tgDec = session.tgDec.advance (WsFrame.payloads front).length
  cltEnc : s.ctx.cltEnc = session.cltEnc.advance (WsFrame.payloads front).length
  written : s.written = reencryptedDown crypto session (WsFrame.payloads front)

/-- The states of an undisturbed session. -/
def Undisrupted (crypto : Primitives) (session : CryptoCtx)
    (frames : List WsFrame) (s : Bridge) : Prop :=
  (s.status = .running ∧ ∃ front back, frames = front ++ back ∧
    s.InStep crypto session front back) ∨
  (s.status = .ended ∧ s.Delivers crypto session frames)

section Steps

variable {crypto : Primitives} {overflowChecks : Bool} {session : CryptoCtx}
  {frames front back : List WsFrame} {s : Bridge}

theorem InStep.delivers (split : frames = front ++ back)
    (inStep : s.InStep crypto session front back) :
    s.Delivers crypto session frames := by
  have complete (seen : Bytes) : completeFrames frames (WsFrame.encodeAll front ++ seen) =
      front ++ completeFrames back seen := by
    rw [split, completeFrames_append]
  refine ⟨WsFrame.encodeAll front ++ (s.ws.taken ++ s.ws.unread), ?_, ?_, ?_⟩
  · rw [List.append_assoc, inStep.stream, split, WsFrame.encodeAll_append]
  · rw [inStep.written, complete]
    apply reencryptedDown_isPrefix
    rw [WsFrame.payloads_append]
    exact List.prefix_append _ _
  · intro _ allRead
    rw [inStep.written, complete, allRead, List.append_nil,
      completeFrames_of_waiting inStep.waiting, List.append_nil]

/-- A session which ends leaves the client with what it has got. -/
theorem Delivers.ended {s' : Bridge}
    (delivers : s.Delivers crypto session frames) (ended : s'.status = .ended)
    (incoming : s'.incoming = s.incoming) (written : s'.written <+: s.written) :
    s'.Delivers crypto session frames := by
  obtain ⟨arrived, stream, isPrefix, _⟩ := delivers
  refine ⟨arrived, ?_, written.trans isPrefix, fun goesOn => absurd ended goesOn⟩
  rw [incoming]
  exact stream

theorem InStep.finish (split : frames = front ++ back)
    (inStep : s.InStep crypto session front back) :
    s.finish.Undisrupted crypto session frames :=
  Or.inr ⟨rfl, (inStep.delivers split).ended rfl rfl (List.prefix_refl _)⟩

theorem InStep.deliver (inStep : s.InStep crypto session front back)
    (count : Nat) :
    InStep crypto session front back
      { s with
        ws := { s.ws with unread := s.ws.unread ++ s.incoming.take count }
        incoming := s.incoming.drop count } := by
  refine ⟨?_, inStep.waiting, inStep.tgDec, inStep.cltEnc, inStep.written⟩
  rw [← inStep.stream]
  simp only [List.append_assoc, List.take_append_drop]

theorem UpReturns.forwardUp {chunk : Bytes}
    (returns : s.UpReturns crypto overflowChecks chunk) :
    ∃ parts s', s.forwardUp crypto overflowChecks chunk = .ok (parts, s') := by
  cases present : s.splitter with
  | none =>
      obtain ⟨bytesUp, countBytes, _⟩ := addU64_of_lt fun checked =>
        (returns.counts checked).1
      obtain ⟨packetsUp, countPacket, _⟩ := addU64_of_lt fun checked =>
        (returns.counts checked).2
      simp only [Bridge.forwardUp, countBytes, countPacket, present, bind,
        Except.bind, pure, Except.pure]
      exact ⟨_, _, rfl⟩
  | some splitter =>
      obtain ⟨parts, next, split, positive⟩ := returns.splits splitter present
      obtain ⟨stats, returned, -⟩ := forwardUp_eq present split fun checked =>
        ⟨(returns.counts checked).1, positive checked⟩
      exact ⟨_, _, returned⟩

theorem InStep.clientRead {chunk : Bytes} {failsAfter : Option Nat}
    (split : frames = front ++ back)
    (inStep : s.InStep crypto session front back) (running : s.status = .running)
    (notTaken : failsAfter = none → s.ws.taken = [])
    (returns : s.UpReturns crypto overflowChecks chunk) :
    (s.clientRead crypto overflowChecks chunk failsAfter).Undisrupted crypto
      session frames := by
  have dropped : UpReturns crypto overflowChecks
      { s with ws := s.ws.dropRecv } chunk := ⟨returns.counts, returns.splits⟩
  obtain ⟨parts, s', returned⟩ := dropped.forwardUp
  have frame := forwardUp_frame returned
  simp only [Bridge.clientRead, returned]
  cases sending : s'.ws.sendBatch parts failsAfter with
  | error ws =>
      have written : s'.written <+: s.written := by
        rw [frame.written]
      exact Or.inr
        ⟨rfl, (inStep.delivers split).ended rfl frame.incoming written⟩
  | ok ws =>
      have keeps : ws.taken = s.ws.taken ∧ ws.unread = s.ws.unread := by
        unfold RawWebSocket.sendBatch at sending
        split at sending
        · cases sending
        · cases failsAfter with
          | none =>
              cases sending
              rw [frame.ws]
              exact ⟨(notTaken rfl).symm, rfl⟩
          | some count => cases sending
      refine Or.inl ⟨frame.status.trans running, front, back, split, ?_⟩
      refine ⟨?_, ?_, ?_, ?_, ?_⟩
      · rw [keeps.1, keeps.2, frame.incoming]
        exact inStep.stream
      · rw [keeps.1]
        exact inStep.waiting
      · rw [frame.tgDec]
        exact inStep.tgDec
      · rw [frame.cltEnc]
        exact inStep.cltEnc
      · rw [frame.written]
        exact inStep.written

theorem forwardDown_eq (crypto : Primitives) (s : Bridge) {payload : Bytes}
    (failsAfter : Option Nat)
    (counts : overflowChecks = true →
      s.stats.bytesDown + payload.length < 2 ^ 64 ∧
        s.stats.packetsDown + 1 < 2 ^ 64) :
    ∃ stats, s.forwardDown crypto overflowChecks payload failsAfter =
      .ok (
        let data :=
          s.ctx.cltEnc.apply crypto (s.ctx.tgDec.apply crypto payload)
        let s :=
          { s with
            ctx :=
              { s.ctx with
                tgDec := s.ctx.tgDec.advance payload.length
                cltEnc := s.ctx.cltEnc.advance payload.length }
            stats }
        match failsAfter with
        | none => { s with written := s.written ++ data }
        | some count =>
            Bridge.finish { s with written := s.written ++ data.take count }) := by
  obtain ⟨bytesDown, countBytes, _⟩ := addU64_of_lt fun checked =>
    (counts checked).1
  obtain ⟨packetsDown, countPacket, _⟩ := addU64_of_lt fun checked =>
    (counts checked).2
  refine ⟨{ s.stats with bytesDown, packetsDown }, ?_⟩
  simp only [forwardDown, countBytes, countPacket, AesCtr.update_eq,
    AesCtr.length_apply, bind, Except.bind, pure, Except.pure]
  cases failsAfter with
  | none => rfl
  | some count => rfl

/-- One more frame was delivered. -/
theorem InStep.message {frame : WsFrame} {later : List WsFrame} {rest : Bytes}
    (inStep : s.InStep crypto session front (frame :: later)) (stats : SessionStats)
    (stream : rest ++ s.incoming = WsFrame.encodeAll later) :
    InStep crypto session (front ++ [frame]) later
      { s with
        ws := { s.ws with taken := [], unread := rest }
        ctx :=
          { s.ctx with
            tgDec := s.ctx.tgDec.advance frame.payload.length
            cltEnc := s.ctx.cltEnc.advance frame.payload.length }
        stats
        written := s.written ++
          s.ctx.cltEnc.apply crypto (s.ctx.tgDec.apply crypto frame.payload) } := by
  have delivered : (WsFrame.payloads (front ++ [frame])).length =
      (WsFrame.payloads front).length + frame.payload.length := by
    rw [WsFrame.payloads_append, WsFrame.payloads_singleton, List.length_append]
  refine ⟨stream, rfl, ?_, ?_, ?_⟩
  · rw [delivered, inStep.tgDec, AesCtr.advance_advance]
  · rw [delivered, inStep.cltEnc, AesCtr.advance_advance]
  · rw [inStep.written, inStep.tgDec, inStep.cltEnc, WsFrame.payloads_append,
      WsFrame.payloads_singleton, reencryptedDown_append]

theorem InStep.pollRecv (failsAfter : Option Nat)
    (binary : ∀ frame ∈ frames, frame.IsBinary) (split : frames = front ++ back)
    (inStep : s.InStep crypto session front back) (running : s.status = .running)
    (returns : s.DownReturns overflowChecks) :
    (s.pollRecv crypto overflowChecks failsAfter).Undisrupted crypto session
      frames := by
  obtain waiting | ⟨frame, later, rest, rfl, seen, stream, complete⟩ :=
    readFrame_arrived inStep.stream
  · have polled := RawWebSocket.pollRecv_of_waiting waiting
    simp only [Bridge.pollRecv, polled]
    refine Or.inl ⟨running, front, back, split, ?_⟩
    refine ⟨?_, waiting, inStep.tgDec, inStep.cltEnc, inStep.written⟩
    rw [List.append_nil]
    exact inStep.stream
  · have opcode : frame.opcode = 2 := by
      refine (binary frame ?_).2
      rw [split]
      exact List.mem_append_right front List.mem_cons_self
    rw [opcode] at complete
    have polled := RawWebSocket.pollRecv_of_binary complete
    have counts (checked : overflowChecks = true) :=
      returns checked frame.payload (by rw [polled])
    obtain ⟨stats, forwarded⟩ := forwardDown_eq crypto
      { s with ws := { s.ws with taken := [], unread := rest } } failsAfter counts
    have next : frames = (front ++ [frame]) ++ later := by
      rw [split, List.append_assoc]
      rfl
    have inStepNext := inStep.message stats stream
    simp only [Bridge.pollRecv, polled, forwarded]
    cases failsAfter with
    | none => exact Or.inl ⟨running, front ++ [frame], later, next, inStepNext⟩
    | some count =>
        apply Or.inr
        refine ⟨rfl, (inStepNext.delivers next).ended rfl rfl ?_⟩
        exact (List.prefix_append_right_inj s.written).mpr (List.take_prefix _ _)

/-- A poll of `recv` takes all that has arrived, or delivers one more frame. -/
theorem InStep.poll (binary : ∀ frame ∈ frames, frame.IsBinary)
    (split : frames = front ++ back)
    (inStep : s.InStep crypto session front back) (running : s.status = .running)
    (returns : s.DownReturns overflowChecks) :
    let polled := s.step crypto overflowChecks (.pollRecv none)
    polled.status = .running ∧ polled.incoming = s.incoming ∧
      (polled.InStep crypto session front back ∧ polled.ws.unread = [] ∨
        ∃ frame later, back = frame :: later ∧ s.ws.unread ≠ [] ∧
          polled.InStep crypto session (front ++ [frame]) later) := by
  dsimp only [step]
  rw [if_pos running]
  obtain waiting | ⟨frame, later, rest, rfl, seen, stream, complete⟩ :=
    readFrame_arrived inStep.stream
  · have polled := RawWebSocket.pollRecv_of_waiting waiting
    simp only [Bridge.pollRecv, polled]
    refine ⟨running, trivial, Or.inl ⟨?_, trivial⟩⟩
    refine ⟨?_, waiting, inStep.tgDec, inStep.cltEnc, inStep.written⟩
    rw [List.append_nil]
    exact inStep.stream
  · have unreadSome : s.ws.unread ≠ [] := by
      intro empty
      have waiting := inStep.waiting
      rw [← List.append_nil s.ws.taken, ← empty, complete] at waiting
      cases waiting
    have opcode : frame.opcode = 2 := by
      refine (binary frame ?_).2
      rw [split]
      exact List.mem_append_right front List.mem_cons_self
    rw [opcode] at complete
    have polled := RawWebSocket.pollRecv_of_binary complete
    have counts (checked : overflowChecks = true) :=
      returns checked frame.payload (by rw [polled])
    obtain ⟨stats, forwarded⟩ := forwardDown_eq crypto
      { s with ws := { s.ws with taken := [], unread := rest } } none counts
    simp only [Bridge.pollRecv, polled, forwarded]
    exact ⟨running, trivial, Or.inr ⟨frame, later, rfl, unreadSome,
      inStep.message stats stream⟩⟩

/-- By induction over the polls: each of them delivers one of the frames `back`
until there is nothing left to read, and then they take nothing more. -/
theorem InStep.polls (binary : ∀ frame ∈ frames, frame.IsBinary) {count : Nat}
    (split : frames = front ++ back)
    (inStep : s.InStep crypto session front back) (running : s.status = .running)
    (enough : s.ws.unread = [] ∨ back.length < count)
    (undisturbed : AllSteps (step crypto overflowChecks)
      (Undisturbed crypto overflowChecks) s
      (List.replicate count (.pollRecv none))) :
    let polled := run (step crypto overflowChecks) s
      (List.replicate count (.pollRecv none))
    polled.status = .running ∧ polled.incoming = s.incoming ∧
      polled.ws.unread = [] ∧ ∃ front back, frames = front ++ back ∧
        polled.InStep crypto session front back := by
  induction count generalizing s front back with
  | zero =>
      obtain allRead | none := enough
      · exact ⟨running, rfl, allRead, front, back, split, inStep⟩
      · exact absurd none (Nat.not_lt_zero _)
  | succ count induction =>
      rw [List.replicate_succ] at undisturbed
      obtain ⟨returns, later⟩ := undisturbed
      obtain ⟨runs, incoming, allRead | delivered⟩ :=
        inStep.poll binary split running (returns running)
      · obtain ⟨inStepNext, allRead⟩ := allRead
        have polled := induction split inStepNext runs (Or.inl allRead) later
        rw [incoming] at polled
        exact polled
      · obtain ⟨frame, rest, rfl, unread, inStepNext⟩ := delivered
        have fewer : rest.length < count := by
          obtain allRead | fewer := enough
          · exact absurd allRead unread
          · rw [List.length_cons] at fewer
            omega
        have next : frames = (front ++ [frame]) ++ rest := by
          rw [split, List.append_assoc]
          rfl
        have polled := induction next inStepNext runs (Or.inr fewer) later
        rw [incoming] at polled
        exact polled

theorem Undisrupted.catchesUp (binary : ∀ frame ∈ frames, frame.IsBinary)
    (undisrupted : s.Undisrupted crypto session frames)
    (goesOn : s.status ≠ .ended) :
    s.CatchesUp crypto overflowChecks session frames := by
  intro count enough undisturbed
  obtain ⟨running, front, back, split, inStep⟩ | ended := undisrupted
  · have fewer : back.length < count := by
      rw [split, List.length_append] at enough
      omega
    obtain ⟨runs, incoming, allRead, front, back, split, polled⟩ :=
      inStep.polls binary split running (Or.inr fewer) undisturbed
    obtain ⟨arrived, stream, -, written⟩ := polled.delivers split
    rw [incoming] at stream
    have stillRuns : (run (step crypto overflowChecks) s
        (List.replicate count (.pollRecv none))).status ≠ .ended := by
      rw [runs]
      intro impossible
      cases impossible
    exact ⟨arrived, stream, allRead, written stillRuns allRead⟩
  · exact absurd ended.1 goesOn

theorem step_undisrupted (binary : ∀ frame ∈ frames, frame.IsBinary)
    (event : BridgeEvent) (undisrupted : s.Undisrupted crypto session frames)
    (undisturbed : s.Undisturbed crypto overflowChecks event) :
    (s.step crypto overflowChecks event).Undisrupted crypto session frames := by
  obtain ⟨running, front, back, split, inStep⟩ | ended := undisrupted
  · unfold step
    rw [if_pos running]
    cases event with
    | deliver count =>
        exact Or.inl ⟨running, front, back, split, inStep.deliver count⟩
    | pollRecv failsAfter =>
        exact inStep.pollRecv failsAfter binary split running
          (undisturbed running)
    | serverEnds =>
        dsimp only
        split
        · exact inStep.finish split
        · exact Or.inl ⟨running, front, back, split, inStep⟩
    | clientRead chunk failsAfter =>
        dsimp only
        split
        next readable =>
          obtain ⟨notTaken, returns⟩ := undisturbed running readable
          exact inStep.clientRead split running notTaken returns
        · exact Or.inl ⟨running, front, back, split, inStep⟩
    | clientEnds => exact inStep.finish split
  · unfold step
    rw [if_neg]
    · exact Or.inr ended
    · rw [ended.1]
      intro impossible
      cases impossible

theorem Undisrupted.delivers
    (undisrupted : s.Undisrupted crypto session frames) :
    s.Delivers crypto session frames := by
  obtain ⟨_, front, back, split, inStep⟩ | ended := undisrupted
  · exact inStep.delivers split
  · exact ended.2

/-- Once everything has arrived and was read, all WsFrame.payloads are written. -/
theorem Delivers.whole (delivers : s.Delivers crypto session frames)
    (allArrived : s.incoming = []) (allRead : s.ws.unread = [])
    (goesOn : s.status ≠ .ended) :
    s.written = reencryptedDown crypto session (WsFrame.payloads frames) := by
  obtain ⟨arrived, stream, _, written⟩ := delivers
  rw [allArrived, List.append_nil] at stream
  rw [written goesOn allRead, stream, completeFrames_encodeAll]

end Steps

theorem start_undisrupted (crypto : Primitives) (session : CryptoCtx)
    (splitter : Option MsgSplitter) (frames : List WsFrame) :
    (start session splitter (WsFrame.encodeAll frames)).Undisrupted crypto session
      frames :=
  Or.inl ⟨rfl, [], frames, rfl, ⟨rfl, rfl, rfl, rfl, rfl⟩⟩

end Bridge

/-- The client of an undisturbed session gets what Telegram sends it, all of it
once `recv` has been polled often enough. -/
theorem undisturbed_delivers (crypto : Primitives) (overflowChecks : Bool)
    (session : CryptoCtx) (splitter : Option MsgSplitter)
    (frames : List WsFrame) (binary : ∀ frame ∈ frames, frame.IsBinary)
    (events : List BridgeEvent)
    (undisturbed : AllSteps (Bridge.step crypto overflowChecks)
      (Bridge.Undisturbed crypto overflowChecks)
      (Bridge.start session splitter (WsFrame.encodeAll frames)) events) :
    let s := run (Bridge.step crypto overflowChecks)
      (Bridge.start session splitter (WsFrame.encodeAll frames)) events
    s.Delivers crypto session frames ∧
      (s.status ≠ .ended →
        s.CatchesUp crypto overflowChecks session frames) := by
  have undisrupted := undisturbed.invariant
    (fun s event undisrupted undisturbed =>
      Bridge.step_undisrupted binary event undisrupted undisturbed)
    (Bridge.start_undisrupted crypto session splitter frames)
  exact ⟨undisrupted.delivers, undisrupted.catchesUp binary⟩

/-- A binary frame of one byte. -/
def oneByteFrame : WsFrame where
  fin := true
  opcode := ⟨2, by decide⟩
  maskKey := none
  form := .short
  payload := [0x41]
  keySize := by simp
  fits := by decide

theorem oneByteFrame_binary : ∀ frame ∈ [oneByteFrame], frame.IsBinary := by
  intro frame member
  rw [List.mem_singleton.mp member]
  exact ⟨rfl, rfl⟩

def recordedSession : CryptoCtx :=
  sessionCiphers recordedCrypto recordedSecret recordedHandshake recordedDraw

/-- The frame arrives in two segments, and the client sends before both.  Two
polls later the payload is written. -/
theorem undisturbed_delivers_recorded :
    let s := run (Bridge.step recordedCrypto true)
      (Bridge.start recordedSession none (WsFrame.encodeAll [oneByteFrame]))
      [.clientRead [0x00] none, .deliver 1, .pollRecv none, .deliver 2]
    s.Delivers recordedCrypto recordedSession [oneByteFrame] ∧
      (run (Bridge.step recordedCrypto true) s
        [.pollRecv none, .pollRecv none]).written =
          reencryptedDown recordedCrypto recordedSession [0x41] := by
  have delivers := undisturbed_delivers recordedCrypto true recordedSession none
    [oneByteFrame] oneByteFrame_binary
    [.clientRead [0x00] none, .deliver 1, .pollRecv none, .deliver 2] (by
      refine ⟨?_, trivial, ?_, trivial, trivial⟩
      · intro _ _
        refine ⟨fun _ => rfl, fun _ => by decide, ?_⟩
        intro splitter some
        cases some
      · intro _ _ payload message
        cases message)
  refine ⟨delivers.1, ?_⟩
  obtain ⟨arrived, stream, -, written⟩ := delivers.2 (by decide) 2 (by decide) (by
    refine ⟨?_, ?_, trivial⟩
    · intro _ _ payload message
      cases message
      decide
    · intro _ _ payload message
      cases message)
  have allArrived : arrived = WsFrame.encodeAll [oneByteFrame] :=
    (List.append_nil arrived).symm.trans stream
  rw [allArrived, completeFrames_encodeAll] at written
  exact written

/-- The client sends between the two segments, and the frame is lost. -/
theorem frame_lost_recorded :
    ¬ ∀ events, (run (Bridge.step recordedCrypto true)
      (Bridge.start recordedSession none (WsFrame.encodeAll [oneByteFrame]))
      events).Delivers recordedCrypto recordedSession [oneByteFrame] := by
  intro always
  obtain ⟨arrived, stream, _, delivered⟩ := always
    [.deliver 1, .pollRecv none, .clientRead [0x00] none, .deliver 2,
      .pollRecv none]
  have allArrived : arrived = WsFrame.encodeAll [oneByteFrame] :=
    (List.append_nil arrived).symm.trans stream
  have written := delivered (by decide) rfl
  rw [allArrived, completeFrames_encodeAll] at written
  have size := congrArg List.length written
  simp only [reencryptedDown, AesCtr.length_apply] at size
  cases size

end TgWsProxy.Rust
