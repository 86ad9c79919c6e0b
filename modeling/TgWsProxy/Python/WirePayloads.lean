import TgWsProxy.Python.WebSocketWire

/-!
# The payloads on the wire of the Python WebSocket

Which binary frames `RawWebSocket` has written.  Only the sends of `tcp_to_ws`
add to them: pongs and Close frames carry no data of the session.
-/

namespace TgWsProxy.Python.Wire

open Lib

/-- The payloads of the binary frames. -/
def binaryPayloads (written : List WsFrame) : List Bytes :=
  (written.filter fun frame => frame.opcode = WsFrame.opBinary).map (·.payload)

/-- The wire holds complete frames, and the binary ones have these payloads. -/
def Carries (ws : RawWebSocket) (payloads : List Bytes) : Prop :=
  ∃ data last, Framed ws data last ∧ binaryPayloads (data ++ last) = payloads

/-- `tcp_to_ws` may send again. -/
def Session.Sending (s : Session) : Prop :=
  s.up = .ready ∨ s.up = .reading ∨ s.up = .draining

/-- The parts which a send puts on the wire. -/
def Sends.parts : Sends → List Bytes
  | .nothing => []
  | .one part => [part.val]
  | .batch parts => parts.map Subtype.val

/-- An event which brings data from outside into the session. -/
def SessionEvent.BringsData : SessionEvent → Bool
  | .begin _ | .clientRead _ _ | .clientEnds _ | .wsFrame _ _ _ => true
  | _ => false

/-- A task goes on: it is not cancelled, and nothing raises. -/
def SessionEvent.GoesOn : SessionEvent → Prop
  | .upStarts | .upDrained | .downStarts => True
  | .downDrained succeeds => succeeds = true
  | _ => False

section Payloads

variable {frames : FrameModule} {ws next : RawWebSocket} {payloads : List Bytes}

theorem binaryPayloads_append (front back : List WsFrame) :
    binaryPayloads (front ++ back) =
      binaryPayloads front ++ binaryPayloads back := by
  simp only [binaryPayloads, List.filter_append, List.map_append]

theorem binaryPayloads_binary (frames : FrameModule) (parts : List PyBytes) :
    binaryPayloads (parts.map (frames.masked 2)) = parts.map Subtype.val := by
  induction parts with
  | nil => rfl
  | cons part parts induction =>
      exact congrArg (part.val :: ·) induction

theorem binaryPayloads_control (frames : FrameModule) {opcode : Fin 16}
    (control : opcode ≠ 2) (part : PyBytes) :
    binaryPayloads [frames.masked opcode part] = [] := by
  have other : (frames.masked opcode part).opcode ≠ WsFrame.opBinary := control
  simp [binaryPayloads, other]

theorem Carries.binary (carries : Carries ws payloads)
    (opened : ws.closed = false) (parts : List PyBytes) :
    Carries (ws.write (parts.map fun part =>
        (frames.masked 2 part).encode).flatten)
      (payloads ++ parts.map Subtype.val) := by
  obtain ⟨data, last, framed, rfl⟩ := carries
  refine ⟨_, _, framed.write opened (by decide) parts, ?_⟩
  rw [framed.opened opened, List.append_nil, List.append_nil,
    binaryPayloads_append, binaryPayloads_binary]

theorem Carries.control (carries : Carries ws payloads)
    (opened : ws.closed = false) {opcode : Fin 16} (noClose : opcode ≠ 8)
    (noData : opcode ≠ 2) (part : PyBytes) :
    Carries (ws.write (frames.masked opcode part).encode) payloads := by
  obtain ⟨data, last, framed, rfl⟩ := carries
  have written := @Framed.write frames ws data last framed opened opcode noClose
    [part]
  have single : ([part].map fun part =>
      (frames.masked opcode part).encode).flatten =
        (frames.masked opcode part).encode := List.append_nil _
  rw [single] at written
  refine ⟨_, _, written, ?_⟩
  rw [framed.opened opened, List.append_nil, List.append_nil,
    binaryPayloads_append, List.map_singleton,
    binaryPayloads_control frames noData, List.append_nil]

theorem Carries.writeClose (carries : Carries ws payloads)
    (opened : ws.closed = false) (payload : PyBytes) :
    Carries (({ ws with closed := true }).tryWrite frames opClose payload)
      payloads := by
  obtain ⟨data, last, framed, rfl⟩ := carries
  refine ⟨_, _, framed.writeClose opened payload, ?_⟩
  rw [framed.opened opened, List.append_nil, binaryPayloads_append,
    binaryPayloads_control frames (by decide), List.append_nil]

theorem Carries.send (carries : Carries ws payloads) {part : PyBytes}
    (sent : ws.send frames part = .ok next) :
    Carries next (payloads ++ [part.val]) := by
  have opened := WellKept.opened_of_send sent
  have built : frames.buildMasked opBinary part =
      .ok (frames.masked 2 part).encode := buildMasked_eq frames 2 part
  rw [RawWebSocket.send, opened, if_neg Bool.false_ne_true, built] at sent
  cases sent
  have written := @Carries.binary frames ws payloads carries opened [part]
  rw [show ([part].map fun part => (frames.masked 2 part).encode).flatten =
    (frames.masked 2 part).encode from List.append_nil _] at written
  exact written

theorem Carries.sendBatch (carries : Carries ws payloads)
    {parts : List PyBytes}
    (sent : ws.sendBatch frames (parts.map Subtype.val) = .ok next) :
    Carries next (payloads ++ parts.map Subtype.val) := by
  cases opened : ws.closed with
  | true =>
      rw [RawWebSocket.sendBatch, if_pos opened] at sent
      cases sent
  | false =>
      have built : (parts.map Subtype.val).mapM
          (frames.buildMasked opBinary) = _ := mapM_buildMasked frames 2 parts
      rw [RawWebSocket.sendBatch, opened, if_neg Bool.false_ne_true, built]
        at sent
      cases sent
      exact carries.binary opened parts

theorem Carries.close (carries : Carries ws payloads) :
    Carries (ws.close frames) payloads := by
  cases opened : ws.closed with
  | true =>
      rw [RawWebSocket.close, if_pos opened]
      exact carries
  | false =>
      rw [RawWebSocket.close, opened, if_neg Bool.false_ne_true]
      exact carries.writeClose opened ⟨[], by decide⟩

/-- What `recv` answers carries no data. -/
theorem Carries.handleFrame (carries : Carries ws payloads)
    (opened : ws.closed = false) (opcode : Nat) (payload : PyBytes) :
    Carries (ws.handleFrame frames opcode payload).2 payloads := by
  unfold RawWebSocket.handleFrame
  split
  · have size : (payload.val.take 2).length < 2 ^ 63 := by
      rw [List.length_take]
      exact Nat.lt_of_le_of_lt (Nat.min_le_left _ _) (by decide)
    exact carries.writeClose opened ⟨_, size⟩
  · split
    · have built : frames.buildMasked opPong payload =
          .ok (frames.masked 10 payload).encode := buildMasked_eq frames 10 payload
      simp only [RawWebSocket.tryWrite, built]
      exact carries.control opened (by decide) (by decide) payload
    · split
      · exact carries
      · split
        · exact carries
        · exact carries

end Payloads

namespace Session

variable {frames : FrameModule} {s : Session} {payloads : List Bytes}

/-- What a step which sends nothing leaves: the data on the wire, and whether
`tcp_to_ws` has ended. -/
structure Quiet (payloads : List Bytes) (s next : Session) : Prop where
  carries : Carries next.ws payloads
  sending : next.Sending → s.Sending

theorem Quiet.same (carries : Carries s.ws payloads) : Quiet payloads s s :=
  ⟨carries, id⟩

/-- A step of `ws_to_tcp`. -/
theorem Quiet.ofDown {next : Session} (carries : Carries next.ws payloads)
    (up : next.up = s.up) : Quiet payloads s next := by
  refine ⟨carries, fun sending => ?_⟩
  rw [Sending, up] at sending
  exact sending

/-- A step after which `tcp_to_ws` has ended. -/
theorem Quiet.ofFinished {next : Session} (carries : Carries next.ws payloads)
    (finished : next.up = .finished) : Quiet payloads s next := by
  refine ⟨carries, fun sending => ?_⟩
  simp [Sending, finished] at sending

theorem resumeDown_quiet {next : Session} (carries : Carries s.ws payloads)
    (quiet : Quiet payloads s next) :
    Quiet payloads s (s.resumeDown next) := by
  unfold resumeDown
  split
  · exact .ofDown carries rfl
  · exact quiet

theorem resumeUp_quiet {next : Session} (carries : Carries s.ws payloads)
    (quiet : Quiet payloads s next) :
    Quiet payloads s (s.resumeUp next) := by
  unfold resumeUp
  split
  · exact .ofFinished carries rfl
  · exact quiet

theorem receiveFrame_quiet (carries : Carries s.ws payloads)
    (opened : s.ws.closed = false) (opcode : Nat) (payload : PyBytes)
    (aboveHighWater : Bool) :
    Quiet payloads s (s.receiveFrame frames opcode payload aboveHighWater) := by
  have answered := @Carries.handleFrame frames s.ws payloads carries opened
    opcode payload
  unfold receiveFrame
  generalize s.ws.handleFrame frames opcode payload = handled at answered
  obtain ⟨turn, ws⟩ := handled
  cases turn with
  | closed => exact .ofDown answered rfl
  | pong => exact .ofDown answered rfl
  | message data =>
      cases aboveHighWater with
      | false => exact .ofDown answered rfl
      | true => exact .ofDown answered rfl
  | ignored => exact .ofDown answered rfl

/-- A frame from Telegram. -/
theorem wsFrame_quiet (carries : Carries s.ws payloads) (kept : WellKept s)
    (opcode : Nat) (payload : PyBytes) (aboveHighWater : Bool) :
    Quiet payloads s
      (s.step frames (.wsFrame opcode payload aboveHighWater)) := by
  simp only [step]
  split
  · rename_i receiving
    apply resumeDown_quiet carries
    apply receiveFrame_quiet carries
    exact kept.opened_of_down (by simp [receiving]) (by simp [receiving])
  · exact .same carries

/-- A step which brings no data. -/
theorem task_quiet (carries : Carries s.ws payloads) (event : SessionEvent)
    (noData : event.BringsData = false) :
    Quiet payloads s (s.step frames event) := by
  cases event with
  | begin relayInit => cases noData
  | clientRead sends aboveHighWater => cases noData
  | clientEnds tail => cases noData
  | wsFrame opcode payload aboveHighWater => cases noData
  | upStarts =>
      simp only [step]
      split
      · rename_i ready
        exact resumeUp_quiet carries ⟨carries, fun _ => .inl ready⟩
      · exact .same carries
  | upDrained =>
      simp only [step]
      split
      · rename_i draining
        exact resumeUp_quiet carries ⟨carries, fun _ => .inr (.inr draining)⟩
      · split
        · exact .ofFinished carries rfl
        · exact .same carries
  | upFails =>
      simp only [step]
      split
      · exact .same carries
      · exact .ofFinished carries rfl
  | downStarts =>
      simp only [step]
      split
      · exact resumeDown_quiet carries (.ofDown carries rfl)
      · exact .same carries
  | downDrained succeeds =>
      simp only [step]
      split
      · apply resumeDown_quiet carries
        unfold afterDrain
        split
        · exact .ofDown carries rfl
        · exact .ofDown carries rfl
        · split
          · exact .ofDown carries rfl
          · exact .ofDown carries rfl
        all_goals exact .same carries
      · exact .same carries
  | downFails =>
      simp only [step]
      split
      · exact .same carries
      · exact .ofDown carries rfl
  | cancelUp => exact .ofDown carries rfl
  | cancelDown => exact .ofDown carries rfl
  | mainResumes cancelled =>
      simp only [step]
      split
      · exact .ofDown carries rfl
      · exact .same carries
  | closeWebSocket =>
      simp only [step]
      split
      · exact .ofDown carries.close rfl
      · exact .same carries
  | sessionEnds =>
      simp only [step]
      split
      · exact .ofDown carries rfl
      · exact .same carries

/-- A send puts its parts on the wire, or ends `tcp_to_ws`. -/
def SendsOrEnds (payloads parts : List Bytes) (next : Session) : Prop :=
  Carries next.ws (payloads ++ parts) ∨
    (Carries next.ws payloads ∧ ¬ next.Sending)

theorem afterSend_carries (carries : Carries s.ws payloads)
    {sent : Except PyError RawWebSocket} {parts : List Bytes}
    (resume : TcpToWs)
    (sends : ∀ ws, sent = .ok ws → Carries ws (payloads ++ parts)) :
    SendsOrEnds payloads parts (s.afterSend sent resume) := by
  cases sent with
  | error error =>
      right
      refine ⟨carries, ?_⟩
      simp [afterSend, Sending]
  | ok ws => exact .inl (sends ws rfl)

/-- `tcp_to_ws` with a chunk. -/
theorem clientRead_carries (carries : Carries s.ws payloads)
    (reading : s.up = .reading) (running : s.upCancelled = false)
    (sends : Sends) (aboveHighWater : Bool) :
    SendsOrEnds payloads sends.parts
      (s.step frames (.clientRead sends aboveHighWater)) := by
  simp only [step, if_pos reading, resumeUp, running, Bool.false_eq_true,
    if_false]
  cases sends with
  | nothing =>
      left
      rw [Sends.parts, List.append_nil]
      exact carries
  | one part => exact afterSend_carries carries _ fun ws sent => carries.send sent
  | batch parts =>
      exact afterSend_carries carries _ fun ws sent => carries.sendBatch sent

/-- `tcp_to_ws` at the end of the client's stream does not send again. -/
theorem clientEnds_carries (carries : Carries s.ws payloads)
    (reading : s.up = .reading) (running : s.upCancelled = false)
    (tail : Option PyBytes) :
    SendsOrEnds payloads (tail.toList.map Subtype.val)
        (s.step frames (.clientEnds tail)) ∧
      ¬ (s.step frames (.clientEnds tail)).Sending := by
  simp only [step, if_pos reading, resumeUp, running, Bool.false_eq_true,
    if_false]
  cases tail with
  | none =>
      refine ⟨.inl ?_, by simp [sendTail, Sending]⟩
      rw [Option.toList_none, List.map_nil, List.append_nil]
      exact carries
  | some part =>
      refine ⟨afterSend_carries carries _ fun ws sent => carries.send sent, ?_⟩
      simp only [sendTail, afterSend]
      split
      · simp [Sending]
      · simp [Sending]

/-- What `tcp_to_ws` needs to go on sending. -/
structure Live (s : Session) : Prop where
  sending : s.Sending
  running : s.upCancelled = false

theorem Live.of_same {next : Session} (live : Live s) (up : next.up = s.up)
    (cancelled : next.upCancelled = s.upCancelled) : Live next := by
  refine ⟨?_, cancelled.trans live.running⟩
  rw [Sending, up]
  exact live.sending

/-- On an open WebSocket, no send raises. -/
theorem clientRead_live (reading : s.up = .reading)
    (running : s.upCancelled = false) (opened : s.ws.closed = false)
    (sends : Sends) (aboveHighWater : Bool) :
    Live (s.step frames (.clientRead sends aboveHighWater)) := by
  have resumes (ws : RawWebSocket) : Live { s with
      ws, up := if aboveHighWater then .draining else .reading } := by
    refine ⟨?_, running⟩
    cases aboveHighWater with
    | true => exact .inr (.inr rfl)
    | false => exact .inr (.inl rfl)
  simp only [step, if_pos reading, resumeUp, running, Bool.false_eq_true,
    if_false]
  cases sends with
  | nothing => exact ⟨.inr (.inl rfl), running⟩
  | one part =>
      have built : frames.buildMasked opBinary part =
          .ok (frames.masked 2 part).encode := buildMasked_eq frames 2 part
      have sent : s.ws.send frames part =
          .ok (s.ws.write (frames.masked 2 part).encode) := by
        simp only [RawWebSocket.send, opened, built, Bool.false_eq_true,
          if_false]
        rfl
      simp only [sendChunk, sent, afterSend]
      exact resumes _
  | batch parts =>
      have built : (parts.map Subtype.val).mapM (frames.buildMasked opBinary) =
          .ok (parts.map fun part => (frames.masked 2 part).encode) :=
        mapM_buildMasked frames 2 parts
      have sent : s.ws.sendBatch frames (parts.map Subtype.val) =
          .ok (s.ws.write (parts.map fun part =>
            (frames.masked 2 part).encode).flatten) := by
        simp only [RawWebSocket.sendBatch, opened, built, Bool.false_eq_true,
          if_false]
        rfl
      simp only [sendChunk, sent, afterSend]
      exact resumes _

theorem receiveFrame_up (s : Session) (opcode : Nat) (payload : Bytes)
    (aboveHighWater : Bool) :
    (s.receiveFrame frames opcode payload aboveHighWater).up = s.up ∧
      (s.receiveFrame frames opcode payload aboveHighWater).upCancelled =
        s.upCancelled := by
  simp only [receiveFrame]
  split
  · exact ⟨rfl, rfl⟩
  · exact ⟨rfl, rfl⟩
  · split
    · exact ⟨rfl, rfl⟩
    · exact ⟨rfl, rfl⟩
  · exact ⟨rfl, rfl⟩

/-- A frame does not concern `tcp_to_ws`. -/
theorem Live.wsFrame (live : Live s) (opcode : Nat) (payload : PyBytes)
    (aboveHighWater : Bool) :
    Live (s.step frames (.wsFrame opcode payload aboveHighWater)) := by
  obtain ⟨up, cancelled⟩ :=
    @receiveFrame_up frames s opcode payload.val aboveHighWater
  simp only [step]
  split
  · unfold resumeDown
    split
    · exact live.of_same rfl rfl
    · exact live.of_same up cancelled
  · exact live

theorem Live.downFails (live : Live s) : Live (s.step frames .downFails) := by
  simp only [step]
  split
  · exact live
  · exact live.of_same rfl rfl

theorem Live.goesOn (live : Live s) {event : SessionEvent}
    (goesOn : event.GoesOn) : Live (s.step frames event) := by
  cases event with
  | upStarts =>
      simp only [step, resumeUp, live.running, Bool.false_eq_true, if_false]
      split
      · exact ⟨.inr (.inl rfl), rfl⟩
      · exact live
  | upDrained =>
      simp only [step, resumeUp, live.running, Bool.false_eq_true, if_false]
      split
      · exact ⟨.inr (.inl rfl), rfl⟩
      · split
        · rename_i tail
          rcases live.sending with ready | reading | draining
          · cases ready.symm.trans tail
          · cases reading.symm.trans tail
          · cases draining.symm.trans tail
        · exact live
  | downStarts =>
      simp only [step, resumeDown]
      split
      · split
        · exact live.of_same rfl rfl
        · exact live.of_same rfl rfl
      · exact live
  | downDrained succeeds =>
      obtain rfl : succeeds = true := goesOn
      simp only [step, resumeDown, afterDrain]
      split
      · split
        · exact live.of_same rfl rfl
        · split
          · exact live.of_same rfl rfl
          · exact live.of_same rfl rfl
          · exact live.of_same rfl rfl
          all_goals exact live
      · exact live
  | begin relayInit | clientRead sends aboveHighWater | clientEnds tail
    | upFails | wsFrame opcode payload aboveHighWater | downFails | cancelUp
    | cancelDown | mainResumes cancelled | closeWebSocket | sessionEnds =>
      exact goesOn.elim

theorem start_send (frames : FrameModule) (relayInit : PyBytes) :
    start.ws.send frames relayInit =
      .ok (start.ws.write (frames.masked 2 relayInit).encode) := by
  have built : frames.buildMasked opBinary relayInit =
      .ok (frames.masked 2 relayInit).encode := buildMasked_eq frames 2 relayInit
  simp only [start, RawWebSocket.send, built, Bool.false_eq_true, if_false]
  rfl

/-- `ws.send(relay_init)` on the WebSocket of a new session. -/
theorem begin_eq (frames : FrameModule) (relayInit : PyBytes) :
    start.step frames (.begin relayInit) =
      { ws := start.ws.write (frames.masked 2 relayInit).encode, up := .ready
        upCancelled := false, down := .ready, downCancelled := false
        main := .waiting } := by
  have sent := start_send frames relayInit
  have connected : start.main = .connected := rfl
  simp only [step, if_pos connected, sent]

theorem begin_live (frames : FrameModule) (relayInit : PyBytes) :
    Live (start.step frames (.begin relayInit)) := by
  rw [begin_eq]
  exact ⟨.inl rfl, rfl⟩

/-- The relay header is the first payload. -/
theorem begin_carries (frames : FrameModule) (relayInit : PyBytes) :
    Carries (start.step frames (.begin relayInit)).ws [relayInit.val] := by
  have nothing : Carries start.ws [] := by
    refine ⟨[], [], ?_, rfl⟩
    refine ⟨rfl, ?_, ?_, Nat.zero_le 1, fun _ => rfl⟩
    · intro frame member
      cases member
    · intro frame member
      cases member
  have sent := start_send frames relayInit
  rw [begin_eq]
  exact nothing.send sent

end Session

end TgWsProxy.Python.Wire
