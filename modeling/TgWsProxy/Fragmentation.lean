import TgWsProxy.Python.WebSocketWire
import TgWsProxy.Rust.RawWebSocket

/-!
# Fragmented messages

`recv` of both implementations dispatches on the opcode of a frame alone.  A
server may cut a message into a first frame and continuation frames, whose
opcode is zero, and neither `recv` returns those.
-/

namespace TgWsProxy

open Lib

namespace Python.Wire

theorem readFrame_shorter {native : Option NativeModule} {unread rest : Bytes}
    {frame : Nat × Bytes}
    (complete : (readFrame native).on unread = .done frame rest) :
    rest.length < unread.length :=
  Reading.on_rest_lt (by decide) complete

/-- What a call of `recv` comes to. -/
inductive Received where
  | message (payload : Bytes)
  | none
  | waiting
  | raised (error : PyError)

/-- `recv`, on the bytes which the stream delivers. -/
def recv (frames : FrameModule) (ws : RawWebSocket) (unread : Bytes) :
    Received × RawWebSocket × Bytes :=
  if ws.closed then (.none, ws, unread)
  else
    match _complete : (readFrame frames.native).on unread with
    | .waiting => (.waiting, ws, unread)
    | .failed error => (.raised error, ws, unread)
    | .done (opcode, payload) rest =>
        match ws.handleFrame frames opcode payload with
        | (.closed, ws) => (.none, ws, rest)
        | (.message payload, ws) => (.message payload, ws, rest)
        | (.pong, ws) => recv frames ws rest
        | (.ignored, ws) => recv frames ws rest
termination_by unread.length
decreasing_by all_goals exact readFrame_shorter _complete

section Recv

variable {frames : FrameModule} {ws next : RawWebSocket}
  {unread rest payload : Bytes} {opcode : Nat}

/-- The first turn of the loop. -/
theorem recv_eq (opened : ws.closed = false) :
    recv frames ws unread =
      match (readFrame frames.native).on unread with
      | .waiting => (.waiting, ws, unread)
      | .failed error => (.raised error, ws, unread)
      | .done (opcode, payload) rest =>
          match ws.handleFrame frames opcode payload with
          | (.closed, ws) => (.none, ws, rest)
          | (.message payload, ws) => (.message payload, ws, rest)
          | (.pong, ws) => recv frames ws rest
          | (.ignored, ws) => recv frames ws rest := by
  rw [recv, opened, if_neg Bool.false_ne_true]
  split <;> rename_i outcome
  all_goals rw [outcome]

theorem recv_shorter
    (received : recv frames ws unread = (.message payload, next, rest)) :
    rest.length < unread.length := by
  induction ws, unread using recv.induct frames with
  | case1 ws unread closed =>
      rw [recv, if_pos closed] at received
      cases received
  | case2 ws unread opened waiting =>
      rw [recv_eq (eq_false_of_ne_true opened), waiting] at received
      cases received
  | case3 ws unread opened error failed =>
      rw [recv_eq (eq_false_of_ne_true opened), failed] at received
      cases received
  | case4 ws unread opened opcode frame later complete closed handled =>
      rw [recv_eq (eq_false_of_ne_true opened), complete] at received
      simp only [handled] at received
      cases received
  | case5 ws unread opened opcode frame later complete message next handled =>
      rw [recv_eq (eq_false_of_ne_true opened), complete] at received
      simp only [handled] at received
      cases received
      exact readFrame_shorter complete
  | case6 ws unread opened opcode frame later complete next handled induction =>
      rw [recv_eq (eq_false_of_ne_true opened), complete] at received
      simp only [handled] at received
      exact Nat.lt_trans (induction received) (readFrame_shorter complete)
  | case7 ws unread opened opcode frame later complete next handled induction =>
      rw [recv_eq (eq_false_of_ne_true opened), complete] at received
      simp only [handled] at received
      exact Nat.lt_trans (induction received) (readFrame_shorter complete)

/-- The payloads which successive calls of `recv` return. -/
def recvAll (frames : FrameModule) (ws : RawWebSocket) (unread : Bytes) :
    List Bytes :=
  match _received : recv frames ws unread with
  | (.message payload, ws, rest) => payload :: recvAll frames ws rest
  | _ => []
termination_by unread.length
decreasing_by exact recv_shorter _received

theorem recvAll_eq :
    recvAll frames ws unread =
      match recv frames ws unread with
      | (.message payload, ws, rest) => payload :: recvAll frames ws rest
      | _ => [] := by
  rw [recvAll]
  split <;> rename_i outcome
  all_goals simp only [outcome]

theorem handleFrame_closed (ws : RawWebSocket) {opcode : Nat}
    (noClose : opcode ≠ opClose) (payload : Bytes) :
    (ws.handleFrame frames opcode payload).2.closed = ws.closed := by
  rw [RawWebSocket.handleFrame, if_neg noClose]
  split
  · unfold RawWebSocket.tryWrite
    split <;> rfl
  · split
    · rfl
    · split <;> rfl

/-- A frame which is neither a Close frame nor a message is passed over. -/
theorem recvAll_of_other (opened : ws.closed = false) {frame : WsFrame}
    (noClose : frame.opcode ≠ 8) (other : frame.opcode ≠ 1 ∧ frame.opcode ≠ 2)
    (later : Bytes) :
    ∃ next : RawWebSocket, next.closed = false ∧
      recvAll frames ws (frame.encode ++ later) = recvAll frames next later := by
  have noCloseVal : frame.opcode.val ≠ opClose := Fin.val_ne_of_ne noClose
  have otherVal : ¬ (frame.opcode.val = 0x1 ∨ frame.opcode.val = 0x2) := by
    rintro (text | binary)
    · exact other.1 (Fin.ext text)
    · exact other.2 (Fin.ext binary)
  have closed := @handleFrame_closed frames ws frame.opcode noCloseVal
    frame.payload
  refine ⟨(ws.handleFrame frames frame.opcode frame.payload).2,
    closed.trans opened, ?_⟩
  have skipped : recv frames ws (frame.encode ++ later) =
      recv frames (ws.handleFrame frames frame.opcode frame.payload).2 later := by
    rw [recv_eq opened, readFrame_encode]
    simp only [RawWebSocket.handleFrame, if_neg noCloseVal, if_neg otherVal]
    by_cases ping : frame.opcode.val = opPing
    · simp only [if_pos ping]
    · by_cases pong : frame.opcode.val = opPong
      · simp only [if_neg ping, if_pos pong]
      · simp only [if_neg ping, if_neg pong]
  rw [recvAll_eq, skipped, ← recvAll_eq]

theorem recvAll_of_message (opened : ws.closed = false) {frame : WsFrame}
    (message : frame.opcode = 1 ∨ frame.opcode = 2) (later : Bytes) :
    recvAll frames ws (frame.encode ++ later) =
      frame.payload :: recvAll frames ws later := by
  have messageVal : frame.opcode.val = 0x1 ∨ frame.opcode.val = 0x2 :=
    message.imp (congrArg Fin.val) (congrArg Fin.val)
  have returned : ws.handleFrame frames frame.opcode frame.payload =
      (.message frame.payload, ws) := by
    rcases messageVal with text | binary
    · rw [text]
      rfl
    · rw [binary]
      rfl
  rw [recvAll_eq, recv_eq opened, readFrame_encode]
  simp only [returned]

theorem recvAll_encodeAll {received : List WsFrame}
    (noClose : ∀ frame ∈ received, frame.opcode ≠ 8) (opened : ws.closed = false) :
    recvAll frames ws (WsFrame.encodeAll received) =
      (received.filter fun frame => frame.IsMessage).map (·.payload) := by
  induction received generalizing ws with
  | nil =>
      have waits : (readFrame frames.native).on [] = .waiting := rfl
      have nothing : WsFrame.encodeAll [] = [] := rfl
      rw [nothing, recvAll_eq, recv_eq opened, waits]
      rfl
  | cons frame received induction =>
      have later {ws : RawWebSocket} (opened : ws.closed = false) :=
        @induction ws (fun frame member =>
          noClose frame (List.mem_cons_of_mem _ member)) opened
      rw [WsFrame.encodeAll_cons, List.filter_cons]
      by_cases message : frame.IsMessage
      · rw [recvAll_of_message opened message, later opened,
          if_pos (decide_eq_true message), List.map_cons]
      · obtain ⟨next, stillOpen, same⟩ := @recvAll_of_other frames ws opened frame
          (noClose frame List.mem_cons_self) (not_or.mp message)
          (WsFrame.encodeAll received)
        rw [same, later stillOpen,
          if_neg (ne_true_of_eq_false (decide_eq_false message))]

end Recv

end Python.Wire

namespace Rust.RawWebSocket

theorem readFrame_shorter {unread rest : Bytes} {frame : UInt8 × Bytes}
    (complete : readFrame.on unread = .done frame rest) :
    rest.length < unread.length :=
  Reading.on_rest_lt (by decide) complete

/-- How many bytes the frames to come still have. -/
def held (ws : RawWebSocket) : Nat := (ws.taken ++ ws.unread).length

/-- `recv`, polled until it returns or waits for more bytes. -/
def recv (ws : RawWebSocket) : Received × RawWebSocket :=
  match ws.pollRecv with
  | (.pending, next) =>
      if _shorter : next.held < ws.held then recv next else (.pending, next)
  | returned => returned
termination_by ws.held

section Recv

variable {ws next : RawWebSocket} {payload : Bytes}

theorem pollRecv_shorter (polled : ws.pollRecv = (.message payload, next)) :
    next.held < ws.held := by
  unfold pollRecv at polled
  cases outcome : readFrame.on (ws.taken ++ ws.unread) with
  | waiting =>
      rw [outcome] at polled
      cases polled
  | failed panic =>
      rw [outcome] at polled
      cases polled
  | done frame rest =>
      rw [outcome] at polled
      simp only at polled
      split at polled
      · cases polled
      · split at polled
        · cases polled
        · split at polled
          · cases polled
            exact readFrame_shorter outcome
          · cases polled

theorem recv_shorter (received : ws.recv = (.message payload, next)) :
    next.held < ws.held := by
  induction ws using recv.induct with
  | case1 ws waiting polled shorter induction =>
      rw [recv, polled] at received
      simp only [dif_pos shorter] at received
      exact Nat.lt_trans (induction received) shorter
  | case2 ws waiting polled notShorter =>
      rw [recv, polled] at received
      simp only [dif_neg notShorter] at received
      cases received
  | case3 ws other =>
      have returned : ws.recv = ws.pollRecv := by
        rw [recv]
        split
        · rename_i polled
          exact absurd polled (other _)
        · rfl
      exact pollRecv_shorter (returned.symm.trans received)

/-- The payloads which successive calls of `recv` return. -/
def recvAll (ws : RawWebSocket) : List Bytes :=
  match _received : ws.recv with
  | (.message payload, next) => payload :: recvAll next
  | _ => []
termination_by ws.held
decreasing_by exact recv_shorter _received

theorem recvAll_eq (ws : RawWebSocket) :
    ws.recvAll =
      match ws.recv with
      | (.message payload, next) => payload :: next.recvAll
      | _ => [] := by
  rw [recvAll]
  split <;> rename_i outcome
  all_goals simp only [outcome]

/-- A complete frame at the front of what `recv` has at hand. -/
theorem pollRecv_encode {frame : WsFrame} {later : Bytes}
    (noClose : frame.opcode ≠ 8) (start : ws.taken = [])
    (front : ws.unread = frame.encode ++ later) :
    ∃ next : RawWebSocket, next.taken = [] ∧ next.unread = later ∧
      next.held < ws.held ∧
      ws.pollRecv =
        (if frame.IsMessage then .message frame.payload else .pending,
          next) := by
  have complete : readFrame.on (ws.taken ++ ws.unread) =
      .done (UInt8.ofNat frame.opcode, frame.payload) later := by
    rw [start, front, List.nil_append, readFrame_encode]
  have shorter := readFrame_shorter complete
  have isOpcode (value : Fin 16) :
      UInt8.ofNat frame.opcode = UInt8.ofNat value ↔ frame.opcode = value := by
    generalize frame.opcode = opcode
    revert opcode value
    decide
  have noCloseByte : ¬ UInt8.ofNat frame.opcode = 0x8 :=
    fun isClose => noClose ((isOpcode 8).mp isClose)
  by_cases ping : frame.opcode = 9
  · have pingByte : UInt8.ofNat frame.opcode = 0x9 := (isOpcode 9).mpr ping
    have noMessage : ¬ frame.IsMessage := by
      rw [WsFrame.IsMessage, ping]
      decide
    rw [pollRecv, complete, if_neg noMessage]
    simp only [if_neg noCloseByte, if_pos pingByte]
    exact ⟨{ ws with
      taken := []
      unread := later
      frames := ws.frames ++ [(0xA, frame.payload)] }, rfl, rfl, shorter, rfl⟩
  · have noPingByte : ¬ UInt8.ofNat frame.opcode = 0x9 :=
      fun isPing => ping ((isOpcode 9).mp isPing)
    have messageByte : UInt8.ofNat frame.opcode = 0x1 ∨
        UInt8.ofNat frame.opcode = 0x2 ↔ frame.IsMessage :=
      or_congr (isOpcode 1) (isOpcode 2)
    rw [pollRecv, complete]
    simp only [if_neg noCloseByte, if_neg noPingByte, messageByte]
    refine ⟨{ ws with taken := [], unread := later }, rfl, rfl, shorter, ?_⟩
    split <;> rfl

theorem recvAll_encodeAll {received : List WsFrame}
    (noClose : ∀ frame ∈ received, frame.opcode ≠ 8) (start : ws.taken = [])
    (whole : ws.unread = WsFrame.encodeAll received) :
    ws.recvAll =
      (received.filter fun frame => frame.IsMessage).map (·.payload) := by
  induction received generalizing ws with
  | nil =>
      have nothing : ws.taken ++ ws.unread = [] := by
        rw [start, whole]
        rfl
      have waits : readFrame.on (ws.taken ++ ws.unread) = .waiting := by
        rw [nothing]
        rfl
      have same : ¬ ({ ws with taken := ws.taken ++ ws.unread, unread := [] } :
          RawWebSocket).held < ws.held := by
        simp [held]
      rw [recvAll_eq, recv, pollRecv_of_waiting waits]
      simp only [dif_neg same]
      rfl
  | cons frame received induction =>
      have noCloseFrame := noClose frame List.mem_cons_self
      rw [WsFrame.encodeAll_cons] at whole
      obtain ⟨next, nextStart, nextWhole, shorter, polled⟩ :=
        pollRecv_encode noCloseFrame start whole
      have later := @induction next (fun frame member =>
        noClose frame (List.mem_cons_of_mem _ member)) nextStart nextWhole
      rw [List.filter_cons]
      by_cases message : frame.IsMessage
      · rw [if_pos message] at polled
        rw [recvAll_eq, recv, polled, if_pos (decide_eq_true message),
          List.map_cons, ← later]
      · rw [if_neg message] at polled
        have skipped : ws.recv = next.recv := by
          rw [recv, polled]
          exact dif_pos shorter
        rw [recvAll_eq, skipped, ← recvAll_eq, later,
          if_neg (ne_true_of_eq_false (decide_eq_false message))]

end Recv

end Rust.RawWebSocket

/-- The payloads of text and binary frames. -/
def messages (frames : List WsFrame) : Bytes :=
  ((frames.filter fun frame => frame.IsMessage).map (·.payload)).flatten

/-- The payloads of all data frames, those of continuation frames included. -/
def dataPayloads (frames : List WsFrame) : Bytes :=
  ((frames.filter fun frame => frame.IsData).map (·.payload)).flatten

section Payloads

variable {frame : WsFrame} {frames : List WsFrame}

theorem messages_of_message (message : frame.opcode = 1 ∨ frame.opcode = 2) :
    messages (frame :: frames) = frame.payload ++ messages frames ∧
      dataPayloads (frame :: frames) = frame.payload ++ dataPayloads frames := by
  simp [messages, dataPayloads, WsFrame.IsMessage, WsFrame.IsData, message]

theorem messages_of_continuation (continues : frame.opcode = 0) :
    messages (frame :: frames) = messages frames ∧
      dataPayloads (frame :: frames) = frame.payload ++ dataPayloads frames := by
  simp [messages, dataPayloads, WsFrame.IsMessage, WsFrame.IsData, continues]

theorem messages_of_control (noMessage : ¬ (frame.opcode = 1 ∨ frame.opcode = 2))
    (noContinuation : frame.opcode ≠ 0) :
    messages (frame :: frames) = messages frames ∧
      dataPayloads (frame :: frames) = dataPayloads frames := by
  simp [messages, dataPayloads, WsFrame.IsMessage, WsFrame.IsData, noMessage,
    noContinuation]

theorem length_messages_le (frames : List WsFrame) :
    (messages frames).length ≤ (dataPayloads frames).length := by
  induction frames with
  | nil => exact Nat.le_refl _
  | cons frame frames induction =>
      by_cases message : frame.opcode = 1 ∨ frame.opcode = 2
      · rw [(messages_of_message message).1, (messages_of_message message).2,
          List.length_append, List.length_append]
        exact Nat.add_le_add_left induction _
      · by_cases continues : frame.opcode = 0
        · rw [(messages_of_continuation continues).1,
            (messages_of_continuation continues).2, List.length_append]
          exact Nat.le_trans induction (Nat.le_add_left _ _)
        · rw [(messages_of_control message continues).1,
            (messages_of_control message continues).2]
          exact induction

/-- The messages are all of the data only if every continuation is empty. -/
theorem messages_eq_iff (frames : List WsFrame) :
    messages frames = dataPayloads frames ↔
      ∀ frame ∈ frames, frame.opcode = 0 → frame.payload = [] := by
  induction frames with
  | nil => simp [messages, dataPayloads]
  | cons frame frames induction =>
      rw [List.forall_mem_cons, ← induction]
      by_cases message : frame.opcode = 1 ∨ frame.opcode = 2
      · have noContinuation : frame.opcode ≠ 0 := by
          rintro continues
          rw [continues] at message
          revert message
          decide
        rw [(messages_of_message message).1, (messages_of_message message).2,
          List.append_cancel_left_eq]
        simp [noContinuation]
      · by_cases continues : frame.opcode = 0
        · rw [(messages_of_continuation continues).1,
            (messages_of_continuation continues).2]
          constructor
          · intro same
            have sizes := congrArg List.length same
            rw [List.length_append] at sizes
            have bound := length_messages_le frames
            have empty : frame.payload = [] := by
              apply List.eq_nil_of_length_eq_zero
              omega
            rw [empty, List.nil_append] at same
            exact ⟨fun _ => empty, same⟩
          · rintro ⟨empty, same⟩
            rw [empty continues, List.nil_append, same]
        · rw [(messages_of_control message continues).1,
            (messages_of_control message continues).2]
          simp [continues]

end Payloads

/-- The frames which a server may send besides Close frames, while a message is
`unfinished` or not. -/
inductive ServerFrames : Bool → List WsFrame → Prop where
  | none {unfinished : Bool} : ServerFrames unfinished []
  | control {unfinished : Bool} {frame : WsFrame} {later : List WsFrame}
      (control : frame.opcode = 9 ∨ frame.opcode = 10)
      (whole : frame.fin = true) (small : frame.payload.length ≤ 125)
      (unmasked : frame.maskKey = .none)
      (minimal : frame.form = .shortestFor frame.payload.length)
      (rest : ServerFrames unfinished later) :
      ServerFrames unfinished (frame :: later)
  | first {frame : WsFrame} {later : List WsFrame}
      (message : frame.opcode = 1 ∨ frame.opcode = 2)
      (unmasked : frame.maskKey = .none)
      (minimal : frame.form = .shortestFor frame.payload.length)
      (rest : ServerFrames (!frame.fin) later) :
      ServerFrames false (frame :: later)
  | continuation {frame : WsFrame} {later : List WsFrame}
      (continues : frame.opcode = 0)
      (unmasked : frame.maskKey = .none)
      (minimal : frame.form = .shortestFor frame.payload.length)
      (rest : ServerFrames (!frame.fin) later) :
      ServerFrames true (frame :: later)

/-- What a server sends after the handshake, cut behind any frame. -/
structure ServerStream where
  frames : List WsFrame
  permitted : ServerFrames false frames

namespace ServerStream

/-- The concatenation of what `recv` of the Python implementation returns. -/
def receivedPython (stream : ServerStream) (frames : Python.Wire.FrameModule) :
    Bytes :=
  (Python.Wire.recvAll frames ⟨false, []⟩
    (WsFrame.encodeAll stream.frames)).flatten

/-- The concatenation of what `recv` of the Rust implementation returns. -/
def receivedRust (stream : ServerStream) : Bytes :=
  (Rust.RawWebSocket.recvAll
    ⟨false, [], WsFrame.encodeAll stream.frames, []⟩).flatten

end ServerStream

theorem ServerFrames.noClose {unfinished : Bool} {frames : List WsFrame}
    (permitted : ServerFrames unfinished frames) :
    ∀ frame ∈ frames, frame.opcode ≠ 8 := by
  induction permitted with
  | none =>
      intro frame member
      cases member
  | control control whole small unmasked minimal rest induction =>
      refine List.forall_mem_cons.mpr ⟨?_, induction⟩
      rcases control with ping | pong
      · rw [ping]
        decide
      · rw [pong]
        decide
  | first message unmasked minimal rest induction =>
      refine List.forall_mem_cons.mpr ⟨?_, induction⟩
      rcases message with text | binary
      · rw [text]
        decide
      · rw [binary]
        decide
  | continuation continues unmasked minimal rest induction =>
      refine List.forall_mem_cons.mpr ⟨?_, induction⟩
      rw [continues]
      decide

namespace ServerStream

theorem receivedPython_eq (stream : ServerStream)
    (frames : Python.Wire.FrameModule) :
    stream.receivedPython frames = messages stream.frames := by
  rw [receivedPython, Python.Wire.recvAll_encodeAll stream.permitted.noClose rfl]
  rfl

theorem receivedRust_eq (stream : ServerStream) :
    stream.receivedRust = messages stream.frames := by
  rw [receivedRust, Rust.RawWebSocket.recvAll_encodeAll stream.permitted.noClose
    rfl rfl]
  rfl

end ServerStream

/-- Both implementations return all the data exactly of those streams whose
continuation frames are empty. -/
theorem fragments_received_iff (stream : ServerStream) :
    (∀ frames : Python.Wire.FrameModule,
      stream.receivedPython frames = dataPayloads stream.frames ↔
        ∀ frame ∈ stream.frames, frame.opcode = 0 → frame.payload = []) ∧
    (stream.receivedRust = dataPayloads stream.frames ↔
      ∀ frame ∈ stream.frames, frame.opcode = 0 → frame.payload = []) := by
  constructor
  · intro frames
    rw [stream.receivedPython_eq]
    exact messages_eq_iff stream.frames
  · rw [stream.receivedRust_eq]
    exact messages_eq_iff stream.frames

/-- A binary message of two bytes, cut into two frames. -/
def cutMessage : ServerStream where
  frames :=
    [{ fin := false, opcode := WsFrame.opBinary, maskKey := none,
       form := .short, payload := [0x61], keySize := WsFrame.unmasked_keySize,
       fits := by decide },
     { fin := true, opcode := WsFrame.opContinuation, maskKey := none,
       form := .short, payload := [0x62], keySize := WsFrame.unmasked_keySize,
       fits := by decide }]
  permitted := by
    apply ServerFrames.first (Or.inr rfl) rfl rfl
    apply ServerFrames.continuation rfl rfl rfl
    exact ServerFrames.none

/-- Neither implementation returns the second byte. -/
theorem cutMessage_loses_byte :
    cutMessage.receivedRust ≠ dataPayloads cutMessage.frames ∧
      ∀ frames : Python.Wire.FrameModule,
        cutMessage.receivedPython frames ≠ dataPayloads cutMessage.frames := by
  have lost : messages cutMessage.frames ≠ dataPayloads cutMessage.frames := by
    decide
  constructor
  · rwa [cutMessage.receivedRust_eq]
  · intro frames
    rwa [cutMessage.receivedPython_eq]

end TgWsProxy
