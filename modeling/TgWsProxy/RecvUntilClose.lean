import TgWsProxy.Fragmentation

/-!
# recv until the server closes

Successive calls of `recv` turn the frames of a server into the payloads which
they return and the frames which they write back, up to the first Close frame.
-/

namespace TgWsProxy

open Lib

namespace WsFrame

theorem pong_lt : 10 < 16 := by decide

theorem close_lt : 8 < 16 := by decide

def opPong : Fin 16 := ⟨10, pong_lt⟩
def opClose : Fin 16 := ⟨8, close_lt⟩

def IsPing (frame : WsFrame) : Prop := frame.opcode.val = 9

instance decidableIsPing (frame : WsFrame) : Decidable frame.IsPing :=
  inferInstanceAs (Decidable (_ = _))

/-- The payloads of the messages, one for each. -/
def messagePayloads (frames : List WsFrame) : List Bytes :=
  (frames.filter fun frame => frame.IsMessage).map (·.payload)

/-- A pong for each ping. -/
def pongs (frames : List WsFrame) : List (Fin 16 × Bytes) :=
  (frames.filter fun frame => frame.IsPing).map fun frame =>
    (opPong, frame.payload)

/-- What is written back: the pongs, and the answer to the Close frame. -/
def replies (before : List WsFrame) (close : WsFrame) : List (Fin 16 × Bytes) :=
  pongs before ++ [(opClose, close.payload.take 2)]

end WsFrame

/-- Complete frames which are not parts of messages, a Close frame among
them. -/
structure ClosingStream where
  frames : List WsFrame
  unfragmented : ∀ frame ∈ frames, frame.fin = true ∧ frame.opcode ≠ 0
  closes : ∃ frame ∈ frames, frame.IsClose

/-- Bytes which are frames with these contents, each whole and masked. -/
def WritesBack (wire : Bytes) (replies : List (Fin 16 × Bytes)) : Prop :=
  ∃ written : List WsFrame, wire = WsFrame.encodeAll written ∧
    written.map (fun frame => (frame.opcode, frame.payload)) = replies ∧
    ∀ frame ∈ written, frame.fin = true ∧ frame.maskKey.isSome = true

section Spec

variable {frame : WsFrame} {frames : List WsFrame} {wire : Bytes}

/-- A frame before the Close frame is a message, a ping or passed over. -/
inductive Harmless (frame : WsFrame) : Prop where
  | message (isMessage : frame.IsMessage) (noPing : ¬ frame.IsPing)
  | ping (isPing : frame.IsPing) (noMessage : ¬ frame.IsMessage)
  | other (noPing : ¬ frame.IsPing) (noMessage : ¬ frame.IsMessage)

theorem harmless (frame : WsFrame) : Harmless frame := by
  by_cases isPing : frame.IsPing
  · apply Harmless.ping isPing
    have opcode : frame.opcode = 9 := Fin.ext isPing
    rw [WsFrame.IsMessage, opcode]
    decide
  · by_cases isMessage : frame.IsMessage
    · exact Harmless.message isMessage isPing
    · exact Harmless.other isPing isMessage

theorem messagePayloads_cons (frame : WsFrame) (frames : List WsFrame) :
    WsFrame.messagePayloads (frame :: frames) =
      if frame.IsMessage then frame.payload :: WsFrame.messagePayloads frames
      else WsFrame.messagePayloads frames := by
  by_cases isMessage : frame.IsMessage <;>
    simp [WsFrame.messagePayloads, isMessage]

theorem replies_cons (frame : WsFrame) (frames : List WsFrame)
    (close : WsFrame) :
    WsFrame.replies (frame :: frames) close =
      if frame.IsPing then
        (WsFrame.opPong, frame.payload) :: WsFrame.replies frames close
      else WsFrame.replies frames close := by
  by_cases isPing : frame.IsPing <;>
    simp [WsFrame.replies, WsFrame.pongs, isPing]

theorem writesBack_one (whole : frame.fin = true)
    (masked : frame.maskKey.isSome = true) :
    WritesBack frame.encode [(frame.opcode, frame.payload)] := by
  refine ⟨[frame], ?_, rfl, ?_⟩
  · rw [WsFrame.encodeAll_cons]
    exact (List.append_nil _).symm
  · intro other member
    rw [List.mem_singleton.mp member]
    exact ⟨whole, masked⟩

theorem WritesBack.append {front back : Bytes}
    {before after : List (Fin 16 × Bytes)} (first : WritesBack front before)
    (last : WritesBack back after) :
    WritesBack (front ++ back) (before ++ after) := by
  obtain ⟨written, isFront, contents, masked⟩ := first
  obtain ⟨later, isBack, laterContents, laterMasked⟩ := last
  refine ⟨written ++ later, ?_, ?_, ?_⟩
  · rw [WsFrame.encodeAll_append, isFront, isBack]
  · rw [List.map_append, contents, laterContents]
  · intro frame member
    rcases List.mem_append.mp member with inFront | inBack
    · exact masked frame inFront
    · exact laterMasked frame inBack

/-- The frames in front of the first Close frame, and those behind it. -/
theorem ClosingStream.split (stream : ClosingStream) :
    ∃ before close after, stream.frames = before ++ close :: after ∧
      (∀ frame ∈ before, ¬ frame.IsClose) ∧ close.IsClose := by
  have closes := stream.closes
  generalize stream.frames = frames at closes
  induction frames with
  | nil =>
      obtain ⟨frame, member, isClose⟩ := closes
      cases member
  | cons frame frames induction =>
      by_cases isClose : frame.IsClose
      · exact ⟨[], frame, frames, rfl, List.forall_mem_nil _, isClose⟩
      · have later : ∃ frame ∈ frames, frame.IsClose := by
          obtain ⟨other, member, otherCloses⟩ := closes
          rcases List.mem_cons.mp member with same | inside
          · rw [same] at otherCloses
            exact absurd otherCloses isClose
          · exact ⟨other, inside, otherCloses⟩
        obtain ⟨before, close, after, whole, noClose, closing⟩ :=
          induction later
        refine ⟨frame :: before, close, after, ?_, ?_, closing⟩
        · rw [whole, List.cons_append]
        · exact List.forall_mem_cons.mpr ⟨isClose, noClose⟩

/-- Without fragments, the messages are all the data. -/
theorem ClosingStream.messages_eq (stream : ClosingStream)
    {before rest : List WsFrame} (whole : stream.frames = before ++ rest) :
    (WsFrame.messagePayloads before).flatten = dataPayloads before := by
  apply (messages_eq_iff before).mpr
  intro frame member continuation
  have among : frame ∈ stream.frames := by
    rw [whole]
    exact List.mem_append_left _ member
  exact absurd continuation (stream.unfragmented frame among).2

end Spec

namespace Python.Wire

/-- What successive calls of `recv` return until one returns no message, what
that one comes to, and what it leaves. -/
def recvUntilNone (frames : FrameModule) (ws : RawWebSocket) (unread : Bytes) :
    List Bytes × Received × RawWebSocket × Bytes :=
  match _received : recv frames ws unread with
  | (.message payload, ws, rest) =>
      let later := recvUntilNone frames ws rest
      (payload :: later.1, later.2)
  | ended => ([], ended)
termination_by unread.length
decreasing_by exact recv_shorter _received

section RecvUntilNone

variable {frames : FrameModule} {ws next : RawWebSocket}
  {unread rest payload : Bytes} {frame : WsFrame}

theorem recvUntilNone_eq :
    recvUntilNone frames ws unread =
      match recv frames ws unread with
      | (.message payload, ws, rest) =>
          let later := recvUntilNone frames ws rest
          (payload :: later.1, later.2)
      | ended => ([], ended) := by
  rw [recvUntilNone]
  split <;> rename_i outcome
  all_goals simp only [outcome]

theorem recvUntilNone_of_message
    (received : recv frames ws unread = (.message payload, next, rest)) :
    recvUntilNone frames ws unread =
      (payload :: (recvUntilNone frames next rest).1,
        (recvUntilNone frames next rest).2) := by
  rw [recvUntilNone_eq, received]

/-- Calls which come to the same. -/
theorem recvUntilNone_congr
    (same : recv frames ws unread = recv frames next rest) :
    recvUntilNone frames ws unread = recvUntilNone frames next rest := by
  rw [recvUntilNone_eq, same, ← recvUntilNone_eq]

theorem recvUntilNone_of_close
    (received : recv frames ws unread = (.none, next, rest)) :
    recvUntilNone frames ws unread = ([], .none, next, rest) := by
  rw [recvUntilNone_eq, received]

/-- The payload of a frame, as a `bytes` object. -/
def payloadOf (frame : WsFrame) : PyBytes :=
  ⟨frame.payload, LengthForm.lt_of_fits frame.fits⟩

def closePayload (frame : WsFrame) : PyBytes :=
  ⟨frame.payload.take 2, Nat.lt_of_le_of_lt (List.length_take_le' _ _)
    (LengthForm.lt_of_fits frame.fits)⟩

/-- A frame before the Close frame: the payload which is returned, and the pong
which is written. -/
theorem recvUntilNone_harmless (wire : Bytes) (noClose : ¬ frame.IsClose)
    (later : Bytes) :
    recvUntilNone frames ⟨false, wire⟩ (frame.encode ++ later) =
      let rest := recvUntilNone frames
        ⟨false, if frame.IsPing then
          wire ++ (frames.masked WsFrame.opPong (payloadOf frame)).encode
          else wire⟩ later
      (if frame.IsMessage then frame.payload :: rest.1 else rest.1, rest.2) := by
  have noCloseVal : frame.opcode.val ≠ opClose := Fin.val_ne_of_ne noClose
  have pingVal : frame.opcode.val = opPing ↔ frame.IsPing := Iff.rfl
  have messageVal : (frame.opcode.val = 0x1 ∨ frame.opcode.val = 0x2) ↔
      frame.IsMessage :=
    or_congr ⟨fun same => Fin.ext same, congrArg Fin.val⟩
      ⟨fun same => Fin.ext same, congrArg Fin.val⟩
  have first := @recv_eq frames ⟨false, wire⟩ (frame.encode ++ later) rfl
  rw [readFrame_encode] at first
  simp only [RawWebSocket.handleFrame, if_neg noCloseVal, pingVal,
    messageVal] at first
  cases harmless frame with
  | message isMessage noPing =>
      have noPong : frame.opcode.val ≠ opPong := by
        intro pong
        rcases messageVal.mpr isMessage with text | binary
        · rw [text] at pong
          cases pong
        · rw [binary] at pong
          cases pong
      simp only [if_neg noPing, if_neg noPong, if_pos isMessage] at first ⊢
      exact recvUntilNone_of_message first
  | ping isPing noMessage =>
      have built : frames.buildMasked opPong frame.payload =
          .ok (frames.masked WsFrame.opPong (payloadOf frame)).encode :=
        buildMasked_eq frames WsFrame.opPong (payloadOf frame)
      simp only [if_pos isPing, if_neg noMessage, RawWebSocket.tryWrite, built,
        RawWebSocket.write] at first ⊢
      exact recvUntilNone_congr first
  | other noPing noMessage =>
      simp only [if_neg noPing, if_neg noMessage, ite_self] at first ⊢
      exact recvUntilNone_congr first

/-- The Close frame. -/
theorem recvUntilNone_close (wire : Bytes) (isClose : frame.IsClose)
    (later : Bytes) :
    recvUntilNone frames ⟨false, wire⟩ (frame.encode ++ later) =
      ([], .none, ⟨true, wire ++
        (frames.masked WsFrame.opClose (closePayload frame)).encode⟩, later) := by
  have closeVal : frame.opcode.val = opClose := congrArg Fin.val isClose
  have built : frames.buildMasked opClose (frame.payload.take 2) =
      .ok (frames.masked WsFrame.opClose (closePayload frame)).encode :=
    buildMasked_eq frames WsFrame.opClose (closePayload frame)
  have first := @recv_eq frames ⟨false, wire⟩ (frame.encode ++ later) rfl
  rw [readFrame_encode] at first
  simp only [RawWebSocket.handleFrame, if_pos closeVal, RawWebSocket.tryWrite,
    built, RawWebSocket.write] at first
  exact recvUntilNone_of_close first

/-- The frames up to the first Close frame, one after the other. -/
theorem recvUntilNone_encodeAll {before after : List WsFrame} {close : WsFrame}
    (noClose : ∀ frame ∈ before, ¬ frame.IsClose) (isClose : close.IsClose)
    (wire : Bytes) :
    ∃ back, WritesBack back (WsFrame.replies before close) ∧
      recvUntilNone frames ⟨false, wire⟩
          (WsFrame.encodeAll (before ++ close :: after)) =
        (WsFrame.messagePayloads before, .none, ⟨true, wire ++ back⟩,
          WsFrame.encodeAll after) := by
  induction before generalizing wire with
  | nil =>
      refine ⟨(frames.masked WsFrame.opClose (closePayload close)).encode,
        writesBack_one rfl rfl, ?_⟩
      rw [List.nil_append, WsFrame.encodeAll_cons]
      exact recvUntilNone_close wire isClose _
  | cons frame before induction =>
      obtain ⟨harmlessFrame, harmlessLater⟩ := List.forall_mem_cons.mp noClose
      have first := @recvUntilNone_harmless frames frame wire harmlessFrame
        (WsFrame.encodeAll (before ++ close :: after))
      rw [List.cons_append, WsFrame.encodeAll_cons, first, messagePayloads_cons,
        replies_cons]
      by_cases isPing : frame.IsPing
      · obtain ⟨back, writes, later⟩ := induction harmlessLater
          (wire ++ (frames.masked WsFrame.opPong (payloadOf frame)).encode)
        simp only [if_pos isPing, later]
        exact ⟨_, (writesBack_one rfl rfl).append writes,
          by rw [List.append_assoc]⟩
      · obtain ⟨back, writes, later⟩ := induction harmlessLater wire
        simp only [if_neg isPing, later]
        exact ⟨back, writes, rfl⟩

end RecvUntilNone

end Python.Wire

namespace Rust

/-- The bytes of written frames, under the keys drawn from the first on. -/
def wireOf (keys : Nat → MaskKey) : List (UInt8 × Bytes) → Bytes
  | [] => []
  | (opcode, payload) :: frames =>
      buildFrame opcode payload true (keys 0) ++
        wireOf (fun index => keys (index + 1)) frames

namespace RawWebSocket

/-- What successive calls of `recv` return until one returns no message, what
that one comes to, and what it leaves. -/
def recvUntilNone (ws : RawWebSocket) : List Bytes × Received × RawWebSocket :=
  match _received : ws.recv with
  | (.message payload, next) =>
      let later := recvUntilNone next
      (payload :: later.1, later.2)
  | ended => ([], ended)
termination_by ws.held
decreasing_by exact recv_shorter _received

section RecvUntilNone

variable {ws next : RawWebSocket} {frame : WsFrame} {payload : Bytes}

theorem recvUntilNone_eq (ws : RawWebSocket) :
    ws.recvUntilNone =
      match ws.recv with
      | (.message payload, next) =>
          let later := next.recvUntilNone
          (payload :: later.1, later.2)
      | ended => ([], ended) := by
  rw [recvUntilNone]
  split <;> rename_i outcome
  all_goals simp only [outcome]

theorem opcodeByte_eq_iff (opcode value : Fin 16) :
    UInt8.ofNat opcode = UInt8.ofNat value ↔ opcode = value := by
  revert opcode value
  decide

/-- The loop of `recv` on a complete frame. -/
theorem pollRecv_of_frame (closed : Bool) (written : List (UInt8 × Bytes))
    (frame : WsFrame) (later : Bytes) :
    pollRecv ⟨closed, written, frame.encode ++ later, []⟩ =
      if frame.IsClose then
        (.close, ⟨true, written ++ [(0x8, frame.payload.take 2)], later, []⟩)
      else if frame.IsPing then
        (.pending, ⟨closed, written ++ [(0xA, frame.payload)], later, []⟩)
      else if frame.IsMessage then
        (.message frame.payload, ⟨closed, written, later, []⟩)
      else (.pending, ⟨closed, written, later, []⟩) := by
  have closeByte : UInt8.ofNat frame.opcode = 0x8 ↔ frame.IsClose :=
    opcodeByte_eq_iff frame.opcode 8
  have pingByte : UInt8.ofNat frame.opcode = 0x9 ↔ frame.IsPing :=
    (opcodeByte_eq_iff frame.opcode 9).trans Fin.ext_iff
  have messageByte : (UInt8.ofNat frame.opcode = 0x1 ∨
      UInt8.ofNat frame.opcode = 0x2) ↔ frame.IsMessage :=
    or_congr (opcodeByte_eq_iff frame.opcode 1)
      (opcodeByte_eq_iff frame.opcode 2)
  simp only [pollRecv, List.nil_append, readFrame_encode, closeByte, pingByte,
    messageByte]

theorem recv_of_returned {received : Received}
    (polled : ws.pollRecv = (received, next)) (returns : received ≠ .pending) :
    ws.recv = (received, next) := by
  rw [recv, polled]
  split
  · rename_i same
    cases same
    exact absurd rfl returns
  · rfl

/-- A frame which `recv` does not return takes it to its next turn. -/
theorem recv_of_frame {closed : Bool} {written answered : List (UInt8 × Bytes)}
    {later : Bytes}
    (polled : pollRecv ⟨closed, written, frame.encode ++ later, []⟩ =
      (.pending, ⟨closed, answered, later, []⟩)) :
    recv ⟨closed, written, frame.encode ++ later, []⟩ =
      recv ⟨closed, answered, later, []⟩ := by
  have shorter : held ⟨closed, answered, later, []⟩ <
      held ⟨closed, written, frame.encode ++ later, []⟩ :=
    readFrame_shorter (readFrame_encode frame later)
  rw [recv, polled]
  exact dif_pos shorter

/-- A frame before the Close frame: the payload which is returned, and the pong
which is written. -/
theorem recvUntilNone_harmless (written : List (UInt8 × Bytes))
    (noClose : ¬ frame.IsClose) (later : Bytes) :
    recvUntilNone ⟨false, written, frame.encode ++ later, []⟩ =
      let rest := recvUntilNone
        ⟨false, if frame.IsPing then written ++ [(0xA, frame.payload)]
          else written, later, []⟩
      (if frame.IsMessage then frame.payload :: rest.1 else rest.1, rest.2) := by
  have polled := pollRecv_of_frame false written frame later
  rw [if_neg noClose] at polled
  rw [recvUntilNone_eq]
  cases harmless frame with
  | message isMessage noPing =>
      rw [if_neg noPing, if_pos isMessage] at polled
      have returned := recv_of_returned polled (by intro same; cases same)
      simp only [returned, if_neg noPing, if_pos isMessage]
  | ping isPing noMessage =>
      rw [if_pos isPing] at polled
      simp only [recv_of_frame polled, if_pos isPing, if_neg noMessage]
      exact (recvUntilNone_eq _).symm
  | other noPing noMessage =>
      rw [if_neg noPing, if_neg noMessage] at polled
      simp only [recv_of_frame polled, if_neg noPing, if_neg noMessage]
      exact (recvUntilNone_eq _).symm

theorem recvUntilNone_close (written : List (UInt8 × Bytes))
    (isClose : frame.IsClose) (later : Bytes) :
    recvUntilNone ⟨false, written, frame.encode ++ later, []⟩ =
      ([], .close,
        ⟨true, written ++ [(0x8, frame.payload.take 2)], later, []⟩) := by
  have polled := pollRecv_of_frame false written frame later
  rw [if_pos isClose] at polled
  have returned := recv_of_returned polled (by intro same; cases same)
  rw [recvUntilNone_eq, returned]

end RecvUntilNone

section Written

variable {payload : Bytes}

/-- A frame which `build_frame` masks with a key. -/
theorem writesBack_buildFrame (opcode : Fin 16) (short : payload.length < 2 ^ 63)
    (key : MaskKey) :
    WritesBack (buildFrame (UInt8.ofNat opcode) payload true key)
      [(opcode, payload)] := by
  have keySize : ∀ used ∈ (if true then some key.val else none),
      used.length = 4 := by
    intro used member
    rw [← Option.some.inj member]
    exact key.property
  rw [buildFrame_eq opcode true keySize (LengthForm.shortestFor_fits short)]
  exact writesBack_one rfl rfl

/-- The frames up to the first Close frame, one after the other. -/
theorem recvUntilNone_encodeAll {before after : List WsFrame} {close : WsFrame}
    (noClose : ∀ frame ∈ before, ¬ frame.IsClose) (isClose : close.IsClose)
    (written : List (UInt8 × Bytes)) :
    ∃ answered,
      (∀ keys, WritesBack (wireOf keys answered)
        (WsFrame.replies before close)) ∧
      recvUntilNone
          ⟨false, written, WsFrame.encodeAll (before ++ close :: after), []⟩ =
        (WsFrame.messagePayloads before, .close,
          ⟨true, written ++ answered, WsFrame.encodeAll after, []⟩) := by
  induction before generalizing written with
  | nil =>
      refine ⟨[(0x8, close.payload.take 2)], ?_, ?_⟩
      · intro keys
        rw [wireOf, wireOf, List.append_nil]
        apply writesBack_buildFrame WsFrame.opClose
        exact Nat.lt_of_le_of_lt (List.length_take_le' _ _)
          (LengthForm.lt_of_fits close.fits)
      · rw [List.nil_append, WsFrame.encodeAll_cons]
        exact recvUntilNone_close written isClose _
  | cons frame before induction =>
      obtain ⟨harmlessFrame, harmlessLater⟩ := List.forall_mem_cons.mp noClose
      have first := recvUntilNone_harmless written harmlessFrame
        (WsFrame.encodeAll (before ++ close :: after))
      rw [List.cons_append, WsFrame.encodeAll_cons, first, messagePayloads_cons,
        replies_cons]
      by_cases isPing : frame.IsPing
      · obtain ⟨answered, writes, later⟩ := induction harmlessLater
          (written ++ [(0xA, frame.payload)])
        simp only [if_pos isPing, later]
        refine ⟨(0xA, frame.payload) :: answered, ?_, ?_⟩
        · intro keys
          have pong := writesBack_buildFrame WsFrame.opPong
            (LengthForm.lt_of_fits frame.fits) (keys 0)
          exact pong.append (writes _)
        · rw [List.append_assoc, List.singleton_append]
      · obtain ⟨answered, writes, later⟩ := induction harmlessLater written
        simp only [if_neg isPing, later]
        exact ⟨answered, writes, rfl⟩

end Written

end RawWebSocket

end Rust

/-- On the frames of a server with a Close frame among them, successive calls of
either `recv` return the payloads of the messages before the first Close frame
and then `None`.  They write back a pong for each ping before it, and a Close
frame. -/
theorem recv_until_close (stream : ClosingStream) :
    ∃ before close after, stream.frames = before ++ close :: after ∧
      (∀ frame ∈ before, ¬ frame.IsClose) ∧ close.IsClose ∧
      (∀ (frames : Python.Wire.FrameModule) (wire : Bytes), ∃ back,
        Python.Wire.recvUntilNone frames ⟨false, wire⟩
            (WsFrame.encodeAll stream.frames) =
          (WsFrame.messagePayloads before, .none, ⟨true, wire ++ back⟩,
            WsFrame.encodeAll after) ∧
        WritesBack back (WsFrame.replies before close)) ∧
      ∀ written : List (UInt8 × Bytes), ∃ answered,
        Rust.RawWebSocket.recvUntilNone
            ⟨false, written, WsFrame.encodeAll stream.frames, []⟩ =
          (WsFrame.messagePayloads before, .close,
            ⟨true, written ++ answered, WsFrame.encodeAll after, []⟩) ∧
        ∀ keys, WritesBack (Rust.wireOf keys answered)
          (WsFrame.replies before close) := by
  obtain ⟨before, close, after, whole, noClose, isClose⟩ := stream.split
  refine ⟨before, close, after, whole, noClose, isClose, ?_, ?_⟩
  · intro frames wire
    obtain ⟨back, writes, returned⟩ :=
      @Python.Wire.recvUntilNone_encodeAll frames before after close noClose
        isClose wire
    rw [whole]
    exact ⟨back, returned, writes⟩
  · intro written
    obtain ⟨answered, writes, returned⟩ :=
      @Rust.RawWebSocket.recvUntilNone_encodeAll before after close noClose
        isClose written
    rw [whole]
    exact ⟨answered, returned, writes⟩

end TgWsProxy
