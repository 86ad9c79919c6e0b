import TgWsProxy.Obfuscation
import TgWsProxy.Rust.MsgSplitter
import TgWsProxy.Rust.RawWebSocket
import TgWsProxy.Lib.Runs

/-!
# The Rust WebSocket bridge

`bridge_ws_reencrypt_halves` of `bridge.rs` is one loop around `select!`.  Each
turn polls a read from the client and `ws.recv()`; the branch which is ready
first runs, and the future of the other one is dropped.  An event is a poll of
`recv`, a client read which is ready, or what the network does.
-/

namespace TgWsProxy.Rust

open Lib

structure SessionStats where
  bytesUp : Nat
  bytesDown : Nat
  packetsUp : Nat
  packetsDown : Nat
deriving DecidableEq, Repr

/-- `u64` addition, which wraps unless the build checks for overflow. -/
def addU64 (overflowChecks : Bool) (left right : Nat) : Except Panic Nat :=
  if left + right < 2 ^ 64 then .ok (left + right)
  else if overflowChecks then .error .arithmeticOverflow
  else .ok ((left + right) % 2 ^ 64)

def subU64 (overflowChecks : Bool) (left right : Nat) : Except Panic Nat :=
  if right ≤ left then .ok (left - right)
  else if overflowChecks then .error .arithmeticOverflow
  else .ok ((2 ^ 64 + left - right) % 2 ^ 64)

inductive BridgeStatus where
  | running
  | ended
  | panicked (panic : Panic)
deriving DecidableEq, Repr

structure Bridge where
  ctx : CryptoCtx
  splitter : Option MsgSplitter
  ws : RawWebSocket
  /-- What Telegram has sent and the stream has not delivered yet. -/
  incoming : Bytes
  /-- What was written to the client. -/
  written : Bytes
  stats : SessionStats
  status : BridgeStatus
deriving DecidableEq, Repr

inductive BridgeEvent where
  | deliver (count : Nat)
  /-- `recv` is polled.  The write of a message to the client may fail after
  some bytes. -/
  | pollRecv (failsAfter : Option Nat)
  /-- The TLS stream ends or fails. -/
  | serverEnds
  /-- A read from the client is ready.  The send of its parts may fail after
  some frames. -/
  | clientRead (chunk : Bytes) (failsAfter : Option Nat)
  /-- The client's stream ends or fails. -/
  | clientEnds
deriving DecidableEq, Repr

namespace Bridge

def start (session : CryptoCtx) (splitter : Option MsgSplitter)
    (incoming : Bytes) : Bridge :=
  { ctx := session, splitter, ws := ⟨false, [], [], []⟩, incoming,
    written := [], stats := ⟨0, 0, 0, 0⟩, status := .running }

/-- `break`, and `ws.close()` after the loop. -/
def finish (s : Bridge) : Bridge :=
  { s with ws := s.ws.close, status := .ended }

/-- The branch of a client read up to the send: the parts to send. -/
def forwardUp (crypto : Primitives) (overflowChecks : Bool) (s : Bridge)
    (chunk : Bytes) : Except Panic (List Bytes × Bridge) := do
  let bytesUp ← addU64 overflowChecks s.stats.bytesUp chunk.length
  let packetsUp ← addU64 overflowChecks s.stats.packetsUp 1
  let plain := s.ctx.cltDec.update crypto chunk
  let data := s.ctx.tgEnc.update crypto plain.1
  let s :=
    { s with
      ctx := { s.ctx with cltDec := plain.2, tgEnc := data.2 }
      stats := { s.stats with bytesUp, packetsUp } }
  match s.splitter with
  | none => return ([data.1], s)
  | some splitter =>
      let (parts, splitter) ← splitter.split crypto data.1
      let extra ← subU64 overflowChecks parts.length 1
      let packetsUp ← addU64 overflowChecks packetsUp extra
      return (parts,
        { s with
          splitter := some splitter
          stats := { s.stats with packetsUp } })

def clientRead (crypto : Primitives) (overflowChecks : Bool) (s : Bridge)
    (chunk : Bytes) (failsAfter : Option Nat) : Bridge :=
  let s := { s with ws := s.ws.dropRecv }
  match s.forwardUp crypto overflowChecks chunk with
  | .error panic => { s with status := .panicked panic }
  | .ok (parts, s) =>
      match s.ws.sendBatch parts failsAfter with
      | .error ws => finish { s with ws }
      | .ok ws => { s with ws }

/-- The branch of a message from Telegram. -/
def forwardDown (crypto : Primitives) (overflowChecks : Bool) (s : Bridge)
    (payload : Bytes) (failsAfter : Option Nat) : Except Panic Bridge := do
  let bytesDown ← addU64 overflowChecks s.stats.bytesDown payload.length
  let packetsDown ← addU64 overflowChecks s.stats.packetsDown 1
  let plain := s.ctx.tgDec.update crypto payload
  let data := s.ctx.cltEnc.update crypto plain.1
  let s :=
    { s with
      ctx := { s.ctx with tgDec := plain.2, cltEnc := data.2 }
      stats := { s.stats with bytesDown, packetsDown } }
  match failsAfter with
  | none => return { s with written := s.written ++ data.1 }
  | some count =>
      return finish { s with written := s.written ++ data.1.take count }

def pollRecv (crypto : Primitives) (overflowChecks : Bool) (s : Bridge)
    (failsAfter : Option Nat) : Bridge :=
  let (received, ws) := s.ws.pollRecv
  let s := { s with ws }
  match received with
  | .pending => s
  | .close => s.finish
  | .panicked panic => { s with status := .panicked panic }
  | .message payload =>
      match s.forwardDown crypto overflowChecks payload failsAfter with
      | .error panic => { s with status := .panicked panic }
      | .ok s => s

/-- `reader.read(&mut buf)` returns at most 65536 bytes, and none at the end of
the stream. -/
def Readable (chunk : Bytes) : Prop :=
  0 < chunk.length ∧ chunk.length ≤ 65536

instance (chunk : Bytes) : Decidable (Readable chunk) :=
  inferInstanceAs (Decidable (_ ∧ _))

def step (crypto : Primitives) (overflowChecks : Bool) (s : Bridge)
    (event : BridgeEvent) : Bridge :=
  if s.status = .running then
    match event with
    | .deliver count =>
        { s with
          ws := { s.ws with unread := s.ws.unread ++ s.incoming.take count }
          incoming := s.incoming.drop count }
    | .pollRecv failsAfter => s.pollRecv crypto overflowChecks failsAfter
    | .serverEnds =>
        match readFrame.on (s.ws.taken ++ s.ws.unread) with
        | .waiting => s.finish
        | _ => s
    | .clientRead chunk failsAfter =>
        if Readable chunk then
          s.clientRead crypto overflowChecks chunk failsAfter
        else s
    | .clientEnds => s.finish
  else s

section Counters

theorem addU64_of_lt {overflowChecks : Bool} {left right : Nat}
    (fits : overflowChecks = true → left + right < 2 ^ 64) :
    ∃ sum, addU64 overflowChecks left right = .ok sum ∧
      (overflowChecks = true → sum = left + right) := by
  unfold addU64
  by_cases small : left + right < 2 ^ 64
  · rw [if_pos small]
    exact ⟨left + right, rfl, fun _ => rfl⟩
  · rw [if_neg small]
    cases overflowChecks with
    | true => exact absurd (fits rfl) small
    | false => exact ⟨_, rfl, fun checked => by cases checked⟩

/-- The panic of a checked addition. -/
theorem addU64_checked (left right : Nat) :
    addU64 true left right = .ok (left + right) ∨
      addU64 true left right = .error .arithmeticOverflow := by
  unfold addU64
  split
  · exact Or.inl rfl
  · exact Or.inr rfl

theorem subU64_of_le {overflowChecks : Bool} {left right : Nat}
    (ordered : overflowChecks = true → right ≤ left) :
    ∃ difference, subU64 overflowChecks left right = .ok difference ∧
      (overflowChecks = true → difference = left - right) := by
  unfold subU64
  by_cases le : right ≤ left
  · rw [if_pos le]
    exact ⟨left - right, rfl, fun _ => rfl⟩
  · rw [if_neg le]
    cases overflowChecks with
    | true => exact absurd (ordered rfl) le
    | false => exact ⟨_, rfl, fun checked => by cases checked⟩

end Counters

section ForwardUp

variable {crypto : Primitives} {overflowChecks : Bool} {s : Bridge}
  {chunk : Bytes} {splitter next : MsgSplitter} {parts : List Bytes}

/-- The branch of a client read sends the parts which the splitter returns.  A
build with overflow checks panics if there are none. -/
theorem forwardUp_eq (present : s.splitter = some splitter)
    (split : splitter.split crypto
      (s.ctx.tgEnc.apply crypto (s.ctx.cltDec.apply crypto chunk)) =
        .ok (parts, next))
    (counts : overflowChecks = true →
      s.stats.bytesUp + chunk.length < 2 ^ 64 ∧ 0 < parts.length ∧
        s.stats.packetsUp + parts.length < 2 ^ 64) :
    ∃ stats, s.forwardUp crypto overflowChecks chunk =
        .ok (parts,
          { s with
            ctx :=
              { s.ctx with
                cltDec := s.ctx.cltDec.advance chunk.length
                tgEnc := s.ctx.tgEnc.advance chunk.length }
            splitter := some next
            stats }) ∧
      (overflowChecks = true →
        stats.bytesUp = s.stats.bytesUp + chunk.length ∧
          stats.packetsUp = s.stats.packetsUp + parts.length) := by
  obtain ⟨bytesUp, countBytes, exactBytes⟩ := addU64_of_lt fun checked =>
    (counts checked).1
  have fitsOne : overflowChecks = true → s.stats.packetsUp + 1 < 2 ^ 64 := by
    intro checked
    obtain ⟨-, positive, fits⟩ := counts checked
    omega
  obtain ⟨packetsUp, countPacket, exactPackets⟩ := addU64_of_lt fitsOne
  have ordered : overflowChecks = true → 1 ≤ parts.length := fun checked =>
    (counts checked).2.1
  obtain ⟨extra, countExtra, exactExtra⟩ := subU64_of_le ordered
  have fitsAll : overflowChecks = true → packetsUp + extra < 2 ^ 64 := by
    intro checked
    obtain ⟨-, positive, fits⟩ := counts checked
    rw [exactPackets checked, exactExtra checked]
    omega
  obtain ⟨total, countTotal, exactTotal⟩ := addU64_of_lt fitsAll
  refine ⟨{ s.stats with bytesUp, packetsUp := total }, ?_, ?_⟩
  · simp only [forwardUp, countBytes, countPacket, present, AesCtr.update_eq,
      AesCtr.length_apply, split, countExtra, countTotal, bind, Except.bind,
      pure, Except.pure]
  · intro checked
    have positive := ordered checked
    refine ⟨exactBytes checked, ?_⟩
    simp only [exactTotal checked, exactPackets checked, exactExtra checked]
    omega

/-- With overflow checks, a chunk which completes no packet panics. -/
theorem forwardUp_of_no_parts (present : s.splitter = some splitter)
    (split : splitter.split crypto
      (s.ctx.tgEnc.apply crypto (s.ctx.cltDec.apply crypto chunk)) =
        .ok ([], next)) :
    s.forwardUp crypto true chunk = .error .arithmeticOverflow := by
  have underflow : subU64 true 0 1 = .error .arithmeticOverflow := rfl
  rcases addU64_checked s.stats.bytesUp chunk.length with bytes | bytes
  · rcases addU64_checked s.stats.packetsUp 1 with packets | packets
    · simp only [forwardUp, present, AesCtr.update_eq, split, bytes, packets,
        List.length_nil, underflow, bind, Except.bind]
    · simp only [forwardUp, bytes, packets, bind, Except.bind]
  · simp only [forwardUp, bytes, bind, Except.bind]

end ForwardUp

/-- What the branch of a client read leaves alone. -/
structure UpFrame (s s' : Bridge) : Prop where
  tgDec : s'.ctx.tgDec = s.ctx.tgDec
  cltEnc : s'.ctx.cltEnc = s.ctx.cltEnc
  ws : s'.ws = s.ws
  incoming : s'.incoming = s.incoming
  written : s'.written = s.written
  status : s'.status = s.status

theorem forwardUp_frame {crypto : Primitives} {overflowChecks : Bool}
    {s s' : Bridge} {chunk : Bytes} {parts : List Bytes}
    (returned : s.forwardUp crypto overflowChecks chunk = .ok (parts, s')) :
    UpFrame s s' := by
  simp only [forwardUp, bind, Except.bind, pure, Except.pure] at returned
  split at returned
  · cases returned
  split at returned
  · cases returned
  split at returned
  · cases returned
    exact ⟨rfl, rfl, rfl, rfl, rfl, rfl⟩
  · split at returned
    · cases returned
    split at returned
    · cases returned
    split at returned
    · cases returned
    cases returned
    exact ⟨rfl, rfl, rfl, rfl, rfl, rfl⟩

end Bridge

end TgWsProxy.Rust
