import TgWsProxy.Rust.Bridge
import TgWsProxy.Rust.Handshake

/-!
# The Rust TCP fallback

The loop of `do_fallback_tcp_ws` of `main.rs` over a plain TCP stream.  A read
which `select!` drops has taken nothing from its stream, so an event is a read
which is ready, with what becomes of the write behind it, or the end of a
stream.
-/

namespace TgWsProxy.Rust

open Lib

structure TcpFallback where
  ctx : CryptoCtx
  /-- What was written to the data centre. -/
  sent : Bytes
  /-- What was written to the client. -/
  written : Bytes
  stats : SessionStats
  status : BridgeStatus
deriving DecidableEq, Repr

/-- A write which does not succeed may have written some bytes. -/
inductive TcpEvent where
  | clientRead (chunk : Bytes) (failsAfter : Option Nat)
  | clientEnds
  | serverRead (chunk : Bytes) (failsAfter : Option Nat)
  | serverEnds
deriving DecidableEq, Repr

namespace TcpFallback

/-- The state before the first turn, when `relay_init` has been written. -/
def start (session : CryptoCtx) (relayInit : Bytes) : TcpFallback :=
  { ctx := session, sent := relayInit, written := [], stats := ⟨0, 0, 0, 0⟩,
    status := .running }

/-- The branch of a read from the client. -/
def forwardUp (crypto : Primitives) (overflowChecks : Bool) (s : TcpFallback)
    (chunk : Bytes) (failsAfter : Option Nat) : Except Panic TcpFallback := do
  let bytesUp ← addU64 overflowChecks s.stats.bytesUp chunk.length
  let packetsUp ← addU64 overflowChecks s.stats.packetsUp 1
  let plain := s.ctx.cltDec.update crypto chunk
  let data := s.ctx.tgEnc.update crypto plain.1
  let s :=
    { s with
      ctx := { s.ctx with cltDec := plain.2, tgEnc := data.2 }
      stats := { s.stats with bytesUp, packetsUp } }
  match failsAfter with
  | none => return { s with sent := s.sent ++ data.1 }
  | some count =>
      return { s with sent := s.sent ++ data.1.take count, status := .ended }

/-- The branch of a read from the data centre. -/
def forwardDown (crypto : Primitives) (overflowChecks : Bool) (s : TcpFallback)
    (chunk : Bytes) (failsAfter : Option Nat) : Except Panic TcpFallback := do
  let bytesDown ← addU64 overflowChecks s.stats.bytesDown chunk.length
  let packetsDown ← addU64 overflowChecks s.stats.packetsDown 1
  let plain := s.ctx.tgDec.update crypto chunk
  let data := s.ctx.cltEnc.update crypto plain.1
  let s :=
    { s with
      ctx := { s.ctx with tgDec := plain.2, cltEnc := data.2 }
      stats := { s.stats with bytesDown, packetsDown } }
  match failsAfter with
  | none => return { s with written := s.written ++ data.1 }
  | some count =>
      return { s with
        written := s.written ++ data.1.take count
        status := .ended }

def afterBranch (s : TcpFallback) (branch : Except Panic TcpFallback) :
    TcpFallback :=
  match branch with
  | .error panic => { s with status := .panicked panic }
  | .ok s => s

/-- A turn of the loop. -/
def step (crypto : Primitives) (overflowChecks : Bool) (s : TcpFallback)
    (event : TcpEvent) : TcpFallback :=
  if s.status = .running then
    match event with
    | .clientRead chunk failsAfter =>
        if Bridge.Readable chunk then
          s.afterBranch (s.forwardUp crypto overflowChecks chunk failsAfter)
        else s
    | .serverRead chunk failsAfter =>
        if Bridge.Readable chunk then
          s.afterBranch (s.forwardDown crypto overflowChecks chunk failsAfter)
        else s
    | .clientEnds | .serverEnds => { s with status := .ended }
  else s

end TcpFallback

/-- The loop together with what its reads have returned, recorded where they
return. -/
structure RecordedTcpFallback extends TcpFallback where
  /-- From the client. -/
  read : Bytes
  /-- From the data centre. -/
  received : Bytes

def RecordedTcpFallback.step (crypto : Primitives) (overflowChecks : Bool)
    (s : RecordedTcpFallback) (event : TcpEvent) : RecordedTcpFallback :=
  { toTcpFallback := s.toTcpFallback.step crypto overflowChecks event
    read :=
      match event with
      | .clientRead chunk _ =>
          if s.status = .running ∧ Bridge.Readable chunk then s.read ++ chunk
          else s.read
      | _ => s.read
    received :=
      match event with
      | .serverRead chunk _ =>
          if s.status = .running ∧ Bridge.Readable chunk then
            s.received ++ chunk
          else s.received
      | _ => s.received }

namespace RecordedTcpFallback

section Step

variable {crypto : Primitives} {overflowChecks : Bool}
  {s : RecordedTcpFallback} {chunk : Bytes}

theorem step_stopped (stopped : s.status ≠ .running) (event : TcpEvent) :
    s.step crypto overflowChecks event = s := by
  cases event <;>
    simp only [step, TcpFallback.step, stopped, if_false, false_and]

theorem step_clientRead (running : s.status = .running)
    (readable : Bridge.Readable chunk) (failsAfter : Option Nat) :
    s.step crypto overflowChecks (.clientRead chunk failsAfter) =
      ⟨s.toTcpFallback.afterBranch
          (s.toTcpFallback.forwardUp crypto overflowChecks chunk failsAfter),
        s.read ++ chunk, s.received⟩ := by
  simp only [step, TcpFallback.step, running, readable, if_true, and_self]

theorem step_serverRead (running : s.status = .running)
    (readable : Bridge.Readable chunk) (failsAfter : Option Nat) :
    s.step crypto overflowChecks (.serverRead chunk failsAfter) =
      ⟨s.toTcpFallback.afterBranch
          (s.toTcpFallback.forwardDown crypto overflowChecks chunk failsAfter),
        s.read, s.received ++ chunk⟩ := by
  simp only [step, TcpFallback.step, running, readable, if_true, and_self]

/-- Such a chunk is not the result of a read. -/
theorem step_unreadable (unreadable : ¬ Bridge.Readable chunk)
    (failsAfter : Option Nat) :
    s.step crypto overflowChecks (.clientRead chunk failsAfter) = s ∧
      s.step crypto overflowChecks (.serverRead chunk failsAfter) = s := by
  simp only [step, TcpFallback.step, unreadable, if_false, and_false, ite_self,
    and_self]

end Step

end RecordedTcpFallback

/-- Neither end stops, and no write fails. -/
def TcpEvent.GoesOn : TcpEvent → Prop
  | .clientRead _ failsAfter | .serverRead _ failsAfter => failsAfter = none
  | .clientEnds | .serverEnds => False

namespace TcpFallback

/-- What holds at the start of each turn: both streams were re-encrypted as
far as they were read, and the ciphers stand there. -/
structure Faithful (crypto : Primitives) (session : CryptoCtx)
    (relayInit : Bytes) (s : TcpFallback) (read received : Bytes) : Prop where
  cltDec : s.ctx.cltDec = session.cltDec.advance read.length
  tgEnc : s.ctx.tgEnc = session.tgEnc.advance read.length
  sent : s.sent = relayInit ++ reencryptedUp crypto session read
  tgDec : s.ctx.tgDec = session.tgDec.advance received.length
  cltEnc : s.ctx.cltEnc = session.cltEnc.advance received.length
  written : s.written = reencryptedDown crypto session received

section Faithful

variable {crypto : Primitives} {session : CryptoCtx} {relayInit : Bytes}
  {overflowChecks : Bool} {s next : TcpFallback} {read received chunk : Bytes}
  {failsAfter : Option Nat}

/-- A branch which reaches the next turn has written all it read. -/
theorem Faithful.forwardUp
    (faithful : Faithful crypto session relayInit s read received)
    (returned : s.forwardUp crypto overflowChecks chunk failsAfter = .ok next)
    (running : next.status = .running) :
    Faithful crypto session relayInit next (read ++ chunk) received := by
  simp only [TcpFallback.forwardUp, AesCtr.update_eq, bind, Except.bind, pure,
    Except.pure] at returned
  split at returned
  · cases returned
  split at returned
  · cases returned
  split at returned
  · cases returned
    constructor
    · rw [List.length_append, ← AesCtr.advance_advance, ← faithful.cltDec]
    · rw [List.length_append, ← AesCtr.advance_advance, ← faithful.tgEnc,
        AesCtr.length_apply]
    · rw [reencryptedUp_append, ← List.append_assoc, ← faithful.sent,
        ← faithful.cltDec, ← faithful.tgEnc]
    · exact faithful.tgDec
    · exact faithful.cltEnc
    · exact faithful.written
  · cases returned
    cases running

theorem Faithful.forwardDown
    (faithful : Faithful crypto session relayInit s read received)
    (returned : s.forwardDown crypto overflowChecks chunk failsAfter = .ok next)
    (running : next.status = .running) :
    Faithful crypto session relayInit next read (received ++ chunk) := by
  simp only [TcpFallback.forwardDown, AesCtr.update_eq, bind, Except.bind, pure,
    Except.pure] at returned
  split at returned
  · cases returned
  split at returned
  · cases returned
  split at returned
  · cases returned
    constructor
    · exact faithful.cltDec
    · exact faithful.tgEnc
    · exact faithful.sent
    · rw [List.length_append, ← AesCtr.advance_advance, ← faithful.tgDec]
    · rw [List.length_append, ← AesCtr.advance_advance, ← faithful.cltEnc,
        AesCtr.length_apply]
    · rw [reencryptedDown_append, ← faithful.written, ← faithful.tgDec,
        ← faithful.cltEnc]
  · cases returned
    cases running

/-- A turn which leads to another one keeps both streams faithful. -/
theorem Faithful.step {s : RecordedTcpFallback}
    (faithful : s.status = .running → Faithful crypto session relayInit
      s.toTcpFallback s.read s.received)
    (event : TcpEvent)
    (running : (s.step crypto overflowChecks event).status = .running) :
    Faithful crypto session relayInit
      (s.step crypto overflowChecks event).toTcpFallback
      (s.step crypto overflowChecks event).read
      (s.step crypto overflowChecks event).received := by
  by_cases current : s.status = .running
  · cases event with
    | clientRead chunk failsAfter =>
        by_cases readable : Bridge.Readable chunk
        · rw [RecordedTcpFallback.step_clientRead current readable] at running ⊢
          cases returned : s.toTcpFallback.forwardUp crypto overflowChecks chunk
              failsAfter with
          | error panic =>
              rw [returned] at running
              cases running
          | ok next =>
              rw [returned] at running
              exact (faithful current).forwardUp returned running
        · rw [(RecordedTcpFallback.step_unreadable readable failsAfter).1]
          exact faithful current
    | serverRead chunk failsAfter =>
        by_cases readable : Bridge.Readable chunk
        · rw [RecordedTcpFallback.step_serverRead current readable] at running ⊢
          cases returned : s.toTcpFallback.forwardDown crypto overflowChecks
              chunk failsAfter with
          | error panic =>
              rw [returned] at running
              cases running
          | ok next =>
              rw [returned] at running
              exact (faithful current).forwardDown returned running
        · rw [(RecordedTcpFallback.step_unreadable readable failsAfter).2]
          exact faithful current
    | clientEnds | serverEnds =>
        simp only [RecordedTcpFallback.step, TcpFallback.step, if_pos current]
          at running
        cases running
  · rw [RecordedTcpFallback.step_stopped current] at running
    exact absurd running current

theorem start_faithful (crypto : Primitives) (session : CryptoCtx)
    (relayInit : Bytes) :
    Faithful crypto session relayInit (start session relayInit) [] [] :=
  ⟨rfl, rfl, (List.append_nil relayInit).symm, rfl, rfl, rfl⟩

theorem run_faithful (crypto : Primitives) (overflowChecks : Bool)
    (session : CryptoCtx) (relayInit : Bytes) (events : List TcpEvent) :
    let s := run (RecordedTcpFallback.step crypto overflowChecks)
      ⟨start session relayInit, [], []⟩ events
    s.status = .running →
      Faithful crypto session relayInit s.toTcpFallback s.read s.received := by
  have preserved (s : RecordedTcpFallback) (event : TcpEvent)
      (faithful : s.status = .running →
        Faithful crypto session relayInit s.toTcpFallback s.read s.received)
      (running : (s.step crypto overflowChecks event).status = .running) :=
    Faithful.step faithful event running
  exact run_invariant preserved events fun _ =>
    start_faithful crypto session relayInit

end Faithful

section Counting

variable {crypto : Primitives} {overflowChecks : Bool} {s : TcpFallback}
  {read received chunk : Bytes}

/-- Where additions are checked, the counters are exact; no packet is empty. -/
structure Counts (overflowChecks : Bool) (s : TcpFallback)
    (read received : Bytes) : Prop where
  running : s.status = .running
  up : overflowChecks = true →
    s.stats.bytesUp = read.length ∧ s.stats.packetsUp ≤ read.length
  down : overflowChecks = true →
    s.stats.bytesDown = received.length ∧ s.stats.packetsDown ≤ received.length

theorem Counts.forwardUp (counts : Counts overflowChecks s read received)
    (readable : Bridge.Readable chunk)
    (fits : overflowChecks = true → (read ++ chunk).length < 2 ^ 64) :
    Counts overflowChecks
      (s.afterBranch (s.forwardUp crypto overflowChecks chunk none))
      (read ++ chunk) received := by
  have positive := readable.1
  simp only [List.length_append] at fits
  obtain ⟨bytes, bytesUp, exactBytes⟩ :=
    @Bridge.addU64_of_lt overflowChecks s.stats.bytesUp chunk.length fun checked =>
      by rw [(counts.up checked).1]; exact fits checked
  obtain ⟨packets, packetsUp, exactPackets⟩ :=
    @Bridge.addU64_of_lt overflowChecks s.stats.packetsUp 1 fun checked => by
      have before := (counts.up checked).2
      have room := fits checked
      omega
  simp only [TcpFallback.forwardUp, AesCtr.update_eq, bytesUp, packetsUp, bind,
    Except.bind, pure, Except.pure, afterBranch]
  refine ⟨counts.running, ?_, counts.down⟩
  intro checked
  obtain ⟨sameBytes, fewPackets⟩ := counts.up checked
  simp only [exactBytes checked, exactPackets checked, List.length_append]
  omega

theorem Counts.forwardDown (counts : Counts overflowChecks s read received)
    (readable : Bridge.Readable chunk)
    (fits : overflowChecks = true → (received ++ chunk).length < 2 ^ 64) :
    Counts overflowChecks
      (s.afterBranch (s.forwardDown crypto overflowChecks chunk none))
      read (received ++ chunk) := by
  have positive := readable.1
  simp only [List.length_append] at fits
  obtain ⟨bytes, bytesDown, exactBytes⟩ :=
    @Bridge.addU64_of_lt overflowChecks s.stats.bytesDown chunk.length
      fun checked => by rw [(counts.down checked).1]; exact fits checked
  obtain ⟨packets, packetsDown, exactPackets⟩ :=
    @Bridge.addU64_of_lt overflowChecks s.stats.packetsDown 1 fun checked => by
      have before := (counts.down checked).2
      have room := fits checked
      omega
  simp only [TcpFallback.forwardDown, AesCtr.update_eq, bytesDown, packetsDown,
    bind, Except.bind, pure, Except.pure, afterBranch]
  refine ⟨counts.running, counts.up, ?_⟩
  intro checked
  obtain ⟨sameBytes, fewPackets⟩ := counts.down checked
  simp only [exactBytes checked, exactPackets checked, List.length_append]
  omega

/-- What was read does not fit in the counters. -/
def Overflows (overflowChecks : Bool) (s : RecordedTcpFallback) : Prop :=
  overflowChecks = true ∧
    (2 ^ 64 ≤ s.read.length ∨ 2 ^ 64 ≤ s.received.length)

theorem Overflows.step {s : RecordedTcpFallback}
    (overflows : Overflows overflowChecks s) (event : TcpEvent) :
    Overflows overflowChecks (s.step crypto overflowChecks event) := by
  have grown : s.read.length ≤ (s.step crypto overflowChecks event).read.length ∧
      s.received.length ≤
        (s.step crypto overflowChecks event).received.length := by
    cases event with
    | clientRead chunk failsAfter | serverRead chunk failsAfter =>
        simp only [RecordedTcpFallback.step]
        split
        · simp
        · exact ⟨le_rfl, le_rfl⟩
    | clientEnds | serverEnds => exact ⟨le_rfl, le_rfl⟩
  refine ⟨overflows.1, ?_⟩
  rcases overflows.2 with up | down
  · exact Or.inl (up.trans grown.1)
  · exact Or.inr (down.trans grown.2)

/-- As long as neither end stops, the loop goes on while its counters fit. -/
theorem step_counts (s : RecordedTcpFallback) (event : TcpEvent)
    (before : Overflows overflowChecks s ∨
      Counts overflowChecks s.toTcpFallback s.read s.received)
    (goesOn : event.GoesOn) :
    Overflows overflowChecks (s.step crypto overflowChecks event) ∨
      Counts overflowChecks (s.step crypto overflowChecks event).toTcpFallback
        (s.step crypto overflowChecks event).read
        (s.step crypto overflowChecks event).received := by
  rcases before with overflows | counts
  · exact Or.inl (overflows.step event)
  · cases event with
    | clientRead chunk failsAfter =>
        obtain rfl : failsAfter = none := goesOn
        by_cases readable : Bridge.Readable chunk
        · rw [RecordedTcpFallback.step_clientRead counts.running readable]
          by_cases fits : overflowChecks = true →
              (s.read ++ chunk).length < 2 ^ 64
          · exact Or.inr (counts.forwardUp readable fits)
          · obtain ⟨checked, full⟩ := Classical.not_imp.mp fits
            exact Or.inl ⟨checked, Or.inl (Nat.not_lt.mp full)⟩
        · rw [(RecordedTcpFallback.step_unreadable readable none).1]
          exact Or.inr counts
    | serverRead chunk failsAfter =>
        obtain rfl : failsAfter = none := goesOn
        by_cases readable : Bridge.Readable chunk
        · rw [RecordedTcpFallback.step_serverRead counts.running readable]
          by_cases fits : overflowChecks = true →
              (s.received ++ chunk).length < 2 ^ 64
          · exact Or.inr (counts.forwardDown readable fits)
          · obtain ⟨checked, full⟩ := Classical.not_imp.mp fits
            exact Or.inl ⟨checked, Or.inr (Nat.not_lt.mp full)⟩
        · rw [(RecordedTcpFallback.step_unreadable readable none).2]
          exact Or.inr counts
    | clientEnds | serverEnds => exact goesOn.elim

theorem run_goesOn (crypto : Primitives) (overflowChecks : Bool)
    (session : CryptoCtx) (relayInit : Bytes) {events : List TcpEvent}
    (goesOn : ∀ event ∈ events, event.GoesOn) :
    let s := run (RecordedTcpFallback.step crypto overflowChecks)
      ⟨start session relayInit, [], []⟩ events
    (overflowChecks = true →
      s.read.length < 2 ^ 64 ∧ s.received.length < 2 ^ 64) →
    s.status = .running := by
  intro s fits
  have initial : Counts overflowChecks (start session relayInit) [] [] :=
    ⟨rfl, fun _ => ⟨rfl, le_rfl⟩, fun _ => ⟨rfl, le_rfl⟩⟩
  have before : Overflows overflowChecks s ∨
      Counts overflowChecks s.toTcpFallback s.read s.received :=
    run_invariant_of_forall step_counts (Or.inr initial) goesOn
  rcases before with overflows | counts
  · have room := fits overflows.1
    rcases overflows.2 with up | down
    · exact absurd room.1 (Nat.not_lt.mpr up)
    · exact absurd room.2 (Nat.not_lt.mpr down)
  · exact counts.running

end Counting

end TcpFallback

/-- At the start of every turn, the data centre was sent `relay_init` and the
client's plaintext as far as it was read, and the client was sent Telegram's
plaintext as far as it was received.  As long as neither end stops and no write
fails, there is a next turn, unless a checked counter overflows. -/
theorem tcpFallback_faithful (crypto : Primitives) (overflowChecks : Bool)
    {handshake secret relayInit : Bytes} {request : ClientRequest}
    (handshakeSize : handshake.length = 64)
    (accepted : tryHandshake crypto handshake secret = .ok (some request))
    (relaySize : relayInit.length = 64) :
    ∃ ctx, buildCryptoCtx crypto request.decPrekeyIv secret relayInit = .ok ctx ∧
      ∀ events,
        let s := run (RecordedTcpFallback.step crypto overflowChecks)
          ⟨TcpFallback.start ctx relayInit, [], []⟩ events
        (s.status = .running →
          (∃ stream, s.sent = relayInit ++ stream ∧
            ∀ plain, s.read <+: clientUpstream crypto secret handshake plain →
              relayPlain crypto relayInit stream = plain.take s.read.length) ∧
          ∀ plain, s.received <+: telegramDownstream crypto relayInit plain →
            clientDownPlain crypto secret handshake s.written =
              plain.take s.received.length) ∧
        ((∀ event ∈ events, event.GoesOn) →
          (overflowChecks = true →
            s.read.length < 2 ^ 64 ∧ s.received.length < 2 ^ 64) →
          s.status = .running) := by
  rw [tryHandshake_eq crypto secret handshakeSize, Except.ok.injEq] at accepted
  obtain ⟨known, request_eq⟩ := requestOf_eq_some accepted
  have keys : request.decPrekeyIv = slice handshake 8 56 := by
    rw [request_eq]
  have ciphers := @buildCryptoCtx_eq crypto handshake relayInit secret
    (by omega) (by omega)
  rw [keys]
  refine ⟨_, ciphers, ?_⟩
  intro events s
  constructor
  · intro running
    have faithful := TcpFallback.run_faithful crypto overflowChecks
      (sessionCiphers crypto secret handshake relayInit) relayInit events
      running
    constructor
    · refine ⟨_, faithful.sent, ?_⟩
      intro plain initialPart
      exact relayPlain_reencryptedUp crypto secret handshake relayInit
        initialPart
    · intro plain initialPart
      rw [faithful.written]
      exact clientDownPlain_reencryptedDown crypto secret handshake relayInit
        initialPart
  · intro goesOn fits
    exact TcpFallback.run_goesOn crypto overflowChecks _ relayInit goesOn fits

theorem tcpFallback_faithful_recorded :
    ∃ ctx, buildCryptoCtx recordedCrypto (slice recordedHandshake 8 56)
        recordedSecret recordedDraw = .ok ctx ∧
      ∀ events,
        let s := run (RecordedTcpFallback.step recordedCrypto true)
          ⟨TcpFallback.start ctx recordedDraw, [], []⟩ events
        (s.status = .running →
          (∃ stream, s.sent = recordedDraw ++ stream ∧
            ∀ plain, s.read <+: clientUpstream recordedCrypto recordedSecret
                recordedHandshake plain →
              relayPlain recordedCrypto recordedDraw stream =
                plain.take s.read.length) ∧
          ∀ plain, s.received <+:
              telegramDownstream recordedCrypto recordedDraw plain →
            clientDownPlain recordedCrypto recordedSecret recordedHandshake
                s.written = plain.take s.received.length) ∧
        ((∀ event ∈ events, event.GoesOn) →
          (true = true →
            s.read.length < 2 ^ 64 ∧ s.received.length < 2 ^ 64) →
          s.status = .running) :=
  @tcpFallback_faithful recordedCrypto true recordedHandshake recordedSecret
    recordedDraw ⟨2, true, protoTagIntermediate, slice recordedHandshake 8 56⟩
    (by decide +kernel) (by decide +kernel) (by decide +kernel)

end TgWsProxy.Rust
