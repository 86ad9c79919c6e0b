import TgWsProxy.Rust.RawWebSocket

/-!
# Frame headers from a hostile server

`read_frame` takes the length of a payload from the header and allocates a
buffer of that length before it reads on.  A `Vec` holds at most `isize::MAX`
bytes, and a header can announce more.
-/

namespace TgWsProxy.Rust

open Lib

/-- `isize::MAX` on a 64-bit target. -/
def isizeMax : Nat := 2 ^ 63 - 1

/-- How `read_frame` ends on a stream which ends. -/
inductive FrameEnd where
  | ok (opcode : UInt8) (payload : Bytes)
  | err
  | panicked (panic : Panic)
deriving DecidableEq, Repr

/-- `read_exact` returns an error where the stream ends. -/
def readFrameToEnd (stream : Bytes) : FrameEnd :=
  match readFrame.on stream with
  | .done (opcode, payload) _ => .ok opcode payload
  | .failed panic => .panicked panic
  | .waiting => .err

/-- The bytes of the length field which the seven bits ask for. -/
def extendedLen (marker : Nat) : Nat :=
  if marker = 126 then 2 else if marker = 127 then 8 else 0

/-- The length of the payload, once the header is complete with its masking
key. -/
def announcedLen : Bytes → Option Nat
  | _ :: second :: fields =>
      let marker := (second &&& 0x7F).toNat
      let key := if second &&& 0x80 ≠ 0 then 4 else 0
      if fields.length < extendedLen marker + key then none
      else some (if extendedLen marker = 0 then marker
        else beNat (fields.take (extendedLen marker)))
  | _ => none

section ReadFrame

/-- The length of the field behind the second byte. -/
theorem readLength_on (marker : Nat) (fields : Bytes) :
    (readLength marker).on fields =
      if fields.length < extendedLen marker then .waiting
      else .done (if extendedLen marker = 0 then marker
          else beNat (fields.take (extendedLen marker)))
        (fields.drop (extendedLen marker)) := by
  unfold readLength extendedLen
  by_cases medium : marker = 126
  · simp only [if_pos medium, Reading.on_bind_readExact, Reading.on_pure]
    rfl
  · by_cases long : marker = 127
    · simp only [if_neg medium, if_pos long, Reading.on_bind_readExact,
        Reading.on_pure]
      rfl
    · simp only [if_neg medium, if_neg long, Reading.on_pure,
        Nat.not_lt_zero, if_false, if_true, List.drop_zero]

/-- Behind a complete header, only the allocation can panic. -/
theorem body_panics_iff (len : Nat) (finish : Bytes → UInt8 × Bytes)
    (body : Bytes) :
    (∃ panic, (do
        zeroedVec len
        let data ← Reading.readExact len
        return finish data : Reading UInt8 Panic (UInt8 × Bytes)).on body =
          .failed panic) ↔ ¬ len ≤ isizeMax := by
  have bound : len < 2 ^ 63 ↔ len ≤ isizeMax := by
    unfold isizeMax
    omega
  rw [← bound, Reading.on_bind]
  by_cases allocates : len < 2 ^ 63
  · rw [zeroedVec_of_lt allocates]
    simp only [Reading.on_bind_readExact, Reading.on_pure]
    apply iff_of_false _ (not_not_intro allocates)
    rintro ⟨panic, failed⟩
    split at failed
    · cases failed
    · cases failed
  · rw [zeroedVec, if_neg allocates]
    exact iff_of_true ⟨_, rfl⟩ allocates

theorem readFrame_panics_iff (stream : Bytes) :
    (∃ panic, readFrame.on stream = .failed panic) ↔
      ∃ len ∈ announcedLen stream, ¬ len ≤ isizeMax := by
  match stream with
  | [] | [_] =>
      apply iff_of_false
      · rintro ⟨panic, failed⟩
        cases failed
      · rintro ⟨len, announced, -⟩
        cases announced
  | first :: second :: fields =>
      have complete : ¬ (first :: second :: fields).length < 2 := by
        simp only [List.length_cons]
        omega
      rw [readFrame, Reading.on_bind_readExact, if_neg complete]
      simp only [announcedLen, List.take_succ_cons, List.drop_succ_cons,
        List.drop_zero, List.getD_cons_succ, List.getD_cons_zero]
      rw [Reading.on_bind, readLength_on]
      generalize extendedLen (second &&& 0x7F).toNat = extended
      by_cases short : fields.length < extended
      · have unannounced : fields.length <
            extended + (if second &&& 0x80 ≠ 0 then 4 else 0) := by omega
        simp only [if_pos short, if_pos unannounced]
        apply iff_of_false
        · rintro ⟨panic, failed⟩
          cases failed
        · rintro ⟨len, announced, -⟩
          cases announced
      · simp only [if_neg short]
        by_cases masked : second &&& 0x80 ≠ 0
        · simp only [if_pos masked, Reading.on_bind_readExact,
            List.length_drop]
          by_cases keyless : fields.length - extended < 4
          · have unannounced : fields.length < extended + 4 := by omega
            simp only [if_pos keyless, if_pos unannounced]
            apply iff_of_false
            · rintro ⟨panic, failed⟩
              cases failed
            · rintro ⟨len, announced, -⟩
              cases announced
          · have announced : ¬ fields.length < extended + 4 := by omega
            simp only [if_neg keyless, if_neg announced, Option.mem_some,
              exists_eq_left']
            exact body_panics_iff _ _ _
        · simp only [if_neg masked, Nat.add_zero, if_neg short,
            Option.mem_some, exists_eq_left']
          exact body_panics_iff _ _ _

theorem zeroedVec_failsOnly (len : Nat) :
    (zeroedVec len).FailsOnly (· = .capacityOverflow) := by
  unfold zeroedVec
  split
  · exact Reading.failsOnly_pure ()
  · rfl

theorem readLength_failsOnly (marker : Nat) :
    (readLength marker).FailsOnly (· = .capacityOverflow) := by
  unfold readLength
  split
  · apply (Reading.failsOnly_readExact 2).bind
    exact fun _ => Reading.failsOnly_pure _
  · split
    · apply (Reading.failsOnly_readExact 8).bind
      exact fun _ => Reading.failsOnly_pure _
    · exact Reading.failsOnly_pure _

/-- The allocation is all that can panic. -/
theorem readFrame_failsOnly : readFrame.FailsOnly (· = .capacityOverflow) := by
  apply (Reading.failsOnly_readExact 2).bind
  intro hdr
  apply (readLength_failsOnly _).bind
  intro len
  split
  · apply (Reading.failsOnly_readExact 4).bind
    intro key
    apply (zeroedVec_failsOnly len).bind
    intro allocated
    apply (Reading.failsOnly_readExact len).bind
    exact fun _ => Reading.failsOnly_pure _
  · apply (zeroedVec_failsOnly len).bind
    intro allocated
    apply (Reading.failsOnly_readExact len).bind
    exact fun _ => Reading.failsOnly_pure _

end ReadFrame

/-- A poll of `recv` panics on such a header only. -/
theorem pollRecv_panics_iff (ws : RawWebSocket) :
    (∃ panic, ws.pollRecv.1 = .panicked panic) ↔
      ∃ len ∈ announcedLen (ws.taken ++ ws.unread), ¬ len ≤ isizeMax := by
  rw [← readFrame_panics_iff, RawWebSocket.pollRecv]
  cases outcome : readFrame.on (ws.taken ++ ws.unread) with
  | waiting =>
      apply iff_of_false
      · rintro ⟨panic, panicked⟩
        cases panicked
      · rintro ⟨panic, failed⟩
        cases failed
  | failed panic => exact iff_of_true ⟨panic, rfl⟩ ⟨panic, rfl⟩
  | done frame rest =>
      apply iff_of_false
      · rintro ⟨panic, panicked⟩
        simp only at panicked
        split at panicked
        · cases panicked
        · split at panicked
          · cases panicked
          · split at panicked
            · cases panicked
            · cases panicked
      · rintro ⟨panic, failed⟩
        cases failed

theorem pollRecv_panic {ws : RawWebSocket} {panic : Panic}
    (panicked : ws.pollRecv.1 = .panicked panic) :
    panic = .capacityOverflow := by
  unfold RawWebSocket.pollRecv at panicked
  split at panicked
  · cases panicked
  · rename_i failed
    cases panicked
    exact readFrame_failsOnly.error failed
  · simp only at panicked
    split at panicked
    · cases panicked
    · split at panicked
      · cases panicked
      · split at panicked
        · cases panicked
        · cases panicked

/-- On every stream `read_frame` returns `Ok` or `Err`, and asks for no larger
buffer than there can be, exactly if no complete header announces a length
above `isize::MAX`; and so does a poll of `recv`. -/
theorem readFrame_returns_iff (stream : Bytes) :
    ((∀ panic, readFrameToEnd stream ≠ .panicked panic) ↔
      ∀ len ∈ announcedLen stream, len ≤ isizeMax) ∧
    ∀ ws : RawWebSocket, (∃ panic, ws.pollRecv.1 = .panicked panic) ↔
      ∃ len ∈ announcedLen (ws.taken ++ ws.unread), ¬ len ≤ isizeMax := by
  refine ⟨?_, pollRecv_panics_iff⟩
  have ends (panic : Panic) :
      readFrameToEnd stream = .panicked panic ↔
        readFrame.on stream = .failed panic := by
    rw [readFrameToEnd]
    split
    · rename_i returned
      simp [returned]
    · rename_i failed
      simp [failed]
    · rename_i waits
      simp [waits]
  have panics := readFrame_panics_iff stream
  constructor
  · intro returns len announced
    by_contra large
    obtain ⟨panic, failed⟩ := panics.mpr ⟨len, announced, large⟩
    exact returns panic ((ends panic).mpr failed)
  · intro small panic panicked
    obtain ⟨len, announced, large⟩ :=
      panics.mp ⟨panic, (ends panic).mp panicked⟩
    exact large (small len announced)

/-- A binary frame which announces 2^64 - 1 bytes. -/
def hugeFrame : Bytes :=
  [0x82, 0x7F, 0xFF, 0xFF, 0xFF, 0xFF, 0xFF, 0xFF, 0xFF, 0xFF]

theorem hugeFrame_panics :
    ¬ ∀ panic, readFrameToEnd hugeFrame ≠ .panicked panic := by
  intro returns
  exact returns .capacityOverflow (by decide)

end TgWsProxy.Rust
