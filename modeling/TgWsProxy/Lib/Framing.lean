import Mathlib.Data.List.Basic
import Mathlib.Data.List.Infix

/-!
# Self-delimiting packets in a stream

A framing reads the length of the packet at the front of a stream from the
symbols seen so far.  Parsing from left to right cuts a stream into complete
packets and a remainder.  Because a length which has been read does not change
when more symbols arrive, the cut of an initial segment is an initial part of
the cut of the whole stream; this is what makes a splitter independent of how
the stream was chunked.
-/

namespace Lib

/-- The announced length of the packet at the front of a stream: `none` while
the header is incomplete, `some 0` for a header which ends the framing. -/
structure Framing (α : Type*) where
  packetLen : List α → Option Nat
  /-- Nothing is announced by an empty stream. -/
  packetLen_nil : packetLen [] = none
  /-- An announced length survives the arrival of more symbols. -/
  stable : ∀ {seen len} (later : List α),
    packetLen seen = some len → packetLen (seen ++ later) = some len
  /-- The header lies inside its packet. -/
  header_inside : ∀ {seen len} (later : List α),
    packetLen seen = none → packetLen (seen ++ later) = some len → len ≠ 0 →
      seen.length < len

/-- The outcome of parsing a stream from left to right. -/
structure Parse (α : Type*) where
  packets : List (List α)
  rest : List α
  /-- The remainder starts with a header which ends the framing. -/
  stopped : Bool
deriving DecidableEq

namespace Framing

variable {α : Type*} (framing : Framing α)

/-- The announced length, once the whole packet is there. -/
def completeLen (stream : List α) : Option Nat :=
  (framing.packetLen stream).filter (· ≤ stream.length)

theorem completeLen_of_none {stream : List α}
    (unknown : framing.packetLen stream = none) :
    framing.completeLen stream = none := by
  simp [completeLen, unknown]

theorem completeLen_of_short {stream : List α} {len : Nat}
    (announced : framing.packetLen stream = some len)
    (short : stream.length < len) : framing.completeLen stream = none := by
  simp [completeLen, announced, Option.filter_some, short]

theorem completeLen_of_available {stream : List α} {len : Nat}
    (announced : framing.packetLen stream = some len)
    (available : len ≤ stream.length) :
    framing.completeLen stream = some len := by
  simp [completeLen, announced, Option.filter_some, available]

theorem le_length_of_completeLen {stream : List α} {len : Nat}
    (complete : framing.completeLen stream = some len) :
    len ≤ stream.length := by
  obtain ⟨-, available⟩ := Option.filter_eq_some_iff.mp complete
  exact of_decide_eq_true available

/-- A length is announced only before the end of the stream. -/
theorem lt_length_of_announced {stream unparsed : List α} {offset len : Nat}
    (dropped : stream.drop offset = unparsed)
    (announced : framing.packetLen unparsed = some len) :
    offset < stream.length := by
  by_contra reached
  rw [List.drop_eq_nil_of_le (Nat.le_of_not_lt reached)] at dropped
  rw [← dropped, framing.packetLen_nil] at announced
  cases announced

/-- Cut a stream into its complete packets and a remainder. -/
def parse (stream : List α) : Parse α :=
  match framing.packetLen stream with
  | none => ⟨[], stream, false⟩
  | some 0 => ⟨[], stream, true⟩
  | some (len + 1) =>
      if len + 1 ≤ stream.length then
        let tail := parse (stream.drop (len + 1))
        ⟨stream.take (len + 1) :: tail.packets, tail.rest, tail.stopped⟩
      else ⟨[], stream, false⟩
termination_by stream.length
decreasing_by
  simp only [List.length_drop]
  omega

theorem parse_of_none {stream : List α}
    (unknown : framing.packetLen stream = none) :
    framing.parse stream = ⟨[], stream, false⟩ := by
  rw [parse, unknown]

theorem parse_of_zero {stream : List α}
    (zero : framing.packetLen stream = some 0) :
    framing.parse stream = ⟨[], stream, true⟩ := by
  rw [parse, zero]

theorem parse_of_short {stream : List α} {len : Nat}
    (announced : framing.packetLen stream = some len)
    (short : stream.length < len) :
    framing.parse stream = ⟨[], stream, false⟩ := by
  cases len with
  | zero => omega
  | succ len =>
      rw [parse, announced]
      simp only [if_neg (Nat.not_le_of_gt short)]

theorem parse_of_packet {stream : List α} {len : Nat}
    (announced : framing.packetLen stream = some len) (positive : len ≠ 0)
    (available : len ≤ stream.length) :
    framing.parse stream =
      ⟨stream.take len :: (framing.parse (stream.drop len)).packets,
        (framing.parse (stream.drop len)).rest,
        (framing.parse (stream.drop len)).stopped⟩ := by
  cases len with
  | zero => exact (positive rfl).elim
  | succ len =>
      rw [parse, announced]
      simp only [if_pos available]

@[simp] theorem parse_nil : framing.parse [] = ⟨[], [], false⟩ :=
  framing.parse_of_none framing.packetLen_nil

/-- The case analysis made by one step of the parse. -/
theorem step_cases (stream : List α) :
    framing.packetLen stream = none ∨
      framing.packetLen stream = some 0 ∨
      (∃ len, framing.packetLen stream = some len ∧ stream.length < len) ∨
      ∃ len, framing.packetLen stream = some len ∧ len ≠ 0 ∧
        len ≤ stream.length := by
  cases announced : framing.packetLen stream with
  | none => exact .inl rfl
  | some len =>
      by_cases zero : len = 0
      · exact .inr (.inl (by rw [zero]))
      · by_cases short : stream.length < len
        · exact .inr (.inr (.inl ⟨len, rfl, short⟩))
        · exact .inr (.inr (.inr ⟨len, rfl, zero, by omega⟩))

/-- Induction along the packets of a stream. -/
theorem parse_induction {motive : List α → Prop}
    (unknown : ∀ stream, framing.packetLen stream = none → motive stream)
    (zero : ∀ stream, framing.packetLen stream = some 0 → motive stream)
    (short : ∀ stream len, framing.packetLen stream = some len →
      stream.length < len → motive stream)
    (packet : ∀ stream len, framing.packetLen stream = some len → len ≠ 0 →
      len ≤ stream.length → motive (stream.drop len) → motive stream)
    (stream : List α) : motive stream := by
  induction size : stream.length using Nat.strong_induction_on
    generalizing stream with
  | _ size induction =>
      rcases framing.step_cases stream with
        none | ended | ⟨len, announced, tooShort⟩ |
          ⟨len, announced, positive, available⟩
      · exact unknown stream none
      · exact zero stream ended
      · exact short stream len announced tooShort
      · refine packet stream len announced positive available ?_
        exact induction (stream.drop len).length
          (by simp only [List.length_drop]; omega) (stream.drop len) rfl

/-- Parsing loses nothing. -/
theorem flatten_packets_append_rest (stream : List α) :
    (framing.parse stream).packets.flatten ++ (framing.parse stream).rest =
      stream := by
  induction stream using framing.parse_induction with
  | unknown stream none => simp [framing.parse_of_none none]
  | zero stream zero => simp [framing.parse_of_zero zero]
  | short stream len announced short =>
      simp [framing.parse_of_short announced short]
  | packet stream len announced positive available induction =>
      rw [framing.parse_of_packet announced positive available]
      simp [induction]

theorem length_packets_add_rest (stream : List α) :
    (framing.parse stream).packets.flatten.length +
      (framing.parse stream).rest.length = stream.length := by
  rw [← List.length_append, flatten_packets_append_rest]

/-- The remainder of a parse is not parsed any further. -/
theorem parse_rest (stream : List α) :
    framing.parse (framing.parse stream).rest =
      ⟨[], (framing.parse stream).rest, (framing.parse stream).stopped⟩ := by
  induction stream using framing.parse_induction with
  | unknown stream none => simp [framing.parse_of_none none]
  | zero stream zero => simp [framing.parse_of_zero zero]
  | short stream len announced short =>
      simp [framing.parse_of_short announced short]
  | packet stream len announced positive available induction =>
      rw [framing.parse_of_packet announced positive available]
      exact induction

/-- A stopped parse has seen the header which ends the framing. -/
theorem packetLen_rest_of_stopped {stream : List α}
    (stopped : (framing.parse stream).stopped = true) :
    framing.packetLen (framing.parse stream).rest = some 0 := by
  induction stream using framing.parse_induction with
  | unknown stream none => simp [framing.parse_of_none none] at stopped
  | zero stream zero => simp [framing.parse_of_zero zero, zero]
  | short stream len announced short =>
      simp [framing.parse_of_short announced short] at stopped
  | packet stream len announced positive available induction =>
      rw [framing.parse_of_packet announced positive available] at stopped ⊢
      exact induction stopped

/-- Every packet has its header. -/
theorem packets_nonempty (stream : List α) :
    ∀ packet ∈ (framing.parse stream).packets, packet ≠ [] := by
  induction stream using framing.parse_induction with
  | unknown stream none => simp [framing.parse_of_none none]
  | zero stream zero => simp [framing.parse_of_zero zero]
  | short stream len announced short =>
      simp [framing.parse_of_short announced short]
  | packet stream len announced positive available induction =>
      rw [framing.parse_of_packet announced positive available]
      intro packet member
      rcases List.mem_cons.mp member with rfl | later
      · apply List.ne_nil_of_length_pos
        rw [List.length_take]
        omega
      · exact induction packet later

/-- The header which ends the framing is there. -/
theorem rest_nonempty_of_stopped {stream : List α}
    (stopped : (framing.parse stream).stopped = true) :
    (framing.parse stream).rest ≠ [] := by
  intro empty
  have zero := framing.packetLen_rest_of_stopped stopped
  rw [empty, framing.packetLen_nil] at zero
  cases zero

/-- Continuing a parse when more symbols arrive. -/
def resume (parsed : Parse α) (later : List α) : Parse α :=
  if parsed.stopped then ⟨parsed.packets, parsed.rest ++ later, true⟩
  else
    let tail := framing.parse (parsed.rest ++ later)
    ⟨parsed.packets ++ tail.packets, tail.rest, tail.stopped⟩

/-- Parsing may stop and resume at any cut of the stream. -/
theorem parse_append (stream later : List α) :
    framing.parse (stream ++ later) =
      framing.resume (framing.parse stream) later := by
  induction stream using framing.parse_induction with
  | unknown stream none => simp [framing.parse_of_none none, resume]
  | zero stream zero =>
      have extended := framing.stable later zero
      simp [framing.parse_of_zero zero, framing.parse_of_zero extended, resume]
  | short stream len announced short =>
      simp [framing.parse_of_short announced short, resume]
  | packet stream len announced positive available induction =>
      have extended := framing.stable later announced
      have enough : len ≤ (stream ++ later).length := by
        simp only [List.length_append]
        omega
      rw [framing.parse_of_packet announced positive available,
        framing.parse_of_packet extended positive enough,
        List.take_append_of_le_length available,
        List.drop_append_of_le_length available, induction]
      unfold resume
      split <;> simp

theorem resume_of_stopped {parsed : Parse α} (later : List α)
    (stopped : parsed.stopped = true) :
    framing.resume parsed later =
      ⟨parsed.packets, parsed.rest ++ later, true⟩ := by
  simp [resume, stopped]

theorem resume_of_running {parsed : Parse α} (later : List α)
    (running : parsed.stopped = false) :
    framing.resume parsed later =
      ⟨parsed.packets ++ (framing.parse (parsed.rest ++ later)).packets,
        (framing.parse (parsed.rest ++ later)).rest,
        (framing.parse (parsed.rest ++ later)).stopped⟩ := by
  simp [resume, running]

/-- A list of packets which announce their own lengths is read back. -/
theorem parse_flatten {packets : List (List α)}
    (wellFormed : ∀ packet ∈ packets,
      packet ≠ [] ∧ framing.packetLen packet = some packet.length) :
    framing.parse packets.flatten = ⟨packets, [], false⟩ := by
  induction packets with
  | nil => simp
  | cons packet packets induction =>
      obtain ⟨nonempty, announced⟩ := wellFormed packet (by simp)
      have tail := induction (fun packet member =>
        wellFormed packet (List.mem_cons_of_mem _ member))
      have extended := framing.stable packets.flatten announced
      rw [List.flatten_cons, framing.parse_of_packet extended
        (by simpa using nonempty) (by simp)]
      simp [tail]

end Framing

/-- The leading packets which are complete within the first `limit` symbols. -/
def completeBy : Nat → List (List α) → List (List α)
  | _, [] => []
  | limit, packet :: packets =>
      if packet.length ≤ limit then
        packet :: completeBy (limit - packet.length) packets
      else []

theorem completeBy_append {limit : Nat} {early late : List (List α)}
    (fits : early.flatten.length ≤ limit) :
    completeBy limit (early ++ late) =
      early ++ completeBy (limit - early.flatten.length) late := by
  induction early generalizing limit with
  | nil => simp
  | cons packet early induction =>
      simp only [List.flatten_cons, List.length_append] at fits
      have head : packet.length ≤ limit := by omega
      have tail := @induction (limit - packet.length) (by omega)
      simp [completeBy, head, tail, Nat.sub_sub]

/-- The packets cut from an initial segment are the packets of the whole
stream which are complete within that segment. -/
theorem Framing.completeBy_parse {α : Type*} (framing : Framing α)
    (stream later : List α) :
    completeBy stream.length (framing.parse (stream ++ later)).packets =
      (framing.parse stream).packets := by
  have total := framing.length_packets_add_rest stream
  cases stopped : (framing.parse stream).stopped with
  | true =>
      rw [framing.parse_append, framing.resume_of_stopped later stopped]
      have fits : (framing.parse stream).packets.flatten.length ≤
          stream.length := by omega
      simpa [completeBy] using @completeBy_append α _ _ [] fits
  | false =>
      rw [framing.parse_append, framing.resume_of_running later stopped,
        completeBy_append (by omega)]
      have left : stream.length -
          (framing.parse stream).packets.flatten.length =
          (framing.parse stream).rest.length := by omega
      -- The next packet cannot already be complete inside the remainder.
      have next : completeBy (framing.parse stream).rest.length
          (framing.parse ((framing.parse stream).rest ++ later)).packets =
          [] := by
        have settled := framing.parse_rest stream
        generalize (framing.parse stream).rest = rest at settled ⊢
        rw [stopped] at settled
        rcases framing.step_cases (rest ++ later) with
          none | zero | ⟨len, announced, short⟩ |
            ⟨len, announced, positive, available⟩
        · simp [framing.parse_of_none none, completeBy]
        · simp [framing.parse_of_zero zero, completeBy]
        · simp [framing.parse_of_short announced short, completeBy]
        · have beyond : rest.length < len := by
            rcases framing.step_cases rest with
              none | zero | ⟨seenLen, seen, short⟩ |
                ⟨seenLen, seen, seenPositive, seenAvailable⟩
            · exact framing.header_inside later none announced positive
            · rw [framing.parse_of_zero zero] at settled
              simp at settled
            · have same := (framing.stable later seen).symm.trans announced
              simp only [Option.some.injEq] at same
              omega
            · rw [framing.parse_of_packet seen seenPositive seenAvailable]
                at settled
              simp at settled
          rw [framing.parse_of_packet announced positive available]
          have cut : ¬ ((rest ++ later).take len).length ≤ rest.length := by
            simp only [List.length_take]
            omega
          simp only [completeBy, if_neg cut]
      rw [left, next, List.append_nil]

end Lib
