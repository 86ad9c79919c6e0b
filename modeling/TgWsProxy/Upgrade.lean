import TgWsProxy.Python.Upgrade
import TgWsProxy.Rust.Upgrade

/-!
# The WebSocket upgrade

A server reads the request as it was meant.  Its answer is accepted or refused
by both implementations alike, and the frames begin where the head ends.
-/

namespace TgWsProxy

open Lib

section Written

variable {path domain : List Char}

/-- What is written on a connection is a request, which a server reads back
with its 16 random bytes, and behind it well-formed frames.  Both
implementations write the same request. -/
theorem request_read_back (table : Python.CharTable)
    (int : Python.PyStr → Option Int) (target : IsTarget path)
    (host : IsFieldValue domain) (random : Bytes) (outcome : Nat → LineWait)
    (reader : Python.StreamReader) (frames : Python.Wire.FrameModule)
    (events : List Python.Wire.SessionEvent) (lower : Rust.LowercaseTable)
    (unread : Bytes) :
    ∃ key wire,
      wire = (run (Python.Wire.Session.step frames) Python.Wire.Session.start
        events).ws.wire ∧
      readRequest ((Python.connect table int path domain random outcome
          reader).1 ++ wire) =
        some (⟨"GET".toList, path, "HTTP/1.1".toList,
          upgradeFields domain key⟩, wire) ∧
      base64Decode key = some random ∧ Python.Wire.WellFormed wire ∧
      ∀ behind,
        readRequest ((Rust.connect lower path domain random outcome unread).1 ++
            behind) =
          some (⟨"GET".toList, path, "HTTP/1.1".toList,
            upgradeFields domain key⟩, behind) :=
  ⟨base64Encode random, _, rfl,
    readRequest_upgradeRequest target host (isFieldValue_base64 random) _,
    base64Decode_encode random,
    Python.Wire.wire_wellFormed frames events,
    readRequest_upgradeRequest target host (isFieldValue_base64 random)⟩

/-- A relay header and a chunk of the client. -/
def workerEvents : List Python.Wire.SessionEvent :=
  [.begin ⟨[5, 6], by decide⟩, .upStarts, .downStarts,
    .clientRead (.one ⟨[7], by decide⟩) false]

/-- The request of a worker, and a session which forwards a chunk. -/
theorem request_read_back_worker :
    ∃ key wire,
      wire = (run (Python.Wire.Session.step ⟨none, [1, 2, 3, 4], rfl⟩)
        Python.Wire.Session.start workerEvents).ws.wire ∧
      readRequest ((Python.connect .ascii (fun _ => none)
          "/apiws?dst=149.154.167.220&dc=2".toList "worker.example".toList
          (List.replicate 16 7) (fun _ => .inTime) ⟨[], fun _ => 1⟩).1 ++
            wire) =
        some (⟨"GET".toList, "/apiws?dst=149.154.167.220&dc=2".toList,
          "HTTP/1.1".toList, upgradeFields "worker.example".toList key⟩,
          wire) ∧
      base64Decode key = some (List.replicate 16 7) ∧
      Python.Wire.WellFormed wire ∧
      ∀ behind,
        readRequest ((Rust.connect .ascii
            "/apiws?dst=149.154.167.220&dc=2".toList "worker.example".toList
            (List.replicate 16 7) (fun _ => .inTime) []).1 ++ behind) =
          some (⟨"GET".toList, "/apiws?dst=149.154.167.220&dc=2".toList,
            "HTTP/1.1".toList, upgradeFields "worker.example".toList key⟩,
            behind) :=
  request_read_back .ascii (fun _ => none) ⟨by decide, by decide⟩
    ⟨by decide, trimmed_of_no_blank (by decide) (by decide)⟩ _ _ _ _
    workerEvents .ascii []

end Written

section Answers

variable {int : Python.PyStr → Option Int} {lower : Rust.LowercaseTable}
  {head : ResponseHead} {lineEnd : LineEnd} {outcome : Nat → LineWait}

/-- `int` of a text of ASCII digits. -/
def intOfDigits (digits : Python.PyStr) : Option Int :=
  if digits.all Char.isDigit then
    some (Nat.ofDigitChars 10 digits 0 : Nat)
  else none

theorem intOfDigits_reads : Python.ReadsDigits intOfDigits := by
  intro digits _ decimal _
  exact if_pos (List.all_eq_true.mpr decimal)

def switchingHead : ResponseHead where
  version := "HTTP/1.1".toList
  status := 101
  reason := some "Switching Protocols".toList
  fields := [⟨"Upgrade".toList, " websocket".toList, by decide,
    forall_of_all (by decide), forall_of_all (by decide)⟩]
  named := by decide
  token := forall_of_all (by decide)
  threeDigits := by decide
  text := by
    rintro text ⟨⟩
    exact forall_of_all (by decide)

theorem shortestFor_fits_two : (LengthForm.shortestFor 2).Fits 2 := by decide

theorem shortestFor_fits_none : (LengthForm.shortestFor 0).Fits 0 := by decide

/-- A message and a Close frame. -/
def closingFrames : List WsFrame :=
  [.whole WsFrame.opBinary [2, 3] none WsFrame.unmasked_keySize
      shortestFor_fits_two,
    .whole WsFrame.opClose [] none WsFrame.unmasked_keySize
      shortestFor_fits_none]

theorem closingFrames_unfragmented :
    ∀ frame ∈ closingFrames, frame.fin = true ∧ frame.opcode ≠ 0 := by decide

theorem closingFrames_close : ∃ frame ∈ closingFrames, frame.IsClose := by
  decide

def closingStream : ClosingStream :=
  ⟨closingFrames, closingFrames_unfragmented, closingFrames_close⟩

/-- Python takes the separators `0x1c` to `0x1f` for blanks as well, which no
field holds. -/
theorem sameBlanks {char : Char} (isText : IsFieldText char) :
    Python.isSpace char = Rust.isWhitespace char := by
  rcases isText with low | tab
  · rw [Bool.eq_iff_iff]
    simp only [Python.isSpace, Rust.isWhitespace, Bool.or_eq_true,
      Bool.and_eq_true, decide_eq_true_eq, beq_iff_eq]
    omega
  · rw [tab]
    decide

theorem strip_eq_trim {text : List Char}
    (isText : ∀ char ∈ text, IsFieldText char) :
    Python.PyStr.strip text = Rust.trim text :=
  trimBlanks_eq_of_same fun char member => sameBlanks (isText char member)

theorem readStatusLine_same (head : ResponseHead) :
    head.readStatusLine Python.isSpace =
      head.readStatusLine Rust.isWhitespace := by
  have isText : ∀ char ∈ head.behindStatus, IsFieldText char := by
    intro char member
    rw [ResponseHead.behindStatus] at member
    cases reason : head.reason with
    | none =>
        rw [reason] at member
        cases member
    | some text =>
        rw [reason] at member
        rcases List.mem_cons.mp member with space | inside
        · rw [space]
          exact Or.inl (by decide)
        · exact head.text text reason char inside
  rw [ResponseHead.readStatusLine, ResponseHead.readStatusLine,
    rdropWhile_eq_of_same fun char member => sameBlanks (isText char member)]

theorem locations_same (head : ResponseHead) :
    head.locations.map Python.PyStr.strip = head.locations.map Rust.trim := by
  apply List.map_congr_left
  intro value member
  obtain ⟨field, -, same⟩ := List.mem_map.mp member
  rw [← same]
  exact strip_eq_trim field.text

theorem isRedirect_refusal (table : Python.CharTable) (head : ResponseHead) :
    (Python.refusal table head).isRedirect = decide head.IsRedirect ∧
      (Rust.refusal head).isRedirect = decide head.IsRedirect := by
  have fits : head.status < 2 ^ 16 :=
    Nat.lt_trans head.threeDigits.2 (by decide)
  constructor
  · rw [Python.WsHandshakeError.isRedirect, Bool.eq_iff_iff, decide_eq_true_iff,
      ResponseHead.IsRedirect, List.any_eq_true]
    simp only [Python.refusal, beq_iff_eq, Int.ofNat_eq_natCast, Int.natCast_inj,
      exists_eq_right']
  · rw [Rust.WsHandshakeError.isRedirect, Bool.eq_iff_iff, decide_eq_true_iff,
      ResponseHead.IsRedirect, List.any_eq_true]
    simp only [Rust.refusal, UInt16.toNat_ofNat_of_lt' fits, beq_iff_eq,
      exists_eq_right']

/-- Two locations, of which each tells another one. -/
def movedHead : ResponseHead where
  version := "HTTP/1.1".toList
  status := 302
  reason := none
  fields := [
    ⟨"Location".toList, " /first".toList, by decide,
      forall_of_all (by decide), forall_of_all (by decide)⟩,
    ⟨"location".toList, " /last".toList, by decide,
      forall_of_all (by decide), forall_of_all (by decide)⟩]
  named := by decide
  token := forall_of_all (by decide)
  threeDigits := by decide
  text := nofun

end Answers

section AnyBytes

end AnyBytes

end TgWsProxy
