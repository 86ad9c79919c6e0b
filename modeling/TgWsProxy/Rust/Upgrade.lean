import TgWsProxy.HttpHead
import TgWsProxy.Python.Text
import TgWsProxy.RecvUntilClose
import TgWsProxy.Rust.CfDomains
import TgWsProxy.Rust.ProxyConfig

/-!
# The upgrade in Rust

`RawWebSocket::connect` of `raw_websocket.rs` from the request on.  Each line is
read by `timeout(timeout, reader.read_line(&mut line)).await??`.
-/

namespace TgWsProxy.Rust

open Lib

structure WsHandshakeError where
  statusCode : UInt16
  statusLine : RustStr
  location : Option RustStr

/-- `is_redirect`. -/
def WsHandshakeError.isRedirect (error : WsHandshakeError) : Bool :=
  redirectCodes.any fun code => error.statusCode.toNat == code

/-- What `connect` returns as `Err`.  `read_line` fails with `invalidData` for a
line which is not UTF-8. -/
inductive ConnectError where
  | elapsed
  | connectionLost
  | invalidData
  | emptyResponse
  | handshake (error : WsHandshakeError)

/-- The loop over the lines of the answer. -/
def responseLines (outcome : Nat → LineWait) (lines : List RustStr)
    (unread : Bytes) : Except ConnectError (List RustStr × Bytes) :=
  match outcome lines.length with
  | .timesOut => .error .elapsed
  | .connectionLost => .error .connectionLost
  | .inTime =>
      match utf8Decode (nextLine 0x0A unread) with
      | none => .error .invalidData
      | some line =>
          if _ : unread = [] ∨ trim line = [] then
            .ok (lines, behindLine 0x0A unread)
          else
            responseLines outcome (lines ++ [trim line])
              (behindLine 0x0A unread)
termination_by unread.length
decreasing_by
  apply length_behindLine 0x0A
  rename_i goesOn
  exact fun empty => goesOn (Or.inl empty)

/-- `status_code`. -/
def statusCodeOf (firstLine : RustStr) : UInt16 :=
  match splitAtMost (· == ' ') 2 firstLine with
  | _ :: code :: _ => (parseU16 (String.ofList code)).getD 0
  | _ => 0

/-- What the closure of `find_map` returns for a line. -/
def locationOf (table : LowercaseTable) (line : RustStr) : Option RustStr :=
  match splitAtMost (· == ':') 1 line with
  | [key, value] =>
      if table.toLowercase [] (trim key) = "location".toList then
        some (trim value)
      else none
  | _ => none

/-- `connect` behind the request. -/
def readResponse (table : LowercaseTable) (outcome : Nat → LineWait)
    (unread : Bytes) : Except ConnectError RawWebSocket :=
  match responseLines outcome [] unread with
  | .error error => .error error
  | .ok ([], _) => .error .emptyResponse
  | .ok (firstLine :: others, unread) =>
      let statusCode := statusCodeOf firstLine
      if statusCode = 101 then .ok ⟨false, [], unread, []⟩
      else
        .error (.handshake ⟨statusCode, firstLine,
          others.findSome? (locationOf table)⟩)

/-- `connect` on a connection which has been opened: what it writes, with 16
random bytes, and what it comes to. -/
def connect (table : LowercaseTable) (path domain : RustStr) (random : Bytes)
    (outcome : Nat → LineWait) (unread : Bytes) :
    Bytes × Except ConnectError RawWebSocket :=
  (utf8Encode (upgradeRequest path domain (base64Encode random)),
    readResponse table outcome unread)

/-- What the loop does about a line. -/
def judgeLine (outcome : Nat → LineWait) (count : Nat) (line : Bytes) :
    LineVerdict RustStr ConnectError :=
  match outcome count with
  | .timesOut => .fail .elapsed
  | .connectionLost => .fail .connectionLost
  | .inTime =>
      match utf8Decode line with
      | none => .fail .invalidData
      | some text =>
          if line = [] ∨ trim text = [] then .stop else .keep (trim text)

/-- The table has the small letters of ASCII. -/
def LowercaseTable.LowersAscii (table : LowercaseTable) : Prop :=
  ∀ char : Char, char.toNat < 128 → table.toLower char = [char.toLower]

/-- The letters of ASCII and no others. -/
def LowercaseTable.ascii : LowercaseTable where
  toLower char := if char.toNat < 128 then [char.toLower] else [char]
  cased char := char.isAlpha
  caseIgnorable _ := false
  toLower_ne_nil := by
    intro char
    split <;> exact List.cons_ne_nil _ _
  toLower_settled := by
    intro char notSigma lower member
    by_cases ascii : char.toNat < 128
    · rw [if_pos ascii] at member
      have small := Python.ascii_toLower ascii
      rw [List.mem_singleton.mp member, if_pos small,
        Python.toLower_toLower ascii]
      refine ⟨?_, rfl⟩
      intro sigma
      rw [sigma] at small
      exact absurd small (by decide)
    · rw [if_neg ascii] at member
      rw [List.mem_singleton.mp member, if_neg ascii]
      exact ⟨notSigma, rfl⟩
  toLower_sigma := by decide
  toLower_blank := by
    intro char lower member blank
    by_cases ascii : char.toNat < 128
    · rw [if_pos ascii] at member
      rw [List.mem_singleton.mp member] at blank ⊢
      revert blank
      apply @Python.ascii_cases (fun char =>
        (isWhitespace char.toLower || isDomainSeparator char.toLower) = true →
          char.toLower = char) _ char ascii
      decide +kernel
    · rw [if_neg ascii] at member
      exact List.mem_singleton.mp member

theorem LowercaseTable.ascii_lowersAscii : LowercaseTable.ascii.LowersAscii :=
  fun _ ascii => if_pos ascii

section Upgrade

variable {outcome : Nat → LineWait} {count : Nat} {head : ResponseHead}
  {lineEnd : LineEnd} {table : LowercaseTable}

theorem nextLine_eq_nil {unread : Bytes} :
    nextLine 0x0A unread = [] ↔ unread = [] := by
  rw [nextLine, lineSize, List.take_eq_nil_iff]
  simp

/-- A pass of the loop does what the judge says. -/
theorem responseLines_pass (outcome : Nat → LineWait) (lines : List RustStr)
    (unread : Bytes) :
    responseLines outcome lines unread =
      (judgeLine outcome lines.length (nextLine 0x0A unread)).followed
        (lines, behindLine 0x0A unread)
        fun line =>
          responseLines outcome (lines ++ [line]) (behindLine 0x0A unread) := by
  rw [responseLines, judgeLine]
  cases outcome lines.length with
  | timesOut => rfl
  | connectionLost => rfl
  | inTime =>
      cases utf8Decode (nextLine 0x0A unread) with
      | none => rfl
      | some line =>
          simp only [nextLine_eq_nil]
          by_cases stops : unread = [] ∨ trim line = []
          · rw [dif_pos stops, if_pos stops]
            rfl
          · rw [dif_neg stops, if_neg stops]
            rfl

theorem judgeLine_nil (outcome : Nat → LineWait) (count : Nat)
    (kept : RustStr) : judgeLine outcome count [] ≠ .keep kept := by
  rw [judgeLine]
  cases outcome count <;> nofun

/-- The loop reads a head. -/
theorem responseLines_eq (outcome : Nat → LineWait) (lines : List RustStr)
    (unread : Bytes) :
    responseLines outcome lines unread =
      (readHead 0x0A (judgeLine outcome) lines.length unread).map
        fun read => (lines ++ read.1, read.2) :=
  loop_eq_readHead 0x0A (judgeLine outcome) (responseLines outcome) Prod.mk
    (responseLines_pass outcome) (judgeLine_nil outcome) lines unread

theorem cutsBlanks_isWhitespace : CutsBlanks isWhitespace := by
  refine ⟨?_, by decide, by decide⟩
  intro char visible
  obtain ⟨low, high⟩ := visible
  simp [isWhitespace]
  omega

theorem judgeLine_keep {line : List Char} (waited : outcome count = .inTime)
    (filled : trimBlanks isWhitespace (line ++ (lineEnd.before ++ ['\n'])) ≠
      []) :
    judgeLine outcome count (utf8Encode (line ++ (lineEnd.before ++ ['\n']))) =
      .keep (trimBlanks isWhitespace (line ++ (lineEnd.before ++ ['\n']))) := by
  have goesOn : ¬ (utf8Encode (line ++ (lineEnd.before ++ ['\n'])) = [] ∨
      trim (line ++ (lineEnd.before ++ ['\n'])) = []) := by
    rintro (empty | blank)
    · rw [utf8Encode_append, utf8Encode_append, utf8Encode_newline] at empty
      simp at empty
    · exact filled blank
  rw [judgeLine, waited, utf8Decode_encode]
  simp only [if_neg goesOn]
  rfl

theorem judgeLine_stop (lineEnd : LineEnd) (waited : outcome count = .inTime) :
    judgeLine outcome count (utf8Encode (lineEnd.before ++ ['\n'])) =
      .stop := by
  have blank : trim (lineEnd.before ++ ['\n']) = [] :=
    cutsBlanks_isWhitespace.blank_line lineEnd
  rw [judgeLine, waited, utf8Decode_encode]
  simp only [blank, or_true, if_true]

/-- The head is read to its end. -/
theorem responseLines_head (waited : ∀ count, outcome count = .inTime)
    (head : ResponseHead) (lineEnd : LineEnd) (behind : Bytes) :
    responseLines outcome [] (head.encode lineEnd ++ behind) =
      .ok (head.readLines isWhitespace, behind) := by
  have read := head.read cutsBlanks_isWhitespace lineEnd
    (fun line _ count => judgeLine_keep (waited count))
    (fun count => judgeLine_stop lineEnd (waited count)) 0 behind
  rw [responseLines_eq]
  simp only [List.length_nil, read, Except.map, List.nil_append]

theorem statusCodeOf_head (head : ResponseHead) :
    statusCodeOf (head.readStatusLine isWhitespace) =
      UInt16.ofNat head.status := by
  obtain ⟨more, words⟩ := head.splitAtMost_readStatusLine isWhitespace
  have fits : head.status < 2 ^ 16 :=
    Nat.lt_trans head.threeDigits.2 (by decide)
  have value := parseU16_toString (UInt16.ofNat head.status)
  have text : toString (UInt16.ofNat head.status) =
      String.ofList head.statusText := by
    rw [ResponseHead.statusText, String.ofList_toList]
    change toString (UInt16.ofNat head.status).toNat = _
    rw [UInt16.toNat_ofNat_of_lt' fits]
  rw [text] at value
  rw [statusCodeOf, words]
  simp only [value, Option.getD_some]

theorem toLowercase_ascii (lowers : table.LowersAscii) {text : List Char}
    (ascii : ∀ char ∈ text, char.toNat < 128) (before : List Char) :
    table.toLowercase before text = text.map Char.toLower := by
  induction text generalizing before with
  | nil => rfl
  | cons char text induction =>
      have here := ascii char List.mem_cons_self
      have notSigma : char ≠ 'Σ' := by
        rintro rfl
        exact absurd here (by decide)
      rw [LowercaseTable.toLowercase, LowercaseTable.lowerChar,
        if_neg notSigma, lowers char here, List.map_cons,
        induction fun other member => ascii other (List.mem_cons_of_mem _ member)]
      rfl

theorem locationOf_field (lowers : table.LowersAscii) (field : HeaderField) :
    locationOf table (field.readLine isWhitespace) =
      if field.IsLocation then some (trim field.value) else none := by
  have name : trim field.name = field.name :=
    field.trimBlanks_name cutsBlanks_isWhitespace
  have value : trim (field.value.rdropWhile isWhitespace) = trim field.value :=
    trimBlanks_rdropWhile isWhitespace field.value
  have lowered : table.toLowercase [] field.name =
      field.name.map Char.toLower := by
    apply toLowercase_ascii lowers
    intro char member
    exact Nat.lt_of_le_of_lt (field.token char member).visible.2 (by decide)
  rw [locationOf, field.splitAtMost_readLine]
  simp only [name, value, lowered]
  exact if_congr Iff.rfl rfl rfl

theorem findSome?_location (lowers : table.LowersAscii) (head : ResponseHead) :
    (head.fields.map (·.readLine isWhitespace)).findSome? (locationOf table) =
      (head.locations.map trim).head? := by
  rw [ResponseHead.locations]
  induction head.fields with
  | nil => rfl
  | cons field fields induction =>
      rw [List.map_cons, List.findSome?_cons, locationOf_field lowers,
        induction]
      by_cases isLocation : field.IsLocation
      · simp [isLocation]
      · simp [isLocation]

/-- The error with which an answer is refused. -/
def refusal (head : ResponseHead) : WsHandshakeError where
  statusCode := UInt16.ofNat head.status
  statusLine := head.readStatusLine isWhitespace
  location := (head.locations.map trim).head?

/-- An answer is accepted or refused by its status, and what follows its head
is left to the reader. -/
theorem readResponse_head (lowers : table.LowersAscii)
    (waited : ∀ count, outcome count = .inTime) (head : ResponseHead)
    (lineEnd : LineEnd) (behind : Bytes) :
    readResponse table outcome (head.encode lineEnd ++ behind) =
      if head.status = 101 then .ok ⟨false, [], behind, []⟩
      else .error (.handshake (refusal head)) := by
  have fits : head.status < 2 ^ 16 :=
    Nat.lt_trans head.threeDigits.2 (by decide)
  have switches : UInt16.ofNat head.status = 101 ↔ head.status = 101 := by
    rw [← UInt16.toNat_inj, UInt16.toNat_ofNat_of_lt' fits]
    rfl
  rw [readResponse, responseLines_head waited, ResponseHead.readLines]
  simp only [statusCodeOf_head, findSome?_location lowers, switches]
  rfl

/-- The loop stops at a line of blanks. -/
def EndsHead (line : Bytes) : Prop :=
  ∃ text, utf8Decode line = some text ∧ trim text = []

theorem judgeLine_kept {line : Bytes} {kept : RustStr}
    (judged : judgeLine outcome count line = .keep kept) :
    (∃ text, utf8Decode line = some text ∧ kept = trim text) ∧
      ¬ EndsHead line := by
  rw [judgeLine] at judged
  split at judged
  · cases judged
  · cases judged
  · split at judged
    · cases judged
    · rename_i text decoded
      split at judged
      · cases judged
      · rename_i goesOn
        cases judged
        refine ⟨⟨text, decoded, rfl⟩, ?_⟩
        rintro ⟨other, same, blank⟩
        rw [decoded, Option.some.injEq] at same
        exact goesOn (Or.inr (same ▸ blank))

theorem judgeLine_stopped {line : Bytes}
    (judged : judgeLine outcome count line = .stop) : EndsHead line := by
  rw [judgeLine] at judged
  split at judged
  · cases judged
  · cases judged
  · split at judged
    · cases judged
    · rename_i text decoded
      split at judged
      · rename_i stops
        refine ⟨text, decoded, ?_⟩
        rcases stops with ended | blank
        · rw [ended] at decoded
          cases decoded
          rfl
        · exact blank
      · cases judged

/-- A connection is accepted behind a head with the status 101. -/
theorem readResponse_accepted {unread : Bytes} {ws : RawWebSocket}
    (accepted : readResponse table outcome unread = .ok ws) :
    ws = ⟨false, [], ws.unread, []⟩ ∧
      ∃ firstLine others,
        readHead 0x0A (judgeLine outcome) 0 unread =
          .ok (firstLine :: others, ws.unread) ∧
        statusCodeOf firstLine = 101 := by
  rw [readResponse, responseLines_eq] at accepted
  cases read : readHead 0x0A (judgeLine outcome) 0 unread with
  | error error =>
      simp only [List.length_nil, read, Except.map] at accepted
      cases accepted
  | ok result =>
      obtain ⟨lines, rest⟩ := result
      simp only [List.length_nil, read, Except.map, List.nil_append]
        at accepted
      cases lines with
      | nil => cases accepted
      | cons firstLine others =>
          by_cases switches : statusCodeOf firstLine = 101
          · simp only [if_pos switches] at accepted
            cases accepted
            exact ⟨rfl, firstLine, others, rfl, switches⟩
          · simp only [if_neg switches] at accepted
            cases accepted

end Upgrade

end TgWsProxy.Rust
