import TgWsProxy.HttpHead
import TgWsProxy.Lib.Dictionary
import TgWsProxy.Python.ClientInit
import TgWsProxy.Python.Text
import TgWsProxy.RecvUntilClose

/-!
# The upgrade in Python

`RawWebSocket.connect` of `raw_websocket.py` from the request on.  Each line is
read by `await asyncio.wait_for(reader.readline(), timeout=timeout)`.
-/

namespace TgWsProxy.Python

open Lib

structure WsHandshakeError where
  statusCode : Int
  statusLine : PyStr
  headers : Dictionary PyStr PyStr
  location : Option PyStr

/-- `is_redirect`. -/
def WsHandshakeError.isRedirect (error : WsHandshakeError) : Bool :=
  redirectCodes.any fun code => error.statusCode == Int.ofNat code

/-- What leaves `connect`.  `readline` raises `ValueError` for a line over its
limit. -/
inductive ConnectError where
  | timeout
  | connectionLost
  | valueError
  | handshake (error : WsHandshakeError)

/-- The loop stops at a blank line and at the end of the stream. -/
def EndsHead (line : Bytes) : Prop :=
  line = [0x0D, 0x0A] ∨ line = [0x0A] ∨ line = []

instance (line : Bytes) : Decidable (EndsHead line) :=
  inferInstanceAs (Decidable (_ ∨ _))

theorem readline_shorter {reader later : StreamReader} {line : Bytes}
    (read : reader.readline = some (line, later)) (goesOn : ¬ EndsHead line) :
    later.unread.length < reader.unread.length := by
  rw [StreamReader.readline] at read
  split at read
  · cases read
  · cases read
    apply length_behindLine 0x0A
    intro empty
    rw [empty] at goesOn
    exact goesOn (Or.inr (Or.inr rfl))

/-- The loop over the lines of the answer. -/
def responseLines (outcome : Nat → LineWait) (lines : List PyStr)
    (reader : StreamReader) : Except ConnectError (List PyStr × StreamReader) :=
  match outcome lines.length with
  | .timesOut => .error .timeout
  | .connectionLost => .error .connectionLost
  | .inTime =>
      match _ : reader.readline with
      | none => .error .valueError
      | some (line, later) =>
          if _ : EndsHead line then .ok (lines, later)
          else
            responseLines outcome
              (lines ++ [PyStr.strip (utf8Replace line)]) later
termination_by reader.unread.length
decreasing_by exact readline_shorter (by assumption) (by assumption)

/-- `status_code`; `int` has no value where it raises `ValueError`. -/
def statusCodeOf (int : PyStr → Option Int) (firstLine : PyStr) : Int :=
  match splitAtMost (· == ' ') 2 firstLine with
  | _ :: code :: _ => (int code).getD 0
  | _ => 0

/-- `headers`. -/
def headersOf (table : CharTable) (lines : List PyStr) :
    Dictionary PyStr PyStr :=
  lines.foldl (fun headers hl =>
    match splitAtMost (· == ':') 1 hl with
    | [k, v] => headers.insert (table.lower (PyStr.strip k)) (PyStr.strip v)
    | _ => headers) ∅

/-- What `connect` comes to, and whether it has closed the writer.  The new
`RawWebSocket` has the reader of the connection. -/
structure Connecting where
  result : Except ConnectError (Wire.RawWebSocket × StreamReader)
  writerClosed : Bool

/-- `connect` behind the request. -/
def readResponse (table : CharTable) (int : PyStr → Option Int)
    (outcome : Nat → LineWait) (reader : StreamReader) : Connecting :=
  match responseLines outcome [] reader with
  | .error .timeout => ⟨.error .timeout, true⟩
  | .error error => ⟨.error error, false⟩
  | .ok ([], _) =>
      ⟨.error (.handshake ⟨0, "empty response".toList, ∅, none⟩), true⟩
  | .ok (firstLine :: others, reader) =>
      let statusCode := statusCodeOf int firstLine
      if statusCode = 101 then ⟨.ok (⟨false, []⟩, reader), false⟩
      else
        let headers := headersOf table others
        ⟨.error (.handshake ⟨statusCode, firstLine, headers,
          headers.lookup "location".toList⟩), true⟩

/-- `connect` on a connection which has been opened: what it writes, with 16
random bytes, and what it comes to. -/
def connect (table : CharTable) (int : PyStr → Option Int)
    (path domain : PyStr) (random : Bytes) (outcome : Nat → LineWait)
    (reader : StreamReader) : Bytes × Connecting :=
  (utf8Encode (upgradeRequest path domain (base64Encode random)),
    readResponse table int outcome reader)

/-- What the loop does about a line. -/
def judgeLine (outcome : Nat → LineWait) (count : Nat) (line : Bytes) :
    LineVerdict PyStr ConnectError :=
  match outcome count with
  | .timesOut => .fail .timeout
  | .connectionLost => .fail .connectionLost
  | .inTime =>
      if streamLimit < (line.takeWhile (· ≠ 0x0A)).length then .fail .valueError
      else if EndsHead line then .stop
      else .keep (PyStr.strip (utf8Replace line))

/-- `int` reads a numeral of ASCII digits. -/
def ReadsDigits (int : PyStr → Option Int) : Prop :=
  ∀ digits : PyStr, digits ≠ [] → (∀ char ∈ digits, char.isDigit = true) →
    digits.length ≤ 4300 → int digits = some (Nat.ofDigitChars 10 digits 0 : Nat)

section Upgrade

variable {outcome : Nat → LineWait} {int : PyStr → Option Int} {count : Nat}
  {reader later : StreamReader}

/-- The limit is one of the line which is read. -/
theorem takeWhile_nextLine (items : Bytes) :
    (nextLine 0x0A items).takeWhile (· ≠ 0x0A) =
      items.takeWhile (· ≠ 0x0A) := by
  induction items with
  | nil => rfl
  | cons item items induction =>
      rw [nextLine, lineSize] at induction ⊢
      by_cases ends : item = 0x0A
      · simp [ends]
      · rw [List.takeWhile_cons_of_pos (by simpa using ends), List.length_cons,
          List.take_succ_cons, List.takeWhile_cons_of_pos (by simpa using ends),
          induction]

theorem readline_eq (reader : StreamReader) :
    reader.readline =
      if streamLimit <
          ((nextLine 0x0A reader.unread).takeWhile (· ≠ 0x0A)).length then none
      else some (nextLine 0x0A reader.unread,
        { reader with unread := behindLine 0x0A reader.unread }) := by
  rw [takeWhile_nextLine]
  rfl

/-- A pass of the loop does what the judge says. -/
theorem responseLines_pass (outcome : Nat → LineWait) (lines : List PyStr)
    (reader : StreamReader) :
    responseLines outcome lines reader =
      (judgeLine outcome lines.length (nextLine 0x0A reader.unread)).followed
        (lines, { reader with unread := behindLine 0x0A reader.unread })
        fun line => responseLines outcome (lines ++ [line])
          { reader with unread := behindLine 0x0A reader.unread } := by
  have read := readline_eq reader
  rw [responseLines, judgeLine]
  cases outcome lines.length with
  | timesOut => rfl
  | connectionLost => rfl
  | inTime =>
      by_cases long : streamLimit <
          ((nextLine 0x0A reader.unread).takeWhile (· ≠ 0x0A)).length
      · rw [if_pos long] at read ⊢
        dsimp only
        split
        · rfl
        · rename_i found
          rw [read] at found
          cases found
      · rw [if_neg long] at read ⊢
        dsimp only
        split
        · rename_i found
          rw [read] at found
          cases found
        · rename_i found
          rw [read] at found
          cases found
          by_cases ends : EndsHead (nextLine 0x0A reader.unread)
          · rw [dif_pos ends, if_pos ends]
            rfl
          · rw [dif_neg ends, if_neg ends]
            rfl

theorem judgeLine_nil (outcome : Nat → LineWait) (count : Nat) (kept : PyStr) :
    judgeLine outcome count [] ≠ .keep kept := by
  rw [judgeLine]
  cases outcome count <;> nofun

/-- The loop reads a head. -/
theorem responseLines_eq (outcome : Nat → LineWait) (lines : List PyStr)
    (reader : StreamReader) :
    responseLines outcome lines reader =
      (readHead 0x0A (judgeLine outcome) lines.length reader.unread).map
        fun read => (lines ++ read.1, { reader with unread := read.2 }) :=
  loop_eq_readHead 0x0A (judgeLine outcome)
    (fun lines unread => responseLines outcome lines ⟨unread, reader.arrived⟩)
    (fun lines unread => (lines, ⟨unread, reader.arrived⟩))
    (fun lines unread =>
      responseLines_pass outcome lines ⟨unread, reader.arrived⟩)
    (judgeLine_nil outcome) lines reader.unread

theorem cutsBlanks_isSpace : CutsBlanks isSpace := by
  refine ⟨?_, by decide, by decide⟩
  intro char visible
  obtain ⟨low, high⟩ := visible
  simp [isSpace]
  omega

/-- No line is over the limit of the reader. -/
def WithinLimit (head : ResponseHead) (lineEnd : LineEnd) : Prop :=
  ∀ line ∈ head.lines,
    (ResponseHead.lineBytes lineEnd line).length ≤ streamLimit

instance (head : ResponseHead) (lineEnd : LineEnd) :
    Decidable (WithinLimit head lineEnd) :=
  inferInstanceAs (Decidable (∀ line ∈ head.lines, _))

theorem judgeLine_keep {head : ResponseHead} {lineEnd : LineEnd}
    {line : List Char} (waited : outcome count = .inTime)
    (within : WithinLimit head lineEnd) (member : line ∈ head.lines)
    (filled : trimBlanks isSpace (line ++ (lineEnd.before ++ ['\n'])) ≠ []) :
    judgeLine outcome count (utf8Encode (line ++ (lineEnd.before ++ ['\n']))) =
      .keep (trimBlanks isSpace (line ++ (lineEnd.before ++ ['\n']))) := by
  have goesOn :
      ¬ EndsHead (utf8Encode (line ++ (lineEnd.before ++ ['\n']))) := by
    intro ends
    have blank : ∀ bytes, EndsHead bytes →
        trimBlanks isSpace (utf8Replace bytes) = [] := by
      rintro bytes (rfl | rfl | rfl) <;> decide +kernel
    apply filled
    have cut := blank _ ends
    rw [utf8Replace_encode] at cut
    exact cut
  have short : ¬ streamLimit <
      ((utf8Encode (line ++ (lineEnd.before ++ ['\n']))).takeWhile
        (· ≠ 0x0A)).length := by
    have noEnd := ResponseHead.newline_not_mem_lineBytes lineEnd
      (head.oneLine_lines line member)
    have upToEnd := lineSize_text noEnd []
    rw [lineSize, Nat.add_right_cancel_iff] at upToEnd
    rw [← ResponseHead.lineBytes_newline, upToEnd]
    exact Nat.not_lt.mpr (within line member)
  rw [judgeLine, waited]
  simp only [if_neg short, if_neg goesOn, utf8Replace_encode]
  rfl

theorem judgeLine_stop (lineEnd : LineEnd) (waited : outcome count = .inTime) :
    judgeLine outcome count (utf8Encode (lineEnd.before ++ ['\n'])) =
      .stop := by
  have short : ¬ streamLimit < ((utf8Encode
      (lineEnd.before ++ ['\n'])).takeWhile (· ≠ 0x0A)).length := by
    cases lineEnd <;> decide
  have ends : EndsHead (utf8Encode (lineEnd.before ++ ['\n'])) := by
    cases lineEnd <;> decide
  rw [judgeLine, waited]
  simp only [if_neg short, if_pos ends]

/-- The head is read to its end. -/
theorem responseLines_head {head : ResponseHead} {lineEnd : LineEnd}
    (waited : ∀ count, outcome count = .inTime)
    (within : WithinLimit head lineEnd) (behind : Bytes)
    (arrived : Nat → Nat) :
    responseLines outcome [] ⟨head.encode lineEnd ++ behind, arrived⟩ =
      .ok (head.readLines isSpace, ⟨behind, arrived⟩) := by
  have read := head.read cutsBlanks_isSpace lineEnd
    (fun line member count => judgeLine_keep (waited count) within member)
    (fun count => judgeLine_stop lineEnd (waited count)) 0 behind
  rw [responseLines_eq]
  simp only [List.length_nil, read, Except.map, List.nil_append]

theorem statusCodeOf_head (reads : ReadsDigits int) (head : ResponseHead) :
    statusCodeOf int (head.readStatusLine isSpace) = head.status := by
  obtain ⟨more, words⟩ := head.splitAtMost_readStatusLine isSpace
  have short := Nat.le_trans head.length_statusText (show 3 ≤ 4300 by decide)
  have value := reads _ head.statusText_ne_nil head.digits short
  rw [statusCodeOf, words]
  simp only [value]
  exact congrArg Int.ofNat (ofDigitChars_toString head.status)

/-- The field as it is put into the dictionary. -/
def headerItem (field : HeaderField) : PyStr × PyStr :=
  (field.name.map Char.toLower, PyStr.strip field.value)

theorem headersOf_fields (table : CharTable) (fields : List HeaderField) :
    headersOf table (fields.map (·.readLine isSpace)) =
      Dictionary.setItems ∅ (fields.map headerItem) := by
  have lowered (field : HeaderField) :
      table.lower field.name = field.name.map Char.toLower := by
    apply table.lower_ascii
    intro char member
    exact Nat.lt_of_le_of_lt (field.token char member).visible.2 (by decide)
  have item (headers : Dictionary PyStr PyStr) (field : HeaderField) :
      (match splitAtMost (· == ':') 1 (field.readLine isSpace) with
        | [k, v] => headers.insert (table.lower (PyStr.strip k)) (PyStr.strip v)
        | _ => headers) =
      headers.insert (headerItem field).1 (headerItem field).2 := by
    rw [field.splitAtMost_readLine]
    simp only [PyStr.strip, field.trimBlanks_name cutsBlanks_isSpace, lowered,
      trimBlanks_rdropWhile, headerItem]
  rw [headersOf, Dictionary.setItems, List.foldl_map, List.foldl_map]
  congr 1
  funext headers field
  exact item headers field

theorem lookup_location (table : CharTable) (head : ResponseHead) :
    (headersOf table (head.fields.map (·.readLine isSpace))).lookup
        "location".toList =
      (head.locations.map PyStr.strip).getLast? := by
  rw [headersOf_fields, Dictionary.lookup_setItems_getLast, AList.lookup_empty,
    Option.or_none, List.filter_map, List.map_map, ResponseHead.locations,
    List.map_map]
  rfl

/-- The error with which an answer is refused. -/
def refusal (table : CharTable) (head : ResponseHead) : WsHandshakeError where
  statusCode := head.status
  statusLine := head.readStatusLine isSpace
  headers := headersOf table (head.fields.map (·.readLine isSpace))
  location := (head.locations.map PyStr.strip).getLast?

/-- An answer is accepted or refused by its status, and what follows its head
is left to the reader. -/
theorem readResponse_head (table : CharTable) (reads : ReadsDigits int)
    {head : ResponseHead} {lineEnd : LineEnd}
    (waited : ∀ count, outcome count = .inTime)
    (within : WithinLimit head lineEnd) (behind : Bytes)
    (arrived : Nat → Nat) :
    readResponse table int outcome ⟨head.encode lineEnd ++ behind, arrived⟩ =
      if head.status = 101 then ⟨.ok (⟨false, []⟩, ⟨behind, arrived⟩), false⟩
      else ⟨.error (.handshake (refusal table head)), true⟩ := by
  rw [readResponse, responseLines_head waited within, ResponseHead.readLines]
  simp only [statusCodeOf_head reads, lookup_location]
  by_cases switching : head.status = 101
  · rw [if_pos switching, if_pos (by rw [switching]; rfl)]
  · rw [if_neg switching, if_neg (by omega)]
    rfl

theorem judgeLine_kept {line : Bytes} {kept : PyStr}
    (judged : judgeLine outcome count line = .keep kept) :
    kept = PyStr.strip (utf8Replace line) ∧ ¬ EndsHead line := by
  rw [judgeLine] at judged
  split at judged
  · cases judged
  · cases judged
  · split at judged
    · cases judged
    · split at judged
      · cases judged
      · rename_i goesOn
        cases judged
        exact ⟨rfl, goesOn⟩

theorem judgeLine_stopped {line : Bytes}
    (judged : judgeLine outcome count line = .stop) : EndsHead line := by
  rw [judgeLine] at judged
  split at judged
  · cases judged
  · cases judged
  · split at judged
    · cases judged
    · split at judged
      · assumption
      · cases judged

/-- A connection is accepted behind a head with the status 101. -/
theorem readResponse_accepted {table : CharTable} {ws : Wire.RawWebSocket}
    {closed : Bool}
    (accepted : readResponse table int outcome reader =
      ⟨.ok (ws, later), closed⟩) :
    ws = ⟨false, []⟩ ∧ closed = false ∧
      ∃ firstLine others,
        readHead 0x0A (judgeLine outcome) 0 reader.unread =
          .ok (firstLine :: others, later.unread) ∧
        statusCodeOf int firstLine = 101 := by
  rw [readResponse, responseLines_eq] at accepted
  cases read : readHead 0x0A (judgeLine outcome) 0 reader.unread with
  | error error =>
      simp only [List.length_nil, read, Except.map] at accepted
      cases error <;> cases accepted
  | ok result =>
      obtain ⟨lines, rest⟩ := result
      simp only [List.length_nil, read, Except.map, List.nil_append]
        at accepted
      cases lines with
      | nil => cases accepted
      | cons firstLine others =>
          by_cases switches : statusCodeOf int firstLine = 101
          · simp only [if_pos switches] at accepted
            cases accepted
            exact ⟨rfl, rfl, firstLine, others, rfl, switches⟩
          · simp only [if_neg switches] at accepted
            cases accepted

end Upgrade

end TgWsProxy.Python
