import TgWsProxy.Bytes
import TgWsProxy.Lib.Base64
import TgWsProxy.Lib.HeadReader
import TgWsProxy.Lib.Text
import TgWsProxy.Lib.Utf8

/-!
# The heads of the WebSocket upgrade

The request which both implementations write, how a server reads it, and the
answers which a server may give.
-/

namespace TgWsProxy

open Lib

/-- The lines of `req` in `connect`. -/
def requestLines (path domain wsKey : List Char) : List (List Char) :=
  ["GET ".toList ++ path ++ " HTTP/1.1".toList,
    "Host: ".toList ++ domain,
    "Upgrade: websocket".toList,
    "Connection: Upgrade".toList,
    "Sec-WebSocket-Key: ".toList ++ wsKey,
    "Sec-WebSocket-Version: 13".toList,
    "Sec-WebSocket-Protocol: binary".toList,
    []]

/-- `req`, of which each line ends with `\r\n`. -/
def upgradeRequest (path domain wsKey : List Char) : List Char :=
  ((requestLines path domain wsKey).map (· ++ ['\r', '\n'])).flatten

/-- How a read under a time limit ends. -/
inductive LineWait where
  | inTime
  | timesOut
  | connectionLost
deriving DecidableEq, Repr

/-- The status codes of `is_redirect`. -/
def redirectCodes : List Nat := [301, 302, 303, 307, 308]

/-! ## The server's side of the request -/

structure HttpRequest where
  method : List Char
  target : List Char
  version : List Char
  fields : List (List Char × List Char)
deriving DecidableEq, Repr

/-- The blanks around the value of a field. -/
def isFieldBlank (char : Char) : Bool := char == ' ' || char == '\t'

/-- A line of a head, which ends with `\r\n`. -/
def requestLine (_ : Nat) (line : Bytes) : LineVerdict (List Char) Unit :=
  match (utf8Decode line).map List.reverse with
  | some ['\n', '\r'] => .stop
  | some ('\n' :: '\r' :: text) => .keep text.reverse
  | _ => .fail ()

def readHeaderField (line : List Char) : Option (List Char × List Char) :=
  match splitAtMost (· == ':') 1 line with
  | [name, value] => some (name, trimBlanks isFieldBlank value)
  | _ => none

/-- A request, and what follows its head. -/
def readRequest (stream : Bytes) : Option (HttpRequest × Bytes) :=
  match readHead 0x0A requestLine 0 stream with
  | .ok (first :: lines, rest) =>
      match first.splitOnP (· == ' '), lines.mapM readHeaderField with
      | [method, target, version], some fields =>
          some (⟨method, target, version, fields⟩, rest)
      | _, _ => none
  | _ => none

/-- A text within one line. -/
def OneLine (text : List Char) : Prop := '\n' ∉ text

instance (text : List Char) : Decidable (OneLine text) :=
  inferInstanceAs (Decidable ('\n' ∉ text))

section Request

variable {path domain wsKey text name value : List Char}

theorem newline_not_mem_utf8Encode (oneLine : OneLine text) :
    0x0A ∉ utf8Encode text := by
  intro member
  exact oneLine (toNat_mem_utf8Encode member (by decide))

theorem utf8Encode_newline : utf8Encode ['\n'] = [0x0A] := by decide

theorem requestLine_stop (count : Nat) :
    requestLine count (utf8Encode ['\r'] ++ [0x0A]) = .stop := by
  rw [← utf8Encode_newline, ← utf8Encode_append, requestLine,
    utf8Decode_encode]
  rfl

theorem requestLine_keep (filled : text ≠ []) (count : Nat) :
    requestLine count (utf8Encode (text ++ ['\r']) ++ [0x0A]) =
      .keep text := by
  rw [← utf8Encode_newline, ← utf8Encode_append, requestLine,
    utf8Decode_encode, Option.map_some, List.append_assoc,
    List.reverse_append]
  obtain ⟨last, others, same⟩ := List.exists_cons_of_ne_nil
    (List.reverse_ne_nil_iff.mpr filled)
  have back : text = (last :: others).reverse := by
    rw [← same, List.reverse_reverse]
  rw [same, back]
  rfl

theorem beq_of_not_mem {char : Char} (absent : char ∉ text) :
    ∀ other ∈ text, (other == char) = false := by
  intro other member
  apply beq_eq_false_iff_ne.mpr
  rintro rfl
  exact absent member

theorem isFieldBlank_iff {char : Char} :
    isFieldBlank char = true ↔ char = ' ' ∨ char = '\t' := by
  rw [isFieldBlank, Bool.or_eq_true, beq_iff_eq, beq_iff_eq]

/-- A text without blanks has none at its ends. -/
theorem trimmed_of_no_blank (noSpace : ' ' ∉ text) (noTab : '\t' ∉ text) :
    Trimmed isFieldBlank text := by
  have dark (char : Char) (member : char ∈ text) :
      isFieldBlank char = false := by
    apply Bool.eq_false_iff.mpr
    intro blank
    rcases isFieldBlank_iff.mp blank with rfl | rfl
    · exact noSpace member
    · exact noTab member
  constructor
  · exact fun first found => dark first (List.mem_of_head? found)
  · exact fun last found => dark last (List.mem_of_getLast? found)

theorem readHeaderField_line (noColon : ':' ∉ name)
    (trimmed : Trimmed isFieldBlank value) :
    readHeaderField (name ++ ':' :: ' ' :: value) = some (name, value) := by
  have blank : ∀ char ∈ [' '], isFieldBlank char = true := by
    intro char member
    exact isFieldBlank_iff.mpr (Or.inl (List.mem_singleton.mp member))
  have value' : trimBlanks isFieldBlank (' ' :: value) = value :=
    (trimBlanks_append_left blank value).trans (trimBlanks_eq_self trimmed)
  rw [readHeaderField,
    splitAtMost_cons (beq_of_not_mem noColon) (beq_self_eq_true _)]
  simp only [splitAtMost, value']

/-- The fields of the request. -/
def upgradeFields (domain wsKey : List Char) : List (List Char × List Char) :=
  [("Host".toList, domain), ("Upgrade".toList, "websocket".toList),
    ("Connection".toList, "Upgrade".toList),
    ("Sec-WebSocket-Key".toList, wsKey),
    ("Sec-WebSocket-Version".toList, "13".toList),
    ("Sec-WebSocket-Protocol".toList, "binary".toList)]

def fieldLine (field : List Char × List Char) : List Char :=
  field.1 ++ ':' :: ' ' :: field.2

def requestTarget (path : List Char) : List Char :=
  "GET".toList ++ ' ' :: (path ++ ' ' :: "HTTP/1.1".toList)

/-- The bytes of lines which end with `\r\n`, by their `\n`. -/
theorem utf8Encode_lines (lines : List (List Char)) :
    utf8Encode (lines.map (· ++ ['\r', '\n'])).flatten =
      endLines 0x0A (lines.map fun line => utf8Encode (line ++ ['\r'])) := by
  induction lines with
  | nil => rfl
  | cons line lines induction =>
      have here : line ++ ['\r', '\n'] = (line ++ ['\r']) ++ ['\n'] := by
        rw [List.append_assoc]
        rfl
      rw [List.map_cons, List.flatten_cons, utf8Encode_append, induction, here,
        utf8Encode_append, utf8Encode_newline, List.map_cons, endLines_cons,
        ← List.append_cons]

theorem requestLines_eq (path domain wsKey : List Char) :
    requestLines path domain wsKey =
      requestTarget path :: (upgradeFields domain wsKey).map fieldLine ++
        [[]] := by
  have get : "GET ".toList = "GET".toList ++ [' '] := by decide
  have target : "GET ".toList ++ path ++ " HTTP/1.1".toList =
      requestTarget path := by
    rw [get, List.append_assoc, List.append_assoc]
    rfl
  simp only [requestLines, upgradeFields, List.map_cons, List.map_nil,
    List.cons_append, List.nil_append, List.cons.injEq, and_true]
  exact ⟨target, rfl, by decide, by decide, rfl, by decide, by decide⟩

/-- A path which a request line can carry. -/
def IsTarget (path : List Char) : Prop := ' ' ∉ path ∧ '\n' ∉ path

instance (path : List Char) : Decidable (IsTarget path) :=
  inferInstanceAs (Decidable (_ ∧ _))

/-- A text which the value of a field can carry. -/
structure IsFieldValue (text : List Char) : Prop where
  oneLine : OneLine text
  trimmed : Trimmed isFieldBlank text

theorem readTarget (target : IsTarget path) :
    (requestTarget path).splitOnP (· == ' ') =
      ["GET".toList, path, "HTTP/1.1".toList] := by
  have method : ' ' ∉ "GET".toList := by decide
  have version : ' ' ∉ "HTTP/1.1".toList := by decide
  rw [requestTarget,
    List.splitOnP_append_cons_of_forall_mem (beq_of_not_mem method) ' '
      (beq_self_eq_true _),
    List.splitOnP_append_cons_of_forall_mem (beq_of_not_mem target.1) ' '
      (beq_self_eq_true _),
    List.splitOnP_eq_singleton (beq_of_not_mem version)]

/-- A line of the request is read as it was written. -/
theorem requestLine_kept (filled : text ≠ []) (oneLine : OneLine text) :
    0x0A ∉ utf8Encode (text ++ ['\r']) ∧
      ∀ count, requestLine count (utf8Encode (text ++ ['\r']) ++ [0x0A]) =
        .keep text := by
  refine ⟨newline_not_mem_utf8Encode ?_, requestLine_keep filled⟩
  intro member
  rcases List.mem_append.mp member with inside | last
  · exact oneLine inside
  · exact absurd last (by decide)

theorem OneLine.append (front : OneLine name) (back : OneLine value) :
    OneLine (name ++ value) := by
  intro member
  rcases List.mem_append.mp member with inside | behind
  · exact front inside
  · exact back behind

theorem OneLine.cons {char : Char} (plain : '\n' ≠ char)
    (oneLine : OneLine text) : OneLine (char :: text) := by
  intro member
  rcases List.mem_cons.mp member with here | behind
  · exact plain here
  · exact oneLine behind

theorem oneLine_requestTarget (target : IsTarget path) :
    OneLine (requestTarget path) := by
  have method : OneLine "GET".toList := by decide
  have version : OneLine "HTTP/1.1".toList := by decide
  have path' : OneLine path := target.2
  exact method.append (.cons (by decide)
    (path'.append (.cons (by decide) version)))

theorem upgradeFields_read (host : IsFieldValue domain)
    (key : IsFieldValue wsKey) :
    ∀ field ∈ upgradeFields domain wsKey,
      OneLine field.1 ∧ ':' ∉ field.1 ∧ IsFieldValue field.2 := by
  have websocket : IsFieldValue "websocket".toList :=
    ⟨by decide, trimmed_of_no_blank (by decide) (by decide)⟩
  have upgrade : IsFieldValue "Upgrade".toList :=
    ⟨by decide, trimmed_of_no_blank (by decide) (by decide)⟩
  have thirteen : IsFieldValue "13".toList :=
    ⟨by decide, trimmed_of_no_blank (by decide) (by decide)⟩
  have binary : IsFieldValue "binary".toList :=
    ⟨by decide, trimmed_of_no_blank (by decide) (by decide)⟩
  simp only [upgradeFields, List.forall_mem_cons]
  refine ⟨⟨?_, ?_, host⟩, ⟨?_, ?_, websocket⟩, ⟨?_, ?_, upgrade⟩,
    ⟨?_, ?_, key⟩, ⟨?_, ?_, thirteen⟩, ⟨?_, ?_, binary⟩, by simp⟩ <;> decide

theorem mapM_readHeaderField {fields : List (List Char × List Char)}
    (read : ∀ field ∈ fields,
      readHeaderField (fieldLine field) = some field) :
    (fields.map fieldLine).mapM readHeaderField = some fields := by
  induction fields with
  | nil => rfl
  | cons field fields induction =>
      have later := induction
        fun other member => read other (List.mem_cons_of_mem field member)
      rw [List.map_cons, List.mapM_cons, read field List.mem_cons_self, later]
      rfl

/-- A server reads back the request and finds what is written behind it. -/
theorem readRequest_upgradeRequest (target : IsTarget path)
    (host : IsFieldValue domain) (key : IsFieldValue wsKey) (behind : Bytes) :
    readRequest (utf8Encode (upgradeRequest path domain wsKey) ++ behind) =
      some (⟨"GET".toList, path, "HTTP/1.1".toList,
        upgradeFields domain wsKey⟩, behind) := by
  have fields := upgradeFields_read host key
  have kept : List.Forall₂ (fun text line => 0x0A ∉ text ∧
      ∀ count, requestLine count (text ++ [0x0A]) = .keep line)
      ((requestTarget path :: (upgradeFields domain wsKey).map fieldLine).map
        fun line => utf8Encode (line ++ ['\r']))
      (requestTarget path :: (upgradeFields domain wsKey).map fieldLine) := by
    rw [List.forall₂_map_left_iff]
    apply List.forall₂_same.mpr
    intro line member
    rcases List.mem_cons.mp member with first | later
    · rw [first]
      exact requestLine_kept (by simp [requestTarget])
        (oneLine_requestTarget target)
    · obtain ⟨field, isField, same⟩ := List.mem_map.mp later
      obtain ⟨name, -, value⟩ := fields field isField
      rw [← same]
      exact requestLine_kept (by simp [fieldLine])
        (name.append (.cons (by decide) (.cons (by decide) value.oneLine)))
  have blank : 0x0A ∉ utf8Encode ['\r'] := by decide
  have read := readHead_endLines kept blank requestLine_stop 0 behind
  have whole : utf8Encode (upgradeRequest path domain wsKey) ++ behind =
      endLines 0x0A ((requestTarget path ::
        (upgradeFields domain wsKey).map fieldLine).map
          fun line => utf8Encode (line ++ ['\r'])) ++
        (utf8Encode ['\r'] ++ 0x0A :: behind) := by
    rw [upgradeRequest, requestLines_eq, List.map_append, List.flatten_append,
      utf8Encode_append, utf8Encode_lines]
    have last : utf8Encode ([([] : List Char)].map
        (· ++ ['\r', '\n'])).flatten = utf8Encode ['\r'] ++ [0x0A] := by
      decide
    rw [last, List.append_assoc, List.append_assoc, List.singleton_append]
  have fieldsRead : ∀ field ∈ upgradeFields domain wsKey,
      readHeaderField (fieldLine field) = some field := by
    intro field member
    obtain ⟨-, noColon, value⟩ := fields field member
    exact readHeaderField_line noColon value.trimmed
  rw [readRequest, whole, read]
  simp only [readTarget target, mapM_readHeaderField fieldsRead]

/-- A key of Base64 is a value, and gives its bytes back. -/
theorem isFieldValue_base64 (bytes : Bytes) :
    IsFieldValue (base64Encode bytes) := by
  have absent (char : Char) (foreign : ¬ IsBase64 char) :
      char ∉ base64Encode bytes :=
    fun member => foreign (mem_base64Encode member)
  exact ⟨absent '\n' (by decide),
    trimmed_of_no_blank (absent ' ' (by decide)) (absent '\t' (by decide))⟩

end Request

/-! ## The answers of a server -/

/-- No control character but the tab. -/
def IsFieldText (char : Char) : Prop := 0x20 ≤ char.toNat ∨ char = '\t'

instance (char : Char) : Decidable (IsFieldText char) :=
  inferInstanceAs (Decidable (_ ∨ _))

def IsVisible (char : Char) : Prop := 0x21 ≤ char.toNat ∧ char.toNat ≤ 0x7E

instance (char : Char) : Decidable (IsVisible char) :=
  inferInstanceAs (Decidable (_ ∧ _))

/-- What names and versions are made of. -/
structure IsToken (char : Char) : Prop where
  visible : IsVisible char
  noColon : char ≠ ':'

instance (char : Char) : Decidable (IsToken char) :=
  decidable_of_iff (IsVisible char ∧ char ≠ ':')
    ⟨fun both => ⟨both.1, both.2⟩, fun token => ⟨token.visible, token.noColon⟩⟩

/-- A property of the characters of a text, checked one after the other. -/
theorem forall_of_all {property : Char → Prop} [DecidablePred property]
    {text : List Char} (all : (text.all fun char => property char) = true) :
    ∀ char ∈ text, property char :=
  fun char member => of_decide_eq_true (List.all_eq_true.mp all char member)

structure HeaderField where
  name : List Char
  value : List Char
  named : name ≠ []
  token : ∀ char ∈ name, IsToken char
  text : ∀ char ∈ value, IsFieldText char

def HeaderField.line (field : HeaderField) : List Char :=
  field.name ++ ':' :: field.value

/-- The name in small letters is `location`. -/
def HeaderField.IsLocation (field : HeaderField) : Prop :=
  field.name.map Char.toLower = "location".toList

instance (field : HeaderField) : Decidable field.IsLocation :=
  inferInstanceAs (Decidable (_ = _))

/-- An answer with a status of three digits. -/
structure ResponseHead where
  version : List Char
  status : Nat
  reason : Option (List Char)
  fields : List HeaderField
  named : version ≠ []
  token : ∀ char ∈ version, IsToken char
  threeDigits : 100 ≤ status ∧ status < 1000
  text : ∀ reason' ∈ reason, ∀ char ∈ reason', IsFieldText char

inductive LineEnd where
  | crlf
  | lf
deriving DecidableEq, Repr

/-- What a line ends with before `\n`. -/
def LineEnd.before : LineEnd → List Char
  | .crlf => ['\r']
  | .lf => []

namespace ResponseHead

def statusText (head : ResponseHead) : List Char :=
  (toString head.status).toList

/-- What stands behind the status in the status line. -/
def behindStatus (head : ResponseHead) : List Char :=
  match head.reason with
  | none => []
  | some reason => ' ' :: reason

def statusLine (head : ResponseHead) : List Char :=
  head.version ++ ' ' :: (head.statusText ++ head.behindStatus)

def lines (head : ResponseHead) : List (List Char) :=
  head.statusLine :: head.fields.map HeaderField.line

def locations (head : ResponseHead) : List (List Char) :=
  (head.fields.filter (·.IsLocation)).map (·.value)

def IsRedirect (head : ResponseHead) : Prop := head.status ∈ redirectCodes

instance (head : ResponseHead) : Decidable head.IsRedirect :=
  inferInstanceAs (Decidable (_ ∈ _))

/-- The bytes of a line before its `\n`. -/
def lineBytes (lineEnd : LineEnd) (line : List Char) : Bytes :=
  utf8Encode (line ++ lineEnd.before)

def encode (head : ResponseHead) (lineEnd : LineEnd) : Bytes :=
  endLines 0x0A (head.lines.map (lineBytes lineEnd)) ++
    (utf8Encode lineEnd.before ++ [0x0A])

end ResponseHead

/-- The blanks which an implementation cuts from the ends of a line. -/
structure CutsBlanks (blank : Char → Bool) : Prop where
  visible : ∀ char, IsVisible char → blank char = false
  lineEnd : blank '\r' = true ∧ blank '\n' = true

section Response

variable {blank : Char → Bool} {head : ResponseHead} {field : HeaderField}
  {line text front tail : List Char}

theorem IsVisible.ne_space {char : Char} (visible : IsVisible char) :
    (char == ' ') = false := by
  apply beq_eq_false_iff_ne.mpr
  rintro rfl
  exact absurd visible.1 (by decide)

theorem isVisible_of_isDigit {char : Char} (digit : char.isDigit = true) :
    IsVisible char := by
  have low : 48 ≤ char.toNat := by
    simp only [Char.isDigit, Bool.and_eq_true, decide_eq_true_eq, ge_iff_le,
      UInt32.le_iff_toNat_le] at digit
    exact digit.1
  have high : char.toNat ≤ 57 := by
    simp only [Char.isDigit, Bool.and_eq_true, decide_eq_true_eq, ge_iff_le,
      UInt32.le_iff_toNat_le] at digit
    exact digit.2
  exact ⟨Nat.le_trans (by decide) low, Nat.le_trans high (by decide)⟩

theorem oneLine_of_text (isText : ∀ char ∈ text, IsFieldText char) :
    OneLine text := by
  intro member
  rcases isText _ member with low | tab
  · exact absurd low (by decide)
  · exact absurd tab (by decide)

theorem oneLine_of_visible (visible : ∀ char ∈ text, IsVisible char) :
    OneLine text :=
  fun member => absurd (visible _ member).1 (by decide)

namespace ResponseHead

theorem digits (head : ResponseHead) :
    ∀ char ∈ head.statusText, char.isDigit = true :=
  fun _ => isDigit_of_mem_toString

theorem statusText_ne_nil (head : ResponseHead) : head.statusText ≠ [] := by
  intro empty
  have value := ofDigitChars_toString head.status
  have positive := head.threeDigits.1
  rw [← statusText, empty, Nat.ofDigitChars_nil] at value
  omega

theorem length_statusText (head : ResponseHead) :
    head.statusText.length ≤ 3 := by
  rw [statusText, String.length_toList]
  exact (Nat.length_repr_le_iff (by decide)).mpr head.threeDigits.2

theorem oneLine_lines (head : ResponseHead) :
    ∀ line ∈ head.lines, OneLine line := by
  intro line member
  rcases List.mem_cons.mp member with first | later
  · have version : OneLine head.version :=
      oneLine_of_visible fun char member => (head.token char member).visible
    have status : OneLine head.statusText := oneLine_of_visible
      fun char member => isVisible_of_isDigit (head.digits char member)
    have behind : OneLine head.behindStatus := by
      rw [behindStatus]
      cases reason : head.reason with
      | none => exact fun member => nomatch member
      | some text =>
          exact .cons (by decide) (oneLine_of_text (head.text text reason))
    rw [first, statusLine]
    exact version.append (.cons (by decide) (status.append behind))
  · obtain ⟨field, -, same⟩ := List.mem_map.mp later
    have name : OneLine field.name :=
      oneLine_of_visible fun char member => (field.token char member).visible
    rw [← same, HeaderField.line]
    exact name.append (.cons (by decide) (oneLine_of_text field.text))

theorem oneLine_before (lineEnd : LineEnd) : OneLine lineEnd.before := by
  cases lineEnd <;> decide

/-- The bytes of a line up to and with its `\n`. -/
theorem lineBytes_newline (lineEnd : LineEnd) (line : List Char) :
    lineBytes lineEnd line ++ [0x0A] =
      utf8Encode (line ++ (lineEnd.before ++ ['\n'])) := by
  rw [lineBytes, ← utf8Encode_newline, ← utf8Encode_append, List.append_assoc]

theorem newline_not_mem_lineBytes (lineEnd : LineEnd)
    (oneLine : OneLine line) : 0x0A ∉ lineBytes lineEnd line :=
  newline_not_mem_utf8Encode (oneLine.append (oneLine_before lineEnd))

end ResponseHead

theorem CutsBlanks.ends (blanks : CutsBlanks blank) (lineEnd : LineEnd) :
    ∀ char ∈ lineEnd.before ++ ['\n'], blank char = true := by
  intro char member
  cases lineEnd with
  | crlf =>
      rcases List.mem_cons.mp member with same | later
      · rw [same]
        exact blanks.lineEnd.1
      · rw [List.mem_singleton.mp later]
        exact blanks.lineEnd.2
  | lf =>
      rw [List.mem_singleton.mp member]
      exact blanks.lineEnd.2

/-- A line whose front has no blank at its ends, without what it ends with. -/
theorem CutsBlanks.cutLine (blanks : CutsBlanks blank) (filled : front ≠ [])
    (trimmed : Trimmed blank front) (tail : List Char) (lineEnd : LineEnd) :
    trimBlanks blank (front ++ tail ++ (lineEnd.before ++ ['\n'])) =
      front ++ tail.rdropWhile blank := by
  rw [trimBlanks_append_right (blanks.ends lineEnd),
    trimBlanks_of_front filled trimmed]

theorem CutsBlanks.trimmed (blanks : CutsBlanks blank)
    (visible : ∀ char ∈ text, IsVisible char) : Trimmed blank text := by
  constructor
  · intro first found
    exact blanks.visible first (visible first (List.mem_of_head? found))
  · intro last found
    exact blanks.visible last (visible last (List.mem_of_getLast? found))

theorem CutsBlanks.blank_line (blanks : CutsBlanks blank) (lineEnd : LineEnd) :
    trimBlanks blank (lineEnd.before ++ ['\n']) = [] :=
  trimBlanks_append_right (blanks.ends lineEnd) []

namespace ResponseHead

/-- The status line as it is read. -/
def readStatusLine (head : ResponseHead) (blank : Char → Bool) : List Char :=
  head.version ++ ' ' :: (head.statusText ++ head.behindStatus.rdropWhile blank)

theorem trimBlanks_statusLine (blanks : CutsBlanks blank) (head : ResponseHead)
    (lineEnd : LineEnd) :
    trimBlanks blank (head.statusLine ++ (lineEnd.before ++ ['\n'])) =
      head.readStatusLine blank := by
  have version := blanks.trimmed
    fun char member => (head.token char member).visible
  have status := blanks.trimmed
    fun char member => isVisible_of_isDigit (head.digits char member)
  have trimmed : Trimmed blank (head.version ++ ' ' :: head.statusText) := by
    constructor
    · intro first found
      rw [List.head?_append_of_ne_nil _ head.named] at found
      exact version.head first found
    · intro last found
      rw [List.getLast?_append_of_ne_nil _ (List.cons_ne_nil _ _),
        List.getLast?_cons_of_ne_nil head.statusText_ne_nil] at found
      exact status.last last found
  have cut := blanks.cutLine (by simp) trimmed head.behindStatus lineEnd
  simp only [List.append_assoc, List.cons_append] at cut
  rw [statusLine, readStatusLine, ← cut]
  simp only [List.append_assoc, List.cons_append]

/-- The second word of the status line is the status. -/
theorem splitAtMost_readStatusLine (head : ResponseHead) (blank : Char → Bool) :
    ∃ more, splitAtMost (· == ' ') 2 (head.readStatusLine blank) =
      head.version :: head.statusText :: more := by
  have version : ∀ char ∈ head.version, (char == ' ') = false :=
    fun char member => (head.token char member).visible.ne_space
  have status : ∀ char ∈ head.statusText, (char == ' ') = false :=
    fun char member => (isVisible_of_isDigit (head.digits char member)).ne_space
  rw [readStatusLine, splitAtMost_cons version (beq_self_eq_true _)]
  have isPrefix : head.behindStatus.rdropWhile blank <+: head.behindStatus :=
    List.rdropWhile_prefix blank _
  cases behind : head.behindStatus.rdropWhile blank with
  | nil =>
      rw [List.append_nil, splitAtMost_whole status]
      exact ⟨[], rfl⟩
  | cons char rest =>
      have space : char = ' ' := by
        rw [behind, behindStatus] at isPrefix
        cases reason : head.reason with
        | none =>
            rw [reason] at isPrefix
            exact absurd (List.prefix_nil.mp isPrefix) (List.cons_ne_nil _ _)
        | some text =>
            rw [reason] at isPrefix
            exact (List.cons_prefix_cons.mp isPrefix).1
      rw [space, splitAtMost_cons status (beq_self_eq_true _)]
      exact ⟨_, rfl⟩

end ResponseHead

namespace HeaderField

/-- The line of a field as it is read. -/
def readLine (field : HeaderField) (blank : Char → Bool) : List Char :=
  field.name ++ ':' :: field.value.rdropWhile blank

theorem trimBlanks_line (blanks : CutsBlanks blank) (field : HeaderField)
    (lineEnd : LineEnd) :
    trimBlanks blank (field.line ++ (lineEnd.before ++ ['\n'])) =
      field.readLine blank := by
  have visible : ∀ char ∈ field.name ++ [':'], IsVisible char := by
    intro char member
    rcases List.mem_append.mp member with inside | colon
    · exact (field.token char inside).visible
    · rw [List.mem_singleton.mp colon]
      exact ⟨by decide, by decide⟩
  have cut := blanks.cutLine (by simp) (blanks.trimmed visible) field.value lineEnd
  rw [line, readLine, List.append_cons, cut, ← List.append_cons]

theorem splitAtMost_readLine (field : HeaderField) (blank : Char → Bool) :
    splitAtMost (· == ':') 1 (field.readLine blank) =
      [field.name, field.value.rdropWhile blank] := by
  have name : ∀ char ∈ field.name, (char == ':') = false :=
    fun char member => beq_eq_false_iff_ne.mpr (field.token char member).noColon
  rw [readLine, splitAtMost_cons name (beq_self_eq_true _)]
  rfl

theorem trimBlanks_name (blanks : CutsBlanks blank) (field : HeaderField) :
    trimBlanks blank field.name = field.name :=
  trimBlanks_eq_self (blanks.trimmed
    fun char member => (field.token char member).visible)

end HeaderField

/-- What an implementation has read of a head: the status line and the fields,
without the blanks at their ends. -/
def ResponseHead.readLines (head : ResponseHead) (blank : Char → Bool) :
    List (List Char) :=
  head.readStatusLine blank :: head.fields.map (·.readLine blank)

/-- A head is read line by line by a judge which keeps its lines without the
blanks at their ends, and stops at the blank line. -/
theorem ResponseHead.read {Error : Type}
    {judge : Nat → Bytes → LineVerdict (List Char) Error}
    (blanks : CutsBlanks blank) (head : ResponseHead) (lineEnd : LineEnd)
    (keeps : ∀ line ∈ head.lines, ∀ count,
      trimBlanks blank (line ++ (lineEnd.before ++ ['\n'])) ≠ [] →
      judge count (utf8Encode (line ++ (lineEnd.before ++ ['\n']))) =
        .keep (trimBlanks blank (line ++ (lineEnd.before ++ ['\n']))))
    (stops : ∀ count,
      judge count (utf8Encode (lineEnd.before ++ ['\n'])) = .stop)
    (count : Nat) (behind : Bytes) :
    readHead 0x0A judge count (head.encode lineEnd ++ behind) =
      .ok (head.readLines blank, behind) := by
  have kept : List.Forall₂ (fun text line => 0x0A ∉ text ∧
      ∀ count, judge count (text ++ [0x0A]) = .keep line)
      (head.lines.map (lineBytes lineEnd)) (head.readLines blank) := by
    have here : ∀ line ∈ head.lines, 0x0A ∉ lineBytes lineEnd line :=
      fun line member => newline_not_mem_lineBytes lineEnd
        (head.oneLine_lines line member)
    have status := head.trimBlanks_statusLine blanks lineEnd
    rw [lines, List.map_cons, List.map_map]
    rw [lines] at here keeps
    refine .cons ⟨here _ List.mem_cons_self, fun count => ?_⟩ ?_
    · have judged := keeps _ List.mem_cons_self count
      rw [status] at judged
      rw [lineBytes_newline, judged]
      simp [readStatusLine]
    · rw [List.forall₂_map_left_iff, List.forall₂_map_right_iff]
      apply List.forall₂_same.mpr
      intro field member
      have inside : field.line ∈
          head.statusLine :: head.fields.map HeaderField.line :=
        List.mem_cons_of_mem _ (List.mem_map_of_mem member)
      refine ⟨here _ inside, fun count => ?_⟩
      have judged := keeps _ inside count
      rw [field.trimBlanks_line blanks] at judged
      rw [Function.comp_apply, lineBytes_newline, judged]
      simp [HeaderField.readLine]
  have blankLine : 0x0A ∉ utf8Encode lineEnd.before :=
    newline_not_mem_utf8Encode (oneLine_before lineEnd)
  have stops' (count : Nat) :
      judge count (utf8Encode lineEnd.before ++ [0x0A]) = .stop := by
    rw [← utf8Encode_newline, ← utf8Encode_append]
    exact stops count
  have read := readHead_endLines kept blankLine stops' count behind
  rw [encode, List.append_assoc, List.append_assoc, List.singleton_append]
  exact read

end Response

end TgWsProxy
