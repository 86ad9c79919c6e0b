import TgWsProxy.Lib.Text

/-!
# Text in Python

The methods of `str` which the domain functions use.  What they ask of the
characters outside ASCII is a parameter, except for whitespace and the ends of
lines, of which there are a few.
-/

namespace TgWsProxy.Python

open Lib

/-- `str.isspace` of one character. -/
def isSpace (char : Char) : Bool :=
  let point := char.toNat
  (9 ≤ point && point ≤ 13) || (0x1c ≤ point && point ≤ 0x20) ||
    point == 0x85 || point == 0xa0 || point == 0x1680 ||
    (0x2000 ≤ point && point ≤ 0x200a) || point == 0x2028 ||
    point == 0x2029 || point == 0x202f || point == 0x205f || point == 0x3000

def strip (text : String) : String :=
  String.ofList (trimBlanks isSpace text.toList)

/-- `str.split` without an argument. -/
def splitWords (text : List Char) : List String :=
  ((text.splitOnP isSpace).filter (· ≠ [])).map String.ofList

def isLineBreak (char : Char) : Bool :=
  let point := char.toNat
  (10 ≤ point && point ≤ 13) || (0x1c ≤ point && point ≤ 0x1e) ||
    point == 0x85 || point == 0x2028 || point == 0x2029

/-- `str.splitlines` behind the beginning of a line, last character first. -/
def splitlines (line : List Char) : List Char → List String
  | [] => if line = [] then [] else [String.ofList line.reverse]
  | [char] =>
      if isLineBreak char then [String.ofList line.reverse]
      else [String.ofList (char :: line).reverse]
  | char :: next :: rest =>
      if char = '\r' ∧ next = '\n' then
        String.ofList line.reverse :: splitlines [] rest
      else if isLineBreak char then
        String.ofList line.reverse :: splitlines [] (next :: rest)
      else splitlines (char :: line) (next :: rest)

/-- A `str`, by its characters. -/
abbrev PyStr := List Char

/-- `str.strip`. -/
def PyStr.strip (text : PyStr) : PyStr := trimBlanks isSpace text

/-- `str.splitlines`. -/
def PyStr.splitlines (text : PyStr) : List PyStr :=
  (Python.splitlines [] text).map String.toList

def Ascii (text : PyStr) : Prop := ∀ char ∈ text, char.toNat < 128

/-- The Unicode tables of `str`, of which only the part for ASCII is known. -/
structure CharTable where
  isAlpha : Char → Bool
  isAlnum : Char → Bool
  lower : PyStr → PyStr
  isAlpha_ascii : ∀ char : Char, char.toNat < 128 → isAlpha char = char.isAlpha
  isAlnum_ascii : ∀ char : Char, char.toNat < 128 →
    isAlnum char = char.isAlphanum
  lower_ascii : ∀ text, Ascii text → lower text = text.map Char.toLower

/-- The tables with no letter and no digit outside ASCII. -/
def CharTable.ascii : CharTable :=
  ⟨Char.isAlpha, Char.isAlphanum, List.map Char.toLower, fun _ _ => rfl,
    fun _ _ => rfl, fun _ _ => rfl⟩

section Ascii

variable {text : PyStr}

theorem toNat_ofNat_of_lt {code : Nat} (ascii : code < 128) :
    (Char.ofNat code).toNat = code := by
  have valid : code.isValidChar := Or.inl (by omega)
  rw [Char.ofNat, dif_pos valid]
  rfl

/-- A property of the characters of ASCII holds if it holds of all 128. -/
theorem ascii_cases {property : Char → Prop}
    (all : ∀ code < 128, property (Char.ofNat code)) {char : Char}
    (ascii : char.toNat < 128) : property char := by
  rw [← Char.ofNat_toNat char]
  exact all char.toNat ascii

theorem ascii_toLower {char : Char} (ascii : char.toNat < 128) :
    char.toLower.toNat < 128 := by
  apply @ascii_cases (fun char => char.toLower.toNat < 128) _ char ascii
  decide +kernel

theorem toLower_toLower {char : Char} (ascii : char.toNat < 128) :
    char.toLower.toLower = char.toLower := by
  apply @ascii_cases (fun char => char.toLower.toLower = char.toLower) _ char
    ascii
  decide +kernel

/-- Letters change to letters, none of which is blank. -/
theorem isSpace_toLower {char : Char} (ascii : char.toNat < 128) :
    isSpace char.toLower = isSpace char := by
  apply @ascii_cases (fun char => isSpace char.toLower = isSpace char) _ char
    ascii
  decide +kernel

theorem Ascii.strip (ascii : Ascii text) : Ascii text.strip :=
  fun char member => ascii char (mem_of_mem_trimBlanks member)

theorem Ascii.lower (ascii : Ascii text) (table : CharTable) :
    Ascii (table.lower text) := by
  rw [table.lower_ascii text ascii]
  intro char member
  obtain ⟨upper, inside, lowered⟩ := List.mem_map.mp member
  rw [← lowered]
  exact ascii_toLower (ascii upper inside)

/-- The lines are made of the characters of the text. -/
theorem mem_of_mem_splitlines {line : List Char} {found : String} {char : Char}
    (isLine : found ∈ splitlines line text) (member : char ∈ found.toList) :
    char ∈ line ∨ char ∈ text := by
  have ofLine {line : List Char} (same : found = String.ofList line.reverse) :
      char ∈ line := by
    rw [same, String.toList_ofList] at member
    exact List.mem_reverse.mp member
  induction line, text using splitlines.induct with
  | case1 => cases isLine
  | case2 line started =>
      rw [splitlines, if_neg started] at isLine
      exact Or.inl (ofLine (List.mem_singleton.mp isLine))
  | case3 line next ends =>
      rw [splitlines, if_pos ends] at isLine
      exact Or.inl (ofLine (List.mem_singleton.mp isLine))
  | case4 line next goesOn =>
      rw [splitlines, if_neg goesOn] at isLine
      have here := ofLine (List.mem_singleton.mp isLine)
      rw [List.mem_singleton, or_comm]
      exact List.mem_cons.mp here
  | case5 line next following rest pair induction =>
      rw [splitlines, if_pos pair] at isLine
      rcases List.mem_cons.mp isLine with first | later
      · exact Or.inl (ofLine first)
      · have behind := (induction later).resolve_left List.not_mem_nil
        simp [behind]
  | case6 line next following rest notPair ends induction =>
      rw [splitlines, if_neg notPair, if_pos ends] at isLine
      rcases List.mem_cons.mp isLine with first | later
      · exact Or.inl (ofLine first)
      · have behind := (induction later).resolve_left List.not_mem_nil
        exact Or.inr (List.mem_cons_of_mem next behind)
  | case7 line next following rest notPair goesOn induction =>
      rw [splitlines, if_neg notPair, if_neg goesOn] at isLine
      rcases induction isLine with here | behind
      · rcases List.mem_cons.mp here with same | before
        · rw [same]
          exact Or.inr List.mem_cons_self
        · exact Or.inl before
      · exact Or.inr (List.mem_cons_of_mem next behind)

theorem Ascii.splitlines (ascii : Ascii text) :
    ∀ line ∈ text.splitlines, Ascii line := by
  intro line isLine char member
  obtain ⟨found, isFound, same⟩ := List.mem_map.mp isLine
  rw [← same] at member
  have either := mem_of_mem_splitlines isFound member
  exact ascii char (either.resolve_left List.not_mem_nil)

end Ascii

end TgWsProxy.Python
