import TgWsProxy.Bytes
import TgWsProxy.Python.TraySettings

/-!
# The secret of the proxy

`main` of `proxy/tg_ws_proxy.py` and `validate_config_form` of `ui/ctk_tray_ui.py`
check the length of the text and leave the rest to `bytes.fromhex`, which skips
whitespace between the bytes.  `_run` decodes the text for the handshakes.
-/

namespace TgWsProxy.Python

open Lib

/-- The value of a hexadecimal digit. -/
def hexValue (char : Char) : Nat :=
  if char.isDigit then char.toNat - 48
  else if 'a' ≤ char then char.toNat - 87
  else char.toNat - 55

/-- `bytes.fromhex`, without a value where it raises `ValueError`. -/
def bytesFromhex : List Char → Option Bytes
  | [] => some []
  | [char] => if isHexSpace char then some [] else none
  | char :: next :: rest =>
      if isHexSpace char then bytesFromhex (next :: rest)
      else if isHex char && isHex next then
        (bytesFromhex rest).map
          (UInt8.ofNat (16 * hexValue char + hexValue next) :: ·)
      else none

/-- Why `main` exits. -/
inductive SecretExit where
  | wrongLength
  | notHex
deriving DecidableEq, Repr

/-- What `os.urandom(16).hex()` draws. -/
abbrev DrawnSecret :=
  { text : String // text.length = 32 ∧ ∀ char ∈ text.toList, isHex char = true }

/-- `secret_hex` in `main`. -/
def secretHex (drawn : DrawnSecret) : Option String → Except SecretExit String
  | none => .ok drawn.val
  | some secret =>
      if secret = "" then .ok drawn.val
      else
        let secretHex := strip secret
        if secretHex.length ≠ 32 then .error .wrongLength
        else if fromhex secretHex.toList then .ok secretHex
        else .error .notHex

/-- Exactly 32 hexadecimal digits. -/
def IsSecret (text : String) : Prop :=
  text.length = 32 ∧ ∀ char ∈ text.toList, isHex char = true

/-- The command line takes the text, rather than a secret which it draws. -/
def CommandLineAccepts (drawn : DrawnSecret) (s : String) : Prop :=
  secretHex drawn (some s) = .ok (strip s)

/-- The form takes the text. -/
def FormAccepts (s : String) : Prop := formSecret s = .ok (strip s)

/-- What is accepted are the secrets, and each is decoded to 16 bytes. -/
structure SecretGrammar (drawn : DrawnSecret) (s : String) : Prop where
  commandLine : CommandLineAccepts drawn s ↔ IsSecret (strip s)
  form : FormAccepts s ↔ IsSecret (strip s)
  secretBytes : CommandLineAccepts drawn s ∨ FormAccepts s →
    ∃ bytes, bytesFromhex (strip s).toList = some bytes ∧ bytes.length = 16

/-- A text of 32 characters which `fromhex` reads with whitespace in it. -/
def Spaced (text : String) : Prop :=
  text.length = 32 ∧ fromhex text.toList = true ∧
    ∃ char ∈ text.toList, isHexSpace char = true

section Grammar

variable {text : List Char}

theorem isHexSpace_of_isHex {char : Char} (hex : isHex char = true) :
    isHexSpace char = false := by
  by_contra space
  rw [Bool.not_eq_false] at space
  have ascii : char.toNat < 128 := by
    simp only [isHexSpace, Bool.or_eq_true, beq_iff_eq, Bool.and_eq_true,
      decide_eq_true_eq] at space
    rcases space with blank | ⟨-, low⟩
    · rw [blank]
      decide
    · omega
  revert hex space
  apply @ascii_cases (fun char => isHex char = true →
    isHexSpace char = true → False) _ char ascii
  decide +kernel

theorem fromhex_eq_isSome (text : List Char) :
    fromhex text = (bytesFromhex text).isSome := by
  fun_induction bytesFromhex text with
  | case1 => rfl
  | case2 char space => simp [fromhex, space]
  | case3 char notSpace => simp [fromhex, notSpace]
  | case4 char next rest space induction =>
      simp only [fromhex, if_pos space]
      exact induction
  | case5 char next rest notSpace hex induction =>
      rw [Bool.and_eq_true] at hex
      simp only [fromhex, if_neg notSpace, hex, Bool.true_and,
        Option.isSome_map]
      exact induction
  | case6 char next rest notSpace notHex =>
      simp only [Bool.not_eq_true] at notHex
      simp only [fromhex, if_neg notSpace, notHex, Bool.false_and,
        Option.isSome_none]

/-- Each byte comes from two digits, and the rest of the text is whitespace. -/
theorem length_bytesFromhex {bytes : Bytes}
    (decoded : bytesFromhex text = some bytes) :
    2 * bytes.length + text.countP isHexSpace = text.length := by
  fun_induction bytesFromhex text generalizing bytes with
  | case1 =>
      cases decoded
      rfl
  | case2 char space =>
      cases decoded
      simp [space]
  | case3 char notSpace => cases decoded
  | case4 char next rest space induction =>
      have later := induction decoded
      rw [List.countP_cons_of_pos space, List.length_cons]
      omega
  | case5 char next rest notSpace hex induction =>
      obtain ⟨front, read, whole⟩ := Option.map_eq_some_iff.mp decoded
      have later := induction read
      rw [Bool.and_eq_true] at hex
      have nextPlain : ¬ isHexSpace next = true := by
        rw [isHexSpace_of_isHex hex.2]
        exact Bool.false_ne_true
      rw [← whole, List.countP_cons_of_neg notSpace,
        List.countP_cons_of_neg nextPlain, List.length_cons, List.length_cons,
        List.length_cons]
      omega
  | case6 char next rest notSpace notHex => cases decoded

/-- What is read without whitespace are digits. -/
theorem isHex_of_fromhex (read : fromhex text = true)
    (plain : ∀ char ∈ text, isHexSpace char = false) :
    ∀ char ∈ text, isHex char = true := by
  fun_induction fromhex text with
  | case1 => exact fun _ member => nomatch member
  | case2 char =>
      have notSpace := plain char List.mem_cons_self
      rw [notSpace] at read
      cases read
  | case3 char next rest space induction =>
      have notSpace := plain char List.mem_cons_self
      rw [notSpace] at space
      cases space
  | case4 char next rest notSpace induction =>
      simp only [Bool.and_eq_true] at read
      obtain ⟨⟨first, second⟩, later⟩ := read
      have rest := induction later fun other member =>
        plain other (List.mem_cons_of_mem _ (List.mem_cons_of_mem _ member))
      intro other member
      rcases List.mem_cons.mp member with same | behind
      · rw [same]
        exact first
      · rcases List.mem_cons.mp behind with same | inside
        · rw [same]
          exact second
        · exact rest other inside

/-- Digits in pairs are read. -/
theorem fromhex_of_isHex (digits : ∀ char ∈ text, isHex char = true)
    (pairs : text.length % 2 = 0) : fromhex text = true := by
  fun_induction fromhex text with
  | case1 => rfl
  | case2 char => cases pairs
  | case3 char next rest space induction =>
      have plain := isHexSpace_of_isHex (digits char List.mem_cons_self)
      rw [plain] at space
      cases space
  | case4 char next rest notSpace induction =>
      have first := digits char List.mem_cons_self
      have second := digits next (List.mem_cons_of_mem _ List.mem_cons_self)
      have later := induction
        (fun other member =>
          digits other (List.mem_cons_of_mem _ (List.mem_cons_of_mem _ member)))
        (by simp only [List.length_cons] at pairs; omega)
      rw [first, second, later]
      rfl

/-- The check of both: the length, and what `fromhex` reads. -/
def ReadsAsSecret (text : String) : Prop :=
  text.length = 32 ∧ fromhex text.toList = true

theorem commandLineAccepts_iff (drawn : DrawnSecret) (s : String) :
    CommandLineAccepts drawn s ↔ ReadsAsSecret (strip s) := by
  by_cases empty : s = ""
  · subst empty
    constructor
    · intro accepted
      have same : drawn.val = strip "" := Except.ok.inj accepted
      have long := drawn.property.1
      rw [same] at long
      exact absurd long (by decide)
    · intro checked
      exact absurd checked.1 (by decide)
  · simp only [CommandLineAccepts, secretHex, if_neg empty, ReadsAsSecret]
    by_cases long : (strip s).length = 32
    · by_cases read : fromhex (strip s).toList = true
      · simp [long, read]
      · simp [long, read]
    · simp [long]

theorem formAccepts_iff (s : String) : FormAccepts s ↔ ReadsAsSecret (strip s) := by
  simp only [FormAccepts, formSecret, ReadsAsSecret]
  by_cases long : (strip s).length = 32
  · by_cases read : fromhex (strip s).toList = true
    · simp [long, read]
    · simp [long, read]
  · simp [long]

/-- The check takes exactly the secrets, except that it misses whitespace. -/
theorem checked_iff_isSecret_iff (text : String) :
    (ReadsAsSecret text ↔ IsSecret text) ↔ ¬ Spaced text := by
  constructor
  · intro same spaced
    obtain ⟨long, read, char, member, space⟩ := spaced
    have hex := (same.mp ⟨long, read⟩).2 char member
    rw [isHexSpace_of_isHex hex] at space
    cases space
  · intro plain
    constructor
    · intro ⟨long, read⟩
      refine ⟨long, isHex_of_fromhex read ?_⟩
      intro char member
      by_contra space
      rw [Bool.not_eq_false] at space
      exact plain ⟨long, read, char, member, space⟩
    · intro ⟨long, digits⟩
      refine ⟨long, fromhex_of_isHex digits ?_⟩
      rw [String.length_toList, long]

theorem length_of_checked {text : String} (checked : ReadsAsSecret text)
    (secret : IsSecret text) :
    ∃ bytes, bytesFromhex text.toList = some bytes ∧ bytes.length = 16 := by
  have read := checked.2
  rw [fromhex_eq_isSome] at read
  obtain ⟨bytes, decoded⟩ := Option.isSome_iff_exists.mp read
  refine ⟨bytes, decoded, ?_⟩
  have lengths := length_bytesFromhex decoded
  have plain : text.toList.countP isHexSpace = 0 := by
    rw [List.countP_eq_zero]
    intro char member
    rw [isHexSpace_of_isHex (secret.2 char member)]
    exact Bool.false_ne_true
  rw [plain, String.length_toList, checked.1] at lengths
  omega

/-- The command line and the form take the texts of 32 digits and no others
exactly where they do not meet a text of that length with whitespace in it. -/
theorem secretGrammar_iff (drawn : DrawnSecret) (s : String) :
    SecretGrammar drawn s ↔ ¬ Spaced (strip s) := by
  rw [← checked_iff_isSecret_iff]
  constructor
  · intro grammar
    rw [← formAccepts_iff]
    exact grammar.form
  · intro same
    refine ⟨?_, ?_, ?_⟩
    · rw [commandLineAccepts_iff]
      exact same
    · rw [formAccepts_iff]
      exact same
    · intro accepted
      rw [commandLineAccepts_iff, formAccepts_iff, or_self] at accepted
      exact length_of_checked accepted (same.mp accepted)

end Grammar

/-- Eleven bytes with blanks in between are as long as a secret. -/
def spacedSecret : String := "00 11 22 33 44 55 66 77 88 99 aa"

/-- It is taken, and decoded to eleven bytes. -/
theorem spacedSecret_accepted :
    (∀ drawn, CommandLineAccepts drawn spacedSecret) ∧
      FormAccepts spacedSecret ∧ ¬ IsSecret (strip spacedSecret) ∧
      (bytesFromhex (strip spacedSecret).toList).map List.length = some 11 := by
  have checked : ReadsAsSecret (strip spacedSecret) := ⟨rfl, rfl⟩
  refine ⟨?_, (formAccepts_iff spacedSecret).mpr checked, ?_, rfl⟩
  · intro drawn
    exact (commandLineAccepts_iff drawn spacedSecret).mpr checked
  · intro secret
    have blank : ' ' ∈ (strip spacedSecret).toList := by decide +kernel
    have digit := secret.2 ' ' blank
    cases digit

end TgWsProxy.Python
