import TgWsProxy.Lib.KeyedCipher
import TgWsProxy.Python.CfproxyDomains

/-!
# The encoded CF domains

`_dd` of `proxy/config.py` moves the letters of a domain back by their number.
The number of letters stays the same, so a decoded domain says how it was
encoded; and the letters stay letters, so a host name stays one.
-/

namespace TgWsProxy.Python

open Lib

/-- The first letter of the alphabet of a case. -/
def letterBase (char : Char) : Nat := if 0x60 < char.toNat then 97 else 65

/-- A letter moved on in the alphabet of its case. -/
def turnLetter (steps : Int) (char : Char) : Char :=
  Char.ofNat (rotate 26 (letterBase char) steps char.toNat)

/-- What becomes of a character when the letters are moved. -/
def turnChar (table : CharTable) (steps : Int) (char : Char) : Char :=
  if table.isAlpha char then turnLetter steps char else char

/-- An ASCII text with the suffix of an encoded domain. -/
abbrev EncodedDomain :=
  { text : PyStr // Ascii text ∧ encodedSuffix <:+ text }

/-- The domain without its suffix. -/
def EncodedDomain.front (domain : EncodedDomain) : PyStr :=
  domain.val.take (domain.val.length - encodedSuffix.length)

/-- The domain which `_dd` decodes to a given one. -/
def encodeDomain (table : CharTable) (decoded : PyStr) : PyStr :=
  mapKeyed (List.countP table.isAlpha) (fun n => turnChar table n)
      (decoded.take (decoded.length - decodedSuffix.length)) ++
    encodedSuffix

/-- Letters of the same case, or the same character. -/
inductive SameKind : Char → Char → Prop where
  | lower {c d : Char} : c.isLower = true → d.isLower = true → SameKind c d
  | upper {c d : Char} : c.isUpper = true → d.isUpper = true → SameKind c d
  | other {c : Char} : c.isAlpha = false → SameKind c c

section Letters

variable {char : Char}

theorem isLower_iff :
    char.isLower = true ↔ 97 ≤ char.toNat ∧ char.toNat ≤ 122 := by
  apply Bool.and_eq_true_iff.trans
  apply (and_congr decide_eq_true_iff decide_eq_true_iff).trans
  exact and_congr UInt32.le_iff_toNat_le UInt32.le_iff_toNat_le

theorem isUpper_iff :
    char.isUpper = true ↔ 65 ≤ char.toNat ∧ char.toNat ≤ 90 := by
  apply decide_eq_true_iff.trans
  exact and_congr UInt32.le_iff_toNat_le UInt32.le_iff_toNat_le

theorem isAlpha_iff :
    char.isAlpha = true ↔ char.isUpper = true ∨ char.isLower = true :=
  Bool.or_eq_true_iff

theorem isAlphanum_of_isAlpha (alpha : char.isAlpha = true) :
    char.isAlphanum = true :=
  Bool.or_eq_true_iff.mpr (Or.inl alpha)

theorem letterBase_of_isLower (lower : char.isLower = true) :
    letterBase char = 97 := by
  have bounds := isLower_iff.mp lower
  exact if_pos (by omega)

theorem letterBase_of_isUpper (upper : char.isUpper = true) :
    letterBase char = 65 := by
  have bounds := isUpper_iff.mp upper
  exact if_neg (by omega)

/-- A letter stands in the alphabet of its case. -/
theorem letter_bounds (alpha : char.isAlpha = true) :
    letterBase char ≤ char.toNat ∧ char.toNat < letterBase char + 26 := by
  rcases isAlpha_iff.mp alpha with upper | lower
  · have bounds := isUpper_iff.mp upper
    rw [letterBase_of_isUpper upper]
    omega
  · have bounds := isLower_iff.mp lower
    rw [letterBase_of_isLower lower]
    omega

theorem toNat_turnLetter (steps : Int) (char : Char) :
    (turnLetter steps char).toNat =
      rotate 26 (letterBase char) steps char.toNat := by
  apply toNat_ofNat_of_lt
  have bounds := @rotate_bounds 26 (letterBase char) (by decide) steps char.toNat
  have base : letterBase char ≤ 97 := by
    unfold letterBase
    split <;> decide
  omega

/-- A letter keeps its case. -/
theorem isLower_turnLetter (steps : Int) (lower : char.isLower = true) :
    (turnLetter steps char).isLower = true := by
  have bounds := @rotate_bounds 26 97 (by decide) steps char.toNat
  rw [isLower_iff, toNat_turnLetter, letterBase_of_isLower lower]
  omega

theorem isUpper_turnLetter (steps : Int) (upper : char.isUpper = true) :
    (turnLetter steps char).isUpper = true := by
  have bounds := @rotate_bounds 26 65 (by decide) steps char.toNat
  rw [isUpper_iff, toNat_turnLetter, letterBase_of_isUpper upper]
  omega

theorem letterBase_turnLetter (steps : Int) (alpha : char.isAlpha = true) :
    letterBase (turnLetter steps char) = letterBase char := by
  rcases isAlpha_iff.mp alpha with upper | lower
  · rw [letterBase_of_isUpper upper,
      letterBase_of_isUpper (isUpper_turnLetter steps upper)]
  · rw [letterBase_of_isLower lower,
      letterBase_of_isLower (isLower_turnLetter steps lower)]

/-- A letter which is moved and moved back is the letter of before. -/
theorem turnLetter_turnLetter (steps : Int) (alpha : char.isAlpha = true) :
    turnLetter steps (turnLetter (-steps) char) = char := by
  have bounds := letter_bounds alpha
  calc turnLetter steps (turnLetter (-steps) char)
      = Char.ofNat (rotate 26 (letterBase char) steps
          (rotate 26 (letterBase char) (-steps) char.toNat)) := by
        rw [turnLetter, letterBase_turnLetter (-steps) alpha, toNat_turnLetter]
    _ = Char.ofNat (rotate 26 (letterBase char) 0 char.toNat) := by
        rw [rotate_rotate (by decide), Int.add_left_neg]
    _ = Char.ofNat char.toNat :=
        congrArg Char.ofNat (rotate_zero bounds.1 bounds.2)
    _ = char := Char.ofNat_toNat char

/-- Whatever is moved becomes a letter. -/
theorem isAlpha_turnLetter (steps : Int) (char : Char) :
    (turnLetter steps char).isAlpha = true := by
  have bounds := @rotate_bounds 26 (letterBase char) (by decide) steps char.toNat
  rw [isAlpha_iff, isUpper_iff, isLower_iff, toNat_turnLetter]
  by_cases small : 0x60 < char.toNat
  · have base : letterBase char = 97 := if_pos small
    omega
  · have base : letterBase char = 65 := if_neg small
    omega

theorem shiftLetter_eq (n : Nat) (char : Char) :
    shiftLetter n char = turnLetter (-n) char := by
  unfold shiftLetter turnLetter rotate letterBase
  split <;> rfl

end Letters

section Characters

variable {char : Char} {table : CharTable}

/-- A character which is no letter is not moved, and no other comes to be it. -/
theorem turnChar_eq_iff {sign : Char} (table : CharTable) (steps : Int)
    (ascii : sign.toNat < 128) (noLetter : sign.isAlpha = false) :
    turnChar table steps char = sign ↔ char = sign := by
  by_cases alpha : table.isAlpha char = true
  · have moved : turnChar table steps char = turnLetter steps char := if_pos alpha
    apply iff_of_false
    · intro same
      have letter := isAlpha_turnLetter steps char
      rw [← moved, same, noLetter] at letter
      cases letter
    · intro same
      rw [same, table.isAlpha_ascii sign ascii, noLetter] at alpha
      cases alpha
  · have stays : turnChar table steps char = char := if_neg alpha
    rw [stays]

theorem sameKind_turnChar (table : CharTable) (steps : Int)
    (ascii : char.toNat < 128) : SameKind char (turnChar table steps char) := by
  have known := table.isAlpha_ascii char ascii
  by_cases alpha : char.isAlpha = true
  · have moved : turnChar table steps char = turnLetter steps char :=
      if_pos (known.trans alpha)
    rw [moved]
    rcases isAlpha_iff.mp alpha with upper | lower
    · exact .upper upper (isUpper_turnLetter steps upper)
    · exact .lower lower (isLower_turnLetter steps lower)
  · have stays : turnChar table steps char = char := by
      rw [← known] at alpha
      exact if_neg alpha
    rw [stays]
    exact .other (Bool.eq_false_iff.mpr alpha)

theorem SameKind.ascii {other : Char} (same : SameKind char other)
    (ascii : char.toNat < 128) : other.toNat < 128 := by
  cases same with
  | lower _ lower =>
      have bounds := isLower_iff.mp lower
      omega
  | upper _ upper =>
      have bounds := isUpper_iff.mp upper
      omega
  | other => exact ascii

theorem SameKind.isAlpha_or_eq {other : Char} (same : SameKind char other) :
    char.isAlpha = true ∧ other.isAlpha = true ∨ other = char := by
  cases same with
  | lower first second =>
      exact Or.inl ⟨isAlpha_iff.mpr (Or.inr first),
        isAlpha_iff.mpr (Or.inr second)⟩
  | upper first second =>
      exact Or.inl ⟨isAlpha_iff.mpr (Or.inl first),
        isAlpha_iff.mpr (Or.inl second)⟩
  | other => exact Or.inr rfl

theorem SameKind.isAlpha_eq {other : Char} (same : SameKind char other) :
    other.isAlpha = char.isAlpha := by
  rcases same.isAlpha_or_eq with ⟨first, second⟩ | stays
  · exact second.trans first.symm
  · exact congrArg Char.isAlpha stays

theorem SameKind.isAlphanum_eq {other : Char} (same : SameKind char other) :
    other.isAlphanum = char.isAlphanum := by
  rcases same.isAlpha_or_eq with ⟨first, second⟩ | stays
  · exact (isAlphanum_of_isAlpha second).trans (isAlphanum_of_isAlpha first).symm
  · exact congrArg Char.isAlphanum stays

theorem isAlpha_turnChar (steps : Int) (ascii : char.toNat < 128) :
    table.isAlpha (turnChar table steps char) = table.isAlpha char := by
  have same := sameKind_turnChar table steps ascii
  rw [table.isAlpha_ascii _ (same.ascii ascii), table.isAlpha_ascii char ascii,
    same.isAlpha_eq]

theorem isAlnum_turnChar (steps : Int) (ascii : char.toNat < 128) :
    table.isAlnum (turnChar table steps char) = table.isAlnum char := by
  have same := sameKind_turnChar table steps ascii
  rw [table.isAlnum_ascii _ (same.ascii ascii), table.isAlnum_ascii char ascii,
    same.isAlphanum_eq]

theorem turnChar_turnChar (steps : Int) (ascii : char.toNat < 128) :
    turnChar table steps (turnChar table (-steps) char) = char := by
  have kept := @isAlpha_turnChar char table (-steps) ascii
  by_cases alpha : table.isAlpha char = true
  · have moved : turnChar table (-steps) char = turnLetter (-steps) char :=
      if_pos alpha
    have letter : char.isAlpha = true := by
      rwa [table.isAlpha_ascii char ascii] at alpha
    calc turnChar table steps (turnChar table (-steps) char)
        = turnLetter steps (turnChar table (-steps) char) :=
          if_pos (kept.trans alpha)
      _ = turnLetter steps (turnLetter (-steps) char) := by rw [moved]
      _ = char := turnLetter_turnLetter steps letter
  · have stays : turnChar table (-steps) char = char := if_neg alpha
    rw [stays]
    exact if_neg alpha

end Characters

/-- The letters of a text, moved back by their number. -/
def decodeText (table : CharTable) (text : PyStr) : PyStr :=
  mapKeyed (List.countP table.isAlpha) (fun n => turnChar table (-n)) text

section Decoding

variable {table : CharTable} {domain : EncodedDomain} {text label : PyStr}

theorem EncodedDomain.eq_append (domain : EncodedDomain) :
    domain.val = domain.front ++ encodedSuffix := by
  obtain ⟨front, whole⟩ := domain.property.2
  have length : domain.val.length - encodedSuffix.length = front.length := by
    rw [← whole, List.length_append, Nat.add_sub_cancel_right]
  rw [EncodedDomain.front, length, ← whole, List.take_left]

theorem EncodedDomain.ascii_front (domain : EncodedDomain) : Ascii domain.front :=
  fun char member => domain.property.1 char (List.mem_of_mem_take member)

theorem dd_encoded (table : CharTable) (domain : EncodedDomain) :
    dd table domain.val = decodeText table domain.front ++ decodedSuffix := by
  have ending : domain.val.drop (domain.val.length - 4) = encodedSuffix := by
    have length : domain.val.length - 4 = domain.front.length := by
      rw [domain.eq_append, List.length_append]
      rfl
    rw [length, domain.eq_append, List.drop_left]
  have front : domain.val.take (domain.val.length - 4) = domain.front := rfl
  simp only [dd, ne_eq, ending, not_true_eq_false, if_false, front,
    shiftLetter_eq]
  rfl

/-- The decoded text has as many letters as the text. -/
theorem countP_decodeText (ascii : Ascii text) :
    (decodeText table text).countP table.isAlpha = text.countP table.isAlpha :=
  countP_mapKeyed fun _ member => isAlpha_turnChar _ (ascii _ member)

theorem encodeDomain_dd (table : CharTable) (domain : EncodedDomain) :
    encodeDomain table (dd table domain.val) = domain.val := by
  have front : (dd table domain.val).take
      ((dd table domain.val).length - decodedSuffix.length) =
        decodeText table domain.front := by
    rw [dd_encoded, List.length_append, Nat.add_sub_cancel_right, List.take_left]
  have undone : mapKeyed (List.countP table.isAlpha)
      (fun n => turnChar table n) (decodeText table domain.front) =
        domain.front := by
    apply mapKeyed_mapKeyed (countP_decodeText domain.ascii_front)
    intro char member
    exact turnChar_turnChar _ (domain.ascii_front char member)
  rw [encodeDomain, front, undone, ← domain.eq_append]

theorem forall₂_decodeText (ascii : Ascii text) :
    List.Forall₂ SameKind text (decodeText table text) := by
  apply List.forall₂_map_right_iff.mpr
  apply List.forall₂_same.mpr
  exact fun char member => sameKind_turnChar table _ (ascii char member)

end Decoding

section Labels

variable {table : CharTable} {domain : EncodedDomain} {text label : PyStr}

/-- A label stays one when its letters are moved. -/
theorem isValidLabel_turnChar (steps : Int) (ascii : Ascii label)
    (valid : isValidLabel table label = true) :
    isValidLabel table (label.map (turnChar table steps)) = true := by
  have hyphen (char : Char) : turnChar table steps char = '-' ↔ char = '-' :=
    turnChar_eq_iff table steps (by decide) rfl
  obtain ⟨⟨nonempty, short⟩, ⟨first, last⟩, chars⟩ := isValidLabel_iff.mp valid
  apply isValidLabel_iff.mpr
  refine ⟨⟨?_, ?_⟩, ⟨?_, ?_⟩, ?_⟩
  · simpa only [ne_eq, List.map_eq_nil_iff] using nonempty
  · simpa only [List.length_map] using short
  · simpa only [List.head?_map, ne_eq, Option.map_eq_some_iff, hyphen,
      exists_eq_right] using first
  · simpa only [List.getLast?_map, ne_eq, Option.map_eq_some_iff, hyphen,
      exists_eq_right] using last
  · intro char member
    obtain ⟨encoded, inside, changed⟩ := List.mem_map.mp member
    rw [← changed, isAlnum_turnChar steps (ascii encoded inside), hyphen]
    exact chars encoded inside

/-- The dots stay where they are. -/
theorem splitOn_map_turnChar (table : CharTable) (steps : Int) (text : PyStr) :
    (text.map (turnChar table steps)).splitOn '.' =
      (text.splitOn '.').map (List.map (turnChar table steps)) := by
  have dots : (· == '.') ∘ turnChar table steps = (· == '.') := by
    funext char
    rw [Function.comp_apply, Bool.eq_iff_iff, beq_iff_eq, beq_iff_eq]
    exact turnChar_eq_iff table steps (by decide) rfl
  rw [List.splitOn_eq_splitOnP, splitOnP_map, dots, ← List.splitOn_eq_splitOnP]

theorem splitOn_encoded (text : PyStr) :
    (text ++ encodedSuffix).splitOn '.' = text.splitOn '.' ++ [['c', 'o', 'm']] :=
  List.splitOn_append_cons_self text _

theorem splitOn_decoded (text : PyStr) :
    (text ++ decodedSuffix).splitOn '.' =
      text.splitOn '.' ++ [['c', 'o'], ['u', 'k']] :=
  List.splitOn_append_cons_self text _

/-- What is in front of the suffix of a host name is made of labels. -/
theorem front_of_isValidDomain (valid : isValidDomain table domain.val = true) :
    domain.front ≠ [] ∧ domain.front.head? ≠ some '.' ∧
      ∀ label ∈ domain.front.splitOn '.', isValidLabel table label = true := by
  obtain ⟨-, ⟨first, -⟩, -, labels, -⟩ := isValidDomain_iff.mp valid
  rw [domain.eq_append] at first labels
  have nonempty : domain.front ≠ [] := by
    intro empty
    rw [empty] at first
    exact first rfl
  refine ⟨nonempty, ?_, ?_⟩
  · rwa [List.head?_append_of_ne_nil _ nonempty] at first
  · intro label member
    apply labels
    rw [splitOn_encoded]
    exact List.mem_append_left _ member

theorem labels_decodeText (ascii : Ascii text)
    (labels : ∀ label ∈ text.splitOn '.', isValidLabel table label = true) :
    ∀ label ∈ (decodeText table text).splitOn '.',
      isValidLabel table label = true := by
  intro label member
  rw [decodeText, mapKeyed, splitOn_map_turnChar] at member
  obtain ⟨encoded, piece, decoded⟩ := List.mem_map.mp member
  rw [← decoded]
  apply isValidLabel_turnChar _ _ (labels encoded piece)
  intro char inside
  have whole : ['.'].intercalate (text.splitOn '.') = text :=
    List.intercalate_splitOn '.'
  apply ascii
  rw [← whole]
  exact mem_intercalate piece inside

/-- On ASCII the tables do not matter. -/
theorem isValidLabel_ascii (ascii : Ascii label) :
    isValidLabel table label = isValidLabel CharTable.ascii label := by
  have known : ∀ char ∈ label, table.isAlnum char = char.isAlphanum :=
    fun char member => table.isAlnum_ascii char (ascii char member)
  rw [Bool.eq_iff_iff, isValidLabel_iff, isValidLabel_iff]
  simp +contextual only [known, CharTable.ascii]

theorem isValidLabel_of_mem_suffix :
    ∀ label ∈ [['c', 'o'], ['u', 'k']], isValidLabel table label = true := by
  intro label member
  have ascii : ∀ label ∈ [['c', 'o'], ['u', 'k']], Ascii label := by
    simp [Ascii]
  rw [isValidLabel_ascii (ascii label member)]
  revert label
  decide

/-- Labels and the suffix make a host name. -/
theorem isValidDomain_append_decodedSuffix (nonempty : text ≠ [])
    (short : text.length ≤ 247) (first : text.head? ≠ some '.')
    (labels : ∀ label ∈ text.splitOn '.', isValidLabel table label = true) :
    isValidDomain table (text ++ decodedSuffix) = true := by
  apply isValidDomain_iff.mpr
  rw [splitOn_decoded]
  refine ⟨⟨?_, ?_⟩, ⟨?_, ?_⟩, ?_, ?_, ?_, ?_⟩
  · exact List.append_ne_nil_of_left_ne_nil nonempty _
  · rw [List.length_append]
    exact Nat.add_le_add_right short 6
  · rwa [List.head?_append_of_ne_nil _ nonempty]
  · simp [decodedSuffix]
  · simp
  · intro label member
    rcases List.mem_append.mp member with inside | suffix
    · exact labels label inside
    · exact isValidLabel_of_mem_suffix label suffix
  · simp [List.getLastD_eq_getLast?]
  · refine ⟨'u', by simp [List.getLastD_eq_getLast?], ?_⟩
    exact table.isAlpha_ascii 'u' (by decide)

theorem isValidDomain_dd (short : domain.val.length ≤ 251)
    (valid : isValidDomain table domain.val = true) :
    isValidDomain table (dd table domain.val) = true := by
  obtain ⟨nonempty, first, labels⟩ := front_of_isValidDomain valid
  have length : domain.val.length = domain.front.length + 4 := by
    rw [domain.eq_append, List.length_append]
    rfl
  rw [dd_encoded]
  apply isValidDomain_append_decodedSuffix
  · simpa only [decodeText, mapKeyed, ne_eq, List.map_eq_nil_iff] using nonempty
  · rw [decodeText, length_mapKeyed]
    omega
  · have dot (steps : Int) (char : Char) :
        turnChar table steps char = '.' ↔ char = '.' :=
      turnChar_eq_iff table steps (by decide) rfl
    simpa only [decodeText, mapKeyed, List.head?_map, ne_eq,
      Option.map_eq_some_iff, dot, exists_eq_right] using first
  · exact labels_decodeText domain.ascii_front labels

end Labels

/-- Encoded domains are decoded to different ones, letter by letter, and host
names to host names. -/
theorem dd_injective_valid (table : CharTable) :
    (Function.Injective fun domain : EncodedDomain => dd table domain.val) ∧
    (∀ domain : EncodedDomain, ∃ decoded,
      dd table domain.val = decoded ++ decodedSuffix ∧
        List.Forall₂ SameKind domain.front decoded) ∧
    ∀ domain : EncodedDomain, domain.val.length ≤ 251 →
      isValidDomain table domain.val = true →
        isValidDomain table (dd table domain.val) = true := by
  refine ⟨?_, ?_, ?_⟩
  · intro first second same
    have restored := congrArg (encodeDomain table) same
    simp only [encodeDomain_dd] at restored
    exact Subtype.ext restored
  · intro domain
    exact ⟨decodeText table domain.front, dd_encoded table domain,
      forall₂_decodeText domain.ascii_front⟩
  · intro domain short valid
    exact isValidDomain_dd short valid

example : dd CharTable.ascii "virkgj.com".toList = "pclead.co.uk".toList := by
  decide

end TgWsProxy.Python
