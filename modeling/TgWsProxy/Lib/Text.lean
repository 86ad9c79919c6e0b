import Mathlib.Data.List.DropRight
import Mathlib.Data.List.Induction
import Mathlib.Data.List.Nodup

/-!
# Values written as text and read back

A decimal numeral is read with a bound on its value, blanks are cut from the
ends of a text, and a list of words which were joined is split again.
-/

namespace Lib

universe u

section Decimal

/-- Reads decimal digits behind a value, which has to stay below the size. -/
def readDigits (size : Nat) : Nat → List Char → Option Nat
  | value, [] => some value
  | value, digit :: digits =>
      if digit.isDigit then
        let next := 10 * value + (digit.toNat - '0'.toNat)
        if next < size then readDigits size next digits else none
      else none

/-- Reads an unsigned numeral, which may have a plus sign. -/
def readUnsigned (size : Nat) : List Char → Option Nat
  | [] => none
  | sign :: digits =>
      if sign = '+' then
        if digits = [] then none else readDigits size 0 digits
      else readDigits size 0 (sign :: digits)

theorem le_ofDigitChars (digits : List Char) (value : Nat) :
    value ≤ Nat.ofDigitChars 10 digits value := by
  rw [Nat.ofDigitChars_eq_ofDigitChars_zero]
  have scaled : 1 * value ≤ 10 ^ digits.length * value :=
    Nat.mul_le_mul_right value (Nat.one_le_pow _ _ (by omega))
  omega

theorem readDigits_eq_some {size value : Nat} {digits : List Char}
    (decimal : ∀ digit ∈ digits, digit.isDigit)
    (fits : Nat.ofDigitChars 10 digits value < size) :
    readDigits size value digits = some (Nat.ofDigitChars 10 digits value) := by
  induction digits generalizing value with
  | nil => simp [readDigits]
  | cons digit digits induction =>
      rw [Nat.ofDigitChars_cons] at fits ⊢
      have next := le_ofDigitChars digits
        (10 * value + (digit.toNat - '0'.toNat))
      have here := decimal digit List.mem_cons_self
      have later := induction
        (fun other member => decimal other (List.mem_cons_of_mem digit member))
        fits
      simp only [readDigits, if_pos here]
      rw [if_pos (by omega)]
      exact later

theorem isDigit_of_mem_toString {n : Nat} {digit : Char}
    (member : digit ∈ (toString n).toList) : digit.isDigit := by
  rw [Nat.toString_eq_ofList_toDigits, String.toList_ofList] at member
  exact Nat.isDigit_of_mem_toDigits (by omega) (by omega) member

theorem ofDigitChars_toString (n : Nat) :
    Nat.ofDigitChars 10 (toString n).toList 0 = n := by
  rw [Nat.toString_eq_ofList_toDigits, String.toList_ofList,
    Nat.ofDigitChars_ten_toDigits]

/-- A number which fits is read back from its decimal numeral. -/
theorem readUnsigned_toString {size n : Nat} (fits : n < size) :
    readUnsigned size (toString n).toList = some n := by
  have decimal : ∀ digit ∈ (toString n).toList, digit.isDigit :=
    fun _ member => isDigit_of_mem_toString member
  have value := ofDigitChars_toString n
  have read : readDigits size 0 (toString n).toList = some n := by
    rw [readDigits_eq_some decimal (by omega), value]
  have written : (toString n).toList ≠ [] := by
    rw [Nat.toString_eq_ofList_toDigits, String.toList_ofList]
    exact Nat.toDigits_ne_nil
  cases numeral : (toString n).toList with
  | nil => exact absurd numeral written
  | cons sign digits =>
      rw [numeral] at decimal read
      have notSign : sign ≠ '+' := by
        intro plus
        have digit := decimal sign List.mem_cons_self
        rw [plus] at digit
        exact absurd digit (by decide)
      simp only [readUnsigned, if_neg notSign]
      exact read

end Decimal

section Failures

variable {ε τ : Type*} {α β : Type u}

/-- A computation succeeds when both of its parts do. -/
theorem bind_eq_ok {first : Except ε α} {next : α → Except ε β} {result : β}
    (done : first.bind next = .ok result) :
    ∃ value, first = .ok value ∧ next value = .ok result := by
  cases first with
  | error failure => cases done
  | ok value => exact ⟨value, rfl, done⟩

/-- A computation which keeps a tag of its item keeps the tags of a list. -/
theorem mapM_map_eq {compute : α → Except ε β} {before : α → τ}
    {after : β → τ}
    (keeps : ∀ item result, compute item = .ok result →
      after result = before item) {items : List α} {results : List β}
    (done : items.mapM compute = .ok results) :
    results.map after = items.map before := by
  induction items generalizing results with
  | nil =>
      cases done
      rfl
  | cons item items induction =>
      rw [List.mapM_cons] at done
      obtain ⟨result, first, done⟩ := bind_eq_ok done
      obtain ⟨rest, later, done⟩ := bind_eq_ok done
      cases done
      rw [List.map_cons, List.map_cons, keeps item result first,
        induction later]

end Failures

section Blanks

variable {α : Type*} {blank : α → Bool} {text : List α}

/-- The text without the blanks at its ends. -/
def trimBlanks (blank : α → Bool) (text : List α) : List α :=
  (text.dropWhile blank).rdropWhile blank

/-- A text which neither begins nor ends with a blank. -/
structure Trimmed (blank : α → Bool) (text : List α) : Prop where
  head : ∀ first, text.head? = some first → blank first = false
  last : ∀ final, text.getLast? = some final → blank final = false

theorem mem_of_mem_trimBlanks {char : α} (member : char ∈ trimBlanks blank text) :
    char ∈ text := by
  have kept : char ∈ text.dropWhile blank :=
    (List.rdropWhile_prefix blank _).subset member
  exact (List.dropWhile_suffix blank).subset kept

theorem trimBlanks_eq_self (trimmed : Trimmed blank text) :
    trimBlanks blank text = text := by
  have front : text.dropWhile blank = text := by
    cases text with
    | nil => rfl
    | cons first rest =>
        exact List.dropWhile_cons_of_neg (by
          rw [trimmed.head first rfl]
          exact Bool.false_ne_true)
  rw [trimBlanks, front, List.rdropWhile_eq_self_iff]
  intro nonempty
  rw [trimmed.last _ (List.getLast?_eq_some_getLast nonempty)]
  exact Bool.false_ne_true

/-- A text stays trimmed if no blank comes or goes. -/
theorem Trimmed.map {change : α → α}
    (keeps : ∀ char ∈ text, blank (change char) = blank char)
    (trimmed : Trimmed blank text) : Trimmed blank (text.map change) := by
  constructor
  · intro first found
    rw [List.head?_map] at found
    obtain ⟨char, isFirst, changed⟩ := Option.map_eq_some_iff.mp found
    rw [← changed, keeps char (List.mem_of_head? isFirst)]
    exact trimmed.head char isFirst
  · intro final found
    rw [List.getLast?_map] at found
    obtain ⟨char, isLast, changed⟩ := Option.map_eq_some_iff.mp found
    rw [← changed, keeps char (List.mem_of_getLast? isLast)]
    exact trimmed.last char isLast

theorem trimmed_trimBlanks (blank : α → Bool) (text : List α) :
    Trimmed blank (trimBlanks blank text) := by
  constructor
  · intro first found
    obtain ⟨rest, split⟩ :=
      List.rdropWhile_prefix blank (text.dropWhile blank)
    have front : (text.dropWhile blank).head? = some first := by
      rw [trimBlanks] at found
      rw [← split, List.head?_append, found, Option.some_or]
    have notBlank := List.head?_dropWhile_not blank text
    rw [front] at notBlank
    exact notBlank
  · intro final found
    have nonempty : trimBlanks blank text ≠ [] := by
      intro empty
      rw [empty] at found
      cases found
    have notBlank := List.rdropWhile_last_not blank _ nonempty
    rw [List.getLast?_eq_some_getLast nonempty] at found
    cases found
    exact Bool.eq_false_iff.mpr notBlank

/-- Nothing is dropped of a list which the dropping does not start with. -/
theorem dropWhile_append_of_stop {back : List α}
    (stops : ∀ first, back.head? = some first → blank first = false)
    (text : List α) :
    (text ++ back).dropWhile blank = text.dropWhile blank ++ back := by
  rw [List.dropWhile_append]
  split
  · rename_i dropped
    rw [List.isEmpty_iff.mp dropped, List.nil_append]
    cases back with
    | nil => rfl
    | cons first back =>
        apply List.dropWhile_cons_of_neg
        rw [stops first rfl]
        exact Bool.false_ne_true
  · rfl

/-- Nothing is dropped of a front which does not end with a blank. -/
theorem rdropWhile_append_of_stop {front : List α}
    (stops : ∀ final, front.getLast? = some final → blank final = false)
    (text : List α) :
    (front ++ text).rdropWhile blank = front ++ text.rdropWhile blank := by
  have reversed : ∀ first, front.reverse.head? = some first →
      blank first = false := by
    intro first found
    rw [List.head?_reverse] at found
    exact stops first found
  rw [List.rdropWhile, List.rdropWhile, List.reverse_append,
    dropWhile_append_of_stop reversed, List.reverse_append,
    List.reverse_reverse]

theorem rdropWhile_append_of_pos {back : List α}
    (blanks : ∀ char ∈ back, blank char = true) (text : List α) :
    (text ++ back).rdropWhile blank = text.rdropWhile blank := by
  rw [List.rdropWhile, List.rdropWhile, List.reverse_append,
    List.dropWhile_append_of_pos (by simpa using blanks)]

/-- Blanks around a text are not seen. -/
theorem trimBlanks_append {front back : List α}
    (leading : ∀ char ∈ front, blank char = true)
    (trailing : ∀ char ∈ back, blank char = true) (text : List α) :
    trimBlanks blank (front ++ text ++ back) = trimBlanks blank text := by
  rw [trimBlanks, trimBlanks, List.append_assoc,
    List.dropWhile_append_of_pos leading, List.dropWhile_append]
  split
  · rename_i none
    have dropped : back.dropWhile blank = [] :=
      List.dropWhile_eq_nil_iff.mpr trailing
    rw [List.isEmpty_iff.mp none, dropped]
  · exact rdropWhile_append_of_pos trailing _

theorem trimBlanks_append_left {front : List α}
    (leading : ∀ char ∈ front, blank char = true) (text : List α) :
    trimBlanks blank (front ++ text) = trimBlanks blank text := by
  have none : ∀ char ∈ ([] : List α), blank char = true :=
    fun _ member => nomatch member
  have cut := trimBlanks_append leading none text
  rw [List.append_nil] at cut
  exact cut

theorem trimBlanks_append_right {back : List α}
    (trailing : ∀ char ∈ back, blank char = true) (text : List α) :
    trimBlanks blank (text ++ back) = trimBlanks blank text := by
  have none : ∀ char ∈ ([] : List α), blank char = true :=
    fun _ member => nomatch member
  exact trimBlanks_append none trailing text

/-- Blanks are cut behind a text whose front has no blank at its ends. -/
theorem trimBlanks_of_front {front : List α} (filled : front ≠ [])
    (trimmed : Trimmed blank front) (text : List α) :
    trimBlanks blank (front ++ text) = front ++ text.rdropWhile blank := by
  have started : (front ++ text).dropWhile blank = front ++ text := by
    obtain ⟨first, rest, same⟩ := List.exists_cons_of_ne_nil filled
    rw [same, List.cons_append]
    apply List.dropWhile_cons_of_neg
    rw [trimmed.head first (by rw [same]; rfl)]
    exact Bool.false_ne_true
  rw [trimBlanks, started, rdropWhile_append_of_stop trimmed.last]

/-- Blanks which were cut from the end make no difference. -/
theorem trimBlanks_rdropWhile (blank : α → Bool) (text : List α) :
    trimBlanks blank (text.rdropWhile blank) = trimBlanks blank text := by
  have ends : ∀ char ∈ text.rtakeWhile blank, blank char = true :=
    fun char member => List.mem_rtakeWhile_imp member
  have cut := trimBlanks_append_right ends (text.rdropWhile blank)
  rw [List.rdropWhile_append_rtakeWhile] at cut
  exact cut.symm

section Congr

variable {other : α → Bool}

theorem dropWhile_eq_of_same (same : ∀ char ∈ text, blank char = other char) :
    text.dropWhile blank = text.dropWhile other := by
  induction text with
  | nil => rfl
  | cons char text induction =>
      have here := same char List.mem_cons_self
      have later := induction
        fun next member => same next (List.mem_cons_of_mem char member)
      rw [List.dropWhile_cons, List.dropWhile_cons, here, later]

theorem rdropWhile_eq_of_same (same : ∀ char ∈ text, blank char = other char) :
    text.rdropWhile blank = text.rdropWhile other := by
  rw [List.rdropWhile, List.rdropWhile, dropWhile_eq_of_same]
  intro char member
  exact same char (List.mem_reverse.mp member)

/-- Two notions of blanks which agree on a text cut the same. -/
theorem trimBlanks_eq_of_same
    (same : ∀ char ∈ text, blank char = other char) :
    trimBlanks blank text = trimBlanks other text := by
  rw [trimBlanks, trimBlanks, dropWhile_eq_of_same same]
  apply rdropWhile_eq_of_same
  intro char member
  exact same char ((List.dropWhile_suffix other).subset member)

end Congr

end Blanks

section Words

variable {α β : Type*} {separator : α → Bool}

variable {step : β → List α → β} {joint : List α} {words : List (List α)}

theorem foldl_splitOnP_separators (skips : ∀ state, step state [] = state)
    (separates : ∀ char ∈ joint, separator char = true) (text : List α)
    (state : β) :
    ((joint ++ text).splitOnP separator).foldl step state =
      (text.splitOnP separator).foldl step state := by
  induction joint with
  | nil => rfl
  | cons char joint induction =>
      have rest := induction
        (fun other member => separates other (List.mem_cons_of_mem char member))
      rw [List.cons_append, List.splitOnP_cons_eq_if_modifyHead,
        if_pos (separates char List.mem_cons_self), List.foldl_cons, skips]
      exact rest

/-- Splitting the joined words gives the words again, with empty ones in
between, which a fold may skip. -/
theorem foldl_splitOnP_intercalate (skips : ∀ state, step state [] = state)
    (joined : joint ≠ []) (separates : ∀ char ∈ joint, separator char = true)
    (whole : ∀ word ∈ words, ∀ char ∈ word, separator char = false)
    (state : β) :
    ((joint.intercalate words).splitOnP separator).foldl step state =
      words.foldl step state := by
  induction words generalizing state with
  | nil =>
      simp only [List.intercalate_nil, List.splitOnP_nil, List.foldl_cons,
        List.foldl_nil, skips]
  | cons word words induction =>
      have word_whole := whole word List.mem_cons_self
      cases words with
      | nil =>
          rw [List.intercalate_singleton, List.splitOnP_eq_singleton word_whole]
      | cons next words =>
          have rest := induction
            (fun other member => whole other (List.mem_cons_of_mem word member))
          cases joint with
          | nil => exact absurd rfl joined
          | cons char joint =>
              have separated := separates char List.mem_cons_self
              rw [List.intercalate_cons_cons, List.append_assoc,
                List.cons_append,
                List.splitOnP_append_cons_of_forall_mem word_whole char separated,
                List.foldl_cons, List.foldl_cons,
                foldl_splitOnP_separators skips (fun other member =>
                  separates other (List.mem_cons_of_mem char member))]
              exact rest (step state word)

/-- Puts a piece behind the others unless it is empty. -/
def appendFilled [DecidableEq α] (pieces : List (List α)) (piece : List α) :
    List (List α) :=
  if piece = [] then pieces else pieces ++ [piece]

theorem appendFilled_nil [DecidableEq α] (pieces : List (List α)) :
    appendFilled pieces [] = pieces := if_pos rfl

theorem foldl_appendFilled [DecidableEq α] (pieces before : List (List α)) :
    pieces.foldl appendFilled before = before ++ pieces.filter (· ≠ []) := by
  induction pieces generalizing before with
  | nil => exact (List.append_nil before).symm
  | cons piece pieces induction =>
      rw [List.foldl_cons, induction, appendFilled]
      by_cases empty : piece = []
      · simp [empty]
      · simp [empty]

/-- The joined words are found again as the pieces which are not empty. -/
theorem filter_splitOnP_intercalate [DecidableEq α] (joined : joint ≠ [])
    (separates : ∀ char ∈ joint, separator char = true)
    (whole : ∀ word ∈ words, ∀ char ∈ word, separator char = false) :
    ((joint.intercalate words).splitOnP separator).filter (· ≠ []) =
      words.filter (· ≠ []) := by
  have collected :=
    foldl_splitOnP_intercalate appendFilled_nil joined separates whole []
  rw [foldl_appendFilled, foldl_appendFilled] at collected
  exact collected

theorem separator_of_mem_splitOnP {text word : List α}
    (piece : word ∈ text.splitOnP separator) :
    ∀ char ∈ word, separator char = false := by
  induction text generalizing word with
  | nil =>
      rw [List.splitOnP_nil, List.mem_singleton] at piece
      intro char member
      rw [piece] at member
      cases member
  | cons char text induction =>
      rw [List.splitOnP_cons_eq_if_modifyHead] at piece
      split at piece
      · rcases List.mem_cons.mp piece with empty | later
        · intro other member
          rw [empty] at member
          cases member
        · exact induction later
      · rename_i plain
        obtain ⟨first, rest, pieces⟩ := List.exists_cons_of_ne_nil
          (List.splitOnP_ne_nil separator text)
        rw [pieces, List.modifyHead_cons] at piece
        rcases List.mem_cons.mp piece with extended | later
        · intro other member
          rw [extended] at member
          rcases List.mem_cons.mp member with same | inside
          · rw [same]
            exact Bool.eq_false_iff.mpr plain
          · exact induction (by rw [pieces]; exact List.mem_cons_self) other
              inside
        · exact induction (by rw [pieces]; exact List.mem_cons_of_mem first later)

/-- What is put before the first separator goes to the first word. -/
theorem splitOnP_append_head {front : List α}
    (whole : ∀ char ∈ front, separator char = false) (text : List α) :
    (front ++ text).splitOnP separator =
      (text.splitOnP separator).modifyHead (front ++ ·) := by
  induction front with
  | nil =>
      obtain ⟨first, rest, pieces⟩ := List.exists_cons_of_ne_nil
        (List.splitOnP_ne_nil separator text)
      rw [List.nil_append, pieces]
      rfl
  | cons char front induction =>
      have later := induction
        (fun other member => whole other (List.mem_cons_of_mem char member))
      have plain : ¬ separator char = true := by
        rw [whole char List.mem_cons_self]
        exact Bool.false_ne_true
      rw [List.cons_append, List.splitOnP_cons_eq_if_modifyHead, if_neg plain,
        later, List.modifyHead_modifyHead]
      rfl

/-- What is put behind the last separator goes to the last word. -/
theorem splitOnP_append_last (separator : α → Bool) (text : List α) :
    ∃ front last, text.splitOnP separator = front ++ [last] ∧
      ∀ back : List α, (∀ char ∈ back, separator char = false) →
        (text ++ back).splitOnP separator = front ++ [last ++ back] := by
  induction text with
  | nil =>
      refine ⟨[], [], rfl, ?_⟩
      intro back whole
      exact List.splitOnP_eq_singleton whole
  | cons char text induction =>
      obtain ⟨front, last, split, extended⟩ := induction
      by_cases separated : separator char = true
      · refine ⟨[] :: front, last, ?_, ?_⟩
        · rw [List.splitOnP_cons_eq_if_modifyHead, if_pos separated, split]
          rfl
        · intro back whole
          rw [List.cons_append, List.splitOnP_cons_eq_if_modifyHead,
            if_pos separated, extended back whole]
          rfl
      · cases front with
        | nil =>
            refine ⟨[], char :: last, ?_, ?_⟩
            · rw [List.splitOnP_cons_eq_if_modifyHead, if_neg separated, split]
              rfl
            · intro back whole
              rw [List.cons_append, List.splitOnP_cons_eq_if_modifyHead,
                if_neg separated, extended back whole]
              rfl
        | cons first front =>
            refine ⟨(char :: first) :: front, last, ?_, ?_⟩
            · rw [List.splitOnP_cons_eq_if_modifyHead, if_neg separated, split]
              rfl
            · intro back whole
              rw [List.cons_append, List.splitOnP_cons_eq_if_modifyHead,
                if_neg separated, extended back whole]
              rfl

/-- Splitting after a change is splitting where the change separates. -/
theorem splitOnP_map {γ : Type*} (change : α → γ) (separator : γ → Bool)
    (text : List α) :
    (text.map change).splitOnP separator =
      (text.splitOnP (separator ∘ change)).map (List.map change) := by
  induction text with
  | nil => rfl
  | cons char text induction =>
      rw [List.map_cons, List.splitOnP_cons_eq_if_modifyHead,
        List.splitOnP_cons_eq_if_modifyHead, induction, Function.comp_apply]
      by_cases separated : separator (change char) = true
      · rw [if_pos separated, if_pos separated]
        rfl
      · rw [if_neg separated, if_neg separated]
        obtain ⟨first, rest, pieces⟩ := List.exists_cons_of_ne_nil
          (List.splitOnP_ne_nil (separator ∘ change) text)
        rw [pieces]
        rfl

theorem mem_intercalate {word : List α} {char : α} (piece : word ∈ words)
    (member : char ∈ word) : char ∈ joint.intercalate words := by
  induction words with
  | nil => cases piece
  | cons first words induction =>
      cases words with
      | nil =>
          rw [List.intercalate_singleton, ← List.mem_singleton.mp piece]
          exact member
      | cons next words =>
          rw [List.intercalate_cons_cons, List.append_assoc]
          rcases List.mem_cons.mp piece with same | later
          · rw [← same]
            exact List.mem_append_left _ member
          · exact List.mem_append_right _
              (List.mem_append_right _ (induction later))

variable [DecidableEq α] {present more : List α}

/-- Puts an item behind the others unless it is among them. -/
def insertNew (present : List α) (item : α) : List α :=
  if item ∈ present then present else present ++ [item]

theorem nodup_insertNew (distinct : present.Nodup) (item : α) :
    (insertNew present item).Nodup := by
  rw [insertNew]
  split
  · exact distinct
  · rename_i fresh
    rw [← List.concat_eq_append]
    exact distinct.concat fresh

theorem mem_insertNew {item other : α} :
    other ∈ insertNew present item ↔ other ∈ present ∨ other = item := by
  rw [insertNew]
  split
  · rename_i known
    constructor
    · exact Or.inl
    · intro either
      rcases either with member | same
      · exact member
      · rw [same]
        exact known
  · rw [List.mem_append, List.mem_singleton]

theorem foldl_insertNew (distinct : (present ++ more).Nodup) :
    more.foldl insertNew present = present ++ more := by
  induction more generalizing present with
  | nil => simp
  | cons item more induction =>
      rw [List.append_cons] at distinct
      have fresh : item ∉ present := by
        have front := List.Nodup.of_append_left distinct
        rw [List.nodup_append] at front
        intro member
        exact front.2.2 item member item (List.mem_singleton_self item) rfl
      rw [List.foldl_cons, insertNew, if_neg fresh, induction distinct,
        ← List.append_cons]

theorem nodup_foldl_insertNew (distinct : present.Nodup) (more : List α) :
    (more.foldl insertNew present).Nodup := by
  induction more generalizing present with
  | nil => exact distinct
  | cons item more induction => exact induction (nodup_insertNew distinct item)

theorem mem_foldl_insertNew {item : α} :
    item ∈ more.foldl insertNew present ↔ item ∈ present ∨ item ∈ more := by
  induction more generalizing present with
  | nil => simp
  | cons first more induction =>
      rw [List.foldl_cons, induction, mem_insertNew, List.mem_cons, or_assoc]

theorem prefix_foldl_insertNew (present more : List α) :
    present <+: more.foldl insertNew present := by
  induction more generalizing present with
  | nil => exact List.prefix_refl present
  | cons item more induction =>
      apply List.IsPrefix.trans _ (induction (insertNew present item))
      rw [insertNew]
      split
      · exact List.prefix_refl present
      · exact List.prefix_append present [item]

variable {keep : α → Bool} {items : List α}

/-- The items which are kept, each where it occurs first. -/
def collectNew (keep : α → Bool) (items : List α) : List α :=
  items.foldl (fun present item =>
    if keep item then insertNew present item else present) []

theorem collectNew_concat (keep : α → Bool) (items : List α) (item : α) :
    collectNew keep (items ++ [item]) =
      if keep item then insertNew (collectNew keep items) item
      else collectNew keep items := by
  rw [collectNew, List.foldl_append]
  rfl

theorem mem_collectNew {item : α} :
    item ∈ collectNew keep items ↔ item ∈ items ∧ keep item = true := by
  induction items using List.reverseRecOn with
  | nil => simp [collectNew]
  | append_singleton items last induction =>
      rw [collectNew_concat, List.mem_append, List.mem_singleton, or_and_right,
        ← induction]
      by_cases kept : keep last = true
      · rw [if_pos kept, mem_insertNew]
        apply or_congr Iff.rfl
        exact ⟨fun same => ⟨same, same ▸ kept⟩, And.left⟩
      · rw [if_neg kept, iff_self_or]
        intro same
        rw [same.1] at same
        exact absurd same.2 kept

theorem nodup_collectNew (keep : α → Bool) (items : List α) :
    (collectNew keep items).Nodup := by
  induction items using List.reverseRecOn with
  | nil => exact List.nodup_nil
  | append_singleton items last induction =>
      rw [collectNew_concat]
      split
      · exact nodup_insertNew induction last
      · exact induction

/-- The order is that of the first occurrences. -/
theorem pairwise_collectNew [BEq α] [LawfulBEq α] (keep : α → Bool)
    (items : List α) :
    (collectNew keep items).Pairwise fun first second =>
      items.idxOf first < items.idxOf second := by
  induction items using List.reverseRecOn with
  | nil => exact List.Pairwise.nil
  | append_singleton items last induction =>
      have earlier : (collectNew keep items).Pairwise fun first second =>
          (items ++ [last]).idxOf first < (items ++ [last]).idxOf second := by
        apply induction.imp_of_mem
        intro first second isFirst isSecond before
        rwa [List.idxOf_append, List.idxOf_append,
          if_pos (mem_collectNew.mp isFirst).1,
          if_pos (mem_collectNew.mp isSecond).1]
      rw [collectNew_concat, insertNew]
      split
      · rename_i kept
        split
        · exact earlier
        · rename_i fresh
          apply List.pairwise_append.mpr
          refine ⟨earlier, List.pairwise_singleton _ _, ?_⟩
          intro first isFirst second isLast
          have known := (mem_collectNew.mp isFirst).1
          have unknown : last ∉ items := fun known =>
            fresh (mem_collectNew.mpr ⟨known, kept⟩)
          rw [List.mem_singleton.mp isLast, List.idxOf_append,
            List.idxOf_append, if_pos known, if_neg unknown]
          exact Nat.lt_of_lt_of_le (List.idxOf_lt_length_of_mem known)
            (Nat.le_add_left _ _)
      · exact earlier

theorem collectNew_eq_self (kept : ∀ item ∈ items, keep item = true)
    (distinct : items.Nodup) : collectNew keep items = items := by
  induction items using List.reverseRecOn with
  | nil => rfl
  | append_singleton items last induction =>
      have same := induction
        (fun item member => kept item (List.mem_append_left _ member))
        (List.Nodup.of_append_left distinct)
      have fresh : last ∉ items := by
        rw [List.nodup_append] at distinct
        intro member
        exact distinct.2.2 last member last (List.mem_singleton_self last) rfl
      rw [collectNew_concat, same, if_pos (kept last (by simp)), insertNew,
        if_neg fresh]

end Words

section Occurrences

variable {α β : Type*} [DecidableEq β] {key : α → β} {present items : List α}

/-- Puts an item behind the others unless its key is that of one of them. -/
def insertNewKey (key : α → β) (present : List α) (item : α) : List α :=
  if key item ∈ present.map key then present else present ++ [item]

/-- The items whose keys do not occur before them. -/
def firstOccurrences (key : α → β) : List α → List α
  | [] => []
  | item :: items =>
      item :: (firstOccurrences key items).filter (key · ≠ key item)

theorem foldl_insertNewKey (key : α → β) (items present : List α) :
    items.foldl (insertNewKey key) present =
      present ++
        (firstOccurrences key items).filter (key · ∉ present.map key) := by
  induction items generalizing present with
  | nil => simp [firstOccurrences]
  | cons item items induction =>
      simp only [List.foldl_cons, firstOccurrences, insertNewKey]
      by_cases known : key item ∈ present.map key
      · rw [if_pos known, induction, List.filter_cons_of_neg (by simp only
          [known, not_true, decide_false, Bool.false_eq_true, not_false_iff]),
          List.filter_filter]
        congr 1
        apply List.filter_congr
        intro other _
        by_cases same : key other = key item
        · simp only [same, known, not_true, decide_false, Bool.false_and]
        · simp only [same, ne_eq, not_false_iff, decide_true, Bool.and_true]
      · rw [if_neg known, induction, List.filter_cons_of_pos (by simp only
          [known, not_false_iff, decide_true]), List.filter_filter,
          List.append_assoc, List.singleton_append]
        congr 2
        apply List.filter_congr
        intro other _
        simp only [List.map_append, List.map_singleton, List.mem_append,
          List.mem_singleton, not_or, Bool.decide_and, ne_eq]

theorem firstOccurrences_sublist (key : α → β) (items : List α) :
    (firstOccurrences key items).Sublist items := by
  induction items with
  | nil => exact List.Sublist.refl []
  | cons item items induction =>
      apply List.Sublist.cons_cons
      exact List.filter_sublist.trans induction

theorem firstOccurrences_congr {other : α → β}
    (same : ∀ item ∈ items, key item = other item) :
    firstOccurrences key items = firstOccurrences other items := by
  induction items with
  | nil => rfl
  | cons item items induction =>
      have later := induction
        (fun next member => same next (List.mem_cons_of_mem item member))
      rw [firstOccurrences, firstOccurrences, later,
        same item List.mem_cons_self]
      apply congrArg (item :: ·)
      apply List.filter_congr
      intro next kept
      have member := (firstOccurrences_sublist other items).subset kept
      rw [same next (List.mem_cons_of_mem item member)]

theorem insertNewKey_id {γ : Type*} [DecidableEq γ] (present : List γ)
    (item : γ) : insertNewKey id present item = insertNew present item := by
  rw [insertNewKey, insertNew, List.map_id, id]

theorem nodup_firstOccurrences (key : α → β) (items : List α) :
    ((firstOccurrences key items).map key).Nodup := by
  induction items with
  | nil => exact List.nodup_nil
  | cons item items induction =>
      rw [firstOccurrences, List.map_cons, List.nodup_cons]
      constructor
      · intro again
        obtain ⟨other, kept, same⟩ := List.mem_map.mp again
        have different := (List.mem_filter.mp kept).2
        exact absurd same (of_decide_eq_true different)
      · exact induction.sublist (List.filter_sublist.map key)

theorem firstOccurrences_eq_self (distinct : (items.map key).Nodup) :
    firstOccurrences key items = items := by
  induction items with
  | nil => rfl
  | cons item items induction =>
      rw [List.map_cons, List.nodup_cons] at distinct
      rw [firstOccurrences, induction distinct.2]
      apply congrArg (item :: ·)
      apply List.filter_eq_self.mpr
      intro other member
      apply decide_eq_true
      intro same
      apply distinct.1
      rw [← same]
      exact List.mem_map_of_mem member

end Occurrences

end Lib
