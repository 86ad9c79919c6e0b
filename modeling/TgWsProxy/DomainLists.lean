import TgWsProxy.Python.TrayConfig
import TgWsProxy.Rust.ProxyConfig

/-!
# Lists of domains in the settings

Both programs show a list of domains as one text, joined by commas, and read the
text again with `coerce_domain_list` when the settings are saved.  The list which
comes out is in a normal form that its own text preserves.
-/

namespace TgWsProxy

open Lib

/-- What a list of domains is once it has been read: none is empty or contains a
separator, no two have the same key, each is the first of the items with its
key, and the joined text reads as the list again. -/
structure NormalDomains (key : String → String) (items : List String)
    (readAgain : String → List String) (domains : List String) : Prop where
  nonempty : ∀ domain ∈ domains, domain ≠ ""
  whole : ∀ domain ∈ domains, ∀ char ∈ domain.toList,
    char ≠ ',' ∧ char ≠ ';' ∧ char ≠ ' '
  distinct : (domains.map key).Nodup
  first : domains = firstOccurrences key items
  restored : readAgain (", ".intercalate domains) = domains

namespace Python

/-- What separates the items of a text. -/
def isItemSeparator (char : Char) : Bool :=
  isSpace char || char == ',' || char == ';'

/-- What stands between the separators of a text. -/
def separatedItems (text : String) : List String :=
  ((text.toList.splitOnP isItemSeparator).filter (· ≠ [])).map String.ofList

/-- The items of a value which is a text or a list with texts. -/
def listedItems : JsonValue → List String
  | .str text => separatedItems text
  | .list entries => entries.flatMap fun entry =>
      match entry with
      | .str text => separatedItems text
      | _ => []
  | _ => []

/-- An item as `split` returns it. -/
structure WholeItem (item : String) : Prop where
  nonempty : item.toList ≠ []
  whole : ∀ char ∈ item.toList, isItemSeparator char = false

section Items

variable {py : Builtins} {text item : String} {items domains : List String}

/-- The commas and semicolons which become blanks separate the items. -/
theorem domainItems_eq (text : String) :
    domainItems text = separatedItems text := by
  have separators :
      (isSpace ∘ fun char : Char =>
        if char = ',' ∨ char = ';' then ' ' else char) = isItemSeparator := by
    funext char
    simp only [Function.comp_apply, isItemSeparator]
    by_cases mark : char = ',' ∨ char = ';'
    · rw [if_pos mark]
      rcases mark with comma | semicolon
      · rw [comma]
        rfl
      · rw [semicolon]
        rfl
    · rw [if_neg mark]
      rw [not_or] at mark
      rw [beq_false_of_ne mark.1, beq_false_of_ne mark.2, Bool.or_false,
        Bool.or_false]
  have kept : (text.toList.splitOnP isItemSeparator).map (List.map fun char =>
      if char = ',' ∨ char = ';' then ' ' else char) =
        text.toList.splitOnP isItemSeparator := by
    apply Eq.trans (List.map_congr_left _) (List.map_id _)
    intro piece isPiece
    apply Eq.trans (List.map_congr_left _) (List.map_id _)
    intro char member
    have separates := separator_of_mem_splitOnP isPiece char member
    simp only [isItemSeparator, Bool.or_eq_false_iff,
      beq_eq_false_iff_ne] at separates
    apply if_neg
    intro mark
    rcases mark with comma | semicolon
    · exact separates.1.2 comma
    · exact separates.2 semicolon
  rw [domainItems, splitWords, splitOnP_map, separators, kept, separatedItems]

theorem wholeItem_of_mem_separatedItems (member : item ∈ separatedItems text) :
    WholeItem item := by
  obtain ⟨piece, kept, same⟩ := List.mem_map.mp member
  obtain ⟨isPiece, nonempty⟩ := List.mem_filter.mp kept
  rw [← same]
  constructor
  · rw [String.toList_ofList]
    exact of_decide_eq_true nonempty
  · rw [String.toList_ofList]
    exact separator_of_mem_splitOnP isPiece

theorem wholeItem_of_mem_listedItems {value : JsonValue}
    (member : item ∈ listedItems value) : WholeItem item := by
  cases value with
  | str text => exact wholeItem_of_mem_separatedItems member
  | list entries =>
      obtain ⟨entry, _, inside⟩ := List.mem_flatMap.mp member
      cases entry with
      | str text => exact wholeItem_of_mem_separatedItems inside
      | none | bool value | int value | float value | list items | dict items =>
          cases inside
  | none | bool value | int value | float value | dict items => cases member

theorem WholeItem.strip (settled : WholeItem item) : strip item = item := by
  have plain : ∀ char ∈ item.toList, isSpace char = false := by
    intro char member
    have separates := settled.whole char member
    simp only [isItemSeparator, Bool.or_eq_false_iff] at separates
    exact separates.1.1
  have trimmed : Trimmed isSpace item.toList := by
    constructor
    · intro first found
      exact plain first (List.mem_of_head? found)
    · intro final found
      exact plain final (List.mem_of_getLast? found)
  rw [Python.strip, trimBlanks_eq_self trimmed, String.ofList_toList]

/-- An item goes behind the others unless its lower case is that of one. -/
theorem coerceDomain_eq (settled : WholeItem item) (result : List String) :
    coerceDomain py result item = insertNewKey py.lower result item := by
  have notEmpty : item ≠ "" := by
    intro empty
    apply settled.nonempty
    rw [empty]
    rfl
  simp only [coerceDomain, settled.strip, notEmpty, false_or]
  rfl

theorem foldl_coerceDomain (settled : ∀ item ∈ items, WholeItem item) :
    items.foldl (coerceDomain py) [] = firstOccurrences py.lower items := by
  have steps : items.foldl (coerceDomain py) [] =
      items.foldl (insertNewKey py.lower) [] := by
    apply List.foldl_ext
    intro result item member
    exact coerceDomain_eq (settled item member) result
  rw [steps, foldl_insertNewKey]
  simp

/-- The items are gone through in their order. -/
theorem coerceDomainList_eq (value : JsonValue) :
    coerceDomainList py value =
      (listedItems value).foldl (coerceDomain py) [] := by
  cases value with
  | str text =>
      rw [listedItems, ← domainItems_eq]
      rfl
  | list entries =>
      have same : (fun entry : JsonValue =>
          match entry with
          | .str text => separatedItems text
          | _ => []) = entryItems := by
        funext entry
        cases entry with
        | str text => exact (domainItems_eq text).symm
        | none | bool value | int value | float value | list items
          | dict items => rfl
      rw [listedItems, same]
      rfl
  | none | bool value | int value | float value | dict items => rfl

/-- The joined text has the domains as its items. -/
theorem separatedItems_intercalate
    (settled : ∀ domain ∈ domains, WholeItem domain) :
    separatedItems (", ".intercalate domains) = domains := by
  have joint : ", ".toList = [',', ' '] := rfl
  have separates : ∀ char ∈ [',', ' '], isItemSeparator char = true := by
    intro char member
    rcases List.mem_pair.mp member with comma | blank
    · rw [comma]
      rfl
    · rw [blank]
      rfl
  have whole : ∀ word ∈ domains.map String.toList,
      ∀ char ∈ word, isItemSeparator char = false := by
    intro word member
    obtain ⟨domain, found, same⟩ := List.mem_map.mp member
    rw [← same]
    exact (settled domain found).whole
  have filled : (domains.map String.toList).filter (· ≠ []) =
      domains.map String.toList := by
    apply List.filter_eq_self.mpr
    intro word member
    obtain ⟨domain, found, same⟩ := List.mem_map.mp member
    rw [← same]
    exact decide_eq_true (settled domain found).nonempty
  rw [separatedItems, String.toList_intercalate, joint,
    filter_splitOnP_intercalate (List.cons_ne_nil _ _) separates whole, filled,
    List.map_map]
  apply Eq.trans (List.map_congr_left _) (List.map_id _)
  intro domain _
  exact String.ofList_toList

theorem normalDomains_coerceDomainList (py : Builtins) (value : JsonValue) :
    NormalDomains py.lower (listedItems value)
      (fun text => coerceDomainList py (.str text))
      (coerceDomainList py value) := by
  have settled : ∀ item ∈ listedItems value, WholeItem item :=
    fun _ => wholeItem_of_mem_listedItems
  have first : coerceDomainList py value =
      firstOccurrences py.lower (listedItems value) := by
    rw [coerceDomainList_eq]
    exact foldl_coerceDomain settled
  have settledDomains : ∀ domain ∈ coerceDomainList py value,
      WholeItem domain := by
    intro domain member
    rw [first] at member
    exact settled domain ((firstOccurrences_sublist _ _).subset member)
  have distinct : ((coerceDomainList py value).map py.lower).Nodup := by
    rw [first]
    exact nodup_firstOccurrences py.lower (listedItems value)
  refine ⟨?_, ?_, distinct, first, ?_⟩
  · intro domain member empty
    apply (settledDomains domain member).nonempty
    rw [empty]
    rfl
  · intro domain member char inside
    have separates := (settledDomains domain member).whole char inside
    simp only [isItemSeparator, Bool.or_eq_false_iff,
      beq_eq_false_iff_ne] at separates
    refine ⟨separates.1.2, separates.2, ?_⟩
    intro blank
    rw [blank] at separates
    exact absurd separates.1.1 (by decide)
  · have again := separatedItems_intercalate settledDomains
    calc coerceDomainList py
          (.str (", ".intercalate (coerceDomainList py value)))
        = (separatedItems (", ".intercalate (coerceDomainList py value))).foldl
            (coerceDomain py) [] := coerceDomainList_eq _
      _ = firstOccurrences py.lower (coerceDomainList py value) := by
          rw [again]
          exact foldl_coerceDomain settledDomains
      _ = coerceDomainList py value := firstOccurrences_eq_self distinct

end Items

end Python

namespace Rust

variable {table : LowercaseTable} {domains : List String}

/-- `s.trim().to_lowercase()` of a piece. -/
def loweredPiece (table : LowercaseTable) (piece : List Char) : List Char :=
  table.toLowercase [] (trimBlanks isWhitespace piece)

/-- The texts which `coerce_domain_list` goes through. -/
def listedItems (table : LowercaseTable) : Option (List String) → List String
  | none => []
  | some list =>
      (((list.flatMap fun item =>
          item.toList.splitOnP isDomainSeparator).map
        (loweredPiece table)).filter (· ≠ [])).map String.ofList

def lowerText (table : LowercaseTable) (text : String) : String :=
  String.ofList (table.toLowercase [] text.toList)

theorem coerceDomainList_eq (value : Option (List String)) :
    coerceDomainList table value =
      firstOccurrences id (listedItems table value) := by
  cases value with
  | none => rfl
  | some list =>
      have collected : firstOccurrences id (listedItems table (some list)) =
          (listedItems table (some list)).foldl (insertNewKey id) [] := by
        rw [foldl_insertNewKey]
        simp
      rw [collected, listedItems, List.foldl_map, List.foldl_filter,
        List.foldl_map, List.foldl_flatMap, coerceDomainList]
      apply List.foldl_ext
      intro result item _
      apply List.foldl_ext
      intro result piece _
      by_cases empty : table.toLowercase [] (trimBlanks isWhitespace piece) = []
      · simp [coerceDomain, loweredPiece, empty]
      · simp [coerceDomain, loweredPiece, empty, insertNewKey_id]

theorem lowerText_coerced {domain : String}
    (coerced : CoercedDomain table domain) :
    lowerText table domain = domain := by
  rw [lowerText, coerced.lower, String.ofList_toList]

theorem lowerText_listed {value : Option (List String)} {item : String}
    (member : item ∈ listedItems table value) : lowerText table item = item := by
  cases value with
  | none => cases member
  | some list =>
      obtain ⟨lowered, kept, same⟩ := List.mem_map.mp member
      obtain ⟨piece, _, isLowered⟩ :=
        List.mem_map.mp (List.mem_filter.mp kept).1
      rw [← same, ← isLowered, lowerText, String.toList_ofList, loweredPiece,
        LowercaseTable.toLowercase_toLowercase]

theorem normalDomains_coerceDomainList (table : LowercaseTable)
    (value : Option (List String)) :
    NormalDomains (lowerText table) (listedItems table value)
      (fun text => coerceDomainList table (some [text]))
      (coerceDomainList table value) := by
  have coerced := @coerceDomainList_coerced table value
  refine ⟨?_, ?_, ?_, ?_, coerceDomainList_intercalate coerced⟩
  · intro domain member empty
    apply (coerced.coerced domain member).nonempty
    rw [empty]
    rfl
  · intro domain member char inside
    have separates := (coerced.coerced domain member).whole char inside
    simp only [isDomainSeparator, Bool.or_eq_false_iff,
      beq_eq_false_iff_ne] at separates
    exact ⟨separates.1.1, separates.1.2, separates.2⟩
  · have same : (coerceDomainList table value).map (lowerText table) =
        coerceDomainList table value := by
      apply Eq.trans (List.map_congr_left _) (List.map_id _)
      intro domain member
      exact lowerText_coerced (coerced.coerced domain member)
    rw [same]
    exact coerced.distinct
  · rw [coerceDomainList_eq]
    apply firstOccurrences_congr
    intro item member
    exact (lowerText_listed member).symm

end Rust

/-- Both programs read a list of domains to a normal form which survives being
shown and read again. -/
theorem coerceDomainList_normal (py : Python.Builtins)
    (value : Python.JsonValue) (table : Rust.LowercaseTable)
    (list : Option (List String)) :
    NormalDomains py.lower (Python.listedItems value)
        (fun text => Python.coerceDomainList py (.str text))
        (Python.coerceDomainList py value) ∧
      NormalDomains (Rust.lowerText table) (Rust.listedItems table list)
        (fun text => Rust.coerceDomainList table (some [text]))
        (Rust.coerceDomainList table list) :=
  ⟨Python.normalDomains_coerceDomainList py value,
    Rust.normalDomains_coerceDomainList table list⟩

end TgWsProxy
