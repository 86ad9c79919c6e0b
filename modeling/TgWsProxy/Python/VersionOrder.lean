import TgWsProxy.Lib.PaddedOrder
import TgWsProxy.Python.TrayConfig

/-!
# The order of release versions

`_parse_version_tuple`, `_version_gt` and `_apply_release_tag` of
`utils/update_check.py`.  A version is compared by the sequence of its segments,
with zeros behind the last one.
-/

namespace TgWsProxy.Python

open Lib

/-- The digits of `str.isdigit`, some of which `int` does not read. -/
structure DigitTable where
  isDigit : Char → Bool
  /-- `int` of a text of digits, without a value where it raises
  `ValueError`. -/
  int : PyStr → Option Nat
  isDigit_ascii : ∀ char : Char, char.toNat < 128 → isDigit char = char.isDigit
  isDigit_space : ∀ char : Char, isSpace char = true → isDigit char = false
  /-- Numerals of ASCII digits are read up to the limit of `int`. -/
  int_ascii : ∀ digits : PyStr, digits ≠ [] →
    (∀ char ∈ digits, char.isDigit = true) → digits.length ≤ 4300 →
      int digits = some (Nat.ofDigitChars 10 digits 0)

theorem isDigit_of_isSpace {char : Char} (space : isSpace char = true) :
    char.isDigit = false := by
  by_contra digit
  simp only [Bool.not_eq_false, Char.isDigit, Bool.and_eq_true,
    decide_eq_true_eq, ge_iff_le, UInt32.le_iff_toNat_le] at digit
  have low : 48 ≤ char.toNat := digit.1
  have high : char.toNat ≤ 57 := digit.2
  simp [isSpace] at space
  omega

/-- The digits of ASCII and no others. -/
def DigitTable.ascii : DigitTable :=
  ⟨Char.isDigit, fun digits => some (Nat.ofDigitChars 10 digits 0),
    fun _ _ => rfl, fun _ => isDigit_of_isSpace, fun _ _ _ _ => rfl⟩

/-- `str.lstrip` of `"vV"`. -/
def lstripV (s : PyStr) : PyStr := s.dropWhile fun c => c == 'v' || c == 'V'

/-- What a segment adds to `parts`. -/
def versionPart (table : DigitTable) (seg : PyStr) : Nat :=
  let digits := seg.takeWhile table.isDigit
  if digits = [] then 0
  else
    match table.int digits with
    | some number => number
    | none => 0

/-- `_parse_version_tuple`. -/
def parseVersionTuple (table : DigitTable) (s : PyStr) : List Nat :=
  let s := lstripV s.strip
  if s = [] then [0]
  else
    let parts := (s.splitOn '.').map (versionPart table)
    if parts = [] then [0] else parts

/-- `_version_gt`. -/
def versionGt (table : DigitTable) (a b : PyStr) : Bool :=
  let ta := parseVersionTuple table a
  let tb := parseVersionTuple table b
  leftGreater (zipLongest 0 ta tb)

/-- An asset of a release; the values are those of the JSON text. -/
structure Asset where
  name : JsonValue
  url : JsonValue
  digest : JsonValue

/-- `_state`. -/
structure UpdateState where
  checked : Bool
  hasUpdate : Bool
  aheadOfRelease : Bool
  latest : Option PyStr
  htmlUrl : Option PyStr
  error : Option PyStr
  assets : List Asset

/-- `RELEASES_PAGE_URL`. -/
def releasesPageUrl : PyStr :=
  "https://github.com/Flowseal/tg-ws-proxy/releases/latest".toList

/-- `text.strip() or RELEASES_PAGE_URL`. -/
def urlOrPage (text : PyStr) : PyStr :=
  if text.strip = [] then releasesPageUrl else text.strip

/-- `_apply_release_tag`. -/
def applyReleaseTag (table : DigitTable) (tag htmlUrl currentVersion : PyStr)
    (state : UpdateState) : UpdateState :=
  if tag = [] then
    { state with
      hasUpdate := false
      aheadOfRelease := false
      latest := none
      htmlUrl := some (urlOrPage htmlUrl) }
  else
    let latestClean := lstripV tag
    let cur := lstripV currentVersion.strip
    { state with
      latest := some latestClean
      htmlUrl := some (urlOrPage htmlUrl)
      hasUpdate := versionGt table latestClean cur
      aheadOfRelease := latestClean ≠ [] && versionGt table cur latestClean }

section Order

variable {table : DigitTable} {a b c : PyStr}

/-- The segments of a version, with zeros behind them. -/
def versionKey (table : DigitTable) (s : PyStr) : Lex (Nat → Nat) :=
  padded 0 (parseVersionTuple table s)

theorem versionGt_iff :
    versionGt table a b = true ↔ versionKey table b < versionKey table a :=
  leftGreater_zipLongest_iff

/-- Neither version is greater. -/
def Tied (table : DigitTable) (a b : PyStr) : Prop :=
  versionGt table a b = false ∧ versionGt table b a = false

theorem tied_iff : Tied table a b ↔ versionKey table a = versionKey table b := by
  rw [Tied, Bool.eq_false_iff, Bool.eq_false_iff, ne_eq, ne_eq, versionGt_iff,
    versionGt_iff]
  constructor
  · intro ⟨notAbove, notBelow⟩
    exact le_antisymm (not_lt.mp notAbove) (not_lt.mp notBelow)
  · intro same
    rw [same]
    exact ⟨lt_irrefl _, lt_irrefl _⟩

/-- Two texts which every comparison takes for the same version. -/
def SameVersion (table : DigitTable) (a b : PyStr) : Prop :=
  ∀ other, versionGt table a other = versionGt table b other ∧
    versionGt table other a = versionGt table other b

theorem sameVersion_of_key (same : versionKey table a = versionKey table b) :
    SameVersion table a b := by
  intro other
  constructor
  · rw [Bool.eq_iff_iff, versionGt_iff, versionGt_iff, same]
  · rw [Bool.eq_iff_iff, versionGt_iff, versionGt_iff, same]

end Order

section Spellings

variable {table : DigitTable} {back : PyStr}

/-- The segments of a text which has been stripped. -/
def versionParts (table : DigitTable) (s : PyStr) : List Nat :=
  (s.splitOn '.').map (versionPart table)

theorem parseVersionTuple_eq (s : PyStr) :
    parseVersionTuple table s = versionParts table (lstripV s.strip) := by
  simp only [parseVersionTuple]
  split
  · rename_i empty
    rw [empty]
    rfl
  · apply if_neg
    intro none
    exact List.splitOn_ne_nil '.' _ (List.map_eq_nil_iff.mp none)

theorem versionPart_append_space (spaces : ∀ char ∈ back, isSpace char = true)
    (seg : PyStr) : versionPart table (seg ++ back) = versionPart table seg := by
  have stopped : back.takeWhile table.isDigit = [] := by
    cases back with
    | nil => rfl
    | cons first back =>
        apply List.takeWhile_cons_of_neg
        rw [table.isDigit_space first (spaces first List.mem_cons_self)]
        exact Bool.false_ne_true
  have digits : (seg ++ back).takeWhile table.isDigit =
      seg.takeWhile table.isDigit := by
    rw [List.takeWhile_append, stopped, List.append_nil]
    split
    · rename_i whole
      exact (List.takeWhile_prefix _).eq_of_length whole |>.symm
    · rfl
  rw [versionPart, digits]
  rfl

theorem versionParts_append_space (spaces : ∀ char ∈ back, isSpace char = true)
    (s : PyStr) : versionParts table (s ++ back) = versionParts table s := by
  have noDot : ∀ char ∈ back, (char == '.') = false := by
    intro char member
    rw [beq_eq_false_iff_ne]
    intro dot
    have space := spaces char member
    rw [dot] at space
    exact absurd space (by decide)
  obtain ⟨front, last, split, extended⟩ := splitOnP_append_last (· == '.') s
  rw [versionParts, versionParts, List.splitOn_eq_splitOnP,
    List.splitOn_eq_splitOnP, extended back noDot, split, List.map_append,
    List.map_append, List.map_singleton, List.map_singleton,
    versionPart_append_space spaces]

/-- Whitespace behind a version does not change its segments. -/
theorem parseVersionTuple_eq_of_front (s : PyStr) :
    parseVersionTuple table s =
      versionParts table (lstripV (s.dropWhile isSpace)) := by
  have spaces : ∀ char ∈ (s.dropWhile isSpace).rtakeWhile isSpace,
      isSpace char = true := fun _ => List.mem_rtakeWhile_imp
  have notV : ∀ first,
      ((s.dropWhile isSpace).rtakeWhile isSpace).head? = some first →
        (first == 'v' || first == 'V') = false := by
    intro first isFirst
    have space := spaces first (List.mem_of_head? isFirst)
    rw [Bool.or_eq_false_iff, beq_eq_false_iff_ne, beq_eq_false_iff_ne]
    constructor
    · intro same
      rw [same] at space
      exact absurd space (by decide)
    · intro same
      rw [same] at space
      exact absurd space (by decide)
  calc parseVersionTuple table s
      = versionParts table
          (lstripV ((s.dropWhile isSpace).rdropWhile isSpace)) :=
        parseVersionTuple_eq s
    _ = versionParts table
          (lstripV ((s.dropWhile isSpace).rdropWhile isSpace) ++
            (s.dropWhile isSpace).rtakeWhile isSpace) :=
        (versionParts_append_space spaces _).symm
    _ = versionParts table (lstripV (s.dropWhile isSpace)) := by
        rw [lstripV, ← dropWhile_append_of_stop notV,
          List.rdropWhile_append_rtakeWhile]
        rfl

theorem parseVersionTuple_surrounded {front : PyStr}
    (leading : ∀ char ∈ front, isSpace char = true)
    (trailing : ∀ char ∈ back, isSpace char = true) (s : PyStr) :
    parseVersionTuple table (front ++ s ++ back) =
      parseVersionTuple table s := by
  rw [parseVersionTuple_eq, parseVersionTuple_eq, PyStr.strip,
    trimBlanks_append leading trailing]
  rfl

theorem parseVersionTuple_cons_v {v : Char} (isV : v = 'v' ∨ v = 'V')
    {s : PyStr} (begins : ∀ first, s.head? = some first →
      isSpace first = false) :
    parseVersionTuple table (v :: s) = parseVersionTuple table s := by
  have dropped : (v :: s).dropWhile isSpace = v :: s := by
    apply List.dropWhile_cons_of_neg
    rcases isV with lower | upper
    · rw [lower]
      decide
    · rw [upper]
      decide
  have kept : s.dropWhile isSpace = s := by
    have whole := dropWhile_append_of_stop begins []
    rw [List.nil_append, List.dropWhile_nil, List.nil_append] at whole
    exact whole
  rw [parseVersionTuple_eq_of_front, parseVersionTuple_eq_of_front, dropped,
    kept, lstripV, List.dropWhile_cons_of_pos]
  · rfl
  · rcases isV with lower | upper
    · rw [lower]
      rfl
    · rw [upper]
      rfl

theorem versionPart_zero : versionPart table ['0'] = 0 := by
  have digit : table.isDigit '0' = true := table.isDigit_ascii '0' (by decide)
  have read : table.int ['0'] = some 0 := by
    apply table.int_ascii
    · exact List.cons_ne_nil _ _
    · intro char member
      rw [List.mem_singleton.mp member]
      rfl
    · decide
  simp [versionPart, digit, read]

theorem versionKey_append_zero (s : PyStr) :
    versionKey table (s ++ ['.', '0']) = versionKey table s := by
  have notSpace : ∀ first, ['.', '0'].head? = some first →
      isSpace first = false := by
    intro first isFirst
    cases isFirst
    decide
  have notV : ∀ first, ['.', '0'].head? = some first →
      (first == 'v' || first == 'V') = false := by
    intro first isFirst
    cases isFirst
    decide
  have front : lstripV ((s ++ ['.', '0']).dropWhile isSpace) =
      lstripV (s.dropWhile isSpace) ++ ['.', '0'] := by
    rw [dropWhile_append_of_stop notSpace, lstripV, lstripV,
      dropWhile_append_of_stop notV]
  have segments (text : PyStr) :
      versionParts table (text ++ ['.', '0']) =
        versionParts table text ++ [0] := by
    rw [versionParts, versionParts, List.splitOn_eq_splitOnP,
      List.splitOn_eq_splitOnP, List.splitOnP_append_cons text ['0'] (by rfl),
      List.map_append]
    exact congrArg (_ ++ [·]) versionPart_zero
  rw [versionKey, versionKey, parseVersionTuple_eq_of_front,
    parseVersionTuple_eq_of_front, front, segments, padded_append_fill]

end Spellings

section Releases

variable {table : DigitTable}

theorem not_both_greater (a b : PyStr) :
    ¬ (versionGt table a b = true ∧ versionGt table b a = true) := by
  intro ⟨above, below⟩
  exact lt_asymm (versionGt_iff.mp above) (versionGt_iff.mp below)

/-- A release is not newer and older than the current version at once. -/
theorem applyReleaseTag_not_both (tag htmlUrl currentVersion : PyStr)
    (state : UpdateState) :
    let after := applyReleaseTag table tag htmlUrl currentVersion state
    ¬ (after.hasUpdate = true ∧ after.aheadOfRelease = true) := by
  intro after ⟨update, ahead⟩
  by_cases empty : tag = []
  · simp only [after, applyReleaseTag, if_pos empty] at update
    cases update
  · simp only [after, applyReleaseTag, if_neg empty, Bool.and_eq_true]
      at update ahead
    exact not_both_greater _ _ ⟨update, ahead.2⟩

/-- `_version_gt` is a strict weak order, whose ties are the versions which
differ in zeros at the end, and the spellings of a version are tied. -/
theorem versionGt_strict_weak_order (table : DigitTable) :
    (∀ a, versionGt table a a = false) ∧
      (∀ a b, versionGt table a b = true → versionGt table b a = false) ∧
      (∀ a b c, versionGt table a b = true → versionGt table b c = true →
        versionGt table a c = true) ∧
      (∀ a b c, Tied table a b → Tied table b c → Tied table a c) ∧
      (∀ a b, Tied table a b ↔
        SamePadded 0 (parseVersionTuple table a) (parseVersionTuple table b)) ∧
      (∀ front s back, (∀ char ∈ front, isSpace char = true) →
        (∀ char ∈ back, isSpace char = true) →
          SameVersion table (front ++ s ++ back) s) ∧
      (∀ v s, v = 'v' ∨ v = 'V' →
        (∀ first, s.head? = some first → isSpace first = false) →
          SameVersion table (v :: s) s) ∧
      (∀ s, SameVersion table (s ++ ['.', '0']) s) ∧
      ∀ tag htmlUrl currentVersion state,
        let after := applyReleaseTag table tag htmlUrl currentVersion state
        ¬ (after.hasUpdate = true ∧ after.aheadOfRelease = true) := by
  refine ⟨?_, ?_, ?_, ?_, ?_, ?_, ?_, ?_, applyReleaseTag_not_both⟩
  · intro a
    exact (tied_iff.mpr rfl).1
  · intro a b above
    apply Bool.eq_false_iff.mpr
    intro below
    exact not_both_greater a b ⟨above, below⟩
  · intro a b c first second
    have below := lt_trans (versionGt_iff.mp second) (versionGt_iff.mp first)
    exact versionGt_iff.mpr below
  · intro a b c first second
    exact tied_iff.mpr ((tied_iff.mp first).trans (tied_iff.mp second))
  · intro a b
    rw [tied_iff]
    exact padded_eq_iff
  · intro front s back leading trailing
    apply sameVersion_of_key
    rw [versionKey, parseVersionTuple_surrounded leading trailing]
    rfl
  · intro v s isV begins
    apply sameVersion_of_key
    rw [versionKey, parseVersionTuple_cons_v isV begins]
    rfl
  · intro s
    exact sameVersion_of_key (versionKey_append_zero s)

/-- Whitespace in front hides the digits of the first segment. -/
theorem versionParts_cons_space {space : Char} (isBlank : isSpace space = true)
    {front : PyStr} (noDot : ∀ char ∈ space :: front, char ≠ '.')
    (text : PyStr) :
    ∃ first rest, versionParts table text = first :: rest ∧
      versionParts table (space :: front ++ text) = 0 :: rest := by
  have whole : ∀ char ∈ space :: front, (char == '.') = false :=
    fun char member => beq_eq_false_iff_ne.mpr (noDot char member)
  obtain ⟨first, rest, pieces⟩ :=
    List.exists_cons_of_ne_nil (List.splitOn_ne_nil '.' text)
  refine ⟨versionPart table first, rest.map (versionPart table), ?_, ?_⟩
  · rw [versionParts, pieces, List.map_cons]
  · have hidden : versionPart table (space :: front ++ first) = 0 := by
      have stopped : (space :: front ++ first).takeWhile table.isDigit = [] := by
        apply List.takeWhile_cons_of_neg
        rw [table.isDigit_space space isBlank]
        exact Bool.false_ne_true
      rw [versionPart, stopped]
      rfl
    rw [List.splitOn_eq_splitOnP] at pieces
    rw [versionParts, List.splitOn_eq_splitOnP, splitOnP_append_head whole,
      pieces, List.modifyHead_cons, List.map_cons, hidden]

theorem padded_cons_le {first second : Nat} (below : first ≤ second)
    (rest : List Nat) :
    ¬ padded 0 (second :: rest) < padded 0 (first :: rest) := by
  intro greater
  rcases (padded_lt_iff 0 _ _).mp greater with lower | ⟨-, same⟩
  · exact absurd lower (Nat.not_lt.mpr below)
  · exact lt_irrefl _ same

/-- Stripping in between can only raise the first segment: `_apply_release_tag`
compares with a text which `_parse_version_tuple` strips again. -/
theorem versionGt_of_stripped {latest currentVersion : PyStr}
    (newer : versionGt table latest (lstripV currentVersion.strip) = true) :
    versionGt table latest currentVersion = true := by
  have below := versionGt_iff.mp newer
  apply versionGt_iff.mpr
  generalize isCur : lstripV currentVersion.strip = cur at below
  have stripped : versionKey table currentVersion =
      padded 0 (versionParts table cur) := by
    rw [versionKey, parseVersionTuple_eq, isCur]
  have again : versionKey table cur =
      padded 0 (versionParts table (lstripV (cur.dropWhile isSpace))) := by
    rw [versionKey, parseVersionTuple_eq_of_front]
  suffices notAbove : ¬ versionKey table cur < versionKey table currentVersion
    from lt_of_le_of_lt (not_lt.mp notAbove) below
  rw [stripped, again]
  cases spaces : cur.takeWhile isSpace with
  | nil =>
      have whole : cur.dropWhile isSpace = cur := by
        have joined := List.takeWhile_append_dropWhile (p := isSpace) (l := cur)
        rw [spaces] at joined
        exact joined
      have idempotent : lstripV cur = cur := by
        rw [← isCur, lstripV, lstripV, List.dropWhile_idempotent]
      rw [whole, idempotent]
      exact lt_irrefl _
  | cons space others =>
      have blanks : ∀ char ∈ space :: others, isSpace char = true := by
        rw [← spaces]
        exact fun _ => List.mem_takeWhile_imp
      have noDot : ∀ char ∈ space :: (others ++
          (cur.dropWhile isSpace).takeWhile fun c => c == 'v' || c == 'V'),
          char ≠ '.' := by
        intro char member dot
        rw [← List.cons_append] at member
        rcases List.mem_append.mp member with blank | v
        · have space := blanks char blank
          rw [dot] at space
          exact absurd space (by decide)
        · have isV := List.mem_takeWhile_imp v
          rw [dot] at isV
          exact absurd isV (by decide)
      obtain ⟨first, rest, tuple, hidden⟩ := versionParts_cons_space
        (blanks space List.mem_cons_self) noDot
        (lstripV (cur.dropWhile isSpace))
      have split : space :: (others ++
          (cur.dropWhile isSpace).takeWhile fun c => c == 'v' || c == 'V') ++
          lstripV (cur.dropWhile isSpace) = cur := by
        rw [lstripV, ← List.cons_append, ← spaces, List.append_assoc,
          List.takeWhile_append_dropWhile, List.takeWhile_append_dropWhile]
      rw [split] at hidden
      rw [tuple, hidden]
      exact padded_cons_le (Nat.zero_le first) rest

end Releases

end TgWsProxy.Python
