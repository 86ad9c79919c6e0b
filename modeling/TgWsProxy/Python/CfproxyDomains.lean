import TgWsProxy.Python.Balancer

/-!
# The fetched CF domains

`refresh_cfproxy_domains` of `proxy/config.py` decodes the lines which it has
downloaded, drops all which are no host names, and installs what is left if it
is enough.
-/

namespace TgWsProxy.Python

open Lib

/-- `_S`, and the suffix of an encoded domain. -/
def decodedSuffix : PyStr := ['.', 'c', 'o', '.', 'u', 'k']
def encodedSuffix : PyStr := ['.', 'c', 'o', 'm']

/-- A letter moved back in the alphabet of its case.  Code 0x60 stands before
the lower-case letters. -/
def shiftLetter (n : Nat) (c : Char) : Char :=
  let base := if 0x60 < c.toNat then 97 else 65
  Char.ofNat (((c.toNat : Int) - base - n) % 26 + base).toNat

/-- `_dd`. -/
def dd (table : CharTable) (s : PyStr) : PyStr :=
  if s.drop (s.length - 4) ≠ encodedSuffix then s
  else
    let p := s.take (s.length - 4)
    let n := p.countP table.isAlpha
    (p.map fun c => if table.isAlpha c then shiftLetter n c else c) ++
      decodedSuffix

/-- `_fetch_cfproxy_domain_list`; there is no text if anything was raised. -/
def fetchCfproxyDomainList (table : CharTable) : Option PyStr → List PyStr
  | none => []
  | some text =>
      let encoded := (text.splitlines.filter fun line =>
        line.strip ≠ [] && line.head? ≠ some '#').map PyStr.strip
      encoded.map (dd table)

/-- The checks of a label in `_is_valid_domain`. -/
def isValidLabel (table : CharTable) (label : PyStr) : Bool :=
  if label = [] ∨ 63 < label.length then false
  else if label.head? = some '-' ∨ label.getLast? = some '-' then false
  else label.all fun ch => table.isAlnum ch || ch == '-'

/-- `_is_valid_domain`. -/
def isValidDomain (table : CharTable) (domain : PyStr) : Bool :=
  if domain = [] ∨ 253 < domain.length then false
  else if domain.head? = some '.' ∨ domain.getLast? = some '.' then false
  else
    let labels := domain.splitOn '.'
    if labels.length < 2 then false
    else if !labels.all (isValidLabel table) then false
    else
      let tld := labels.getLastD []
      if tld.length < 2 ∨ ¬ tld.any table.isAlpha then false else true

/-- `domain.strip().lower()`. -/
def normalItem (table : CharTable) (domain : PyStr) : PyStr :=
  table.lower domain.strip

/-- `_normalize_domain_pool`, whose `seen` has the members of `normalized`. -/
def normalizeDomainPool (table : CharTable) (domains : List PyStr) :
    List PyStr :=
  domains.foldl (fun normalized domain =>
    let item := normalItem table domain
    if !isValidDomain table item then normalized
    else if item ∈ normalized then normalized
    else normalized ++ [item]) []

/-- `_CFPROXY_MIN_VALID_DOMAINS`. -/
def cfproxyMinValidDomains : Nat := 3

/-- `refresh_cfproxy_domains`. -/
def refreshCfproxyDomains (table : CharTable) (userDomains : List PyStr)
    (response : Option PyStr) (draws : Nat → Nat) (s : Balancer) :
    Except PyError Unit × Balancer :=
  if userDomains ≠ [] then (.ok (), s)
  else
    let fetched := fetchCfproxyDomainList table response
    let pool := normalizeDomainPool table fetched
    if cfproxyMinValidDomains ≤ pool.length then
      s.updateDomainsList draws pool
    else (.ok (), s)

/-- A label of a host name in lower case. -/
structure HostLabel (label : PyStr) : Prop where
  some : 1 ≤ label.length
  short : label.length ≤ 63
  chars : ∀ char ∈ label,
    char.isLower = true ∨ char.isDigit = true ∨ char = '-'
  first : label.head? ≠ Option.some '-'
  last : label.getLast? ≠ Option.some '-'

/-- A host name in lower case, by its labels. -/
structure HostName (name : PyStr) : Prop where
  labels : ∃ front tld, name = ['.'].intercalate (front ++ [tld]) ∧
    1 ≤ front.length ∧ (∀ label ∈ front ++ [tld], HostLabel label) ∧
    2 ≤ tld.length ∧ ∃ char ∈ tld, char.isLower = true
  short : name.length ≤ 253

/-- At least three host names, and no two are the same. -/
structure UsablePool (domains : List PyStr) : Prop where
  enough : 3 ≤ domains.length
  distinct : domains.Nodup
  hosts : ∀ domain ∈ domains, HostName domain

section HostNames

variable {table : CharTable} {name label : PyStr} {char : Char}

/-- Lower-case text of ASCII. -/
structure LowerAscii (text : PyStr) : Prop where
  ascii : Ascii text
  lower : ∀ char ∈ text, char.toLower = char

theorem LowerAscii.of_subset {part text : PyStr} (settled : LowerAscii text)
    (inside : ∀ char ∈ part, char ∈ text) : LowerAscii part :=
  ⟨fun char member => settled.ascii char (inside char member),
    fun char member => settled.lower char (inside char member)⟩

theorem isLower_of_isAlphanum (ascii : char.toNat < 128)
    (lower : char.toLower = char) (alnum : char.isAlphanum = true) :
    char.isLower = true ∨ char.isDigit = true := by
  revert lower alnum
  apply @ascii_cases (fun char => char.toLower = char →
    char.isAlphanum = true → char.isLower = true ∨ char.isDigit = true) _ char
    ascii
  decide +kernel

theorem isLower_of_isAlpha (ascii : char.toNat < 128)
    (lower : char.toLower = char) (alpha : char.isAlpha = true) :
    char.isLower = true := by
  revert lower alpha
  apply @ascii_cases (fun char => char.toLower = char →
    char.isAlpha = true → char.isLower = true) _ char ascii
  decide +kernel

/-- What `_is_valid_domain` asks of a label. -/
theorem isValidLabel_iff : isValidLabel table label = true ↔
    (label ≠ [] ∧ label.length ≤ 63) ∧
      (label.head? ≠ some '-' ∧ label.getLast? ≠ some '-') ∧
        ∀ char ∈ label, table.isAlnum char = true ∨ char = '-' := by
  simp only [isValidLabel, Bool.if_false_left, Bool.and_eq_true,
    Bool.not_eq_true', decide_eq_false_iff_not, not_or, not_lt,
    List.all_eq_true, Bool.or_eq_true, beq_iff_eq, ne_eq]

/-- What `_is_valid_domain` asks of a name. -/
theorem isValidDomain_iff : isValidDomain table name = true ↔
    (name ≠ [] ∧ name.length ≤ 253) ∧
      (name.head? ≠ some '.' ∧ name.getLast? ≠ some '.') ∧
        2 ≤ (name.splitOn '.').length ∧
          (∀ label ∈ name.splitOn '.', isValidLabel table label = true) ∧
            2 ≤ ((name.splitOn '.').getLastD []).length ∧
              ∃ char ∈ (name.splitOn '.').getLastD [],
                table.isAlpha char = true := by
  simp only [isValidDomain, Bool.if_false_left, Bool.and_eq_true,
    Bool.not_eq_true', decide_eq_false_iff_not, not_or, not_lt,
    Bool.not_eq_false, List.all_eq_true, List.any_eq_true, ne_eq, not_not,
    Bool.and_true]

theorem hostLabel_of_valid (settled : LowerAscii label)
    (valid : isValidLabel table label = true) : HostLabel label := by
  obtain ⟨⟨nonempty, short⟩, ⟨first, last⟩, chars⟩ := isValidLabel_iff.mp valid
  refine ⟨List.length_pos_of_ne_nil nonempty, short, ?_, first, last⟩
  intro char member
  rcases chars char member with alnum | hyphen
  · have ascii := settled.ascii char member
    rw [table.isAlnum_ascii char ascii] at alnum
    have kind := isLower_of_isAlphanum ascii (settled.lower char member) alnum
    rcases kind with lower | digit
    · exact Or.inl lower
    · exact Or.inr (Or.inl digit)
  · exact Or.inr (Or.inr hyphen)

theorem hostName_of_valid (settled : LowerAscii name)
    (valid : isValidDomain table name = true) : HostName name := by
  obtain ⟨⟨-, short⟩, -, enough, labels, long, char, member, alpha⟩ :=
    isValidDomain_iff.mp valid
  have whole : ['.'].intercalate (name.splitOn '.') = name :=
    List.intercalate_splitOn '.'
  -- What `split` returns is made of the characters of the name.
  have inside : ∀ label ∈ name.splitOn '.', LowerAscii label := by
    intro label piece
    apply settled.of_subset
    intro char member
    rw [← whole]
    exact mem_intercalate piece member
  obtain ⟨front, tld, split⟩ := List.eq_nil_or_concat'
    (name.splitOn '.') |>.resolve_left (List.splitOn_ne_nil '.' name)
  have last : (front ++ [tld]).getLastD [] = tld := by
    rw [List.getLastD_eq_getLast?, List.getLast?_concat, Option.getD_some]
  rw [split] at whole inside enough labels
  rw [split, last] at long member
  have ofTld := inside tld (List.mem_append_right _ List.mem_cons_self)
  have ascii := ofTld.ascii char member
  rw [table.isAlpha_ascii char ascii] at alpha
  refine ⟨⟨front, tld, whole.symm, ?_, ?_, long, char, member, ?_⟩, short⟩
  · rw [List.length_append, List.length_singleton] at enough
    omega
  · intro label isLabel
    exact hostLabel_of_valid (inside label isLabel) (labels label isLabel)
  · exact isLower_of_isAlpha ascii (ofTld.lower char member) alpha

end HostNames

section Pools

variable {table : CharTable} {text : PyStr} {domains : List PyStr}

theorem shiftLetter_ascii (n : Nat) (char : Char) :
    (shiftLetter n char).toNat < 128 := by
  have codes (code : Nat) (ascii : code < 128) : (Char.ofNat code).toNat < 128 :=
    (toNat_ofNat_of_lt ascii).trans_lt ascii
  apply codes
  split <;> omega

theorem ascii_decodedSuffix : Ascii decodedSuffix := by
  simp [Ascii, decodedSuffix]

theorem Ascii.dd (ascii : Ascii text) (table : CharTable) :
    Ascii (dd table text) := by
  unfold Python.dd
  split
  · exact ascii
  · intro char member
    rcases List.mem_append.mp member with decoded | suffix
    · obtain ⟨letter, inside, changed⟩ := List.mem_map.mp decoded
      rw [← changed]
      split
      · exact shiftLetter_ascii _ letter
      · exact ascii letter (List.mem_of_mem_take inside)
    · exact ascii_decodedSuffix char suffix

/-- Whatever is downloaded, the decoded lines are ASCII if it is. -/
theorem ascii_fetchCfproxyDomainList (ascii : Ascii text) :
    ∀ domain ∈ fetchCfproxyDomainList table (some text), Ascii domain := by
  intro domain fetched
  simp only [fetchCfproxyDomainList] at fetched
  obtain ⟨encoded, isEncoded, decoded⟩ := List.mem_map.mp fetched
  obtain ⟨line, kept, stripped⟩ := List.mem_map.mp isEncoded
  rw [← decoded, ← stripped]
  have ofLine := ascii.splitlines line (List.mem_of_mem_filter kept)
  exact ofLine.strip.dd table

theorem lowerAscii_normalItem (ascii : Ascii text) :
    LowerAscii (normalItem table text) := by
  refine ⟨ascii.strip.lower table, ?_⟩
  rw [normalItem, table.lower_ascii _ ascii.strip]
  intro char member
  obtain ⟨upper, inside, lowered⟩ := List.mem_map.mp member
  rw [← lowered]
  exact toLower_toLower (ascii.strip upper inside)

/-- No blank comes to an end of the text when it is lowered. -/
theorem normalItem_normalItem (ascii : Ascii text) :
    normalItem table (normalItem table text) = normalItem table text := by
  have lowered : normalItem table text = text.strip.map Char.toLower :=
    table.lower_ascii _ ascii.strip
  have trimmed : Trimmed isSpace (normalItem table text) := by
    rw [lowered]
    exact (trimmed_trimBlanks isSpace text).map
      fun char member => isSpace_toLower (ascii.strip char member)
  have settled := @lowerAscii_normalItem table text ascii
  have stripped : (normalItem table text).strip = normalItem table text :=
    trimBlanks_eq_self trimmed
  calc normalItem table (normalItem table text)
      = table.lower (normalItem table text) := congrArg table.lower stripped
    _ = (normalItem table text).map Char.toLower :=
        table.lower_ascii _ settled.ascii
    _ = normalItem table text :=
        (List.map_congr_left settled.lower).trans (List.map_id _)

theorem normalizeDomainPool_eq (table : CharTable) (domains : List PyStr) :
    normalizeDomainPool table domains =
      collectNew (isValidDomain table) (domains.map (normalItem table)) := by
  rw [collectNew, List.foldl_map]
  apply List.foldl_ext
  intro normalized domain _
  cases valid : isValidDomain table (normalItem table domain) with
  | false => simp [valid]
  | true => simp [valid, insertNew]

theorem mem_normalizeDomainPool {domain : PyStr} :
    domain ∈ normalizeDomainPool table domains ↔
      (∃ other ∈ domains, normalItem table other = domain) ∧
        isValidDomain table domain = true := by
  rw [normalizeDomainPool_eq, mem_collectNew, List.mem_map]

theorem hostName_of_mem_pool (ascii : ∀ domain ∈ domains, Ascii domain) :
    ∀ domain ∈ normalizeDomainPool table domains, HostName domain := by
  intro domain member
  obtain ⟨⟨other, isDomain, normal⟩, valid⟩ :=
    mem_normalizeDomainPool.mp member
  apply hostName_of_valid _ valid
  rw [← normal]
  exact lowerAscii_normalItem (ascii other isDomain)

theorem normalizeDomainPool_idem (ascii : ∀ domain ∈ domains, Ascii domain) :
    normalizeDomainPool table (normalizeDomainPool table domains) =
      normalizeDomainPool table domains := by
  have settled : (normalizeDomainPool table domains).map (normalItem table) =
      normalizeDomainPool table domains := by
    apply (List.map_congr_left _).trans (List.map_id _)
    intro domain member
    obtain ⟨⟨other, isDomain, normal⟩, -⟩ := mem_normalizeDomainPool.mp member
    rw [← normal]
    exact normalItem_normalItem (ascii other isDomain)
  rw [normalizeDomainPool_eq table (normalizeDomainPool table domains), settled]
  apply collectNew_eq_self
  · exact fun domain member => (mem_normalizeDomainPool.mp member).2
  · rw [normalizeDomainPool_eq]
    exact nodup_collectNew _ _

end Pools

/-- ASCII text, such as may be downloaded. -/
abbrev AsciiText := { text : PyStr // Ascii text }

/-- The balancer is left alone, or it has a new usable list with a domain of it
pinned for each DC. -/
def KeptOrUsable (before after : Balancer) : Prop :=
  after = before ∨
    UsablePool after.domains ∧
      ∀ dcId ∈ Balancer.balancedDcs, ∃ domain ∈ after.domains,
        after.dcToDomain.lookup dcId = some domain

section Refresh

variable {table : CharTable} {domains : List PyStr}

theorem usablePool_normalizeDomainPool
    (ascii : ∀ domain ∈ domains, Ascii domain)
    (enough : cfproxyMinValidDomains ≤ (normalizeDomainPool table domains).length) :
    UsablePool (normalizeDomainPool table domains) := by
  refine ⟨enough, ?_, hostName_of_mem_pool ascii⟩
  rw [normalizeDomainPool_eq]
  exact nodup_collectNew _ _

/-- A usable list is installed, unless it is there already. -/
theorem UsablePool.updateDomainsList (usable : UsablePool domains)
    (draws : Nat → Nat) (s : Balancer) :
    (s.updateDomainsList draws domains).1 = .ok () ∧
      KeptOrUsable s (s.updateDomainsList draws domains).2 := by
  rcases Balancer.updateDomainsList_cases draws s domains with
    same | empty | ⟨-, dcToDomain, replaced, pinned, -⟩
  · rw [same]
    exact ⟨rfl, Or.inl rfl⟩
  · have enough := usable.enough
    rw [empty.1] at enough
    cases enough
  · rw [replaced]
    exact ⟨rfl, Or.inr ⟨usable, pinned⟩⟩

theorem ascii_downloaded (table : CharTable) (response : Option AsciiText) :
    ∀ domain ∈ fetchCfproxyDomainList table (response.map Subtype.val),
      Ascii domain := by
  cases response with
  | none => exact fun domain fetched => absurd fetched List.not_mem_nil
  | some text => exact ascii_fetchCfproxyDomainList text.property

/-- Whatever is downloaded, the list is kept or a usable one takes its place. -/
theorem refreshCfproxyDomains_usable (table : CharTable)
    (userDomains : List PyStr) (response : Option AsciiText)
    (draws : Nat → Nat) (s : Balancer) :
    let after := refreshCfproxyDomains table userDomains
      (response.map Subtype.val) draws s
    after.1 = .ok () ∧ KeptOrUsable s after.2 := by
  intro after
  simp only [after, refreshCfproxyDomains]
  split
  · exact ⟨rfl, Or.inl rfl⟩
  · split
    · rename_i enough
      have usable := usablePool_normalizeDomainPool
        (ascii_downloaded table response) enough
      exact usable.updateDomainsList draws s
    · exact ⟨rfl, Or.inl rfl⟩

/-- The items which are host names, in the order in which they occur first. -/
structure NormalPool (table : CharTable) (domains pool : List PyStr) :
    Prop where
  members : ∀ name, name ∈ pool ↔
    name ∈ domains.map (normalItem table) ∧ isValidDomain table name = true
  distinct : pool.Nodup
  ordered : pool.Pairwise fun first second =>
    (domains.map (normalItem table)).idxOf first <
      (domains.map (normalItem table)).idxOf second

theorem normalPool_normalizeDomainPool (table : CharTable)
    (domains : List PyStr) :
    NormalPool table domains (normalizeDomainPool table domains) := by
  rw [normalizeDomainPool_eq]
  exact ⟨fun name => mem_collectNew, nodup_collectNew _ _,
    pairwise_collectNew _ _⟩

/-- A refresh keeps the balancer or installs a usable list, whichever ASCII text
is downloaded; and a list of ASCII texts is normalized to its host names in the
order in which they occur first, and not changed by that again. -/
theorem refreshed_pool_usable (table : CharTable) :
    (∀ (userDomains : List PyStr) (response : Option AsciiText)
      (draws : Nat → Nat) (s : Balancer),
      let after := refreshCfproxyDomains table userDomains
        (response.map Subtype.val) draws s
      after.1 = .ok () ∧ KeptOrUsable s after.2) ∧
    ∀ domains : List AsciiText,
      let texts := domains.map Subtype.val
      let pool := normalizeDomainPool table texts
      NormalPool table texts pool ∧ normalizeDomainPool table pool = pool := by
  constructor
  · exact refreshCfproxyDomains_usable table
  · intro domains texts pool
    refine ⟨normalPool_normalizeDomainPool table texts, ?_⟩
    apply normalizeDomainPool_idem
    intro text member
    obtain ⟨domain, -, same⟩ := List.mem_map.mp member
    rw [← same]
    exact domain.property

end Refresh

end TgWsProxy.Python
