import TgWsProxy.Lib.Text

/-!
# What `main` installs as the configuration

`main` merges the command line with the configuration file and writes the
result to `PROXY_CONFIG`.  Each field has a rule of its own: an argument which
differs from its default wins, an argument which is given wins, or only the
argument is read.
-/

namespace TgWsProxy.Rust

open Lib

/-- `char::is_whitespace`. -/
def isWhitespace (char : Char) : Bool :=
  let point := char.toNat
  (9 ≤ point && point ≤ 13) || point == 0x20 || point == 0x85 ||
    point == 0xa0 || point == 0x1680 || (0x2000 ≤ point && point ≤ 0x200a) ||
    point == 0x2028 || point == 0x2029 || point == 0x202f || point == 0x205f ||
    point == 0x3000

/-- The characters `coerce_domain_list` splits an item at. -/
def isDomainSeparator (char : Char) : Bool :=
  char == ',' || char == ';' || char == ' '

/-- The Unicode tables which `str::to_lowercase` consults. -/
structure LowercaseTable where
  /-- `char::to_lowercase`. -/
  toLower : Char → List Char
  cased : Char → Bool
  caseIgnorable : Char → Bool
  toLower_ne_nil : ∀ char, toLower char ≠ []
  toLower_settled : ∀ char, char ≠ 'Σ' → ∀ lower ∈ toLower char,
    lower ≠ 'Σ' ∧ toLower lower = [lower]
  toLower_sigma : toLower 'σ' = ['σ'] ∧ toLower 'ς' = ['ς']
  /-- White space and separators have no upper case. -/
  toLower_blank : ∀ char, ∀ lower ∈ toLower char,
    (isWhitespace lower || isDomainSeparator lower) = true → lower = char

namespace LowercaseTable

def caseIgnorableThenCased (table : LowercaseTable) (chars : List Char) :
    Bool :=
  match chars.dropWhile table.caseIgnorable with
  | [] => false
  | char :: _ => table.cased char

/-- `map_uppercase_sigma`, given what stands before the sigma, last character
first, and what stands behind it. -/
def mapUppercaseSigma (table : LowercaseTable) (before behind : List Char) :
    Char :=
  if table.caseIgnorableThenCased before &&
      !table.caseIgnorableThenCased behind then 'ς' else 'σ'

/-- The lower case of a character between others. -/
def lowerChar (table : LowercaseTable) (before behind : List Char)
    (char : Char) : List Char :=
  if char = 'Σ' then [table.mapUppercaseSigma before behind]
  else table.toLower char

/-- `str::to_lowercase` behind some characters, the last of them first. -/
def toLowercase (table : LowercaseTable) (before : List Char) :
    List Char → List Char
  | [] => []
  | char :: behind =>
      table.lowerChar before behind char ++
        table.toLowercase (char :: before) behind

section Lowercase

variable {table : LowercaseTable} {before behind text : List Char}
  {char lower : Char}

/-- A character which is its own lower case in every text. -/
def Settled (table : LowercaseTable) (char : Char) : Prop :=
  char ≠ 'Σ' ∧ table.toLower char = [char]

theorem mapUppercaseSigma_cases (table : LowercaseTable)
    (before behind : List Char) :
    table.mapUppercaseSigma before behind = 'σ' ∨
      table.mapUppercaseSigma before behind = 'ς' := by
  rw [mapUppercaseSigma]
  split
  · exact Or.inr rfl
  · exact Or.inl rfl

theorem lowerChar_ne_nil : table.lowerChar before behind char ≠ [] := by
  rw [lowerChar]
  split
  · exact List.cons_ne_nil _ _
  · exact table.toLower_ne_nil char

theorem settled_of_mem_lowerChar
    (member : lower ∈ table.lowerChar before behind char) :
    table.Settled lower := by
  rw [lowerChar] at member
  split at member
  · have sigmas := table.toLower_sigma
    rw [List.mem_singleton] at member
    rcases mapUppercaseSigma_cases table before behind with plain | final
    · rw [member, plain]
      exact ⟨by decide, sigmas.1⟩
    · rw [member, final]
      exact ⟨by decide, sigmas.2⟩
  · rename_i notSigma
    exact table.toLower_settled char notSigma lower member

theorem blank_of_mem_lowerChar
    (member : lower ∈ table.lowerChar before behind char)
    (blank : (isWhitespace lower || isDomainSeparator lower) = true) :
    lower = char := by
  rw [lowerChar] at member
  split at member
  · rw [List.mem_singleton] at member
    rcases mapUppercaseSigma_cases table before behind with plain | final
    · rw [member, plain] at blank
      exact absurd blank (by decide)
    · rw [member, final] at blank
      exact absurd blank (by decide)
  · exact table.toLower_blank char lower member blank

theorem mem_toLowercase (member : lower ∈ table.toLowercase before text) :
    ∃ front back, ∃ char ∈ text, lower ∈ table.lowerChar front back char := by
  induction text generalizing before with
  | nil => cases member
  | cons char text induction =>
      rw [toLowercase, List.mem_append] at member
      rcases member with here | later
      · exact ⟨before, text, char, List.mem_cons_self, here⟩
      · obtain ⟨front, back, other, found, image⟩ := induction later
        exact ⟨front, back, other, List.mem_cons_of_mem char found, image⟩

/-- A lower case text is kept. -/
theorem toLowercase_eq_self (settled : ∀ char ∈ text, table.Settled char) :
    table.toLowercase before text = text := by
  induction text generalizing before with
  | nil => rfl
  | cons char text induction =>
      have here := settled char List.mem_cons_self
      rw [toLowercase, lowerChar, if_neg here.1, here.2, induction
        (fun other member => settled other (List.mem_cons_of_mem char member))]
      rfl

theorem toLowercase_toLowercase (front : List Char) :
    table.toLowercase front (table.toLowercase before text) =
      table.toLowercase before text := by
  apply toLowercase_eq_self
  intro lower member
  obtain ⟨_, _, _, _, image⟩ := mem_toLowercase member
  exact settled_of_mem_lowerChar image

theorem toLowercase_whole
    (whole : ∀ char ∈ text, isDomainSeparator char = false) :
    ∀ lower ∈ table.toLowercase before text,
      isDomainSeparator lower = false := by
  intro lower member
  obtain ⟨_, _, char, found, image⟩ := mem_toLowercase member
  by_contra separates
  rw [Bool.not_eq_false] at separates
  have same := blank_of_mem_lowerChar image (by rw [separates, Bool.or_true])
  rw [same, whole char found] at separates
  cases separates

theorem isWhitespace_of_mem_lowerChar (dark : isWhitespace char = false)
    (member : lower ∈ table.lowerChar before behind char) :
    isWhitespace lower = false := by
  by_contra blank
  rw [Bool.not_eq_false] at blank
  have same := blank_of_mem_lowerChar member (by rw [blank, Bool.true_or])
  rw [same, dark] at blank
  cases blank

theorem toLowercase_getLast (dark : ∀ final, text.getLast? = some final →
      isWhitespace final = false)
    (found : (table.toLowercase before text).getLast? = some lower) :
    isWhitespace lower = false := by
  induction text generalizing before with
  | nil => cases found
  | cons char text induction =>
      rw [toLowercase, List.getLast?_append] at found
      cases rest : (table.toLowercase (char :: before) text).getLast? with
      | some final =>
          rw [rest, Option.some_or] at found
          cases found
          apply induction _ rest
          intro final last
          apply dark final
          rw [List.getLast?_cons, last, Option.getD_some]
      | none =>
          rw [rest, Option.none_or] at found
          have image := List.mem_of_getLast? found
          apply isWhitespace_of_mem_lowerChar _ image
          apply dark char
          cases text with
          | nil => rfl
          | cons next text =>
              rw [List.getLast?_eq_none_iff, toLowercase,
                List.append_eq_nil_iff] at rest
              exact absurd rest.1 lowerChar_ne_nil

theorem toLowercase_trimmed (trimmed : Trimmed isWhitespace text) :
    Trimmed isWhitespace (table.toLowercase before text) := by
  constructor
  · intro lower found
    cases text with
    | nil => cases found
    | cons char text =>
        have dark := trimmed.head char rfl
        rw [toLowercase, List.head?_append_of_ne_nil _ lowerChar_ne_nil]
          at found
        exact isWhitespace_of_mem_lowerChar dark (List.mem_of_head? found)
  · intro lower found
    exact toLowercase_getLast trimmed.last found

end Lowercase

end LowercaseTable

/-- A pass of the inner loop of `coerce_domain_list`.  `seen` holds what is in
`result`. -/
def coerceDomain (table : LowercaseTable) (result : List String)
    (piece : List Char) : List String :=
  let s := table.toLowercase [] (trimBlanks isWhitespace piece)
  if s = [] then result else insertNew result (String.ofList s)

def coerceDomainList (table : LowercaseTable) (value : Option (List String)) :
    List String :=
  match value with
  | none => []
  | some list =>
      list.foldl (fun result item =>
        (item.toList.splitOnP isDomainSeparator).foldl (coerceDomain table)
          result) []

section Domains

variable {table : LowercaseTable} {domains : List String} {domain : String}

/-- A domain as `coerce_domain_list` returns it. -/
structure CoercedDomain (table : LowercaseTable) (domain : String) : Prop where
  nonempty : domain.toList ≠ []
  whole : ∀ char ∈ domain.toList, isDomainSeparator char = false
  trimmed : Trimmed isWhitespace domain.toList
  lower : table.toLowercase [] domain.toList = domain.toList

structure CoercedDomains (table : LowercaseTable) (domains : List String) :
    Prop where
  distinct : domains.Nodup
  coerced : ∀ domain ∈ domains, CoercedDomain table domain

theorem coerceDomain_nil : coerceDomain table domains [] = domains := rfl

theorem coerceDomain_coerced (before : CoercedDomains table domains)
    {piece : List Char}
    (whole : ∀ char ∈ piece, isDomainSeparator char = false) :
    CoercedDomains table (coerceDomain table domains piece) := by
  simp only [coerceDomain]
  split
  · exact before
  · rename_i nonempty
    constructor
    · exact nodup_insertNew before.distinct _
    · intro domain member
      rcases mem_insertNew.mp member with old | new
      · exact before.coerced domain old
      · rw [new]
        constructor
        · rw [String.toList_ofList]
          exact nonempty
        · rw [String.toList_ofList]
          exact LowercaseTable.toLowercase_whole
            (fun char inside => whole char (mem_of_mem_trimBlanks inside))
        · rw [String.toList_ofList]
          exact LowercaseTable.toLowercase_trimmed (trimmed_trimBlanks _ _)
        · rw [String.toList_ofList]
          exact LowercaseTable.toLowercase_toLowercase []

theorem coerceDomainList_coerced (value : Option (List String)) :
    CoercedDomains table (coerceDomainList table value) := by
  have empty : CoercedDomains table [] :=
    ⟨List.nodup_nil, fun _ member => absurd member List.not_mem_nil⟩
  cases value with
  | none => exact empty
  | some list =>
      apply List.foldlRecOn _ _ empty
      intro result before item _
      apply List.foldlRecOn _ _ before
      intro result before piece member
      exact coerceDomain_coerced before (separator_of_mem_splitOnP member)

theorem coerceDomain_eq_insertNew (coerced : CoercedDomain table domain) :
    coerceDomain table domains domain.toList = insertNew domains domain := by
  rw [coerceDomain, trimBlanks_eq_self coerced.trimmed, coerced.lower,
    if_neg coerced.nonempty, String.ofList_toList]

/-- A coerced list is read back from its domains in one item, joined as the
interface joins them. -/
theorem coerceDomainList_intercalate (coerced : CoercedDomains table domains) :
    coerceDomainList table (some [", ".intercalate domains]) = domains := by
  have words : ∀ word ∈ domains.map String.toList,
      ∀ char ∈ word, isDomainSeparator char = false := by
    intro word member
    obtain ⟨domain, found, same⟩ := List.mem_map.mp member
    rw [← same]
    exact (coerced.coerced domain found).whole
  have joint : ", ".toList = [',', ' '] := rfl
  have separates : ∀ char ∈ [',', ' '], isDomainSeparator char = true := by
    intro char member
    rcases List.mem_pair.mp member with comma | blank
    · rw [comma]
      rfl
    · rw [blank]
      rfl
  have split :
      (([',', ' '].intercalate (domains.map String.toList)).splitOnP
          isDomainSeparator).foldl (coerceDomain table) [] =
        (domains.map String.toList).foldl (coerceDomain table) [] :=
    foldl_splitOnP_intercalate (fun _ => coerceDomain_nil)
      (List.cons_ne_nil _ _) separates words []
  calc
    coerceDomainList table (some [", ".intercalate domains])
      = (domains.map String.toList).foldl (coerceDomain table) [] := by
        simp only [coerceDomainList, List.foldl_cons, List.foldl_nil,
          String.toList_intercalate, joint]
        exact split
    _ = domains.foldl insertNew [] := by
        rw [List.foldl_map]
        apply List.foldl_ext
        intro result domain member
        exact coerceDomain_eq_insertNew (coerced.coerced domain member)
    _ = domains := foldl_insertNew coerced.distinct

end Domains

instance equivBEqUInt32 : EquivBEq UInt32 := inferInstance

instance lawfulHashableUInt32 : LawfulHashable UInt32 := inferInstance

/-- `HashMap<u32, String>`. -/
abbrev DcMap := Std.ExtHashMap UInt32 String

/-- `parse::<u16>()` and its siblings. -/
def parseU16 (text : String) : Option UInt16 :=
  (readUnsigned UInt16.size text.toList).map UInt16.ofNat

def parseU32 (text : String) : Option UInt32 :=
  (readUnsigned UInt32.size text.toList).map UInt32.ofNat

def parseU64 (text : String) : Option UInt64 :=
  (readUnsigned UInt64.size text.toList).map UInt64.ofNat

def parseUsize (text : String) : Option USize :=
  (readUnsigned USize.size text.toList).map USize.ofNat

theorem parseU16_toString (value : UInt16) :
    parseU16 (toString value) = some value := by
  have read := readUnsigned_toString value.toNat_lt_size
  rw [parseU16, show toString value = toString value.toNat from rfl, read,
    Option.map_some, UInt16.ofNat_toNat]

theorem parseU32_toString (value : UInt32) :
    parseU32 (toString value) = some value := by
  have read := readUnsigned_toString value.toNat_lt_size
  rw [parseU32, show toString value = toString value.toNat from rfl, read,
    Option.map_some, UInt32.ofNat_toNat]

theorem parseUsize_toString (value : USize) :
    parseUsize (toString value) = some value := by
  have read := readUnsigned_toString value.toNat_lt_size
  rw [parseUsize, show toString value = toString value.toNat from rfl, read,
    Option.map_some, USize.ofNat_toNat]

section Buffer

theorem toNat_max (left right : USize) :
    (max left right).toNat = max left.toNat right.toNat := by
  have larger : max left right = if left ≤ right then right else left := rfl
  rw [larger]
  split
  · rename_i below
    rw [USize.le_iff_toNat_le] at below
    omega
  · rename_i above
    rw [USize.le_iff_toNat_le] at above
    omega

/-- The buffer wraps around where its kilobytes are too many. -/
theorem toNat_bufferSize (kb : USize) :
    (max kb 4 * 1024).toNat = max kb.toNat 4 * 1024 % USize.size := by
  rw [USize.toNat_mul, toNat_max]
  simp only [USize.reduceToNat]

theorem le_bufferSize {kb : USize} (fits : kb.toNat < USize.size / 1024) :
    4096 ≤ max kb 4 * 1024 := by
  rw [USize.le_iff_toNat_le, toNat_bufferSize]
  simp only [USize.reduceToNat]
  rcases USize.size_eq with narrow | wide
  · rw [narrow] at fits ⊢
    omega
  · rw [wide] at fits ⊢
    omega

/-- A buffer comes back from its kilobytes unless it wrapped around to fewer
than four. -/
theorem bufferSize_restored_iff (kb : USize) :
    max (max kb 4 * 1024 / 1024) 4 * 1024 = max kb 4 * 1024 ↔
      4096 ≤ max kb 4 * 1024 := by
  rw [← USize.toNat_inj, USize.le_iff_toNat_le, toNat_bufferSize,
    USize.toNat_div, toNat_bufferSize]
  simp only [USize.reduceToNat]
  rcases USize.size_eq with narrow | wide
  · rw [narrow]
    omega
  · rw [wide]
    omega

end Buffer

/-- How `main` ends before it installs a configuration. -/
inductive Exit where
  /-- `Invalid --dc-ip format {:?}, expected DC:IP`. -/
  | dcIpFormat (entry : String)
  /-- `Invalid DC number: {}`. -/
  | dcNumber (dc : String)
  /-- `Invalid IP: {}`. -/
  | dcIp (ip : String)
  /-- `Secret must be exactly 32 hex characters`. -/
  | secretLength
  /-- `Secret must be valid hex`. -/
  | secretHex
  /-- `file_name().unwrap()` of the log file panics. -/
  | logFileName
  /-- `rolling::never` panics. -/
  | logNotOpened
deriving DecidableEq, Repr

/-- A pass of the loop of `parse_dc_ip_list`. -/
def parseDcIp (map : DcMap) (entry : String) : Except Exit DcMap :=
  let dc := entry.toList.takeWhile (· ≠ ':')
  match entry.toList.dropWhile (· ≠ ':') with
  | [] => .error (.dcIpFormat entry)
  | _ :: ip =>
      match parseU32 (String.ofList dc) with
      | none => .error (.dcNumber (String.ofList dc))
      | some number =>
          if '.' ∈ ip then .ok (map.insert number (String.ofList ip))
          else .error (.dcIp (String.ofList ip))

def parseDcIpList (list : List String) : Except Exit DcMap :=
  list.foldlM parseDcIp ∅

structure ProxyConfig where
  port : UInt16
  host : String
  secret : String
  dcRedirects : DcMap
  bufferSize : USize
  poolSize : USize
  fallbackCfproxy : Bool
  cfproxyUserDomains : List String
  cfproxyWorkerDomains : List String
  fakeTlsDomain : String
  proxyProtocol : Bool
  logFile : Option String
  logMaxMb : UInt64
  logBackups : USize
  autostart : Bool

/-- The configuration file; `main` uses the empty one where none is read. -/
structure ConfigFile where
  host : Option String := none
  port : Option UInt16 := none
  secret : Option String := none
  fakeTlsDomain : Option String := none
  proxyProtocol : Option Bool := none
  noCfproxy : Option Bool := none
  poolSize : Option USize := none
  bufKb : Option USize := none
  cfproxyDomain : Option (List String) := none
  cfproxyWorkerDomain : Option (List String) := none
  dcIp : Option DcMap := none
  logFile : Option String := none
  logMaxMb : Option UInt64 := none
  logBackups : Option USize := none
  autostart : Option Bool := none

/-- The parsed command line, with the defaults of its arguments. -/
structure Cli where
  config : Option String := none
  port : UInt16 := 1443
  host : String := "127.0.0.1"
  secret : Option String := none
  dcIp : List String := []
  logFile : Option String := none
  logMaxMb : UInt64 := 5
  logBackups : USize := 0
  bufKb : USize := 256
  poolSize : USize := 4
  cfproxyDomain : List String := []
  cfproxyWorkerDomain : List String := []
  noCfproxy : Bool := false
  fakeTlsDomain : String := ""
  proxyProtocol : Bool := false
  autostart : Bool := false

/-- What `main` uses of the machine and of the libraries. -/
structure Machine where
  lowercaseTable : LowercaseTable
  /-- A file beside `current_exe()`, when the executable is known. -/
  besideExe : String → Option String
  /-- `Path::file_name`. -/
  fileName : String → Option String
  fileName_empty : fileName "" = none
  /-- Whether `rolling::never` opens the log file. -/
  opensLog : String → Bool
  /-- `toml::to_string_pretty`. -/
  tomlToString : ConfigFile → Except String String
  /-- `toml::from_str`. -/
  tomlFromStr : String → Except String ConfigFile

/-- What reading a file gives: its content or an error. -/
abbrev Files := String → Except String String

def defaultConfigPath (machine : Machine) : String :=
  (machine.besideExe "config.toml").getD "config.toml"

def loadConfig (machine : Machine) (files : Files) (path : String) :
    Except String ConfigFile :=
  match files path with
  | .error e => .error ("Cannot read config: " ++ e)
  | .ok content =>
      (machine.tomlFromStr content).mapError ("Invalid config: " ++ ·)

/-- How `std::fs::write` ends. -/
inductive FileWrite where
  | written
  /-- What is then in the file, or the error of reading it. -/
  | fails (e : String) (left : Except String String)

/-- `save_config`, and the files behind it. -/
def saveConfig (machine : Machine) (files : Files) (path : String)
    (write : FileWrite) (cfg : ConfigFile) : Except String Unit × Files :=
  match machine.tomlToString cfg with
  | .error e => (.error ("Serialize config: " ++ e), files)
  | .ok content =>
      match write with
      | .written => (.ok (), Function.update files path (.ok content))
      | .fails e left =>
          (.error ("Write config: " ++ e), Function.update files path left)

/-- The path which `main` gives to the interface. -/
def configPath (machine : Machine) (args : Cli) : String :=
  match args.config with
  | none => defaultConfigPath machine
  | some path => if path = "" then defaultConfigPath machine else path

/-- `load_config(&path).ok()`, where `--config` is given. -/
def cfgFile (machine : Machine) (files : Files) (args : Cli) :
    Option ConfigFile :=
  match args.config with
  | none => none
  | some _ => (loadConfig machine files (configPath machine args)).toOption

/-- `main` opens its log file before it reads anything else. -/
def openLog (machine : Machine) : Option String → Except Exit Unit
  | none => .ok ()
  | some path =>
      match machine.fileName path with
      | none => .error .logFileName
      | some _ =>
          if machine.opensLog path then .ok () else .error .logNotOpened

def defaultDcRedirects : DcMap :=
  ((∅ : DcMap).insert 2 "149.154.167.220").insert 4 "149.154.167.220"

def dcRedirects (args : Cli) (cfg : ConfigFile) : Except Exit DcMap :=
  if args.dcIp ≠ [] then parseDcIpList args.dcIp
  else .ok (cfg.dcIp.getD defaultDcRedirects)

def isHexDigit (char : Char) : Bool :=
  char.isDigit || ('a' ≤ char && char ≤ 'f') || ('A' ≤ char && char ≤ 'F')

/-- `hex::decode` does not fail. -/
def hexDecodes (s : String) : Bool :=
  s.utf8ByteSize % 2 == 0 && s.toList.all isHexDigit

def secretDigit (value : Fin 16) : Char :=
  "0123456789abcdef".toList.getD value '0'

/-- The secret `main` generates from the drawn digits. -/
def generatedSecret (drawn : Fin 32 → Fin 16) : String :=
  String.ofList ((List.ofFn drawn).map secretDigit)

def secretHex (drawn : Fin 32 → Fin 16) (args : Cli) (cfg : ConfigFile) :
    Except Exit String :=
  match args.secret with
  | some s =>
      if s.utf8ByteSize ≠ 32 then .error .secretLength
      else if hexDecodes s then .ok s
      else .error .secretHex
  | none => .ok (cfg.secret.getD (generatedSecret drawn))

def portVal (args : Cli) (cfg : ConfigFile) : UInt16 :=
  let port := args.port != 1443 || cfg.port.getD 1443 == 1443
  if !port then cfg.port.getD 1443 else args.port

/-- The domains of an argument, or those of the file where it is not given. -/
def domainsOf (machine : Machine) (args : List String)
    (cfg : Option (List String)) : List String :=
  coerceDomainList machine.lowercaseTable (if args ≠ [] then some args else cfg)

/-- `main` until `PROXY_CONFIG` is written. -/
def main (machine : Machine) (files : Files) (drawn : Fin 32 → Fin 16)
    (args : Cli) : Except Exit ProxyConfig := do
  let cfgFile := cfgFile machine files args
  let logFile := args.logFile.or (cfgFile.bind (·.logFile))
  openLog machine logFile
  let cfg := cfgFile.getD {}
  let dcRedirects ← dcRedirects args cfg
  let secretHex ← secretHex drawn args cfg
  let bufKb := if args.bufKb ≠ 256 then args.bufKb else cfg.bufKb.getD 256
  return {
    port := portVal args cfg
    host := if args.host ≠ "127.0.0.1" then args.host
      else cfg.host.getD args.host
    secret := secretHex
    dcRedirects := dcRedirects
    bufferSize := max bufKb 4 * 1024
    poolSize := if args.poolSize ≠ 4 then args.poolSize else cfg.poolSize.getD 4
    fallbackCfproxy := !(args.noCfproxy || cfg.noCfproxy.getD false)
    cfproxyUserDomains := domainsOf machine args.cfproxyDomain cfg.cfproxyDomain
    cfproxyWorkerDomains :=
      domainsOf machine args.cfproxyWorkerDomain cfg.cfproxyWorkerDomain
    fakeTlsDomain := if args.fakeTlsDomain ≠ "" then args.fakeTlsDomain
      else cfg.fakeTlsDomain.getD ""
    proxyProtocol := args.proxyProtocol || cfg.proxyProtocol.getD false
    logFile := logFile
    logMaxMb := args.logMaxMb
    logBackups := args.logBackups
    autostart := args.autostart || cfg.autostart.getD false }

end TgWsProxy.Rust
