import TgWsProxy.Rust.ProxyConfig

/-!
# The settings form and what it restores

The form shows `PROXY_CONFIG` as text.  "Save & Restart" turns the text into a
configuration file and starts a process which is given only that file, so that
a field comes back when the form shows it, the file has it and `main` reads it
from there.
-/

namespace TgWsProxy.Rust

open Lib

structure SettingsState where
  host : String
  port : String
  secret : String
  fakeTlsDomain : String
  proxyProtocol : Bool
  noCfproxy : Bool
  poolSize : String
  bufKb : String
  cfproxyDomain : String
  cfproxyWorkerDomain : String
  dcEntries : List (String × String)
  logFile : String
  logMaxMb : String
  logBackups : String
  autostart : Bool

/-- The entries of a map in the order in which `iter` gives them. -/
structure Listing (map : DcMap) where
  entries : List (UInt32 × String)
  distinct : entries.Pairwise (fun left right => (left.1 == right.1) = false)
  complete : ∀ dc ip, (dc, ip) ∈ entries ↔ map[dc]? = some ip

/-- The row of the form which shows an entry of the map. -/
def shownEntry (entry : UInt32 × String) : String × String :=
  (toString entry.1, entry.2)

def loadSettingsFromConfig (cfg : ProxyConfig)
    (listing : Listing cfg.dcRedirects) : SettingsState where
  host := cfg.host
  port := toString cfg.port
  secret := cfg.secret
  fakeTlsDomain := cfg.fakeTlsDomain
  proxyProtocol := cfg.proxyProtocol
  noCfproxy := !cfg.fallbackCfproxy
  poolSize := toString cfg.poolSize
  bufKb := toString (cfg.bufferSize / 1024)
  cfproxyDomain := ", ".intercalate cfg.cfproxyUserDomains
  cfproxyWorkerDomain := ", ".intercalate cfg.cfproxyWorkerDomains
  dcEntries := listing.entries.map shownEntry
  logFile := cfg.logFile.getD ""
  logMaxMb := toString cfg.logMaxMb
  logBackups := toString cfg.logBackups
  autostart := cfg.autostart

/-- The entry of the map which a row of the form stands for. -/
def dcEntry (row : String × String) : Option (UInt32 × String) :=
  match parseU32 row.1 with
  | none => none
  | some dc => if row.2 = "" then none else some (dc, row.2)

/-- A text of the form, which is left out of the file where it is empty. -/
def unlessEmpty (text : String) : Option String :=
  if text = "" then none else some text

def buildConfigFile (s : SettingsState) : ConfigFile :=
  let dcMap : DcMap := Std.ExtHashMap.ofList (s.dcEntries.filterMap dcEntry)
  { host := some s.host
    port := parseU16 s.port
    secret := some s.secret
    fakeTlsDomain := some s.fakeTlsDomain
    proxyProtocol := some s.proxyProtocol
    noCfproxy := some s.noCfproxy
    poolSize := parseUsize s.poolSize
    bufKb := parseUsize s.bufKb
    cfproxyDomain := (unlessEmpty s.cfproxyDomain).map fun text => [text]
    cfproxyWorkerDomain :=
      (unlessEmpty s.cfproxyWorkerDomain).map fun text => [text]
    dcIp := if dcMap.isEmpty then none else some dcMap
    logFile := unlessEmpty s.logFile
    logMaxMb := parseU64 s.logMaxMb
    logBackups := parseUsize s.logBackups
    autostart := some s.autostart }

/-- The button "Save & Restart": a failed save is ignored, and the new process
gets the path and nothing else. -/
def saveAndRestart (machine : Machine) (files : Files) (path : String)
    (write : FileWrite) (drawn : Fin 32 → Fin 16) (s : SettingsState) :
    Except Exit ProxyConfig :=
  let saved := saveConfig machine files path write (buildConfigFile s)
  main machine saved.2 drawn { config := some path }

/-- The TOML library reads back the file it has written. -/
def Machine.RoundTrips (machine : Machine) (cfg : ConfigFile) : Prop :=
  ∃ content, machine.tomlToString cfg = .ok content ∧
    machine.tomlFromStr content = .ok cfg

/-- What holds of every configuration which `main` installs. -/
structure Installed (machine : Machine) (config : ProxyConfig) : Prop where
  logOpens : openLog machine config.logFile = .ok ()
  userDomains : CoercedDomains machine.lowercaseTable config.cfproxyUserDomains
  workerDomains :
    CoercedDomains machine.lowercaseTable config.cfproxyWorkerDomains
  buffer : ∃ kb, config.bufferSize = max kb 4 * 1024

/-- The redirects which come back: those with an address, or the default ones
where none has one. -/
def restoredRedirects (redirects : DcMap) : DcMap :=
  let addressed := redirects.filter fun _ ip => ip ≠ ""
  if addressed.isEmpty then defaultDcRedirects else addressed

/-- The configuration which an unedited form installs again. -/
def restored (config : ProxyConfig) : ProxyConfig :=
  { config with
    dcRedirects := restoredRedirects config.dcRedirects
    bufferSize := max (config.bufferSize / 1024) 4 * 1024
    logMaxMb := 5
    logBackups := 0 }

/-- The configurations which the form restores: the two log limits stand at
the defaults of the command line, the buffer did not overflow, and there are
redirects, each with an address. -/
structure Restorable (config : ProxyConfig) : Prop where
  logMaxMb : config.logMaxMb = 5
  logBackups : config.logBackups = 0
  buffer : 4096 ≤ config.bufferSize
  redirected : config.dcRedirects.isEmpty = false
  addressed : ∀ dc : UInt32, config.dcRedirects[dc]? ≠ some ""

section Redirects

variable {redirects : DcMap}

theorem dcEntry_shownEntry (entry : UInt32 × String) :
    dcEntry (shownEntry entry) = if entry.2 = "" then none else some entry := by
  simp only [dcEntry, shownEntry, parseU32_toString]
  rfl

theorem mem_shown_rows (listing : Listing redirects) (dc : UInt32)
    (ip : String) :
    (dc, ip) ∈ (listing.entries.map shownEntry).filterMap dcEntry ↔
      redirects[dc]? = some ip ∧ ip ≠ "" := by
  rw [List.filterMap_map, List.mem_filterMap, ← listing.complete dc ip]
  constructor
  · intro ⟨entry, member, shown⟩
    rw [Function.comp_apply, dcEntry_shownEntry] at shown
    split at shown
    · cases shown
    · rename_i addressed
      cases shown
      exact ⟨member, addressed⟩
  · intro ⟨member, addressed⟩
    exact ⟨(dc, ip), member, by
      rw [Function.comp_apply, dcEntry_shownEntry, if_neg addressed]⟩

theorem shown_rows_distinct (listing : Listing redirects) :
    ((listing.entries.map shownEntry).filterMap dcEntry).Pairwise
      (fun left right => (left.1 == right.1) = false) := by
  rw [List.filterMap_map, List.pairwise_filterMap]
  apply listing.distinct.imp
  intro left right differ first shownFirst second shownSecond
  rw [Function.comp_apply, dcEntry_shownEntry] at shownFirst shownSecond
  split at shownFirst
  · cases shownFirst
  · split at shownSecond
    · cases shownSecond
    · cases shownFirst
      cases shownSecond
      exact differ

/-- The rows of an unedited form make up the redirects with an address. -/
theorem ofList_shown_rows (listing : Listing redirects) :
    Std.ExtHashMap.ofList
        ((listing.entries.map shownEntry).filterMap dcEntry) =
      redirects.filter fun _ ip => ip ≠ "" := by
  apply Std.ExtHashMap.ext_getElem?
  intro dc
  rw [Std.ExtHashMap.getElem?_filter']
  by_cases present : ∃ ip, redirects[dc]? = some ip ∧ ip ≠ ""
  · obtain ⟨ip, found, addressed⟩ := present
    have row := (mem_shown_rows listing dc ip).mpr ⟨found, addressed⟩
    rw [Std.ExtHashMap.getElem?_ofList_of_mem (beq_self_eq_true dc)
      (shown_rows_distinct listing) row, found, Option.filter_some,
      if_pos (decide_eq_true addressed)]
  · have absent : redirects[dc]?.filter (fun ip => ip ≠ "") = none := by
      rw [Option.filter_eq_none_iff]
      intro ip found addressed
      exact present ⟨ip, found, of_decide_eq_true addressed⟩
    rw [absent]
    apply Std.ExtHashMap.getElem?_ofList_of_contains_eq_false
    rw [Bool.eq_false_iff]
    intro listed
    rw [List.contains_iff_mem, List.mem_map] at listed
    obtain ⟨entry, member, same⟩ := listed
    have shown := (mem_shown_rows listing entry.1 entry.2).mp member
    rw [same] at shown
    exact present ⟨entry.2, shown⟩

theorem defaultDcRedirects_addressed (dc : UInt32) :
    defaultDcRedirects[dc]? ≠ some "" := by
  intro found
  rw [defaultDcRedirects, Std.ExtHashMap.getElem?_insert] at found
  split at found
  · exact absurd (Option.some.inj found) (by decide)
  · rw [Std.ExtHashMap.getElem?_insert] at found
    split at found
    · exact absurd (Option.some.inj found) (by decide)
    · rw [Std.ExtHashMap.getElem?_empty] at found
      cases found

theorem restoredRedirects_addressed (dc : UInt32) :
    (restoredRedirects redirects)[dc]? ≠ some "" := by
  simp only [restoredRedirects]
  split
  · exact defaultDcRedirects_addressed dc
  · intro found
    rw [Std.ExtHashMap.getElem?_filter', Option.filter_eq_some_iff] at found
    exact of_decide_eq_true found.2 rfl

theorem restoredRedirects_isEmpty :
    (restoredRedirects redirects).isEmpty = false := by
  simp only [restoredRedirects]
  split
  · rw [Std.ExtHashMap.isEmpty_eq_false_iff]
    exact Std.ExtHashMap.not_insert_eq_empty
  · rename_i kept
    exact Bool.eq_false_iff.mpr kept

theorem restoredRedirects_eq_self
    (redirected : redirects.isEmpty = false)
    (addressed : ∀ dc : UInt32, redirects[dc]? ≠ some "") :
    restoredRedirects redirects = redirects := by
  have all : redirects.filter (fun _ ip => ip ≠ "") = redirects := by
    apply Std.ExtHashMap.ext_getElem?
    intro dc
    rw [Std.ExtHashMap.getElem?_filter']
    cases found : redirects[dc]? with
    | none => rfl
    | some ip =>
        have filled : ip ≠ "" := by
          intro empty
          rw [empty] at found
          exact addressed dc found
        rw [Option.filter_some, if_pos (decide_eq_true filled)]
  simp only [restoredRedirects, all, redirected, Bool.false_eq_true, if_false]

end Redirects

section Main

variable {machine : Machine} {files : Files} {drawn : Fin 32 → Fin 16}
  {args : Cli} {config : ProxyConfig}

theorem main_installed (done : main machine files drawn args = .ok config) :
    Installed machine config := by
  rw [main] at done
  obtain ⟨_, opened, done⟩ := bind_eq_ok done
  obtain ⟨redirects, _, done⟩ := bind_eq_ok done
  obtain ⟨secret, _, done⟩ := bind_eq_ok done
  cases done
  constructor
  · exact opened
  · exact coerceDomainList_coerced _
  · exact coerceDomainList_coerced _
  · exact ⟨_, rfl⟩

/-- What `main` installs when it is given a file and nothing else. -/
def installedFromFile (machine : Machine) (secret : String)
    (cfg : ConfigFile) : ProxyConfig where
  port := cfg.port.getD 1443
  host := cfg.host.getD "127.0.0.1"
  secret := secret
  dcRedirects := cfg.dcIp.getD defaultDcRedirects
  bufferSize := max (cfg.bufKb.getD 256) 4 * 1024
  poolSize := cfg.poolSize.getD 4
  fallbackCfproxy := !cfg.noCfproxy.getD false
  cfproxyUserDomains := coerceDomainList machine.lowercaseTable cfg.cfproxyDomain
  cfproxyWorkerDomains :=
    coerceDomainList machine.lowercaseTable cfg.cfproxyWorkerDomain
  fakeTlsDomain := cfg.fakeTlsDomain.getD ""
  proxyProtocol := cfg.proxyProtocol.getD false
  logFile := cfg.logFile
  logMaxMb := 5
  logBackups := 0
  autostart := cfg.autostart.getD false

theorem portVal_file (path : Option String) (cfg : ConfigFile) :
    portVal { config := path } cfg = cfg.port.getD 1443 := by
  simp only [portVal, bne_self_eq_false, Bool.false_or, Bool.not_eq_true']
  split
  · rfl
  · rename_i same
    rw [Bool.not_eq_false, beq_iff_eq] at same
    exact same.symm

theorem main_file {path secret : String} {cfg : ConfigFile}
    (loaded : cfgFile machine files { config := some path } = some cfg)
    (opened : openLog machine cfg.logFile = .ok ())
    (kept : cfg.secret = some secret) :
    main machine files drawn { config := some path } =
      .ok (installedFromFile machine secret cfg) := by
  simp only [main, loaded, Option.bind_some, Option.none_or, opened,
    Option.getD_some, dcRedirects, secretHex, kept, portVal_file, domainsOf,
    ne_eq, not_true_eq_false, if_false, Bool.false_or]
  rfl

/-- An empty path is replaced by the default one, so that the new process reads
the file which was written. -/
theorem configPath_configPath (machine : Machine) (args : Cli) :
    configPath machine { config := some (configPath machine args) } =
      configPath machine args := by
  have again : configPath machine { config := some (configPath machine args) } =
      if configPath machine args = "" then defaultConfigPath machine
      else configPath machine args := rfl
  by_cases empty : configPath machine args = ""
  · have byDefault : defaultConfigPath machine = "" := by
      cases given : args.config with
      | none =>
          simp only [configPath, given] at empty
          exact empty
      | some path =>
          simp only [configPath, given] at empty
          split at empty
          · exact empty
          · contradiction
    rw [again, if_pos empty, byDefault, empty]
  · rw [again, if_neg empty]

theorem cfgFile_saved (files : Files) {path : String} {cfg : ConfigFile}
    (written : configPath machine { config := some path } = path)
    (roundTrips : machine.RoundTrips cfg) :
    cfgFile machine (saveConfig machine files path .written cfg).2
        { config := some path } = some cfg := by
  obtain ⟨content, printed, parsed⟩ := roundTrips
  simp only [cfgFile, written, saveConfig, printed, loadConfig,
    Except.toOption, Function.update_self, parsed, Except.mapError]

theorem coerceDomainList_shown {domains : List String}
    (coerced : CoercedDomains machine.lowercaseTable domains) :
    coerceDomainList machine.lowercaseTable
        ((unlessEmpty (", ".intercalate domains)).map fun text => [text]) =
      domains := by
  have joined := coerceDomainList_intercalate coerced
  rw [unlessEmpty]
  split
  · rename_i empty
    rw [empty] at joined
    exact joined
  · exact joined

theorem unlessEmpty_logFile (opened : openLog machine config.logFile = .ok ()) :
    unlessEmpty (config.logFile.getD "") = config.logFile := by
  cases named : config.logFile with
  | none => rfl
  | some path =>
      rw [Option.getD_some, unlessEmpty, if_neg]
      intro empty
      rw [named, empty, openLog, machine.fileName_empty] at opened
      cases opened

theorem installedFromFile_shown (installed : Installed machine config)
    (listing : Listing config.dcRedirects) :
    installedFromFile machine config.secret
        (buildConfigFile (loadSettingsFromConfig config listing)) =
      restored config := by
  have redirects :
      (if (config.dcRedirects.filter fun _ ip => ip ≠ "").isEmpty then none
        else some (config.dcRedirects.filter fun _ ip => ip ≠ "")).getD
          defaultDcRedirects =
        restoredRedirects config.dcRedirects := by
    simp only [restoredRedirects]
    split
    · rfl
    · rfl
  simp only [installedFromFile, buildConfigFile, loadSettingsFromConfig,
    parseU16_toString, parseUsize_toString, Option.getD_some,
    ofList_shown_rows, redirects, coerceDomainList_shown installed.userDomains,
    coerceDomainList_shown installed.workerDomains,
    unlessEmpty_logFile installed.logOpens, Bool.not_not, restored]

/-- What an unedited form installs again. -/
theorem saveAndRestart_eq (files : Files) (drawn : Fin 32 → Fin 16)
    (installed : Installed machine config)
    (listing : Listing config.dcRedirects) {path : String}
    (written : configPath machine { config := some path } = path)
    (roundTrips : machine.RoundTrips
      (buildConfigFile (loadSettingsFromConfig config listing))) :
    saveAndRestart machine files path .written drawn
        (loadSettingsFromConfig config listing) =
      .ok (restored config) := by
  have loaded := cfgFile_saved files written roundTrips
  have opened : openLog machine
      (buildConfigFile (loadSettingsFromConfig config listing)).logFile =
        .ok () := by
    simp only [buildConfigFile, loadSettingsFromConfig,
      unlessEmpty_logFile installed.logOpens]
    exact installed.logOpens
  have shown := installedFromFile_shown installed listing
  rw [saveAndRestart, main_file loaded opened rfl]
  exact congrArg Except.ok shown

theorem restored_eq_self_iff (installed : Installed machine config) :
    restored config = config ↔ Restorable config := by
  obtain ⟨kb, size⟩ := installed.buffer
  have buffer := bufferSize_restored_iff kb
  rw [← size] at buffer
  constructor
  · intro same
    constructor
    · exact (congrArg ProxyConfig.logMaxMb same).symm
    · exact (congrArg ProxyConfig.logBackups same).symm
    · exact buffer.mp (congrArg ProxyConfig.bufferSize same)
    · rw [← congrArg ProxyConfig.dcRedirects same]
      exact restoredRedirects_isEmpty
    · intro dc
      rw [← congrArg ProxyConfig.dcRedirects same]
      exact restoredRedirects_addressed dc
  · intro restorable
    have redirects := restoredRedirects_eq_self restorable.redirected
      restorable.addressed
    rw [restored, redirects, buffer.mpr restorable.buffer,
      ← restorable.logMaxMb, ← restorable.logBackups]

/-- "Save & Restart" with an unedited form installs the same configuration
exactly when the form restores it. -/
theorem saveAndRestart_keeps_iff (machine : Machine) (files present : Files)
    (drawn redrawn : Fin 32 → Fin 16) (args : Cli) (config : ProxyConfig)
    (listing : Listing config.dcRedirects)
    (done : main machine files drawn args = .ok config)
    (roundTrips : machine.RoundTrips
      (buildConfigFile (loadSettingsFromConfig config listing))) :
    saveAndRestart machine present (configPath machine args) .written redrawn
        (loadSettingsFromConfig config listing) = .ok config ↔
      Restorable config := by
  have installed := main_installed done
  have written := configPath_configPath machine args
  rw [saveAndRestart_eq present redrawn installed listing written roundTrips,
    Except.ok.injEq]
  exact restored_eq_self_iff installed

end Main

section Recorded

theorem recordedTable_settled (char : Char) (notSigma : char ≠ 'Σ') :
    ∀ lower ∈ [char], lower ≠ 'Σ' ∧ [lower] = [lower] := by
  intro lower member
  rw [List.mem_singleton.mp member]
  exact ⟨notSigma, rfl⟩

/-- Lower case letters stand for themselves. -/
def recordedTable : LowercaseTable where
  toLower char := [char]
  cased char := char.isAlpha
  caseIgnorable char := char == '.'
  toLower_ne_nil _ := List.cons_ne_nil _ _
  toLower_settled := recordedTable_settled
  toLower_sigma := ⟨rfl, rfl⟩
  toLower_blank _ _ member _ := List.mem_singleton.mp member

/-- A machine whose TOML library has met one file. -/
def recordedMachine (content : String) (file : ConfigFile) : Machine where
  lowercaseTable := recordedTable
  besideExe name := some ("/opt/tg-ws-proxy/" ++ name)
  fileName path := if path = "" then none else some path
  fileName_empty := if_pos rfl
  opensLog _ := true
  tomlToString _ := .ok content
  tomlFromStr text := if text = content then .ok file else .error "unexpected"

theorem recordedMachine_roundTrips (content : String) (file : ConfigFile) :
    (recordedMachine content file).RoundTrips file :=
  ⟨content, rfl, if_pos rfl⟩

/-- What `main` installs for `--log-max-mb` alone. -/
def recordedConfig (drawn : Fin 32 → Fin 16) (logMaxMb : UInt64) :
    ProxyConfig where
  port := 1443
  host := "127.0.0.1"
  secret := generatedSecret drawn
  dcRedirects := defaultDcRedirects
  bufferSize := max 256 4 * 1024
  poolSize := 4
  fallbackCfproxy := true
  cfproxyUserDomains := []
  cfproxyWorkerDomains := []
  fakeTlsDomain := ""
  proxyProtocol := false
  logFile := none
  logMaxMb := logMaxMb
  logBackups := 0
  autostart := false

section Pair

variable {first second : UInt32} {left right : String}

/-- The entries of a map with two keys. -/
theorem pair_complete (apart : first ≠ second) (dc : UInt32) (ip : String) :
    (dc, ip) ∈ [(first, left), (second, right)] ↔
      (((∅ : DcMap).insert first left).insert second right)[dc]? = some ip := by
  simp only [List.mem_cons, Prod.mk.injEq, List.not_mem_nil, or_false,
    Std.ExtHashMap.getElem?_insert, Std.ExtHashMap.getElem?_empty, beq_iff_eq]
  split
  · rename_i isSecond
    subst isSecond
    simp [apart.symm, eq_comm]
  · rename_i notSecond
    split
    · rename_i isFirst
      subst isFirst
      simp [apart, eq_comm]
    · rename_i notFirst
      simp [Ne.symm notFirst, Ne.symm notSecond]

theorem pair_distinct (apart : first ≠ second) :
    [(first, left), (second, right)].Pairwise
      fun left right => (left.1 == right.1) = false := by
  simp [apart]

def pairListing (apart : first ≠ second) :
    Listing (((∅ : DcMap).insert first left).insert second right) where
  entries := [(first, left), (second, right)]
  distinct := pair_distinct apart
  complete := pair_complete apart

theorem pair_redirected : (((∅ : DcMap).insert first left).insert second
    right).isEmpty = false := by
  rw [Std.ExtHashMap.isEmpty_eq_false_iff]
  exact Std.ExtHashMap.not_insert_eq_empty

theorem pair_addressed (leftIsSome : left ≠ "") (rightIsSome : right ≠ "")
    (dc : UInt32) : (((∅ : DcMap).insert first left).insert second
      right)[dc]? ≠ some "" := by
  simp only [Std.ExtHashMap.getElem?_insert, Std.ExtHashMap.getElem?_empty]
  split
  · simpa using rightIsSome
  · split
    · simpa using leftIsSome
    · nofun

end Pair

def recordedListing : Listing defaultDcRedirects := pairListing (by decide)

def recordedFile (drawn : Fin 32 → Fin 16) (logMaxMb : UInt64) : ConfigFile :=
  buildConfigFile (loadSettingsFromConfig (recordedConfig drawn logMaxMb)
    recordedListing)

theorem main_recorded (content : String) (file : ConfigFile) (files : Files)
    (drawn : Fin 32 → Fin 16) (logMaxMb : UInt64) :
    main (recordedMachine content file) files drawn { logMaxMb := logMaxMb } =
      .ok (recordedConfig drawn logMaxMb) := by
  simp only [main, cfgFile, Option.bind_none, Option.or_none, Option.getD_none,
    dcRedirects, secretHex, portVal, domainsOf, ne_eq, not_true_eq_false,
    if_false]
  rfl

def noFiles : Files := fun _ => .error "No such file or directory (os error 2)"

def recordedContent (logMaxMb : String) : String :=
  "host = \"127.0.0.1\"\nport = 1443\n" ++
  "secret = \"00000000000000000000000000000000\"\n" ++
  "fake_tls_domain = \"\"\nproxy_protocol = false\nno_cfproxy = false\n" ++
  "pool_size = 4\nbuf_kb = 256\nlog_max_mb = " ++ logMaxMb ++
  "\nlog_backups = 0\nautostart = false\n\n" ++
  "[dc_ip]\n2 = \"149.154.167.220\"\n4 = \"149.154.167.220\"\n"

/-- A command line which leaves little at its default. -/
def routedArgs : Cli where
  port := 8443
  host := "0.0.0.0"
  secret := some "00112233445566778899aabbccddeeff"
  dcIp := ["2:149.154.167.220", "5:91.108.56.100"]
  cfproxyDomain := ["one.example.org, two.example.org"]
  cfproxyWorkerDomain := ["worker.example.org"]
  fakeTlsDomain := "www.example.org"

def routedConfig : ProxyConfig where
  port := 8443
  host := "0.0.0.0"
  secret := "00112233445566778899aabbccddeeff"
  dcRedirects :=
    ((∅ : DcMap).insert 2 "149.154.167.220").insert 5 "91.108.56.100"
  bufferSize := max 256 4 * 1024
  poolSize := 4
  fallbackCfproxy := true
  cfproxyUserDomains := ["one.example.org", "two.example.org"]
  cfproxyWorkerDomains := ["worker.example.org"]
  fakeTlsDomain := "www.example.org"
  proxyProtocol := false
  logFile := none
  logMaxMb := 5
  logBackups := 0
  autostart := false

def routedListing : Listing routedConfig.dcRedirects := pairListing (by decide)

def routedFile : ConfigFile :=
  buildConfigFile (loadSettingsFromConfig routedConfig routedListing)

def routedContent : String :=
  "host = \"0.0.0.0\"\nport = 8443\n" ++
  "secret = \"00112233445566778899aabbccddeeff\"\n" ++
  "fake_tls_domain = \"www.example.org\"\nproxy_protocol = false\n" ++
  "no_cfproxy = false\npool_size = 4\nbuf_kb = 256\n" ++
  "cfproxy_domain = [\"one.example.org, two.example.org\"]\n" ++
  "cfproxy_worker_domain = [\"worker.example.org\"]\n" ++
  "log_max_mb = 5\nlog_backups = 0\nautostart = false\n\n" ++
  "[dc_ip]\n2 = \"149.154.167.220\"\n5 = \"91.108.56.100\"\n"

theorem main_routed (content : String) (file : ConfigFile) (files : Files)
    (drawn : Fin 32 → Fin 16) :
    main (recordedMachine content file) files drawn routedArgs =
      .ok routedConfig := by
  have redirects : dcRedirects routedArgs {} = .ok routedConfig.dcRedirects :=
    rfl
  have secret : secretHex drawn routedArgs {} = .ok routedConfig.secret := rfl
  have userDomains : domainsOf (recordedMachine content file)
      routedArgs.cfproxyDomain none = routedConfig.cfproxyUserDomains := rfl
  have workerDomains : domainsOf (recordedMachine content file)
      routedArgs.cfproxyWorkerDomain none =
        routedConfig.cfproxyWorkerDomains := rfl
  have port : portVal routedArgs {} = routedConfig.port := rfl
  have unchanged : routedArgs.bufKb = 256 ∧ routedArgs.poolSize = 4 := ⟨rfl, rfl⟩
  simp only [main, cfgFile, show routedArgs.config = none from rfl,
    Option.bind_none, Option.or_none, Option.getD_none, redirects, secret,
    userDomains, workerDomains, port, unchanged, ne_eq, not_true_eq_false,
    if_false]
  rfl

theorem routedConfig_restorable : Restorable routedConfig := by
  constructor
  · rfl
  · rfl
  · apply le_bufferSize
    simp only [USize.reduceToNat]
    rcases USize.size_eq with narrow | wide
    · rw [narrow]
      decide
    · rw [wide]
      decide
  · exact pair_redirected
  · exact pair_addressed (by decide) (by decide)

/-- A configuration with domains, redirects and a port of its own survives. -/
theorem saveAndRestart_keeps_routed :
    saveAndRestart (recordedMachine routedContent routedFile) noFiles
        "/opt/tg-ws-proxy/config.toml" .written (fun _ => 1)
        (loadSettingsFromConfig routedConfig routedListing) =
      .ok routedConfig :=
  (saveAndRestart_keeps_iff (recordedMachine routedContent routedFile) noFiles
    noFiles (fun _ => 0) (fun _ => 1) routedArgs routedConfig routedListing
    (main_routed _ _ _ _) (recordedMachine_roundTrips _ _)).mpr
      routedConfig_restorable

/-- With `--log-max-mb 10` the form shows ten, the file has it, and the new
process starts with five. -/
theorem saveAndRestart_loses_log_limit :
    ¬ ∀ (machine : Machine) (files present : Files)
        (drawn redrawn : Fin 32 → Fin 16) (args : Cli) (config : ProxyConfig)
        (listing : Listing config.dcRedirects),
      main machine files drawn args = .ok config →
      machine.RoundTrips
        (buildConfigFile (loadSettingsFromConfig config listing)) →
      saveAndRestart machine present (configPath machine args) .written redrawn
          (loadSettingsFromConfig config listing) = .ok config := by
  intro claim
  have done := main_recorded (recordedContent "10")
    (recordedFile (fun _ => 0) 10) noFiles (fun _ => 0) 10
  have roundTrips := recordedMachine_roundTrips (recordedContent "10")
    (recordedFile (fun _ => 0) 10)
  have kept := claim
    (recordedMachine (recordedContent "10") (recordedFile (fun _ => 0) 10))
    noFiles noFiles (fun _ => 0) (fun _ => 1) { logMaxMb := 10 }
    (recordedConfig (fun _ => 0) 10) recordedListing done roundTrips
  have lost := saveAndRestart_eq noFiles (fun _ => 1) (main_installed done)
    recordedListing (configPath_configPath _ { logMaxMb := 10 }) roundTrips
  rw [lost] at kept
  have limits : (5 : UInt64) = 10 :=
    congrArg ProxyConfig.logMaxMb (Except.ok.inj kept)
  exact absurd limits (by decide)

end Recorded

end TgWsProxy.Rust
