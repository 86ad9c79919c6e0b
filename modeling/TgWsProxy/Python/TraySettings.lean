import TgWsProxy.Python.TrayConfig

/-!
# What a settings dialog keeps

A dialog saves a dictionary of its own instead of changing the stored one, and
the next start fills up what it lacks.  A key which the dialog does not show
therefore returns to its default.
-/

namespace TgWsProxy.Python

open Lib

/-- What `validate_config_form` reads of the widgets; a widget which was not
built has no variable. -/
structure TrayConfigFormWidgets where
  hostVar : String
  portVar : String
  secretVar : String
  dcTextbox : String
  verboseVar : Bool
  bufKbEntry : String
  poolSizeEntry : String
  logMaxMbEntry : String
  autostartVar : Option Bool
  checkUpdatesVar : Option Bool
  cfproxyVar : Option Bool
  cfproxyUserDomainVar : Option String
  cfproxyWorkerDomainVar : Option String
  fakeTlsDomainVar : Option String
  appearanceVar : Option String
  /-- The last choice in the box of appearances, which writes to `cfg`. -/
  appearanceChoice : Option String

/-- Why a dialog saves nothing. -/
inductive SaveError where
  /-- The text is shown. -/
  | rejected (text : String)
  /-- `int` of an infinite float raises `OverflowError`. -/
  | overflow
  /-- A prompt was closed. -/
  | closed
deriving DecidableEq, Repr

/-- `_APPEARANCE_TO_CFG.get(choice, "auto")`. -/
def appearanceToCfg (choice : String) : String :=
  if choice = "Авто" then "auto"
  else if choice = "Светлая" then "light"
  else if choice = "Тёмная" then "dark"
  else "auto"

def hostVal (py : Builtins) (text : String) : Except SaveError String :=
  let host := strip text
  if py.inetAton host then .ok host
  else .error (.rejected "Некорректный IP-адрес.")

def portVal (py : Builtins) (text : String) : Except SaveError Int :=
  match py.int (strip text) with
  | none => .error (.rejected "Порт должен быть числом 1-65535")
  | some port =>
      if 1 ≤ port ∧ port ≤ 65535 then .ok port
      else .error (.rejected "Порт должен быть числом 1-65535")

/-- Lines of redirects, kept as texts when `parse_dc_ip_list` takes them. -/
def dcLines (py : Builtins) (lines : List String) :
    Except SaveError (List String) :=
  match parseDcIpList py lines with
  | .error text => .error (.rejected text)
  | .ok _ => .ok lines

/-- The stripped lines of a text without the empty ones. -/
def filledLines (text : String) : List String :=
  ((splitlines [] text.toList).map strip).filter (· ≠ "")

def formSecret (text : String) : Except SaveError String :=
  let secret := strip text
  if secret.length ≠ 32 then .error (.rejected
    "Secret должен содержать ровно 32 hex-символа (16 байт).")
  else if fromhex secret.toList then .ok secret
  else .error (.rejected
    "Secret должен состоять только из hex-символов (0-9, a-f).")

/-- `adv_keys` with the texts of their entries. -/
def TrayConfigFormWidgets.advEntries (widgets : TrayConfigFormWidgets) :
    List (String × String) :=
  [("buf_kb", widgets.bufKbEntry), ("pool_size", widgets.poolSizeEntry),
    ("log_max_mb", widgets.logMaxMbEntry)]

/-- A pass of the loop of `merge_adv_from_form`. -/
def advValue (py : Builtins) (defaults : ConfigDict) (entry : String × String) :
    Except SaveError (String × JsonValue) :=
  let byDefault := (entry.1, getItem defaults entry.1)
  match py.float (strip entry.2) with
  | none => .ok byDefault
  | some val =>
      if entry.1 = "buf_kb" ∨ entry.1 = "pool_size" then
        match val with
        | .finite val => .ok (entry.1, .int (Int.tdiv val.num val.den))
        | .nan => .ok byDefault
        | .infinite _ => .error .overflow
      else .ok (entry.1, .float val)

def mergeAdvFromForm (py : Builtins) (widgets : TrayConfigFormWidgets)
    (defaults : ConfigDict) : Except SaveError (List (String × JsonValue)) :=
  widgets.advEntries.mapM (advValue py defaults)

/-- An assignment for a widget which was built. -/
def whenBuilt {α : Type} (key : String) (value : α → JsonValue) :
    Option α → List (String × JsonValue)
  | none => []
  | some var => [(key, value var)]

def domainValue (py : Builtins) (text : String) : JsonValue :=
  .list ((coerceDomainList py (.str text)).map .str)

/-- The assignments to `new_cfg` in `validate_config_form`. -/
def formItems (py : Builtins) (widgets : TrayConfigFormWidgets)
    (includeAutostart : Bool) (host : String) (port : Int) (secret : String)
    (lines : List String) (adv : List (String × JsonValue)) :
    List (String × JsonValue) :=
  [("host", .str host), ("port", .int port), ("secret", .str secret),
    ("dc_ip", .list (lines.map .str)), ("verbose", .bool widgets.verboseVar)] ++
  (if includeAutostart then
    [("autostart", .bool (widgets.autostartVar.getD false))] else []) ++
  adv ++
  whenBuilt "check_updates" .bool widgets.checkUpdatesVar ++
  whenBuilt "cfproxy" .bool widgets.cfproxyVar ++
  whenBuilt "cfproxy_user_domain" (domainValue py)
    widgets.cfproxyUserDomainVar ++
  whenBuilt "cfproxy_worker_domain" (domainValue py)
    widgets.cfproxyWorkerDomainVar ++
  whenBuilt "fake_tls_domain" (.str ∘ strip) widgets.fakeTlsDomainVar ++
  whenBuilt "appearance" (.str ∘ appearanceToCfg) widgets.appearanceVar

def validateConfigForm (py : Builtins) (widgets : TrayConfigFormWidgets)
    (defaults : ConfigDict) (includeAutostart : Bool) :
    Except SaveError ConfigDict := do
  let host ← hostVal py widgets.hostVar
  let port ← portVal py widgets.portVar
  let lines ← dcLines py (filledLines (strip widgets.dcTextbox))
  let secret ← formSecret widgets.secretVar
  let adv ← mergeAdvFromForm py widgets defaults
  return Dictionary.setItems ∅
    (formItems py widgets includeAutostart host port secret lines adv)

/-- The answers to the prompts of the macOS dialog, in the order of the
prompts; a closed prompt has none. -/
structure DialogAnswers where
  host : Option String
  port : Option String
  secret : Option String
  dc : Option String
  verbose : Option Bool
  adv : Option String
  cfproxy : Option Bool
  cfproxyDomain : Option String
  cfworkerDomain : Option String

def answered {α : Type} (answer : Option α) : Except SaveError α :=
  match answer with
  | none => .error .closed
  | some value => .ok value

def dialogSecret (py : Builtins) (text : String) : Except SaveError String :=
  let secret := py.lower (strip text)
  if secret.length = 32 ∧
      secret.toList.all ("0123456789abcdef".toList.contains ·) then
    .ok secret
  else .error (.rejected
    "Secret должен быть строкой из 32 шестнадцатеричных символов.")

/-- The keys of the answer to the extended settings, with their types. -/
def advKeys (py : Builtins) : List (String × (String → Option JsonValue)) :=
  [("buf_kb", fun text => (py.int text).map .int),
    ("pool_size", fun text => (py.int text).map .int),
    ("log_max_mb", fun text => (py.float text).map .float)]

/-- The dictionary `adv`: a part which does not parse is left out. -/
def advParts (py : Builtins) (text : String) : List (String × JsonValue) :=
  if text = "" then []
  else
    let parts := (text.toList.splitOnP (· == ',')).map (strip ∘ String.ofList)
    ((advKeys py).zip parts).filterMap fun (key, part) =>
      (key.2 part).map fun value => (key.1, value)

/-- `adv.get(key, cfg.get(key, DEFAULT_CONFIG[key]))`. -/
def advOrStored (adv : List (String × JsonValue)) (cfg defaults : ConfigDict)
    (key : String) : JsonValue :=
  (adv.lookup key).getD ((cfg.lookup key).getD (getItem defaults key))

/-- The dictionary `new_cfg` of the macOS dialog. -/
def dialogItems (py : Builtins) (cfg defaults : ConfigDict) (host : String)
    (port : Int) (secret : String) (lines : List String) (verbose : Bool)
    (adv : List (String × JsonValue)) (cfproxy : Bool)
    (cfproxyDomain cfworkerDomain : String) : List (String × JsonValue) :=
  [("host", .str host),
    ("port", .int port),
    ("secret", .str secret),
    ("dc_ip", .list (lines.map .str)),
    ("verbose", .bool verbose),
    ("buf_kb", advOrStored adv cfg defaults "buf_kb"),
    ("pool_size", advOrStored adv cfg defaults "pool_size"),
    ("log_max_mb", advOrStored adv cfg defaults "log_max_mb"),
    ("check_updates", (cfg.lookup "check_updates").getD (.bool true)),
    ("cfproxy", .bool cfproxy),
    ("cfproxy_user_domain", domainValue py cfproxyDomain),
    ("cfproxy_worker_domain", domainValue py cfworkerDomain)]

/-- The macOS dialog until it saves. -/
def dialogConfig (py : Builtins) (answers : DialogAnswers)
    (cfg defaults : ConfigDict) : Except SaveError ConfigDict := do
  let host ← hostVal py (← answered answers.host)
  let port ← portVal py (← answered answers.port)
  let secret ← dialogSecret py (← answered answers.secret)
  let dc ← answered answers.dc
  let lines ← dcLines py (filledLines (String.ofList
    (dc.toList.map fun char => if char = ',' then '\n' else char)))
  let verbose ← answered answers.verbose
  let adv ← answered answers.adv
  let cfproxy ← answered answers.cfproxy
  let cfproxyDomain ← answered answers.cfproxyDomain
  let cfworkerDomain ← answered answers.cfworkerDomain
  return Dictionary.setItems ∅ (dialogItems py cfg defaults host port secret
    lines verbose (advParts py adv) cfproxy cfproxyDomain cfworkerDomain)

/-- The file of the configuration, as `json.load` reads it, and the module's
`_config` and `DEFAULT_CONFIG`. -/
structure TrayState where
  stored : Option ConfigDict
  config : ConfigDict
  defaults : ConfigDict

/-- The start of an application: it loads the configuration and saves it. -/
def startTray (platform : Platform) (secret : String)
    (stored : Option ConfigDict) : TrayState :=
  let defaults := defaultTrayConfig platform secret
  let config := loadConfig defaults stored
  { stored := some config, config := config, defaults := defaults }

/-- What the user does in a settings dialog. -/
inductive Dialog where
  /-- `_supports_autostart` and `is_autostart_enabled` are given. -/
  | windows (supportsAutostart autostartEnabled : Bool)
      (widgets : TrayConfigFormWidgets)
  | linux (widgets : TrayConfigFormWidgets)
  | macos (answers : DialogAnswers)

def Dialog.platform : Dialog → Platform
  | .windows .. => .windows
  | .linux .. => .linux
  | .macos .. => .macos

/-- `any(merged.get(k) != cfg.get(k) for k in merged)`. -/
def configChanged (merged cfg : ConfigDict) : Bool :=
  merged.keys.any fun key => !(getItem merged key).eq (getItem cfg key)

/-- The dictionary of a dialog, after the choices in the box of appearances. -/
def chosenAppearance (widgets : TrayConfigFormWidgets) (cfg : ConfigDict) :
    ConfigDict :=
  match widgets.appearanceChoice with
  | none => cfg
  | some choice => cfg.insert "appearance" (.str (appearanceToCfg choice))

/-- What `on_save` gives to `save_config`, if anything. -/
def savedForm (py : Builtins) (widgets : TrayConfigFormWidgets)
    (includeAutostart : Bool) (cfg defaults : ConfigDict) :
    Option ConfigDict :=
  match validateConfigForm py widgets defaults includeAutostart with
  | .error _ => none
  | .ok merged =>
      if configChanged merged (chosenAppearance widgets cfg) then some merged
      else none

/-- What a dialog gives to `save_config`, if anything. -/
def savedConfig (py : Builtins) (state : TrayState) :
    Dialog → Option ConfigDict
  | .windows supportsAutostart autostartEnabled widgets =>
      savedForm py widgets supportsAutostart
        (state.config.insert "autostart" (.bool autostartEnabled))
        state.defaults
  | .linux widgets => savedForm py widgets false state.config state.defaults
  | .macos answers =>
      (dialogConfig py answers (loadConfig state.defaults state.stored)
        state.defaults).toOption

/-- `_edit_config_dialog`: the form updates `_config`, and the macOS dialog
replaces it. -/
def editConfigDialog (py : Builtins) (state : TrayState) (dialog : Dialog) :
    TrayState :=
  match savedConfig py state dialog with
  | none => state
  | some saved =>
      { state with
        stored := some saved
        config := match dialog with
          | .macos _ => saved
          | .windows .. | .linux _ =>
              state.config.setItems
                (saved.entries.map fun entry => (entry.1, entry.2)) }

/-- The keys which the widgets show. -/
def formKeys (widgets : TrayConfigFormWidgets) (includeAutostart : Bool) :
    List String :=
  let built (key : String) (present : Bool) := if present then [key] else []
  ["host", "port", "secret", "dc_ip", "verbose"] ++
    built "autostart" includeAutostart ++
    ["buf_kb", "pool_size", "log_max_mb"] ++
    built "check_updates" widgets.checkUpdatesVar.isSome ++
    built "cfproxy" widgets.cfproxyVar.isSome ++
    built "cfproxy_user_domain" widgets.cfproxyUserDomainVar.isSome ++
    built "cfproxy_worker_domain" widgets.cfproxyWorkerDomainVar.isSome ++
    built "fake_tls_domain" widgets.fakeTlsDomainVar.isSome ++
    built "appearance" widgets.appearanceVar.isSome

/-- The keys which the prompts of the macOS dialog ask for. -/
def promptKeys : List String :=
  ["host", "port", "secret", "dc_ip", "verbose", "buf_kb", "pool_size",
    "log_max_mb", "cfproxy", "cfproxy_user_domain", "cfproxy_worker_domain"]

/-- The inputs of a dialog. -/
def Dialog.inputKeys : Dialog → List String
  | .windows supportsAutostart _ widgets => formKeys widgets supportsAutostart
  | .linux widgets => formKeys widgets false
  | .macos _ => promptKeys

/-- The keys which a dialog copies although it does not show them. -/
def Dialog.copiedKeys : Dialog → List String
  | .windows .. => []
  | .linux _ => []
  | .macos _ => ["check_updates"]

/-- After the dialog and another start, the keys which the dialog does not show
have the values they had before. -/
def KeepsHidden (py : Builtins) (dialog : Dialog) (stored : Option ConfigDict)
    (secret nextSecret : String) : Prop :=
  let before := startTray dialog.platform secret stored
  let saved := editConfigDialog py before dialog
  let after := startTray dialog.platform nextSecret saved.stored
  ∀ key ∉ dialog.inputKeys, after.config.lookup key = before.config.lookup key

/-- Every key which the dialog neither shows nor copies has its default value,
or no value where there is no default. -/
def HiddenAtDefaults (dialog : Dialog) (stored : Option ConfigDict)
    (secret : String) : Prop :=
  let before := startTray dialog.platform secret stored
  ∀ key ∉ dialog.inputKeys, key ∉ dialog.copiedKeys →
    before.config.lookup key = before.defaults.lookup key

section Forms

variable {py : Builtins} {widgets : TrayConfigFormWidgets}
  {defaults cfg saved : ConfigDict} {includeAutostart : Bool}

theorem advValue_key {entry : String × String} {item : String × JsonValue}
    (done : advValue py defaults entry = .ok item) : item.1 = entry.1 := by
  simp only [advValue] at done
  split at done
  · cases done
    rfl
  · split at done
    · split at done
      · cases done
        rfl
      · cases done
        rfl
      · cases done
    · cases done
      rfl

theorem mergeAdvFromForm_keys {adv : List (String × JsonValue)}
    (done : mergeAdvFromForm py widgets defaults = .ok adv) :
    adv.map Prod.fst = ["buf_kb", "pool_size", "log_max_mb"] :=
  mapM_map_eq (fun _ _ => advValue_key) done

theorem whenBuilt_keys {α : Type} (key : String) (value : α → JsonValue)
    (var : Option α) :
    (whenBuilt key value var).map Prod.fst =
      if var.isSome then [key] else [] := by
  cases var with
  | none => rfl
  | some var => rfl

/-- The form writes the keys which it shows. -/
theorem formItems_keys {adv : List (String × JsonValue)}
    (merged : adv.map Prod.fst = ["buf_kb", "pool_size", "log_max_mb"])
    (host : String) (port : Int) (secret : String) (lines : List String) :
    (formItems py widgets includeAutostart host port secret lines adv).map
        Prod.fst =
      formKeys widgets includeAutostart := by
  have autostart :
      (if includeAutostart then
        [("autostart", JsonValue.bool (widgets.autostartVar.getD false))]
        else []).map Prod.fst =
      if includeAutostart then ["autostart"] else [] := by
    split
    · rfl
    · rfl
  simp only [formItems, formKeys, List.map_append, merged, whenBuilt_keys,
    autostart]
  rfl

theorem validateConfigForm_hidden
    (done : validateConfigForm py widgets defaults includeAutostart =
      .ok saved) {key : String}
    (hidden : key ∉ formKeys widgets includeAutostart) :
    saved.lookup key = none := by
  rw [validateConfigForm] at done
  obtain ⟨host, _, done⟩ := bind_eq_ok done
  obtain ⟨port, _, done⟩ := bind_eq_ok done
  obtain ⟨lines, _, done⟩ := bind_eq_ok done
  obtain ⟨secret, _, done⟩ := bind_eq_ok done
  obtain ⟨adv, merged, done⟩ := bind_eq_ok done
  cases done
  rw [← formItems_keys (mergeAdvFromForm_keys merged) host port secret lines]
    at hidden
  rw [Dictionary.lookup_setItems _ hidden, AList.lookup_empty]

theorem savedForm_hidden
    (done : savedForm py widgets includeAutostart cfg defaults = some saved)
    {key : String} (hidden : key ∉ formKeys widgets includeAutostart) :
    saved.lookup key = none := by
  rw [savedForm] at done
  split at done
  · cases done
  · rename_i valid
    split at done
    · cases done
      exact validateConfigForm_hidden valid hidden
    · cases done

theorem promptKeys_of_dialogItems {host secret : String} {port : Int}
    {lines : List String} {verbose cfproxy : Bool}
    {adv : List (String × JsonValue)} {cfproxyDomain cfworkerDomain key : String}
    (written : key ∈ (dialogItems py cfg defaults host port secret lines verbose
      adv cfproxy cfproxyDomain cfworkerDomain).map Prod.fst) :
    key ∈ promptKeys ∨ key ∈ ["check_updates"] := by
  have keys : (dialogItems py cfg defaults host port secret lines verbose adv
      cfproxy cfproxyDomain cfworkerDomain).map Prod.fst =
        promptKeys.take 8 ++ ["check_updates"] ++ promptKeys.drop 8 := rfl
  rw [keys, List.mem_append, List.mem_append] at written
  rcases written with (early | copied) | late
  · exact Or.inl (List.mem_of_mem_take early)
  · exact Or.inr copied
  · exact Or.inl (List.mem_of_mem_drop late)

theorem dialogConfig_saved {answers : DialogAnswers}
    (done : dialogConfig py answers cfg defaults = .ok saved) :
    (∀ key ∉ promptKeys, key ∉ ["check_updates"] → saved.lookup key = none) ∧
      saved.lookup "check_updates" =
        some ((cfg.lookup "check_updates").getD (.bool true)) := by
  rw [dialogConfig] at done
  obtain ⟨_, _, done⟩ := bind_eq_ok done
  obtain ⟨host, _, done⟩ := bind_eq_ok done
  obtain ⟨_, _, done⟩ := bind_eq_ok done
  obtain ⟨port, _, done⟩ := bind_eq_ok done
  obtain ⟨_, _, done⟩ := bind_eq_ok done
  obtain ⟨secret, _, done⟩ := bind_eq_ok done
  obtain ⟨dc, _, done⟩ := bind_eq_ok done
  obtain ⟨lines, _, done⟩ := bind_eq_ok done
  obtain ⟨verbose, _, done⟩ := bind_eq_ok done
  obtain ⟨adv, _, done⟩ := bind_eq_ok done
  obtain ⟨cfproxy, _, done⟩ := bind_eq_ok done
  obtain ⟨cfproxyDomain, _, done⟩ := bind_eq_ok done
  obtain ⟨cfworkerDomain, _, done⟩ := bind_eq_ok done
  cases done
  constructor
  · intro key hidden notCopied
    rw [Dictionary.lookup_setItems _, AList.lookup_empty]
    intro written
    rcases promptKeys_of_dialogItems written with shown | copied
    · exact hidden shown
    · exact notCopied copied
  · exact Dictionary.lookup_setItems_last
      ((dialogItems py cfg defaults host port secret lines verbose
        (advParts py adv) cfproxy cfproxyDomain cfworkerDomain).take 8)
      (by simp)

end Forms

section Starts

variable {py : Builtins} {platform : Platform} {dialog : Dialog}
  {stored : Option ConfigDict} {secret nextSecret key : String}

theorem lookup_loadConfig (defaults : ConfigDict) (stored : Option ConfigDict)
    (key : String) :
    (loadConfig defaults stored).lookup key =
      (stored.bind (·.lookup key)).or (defaults.lookup key) := by
  cases stored with
  | none => rfl
  | some data => exact Dictionary.lookup_fill data defaults key

/-- Only the secret differs between the defaults of two starts. -/
theorem lookup_defaultTrayConfig (platform : Platform)
    (secret nextSecret : String) (notSecret : key ≠ "secret") :
    (defaultTrayConfig platform nextSecret).lookup key =
      (defaultTrayConfig platform secret).lookup key := by
  have common : ∀ drawn, ((Dictionary.setItems ∅ trayDefaultsCommon).insert
      "secret" (JsonValue.str drawn)).lookup key =
        (Dictionary.setItems ∅ trayDefaultsCommon).lookup key :=
    fun _ => AList.lookup_insert_ne notSecret
  cases platform with
  | windows =>
      by_cases autostart : key = "autostart"
      · subst autostart
        simp only [defaultTrayConfig, AList.lookup_insert]
      · simp only [defaultTrayConfig, AList.lookup_insert_ne autostart, common]
  | linux => simp only [defaultTrayConfig, common]
  | macos => simp only [defaultTrayConfig, common]

theorem hidden_ne_secret (hidden : key ∉ dialog.inputKeys) :
    key ≠ "secret" := by
  intro same
  apply hidden
  rw [same]
  cases dialog with
  | windows supportsAutostart _ widgets =>
      simp [Dialog.inputKeys, formKeys]
  | linux widgets => simp [Dialog.inputKeys, formKeys]
  | macos answers => simp [Dialog.inputKeys, promptKeys]

/-- A key keeps its value when the next start finds it as it was saved. -/
theorem lookup_restart (stored : Option ConfigDict)
    (secret nextSecret : String) (hidden : key ∉ dialog.inputKeys)
    (saved : ConfigDict) :
    (startTray dialog.platform nextSecret (some saved)).config.lookup key =
      (saved.lookup key).or
        ((startTray dialog.platform secret stored).defaults.lookup key) := by
  simp only [startTray, lookup_loadConfig, Option.bind_some]
  rw [lookup_defaultTrayConfig dialog.platform secret nextSecret
    (hidden_ne_secret hidden)]

theorem lookup_config_or_default (platform : Platform) (secret : String)
    (stored : Option ConfigDict) (key : String) :
    ((startTray platform secret stored).config.lookup key).or
        ((startTray platform secret stored).defaults.lookup key) =
      (startTray platform secret stored).config.lookup key := by
  simp only [startTray, lookup_loadConfig, Option.or_assoc, Option.or_self]

/-- A dialog which saves nothing keeps every key. -/
theorem keepsHidden_unsaved
    (unsaved : savedConfig py (startTray dialog.platform secret stored)
      dialog = none) :
    KeepsHidden py dialog stored secret nextSecret := by
  intro key hidden
  simp only [editConfigDialog, unsaved]
  have restart := lookup_restart stored secret nextSecret hidden
    (startTray dialog.platform secret stored).config
  rw [lookup_config_or_default] at restart
  exact restart

theorem check_updates_configured (secret : String)
    (stored : Option ConfigDict) :
    ∃ value, (startTray .macos secret stored).config.lookup "check_updates" =
      some value := by
  have written : "check_updates" ∈
      Dictionary.setItems (∅ : ConfigDict) trayDefaultsCommon :=
    Dictionary.mem_setItems (by simp [trayDefaultsCommon])
  obtain ⟨byDefault, found⟩ :=
    Option.isSome_iff_exists.mp (AList.lookup_isSome.mpr written)
  have default : (defaultTrayConfig .macos secret).lookup "check_updates" =
      some byDefault := by
    rw [← found]
    exact AList.lookup_insert_ne (by decide)
  simp only [startTray, lookup_loadConfig, default]
  cases (stored.bind (·.lookup "check_updates")) with
  | none => exact ⟨byDefault, rfl⟩
  | some value => exact ⟨value, rfl⟩

/-- A dialog writes neither more nor less than the keys which it shows or
copies. -/
theorem savedConfig_keys {saved : ConfigDict}
    (done : savedConfig py (startTray dialog.platform secret stored) dialog =
      some saved) :
    (∀ key ∉ dialog.inputKeys, key ∉ dialog.copiedKeys →
        saved.lookup key = none) ∧
      ∀ key ∈ dialog.copiedKeys, saved.lookup key =
        (startTray dialog.platform secret stored).config.lookup key := by
  cases dialog with
  | windows supportsAutostart autostartEnabled widgets =>
      exact ⟨fun key hidden _ => savedForm_hidden done hidden,
        fun key copied => absurd copied List.not_mem_nil⟩
  | linux widgets =>
      exact ⟨fun key hidden _ => savedForm_hidden done hidden,
        fun key copied => absurd copied List.not_mem_nil⟩
  | macos answers =>
      simp only [savedConfig] at done
      cases computed : dialogConfig py answers
          (loadConfig (startTray .macos secret stored).defaults
            (startTray .macos secret stored).stored)
          (startTray .macos secret stored).defaults with
      | error failure =>
          rw [Dialog.platform, computed] at done
          cases done
      | ok new =>
          rw [Dialog.platform, computed] at done
          cases done
          have ⟨unwritten, copied⟩ := dialogConfig_saved computed
          constructor
          · exact unwritten
          · intro key member
            obtain ⟨value, found⟩ := check_updates_configured secret stored
            have reloaded := lookup_config_or_default .macos secret stored
              "check_updates"
            rw [List.mem_singleton.mp member, copied, lookup_loadConfig]
            simp only [startTray] at reloaded found ⊢
            rw [Option.bind_some, reloaded, found, Option.getD_some]
            exact found.symm

/-- A dialog which saves keeps the keys which it does not show exactly when
they have their defaults, and one which does not save keeps them. -/
theorem settings_keep_hidden_iff (py : Builtins) (dialog : Dialog)
    (stored : Option ConfigDict) (secret nextSecret : String) :
    (savedConfig py (startTray dialog.platform secret stored) dialog ≠ none →
      (KeepsHidden py dialog stored secret nextSecret ↔
        HiddenAtDefaults dialog stored secret)) ∧
    (savedConfig py (startTray dialog.platform secret stored) dialog = none →
      KeepsHidden py dialog stored secret nextSecret) := by
  refine ⟨fun saves => ?_, keepsHidden_unsaved⟩
  obtain ⟨saved, done⟩ := Option.ne_none_iff_exists'.mp saves
  have ⟨unwritten, copied⟩ := savedConfig_keys done
  have restart : ∀ key ∉ dialog.inputKeys,
      (startTray dialog.platform nextSecret (editConfigDialog py
          (startTray dialog.platform secret stored) dialog).stored).config.lookup
          key =
        (saved.lookup key).or
          ((startTray dialog.platform secret stored).defaults.lookup key) := by
    intro key hidden
    rw [editConfigDialog, done]
    exact lookup_restart stored secret nextSecret hidden saved
  constructor
  · intro keeps key hidden notCopied
    have kept := keeps key hidden
    rw [restart key hidden, unwritten key hidden notCopied, Option.none_or]
      at kept
    exact kept.symm
  · intro atDefaults key hidden
    rw [restart key hidden]
    by_cases member : key ∈ dialog.copiedKeys
    · rw [copied key member, lookup_config_or_default]
    · rw [unwritten key hidden member, Option.none_or]
      exact (atDefaults key hidden member).symm

end Starts

section Recorded

/-- The built-in functions on plain numerals and on dotted addresses. -/
def recordedBuiltins : Builtins where
  inetAton text := text == "127.0.0.1" || text == "149.154.167.220"
  int text := (readUnsigned 65536 text.toList).map Int.ofNat
  float text := (readUnsigned 65536 text.toList).map fun n =>
    .finite (n : Int)
  lower text := text
  repr text := "'" ++ text ++ "'"

/-- The form of Linux with the port 8443 and the other defaults. -/
def recordedWidgets : TrayConfigFormWidgets where
  hostVar := "127.0.0.1"
  portVar := "8443"
  secretVar := "00112233445566778899aabbccddeeff"
  dcTextbox := "2:149.154.167.220\n4:149.154.167.220\n"
  verboseVar := false
  bufKbEntry := "256"
  poolSizeEntry := "4"
  logMaxMbEntry := "5"
  autostartVar := none
  checkUpdatesVar := some true
  cfproxyVar := some true
  cfproxyUserDomainVar := some ""
  cfproxyWorkerDomainVar := some ""
  fakeTlsDomainVar := some ""
  appearanceVar := some "Авто"
  appearanceChoice := none

/-- A file in which the proxy protocol is on or off. -/
def recordedStored (proxyProtocol : Bool) : ConfigDict :=
  Dictionary.setItems ∅ [("proxy_protocol", .bool proxyProtocol)]

theorem recordedWidgets_save (proxyProtocol : Bool) :
    savedConfig recordedBuiltins
        (startTray .linux "00112233445566778899aabbccddeeff"
          (some (recordedStored proxyProtocol))) (.linux recordedWidgets) ≠
      none := by
  apply Option.isSome_iff_ne_none.mp
  cases proxyProtocol with
  | false => rfl
  | true => rfl

theorem recordedStored_atDefaults : HiddenAtDefaults (.linux recordedWidgets)
    (some (recordedStored false)) "00112233445566778899aabbccddeeff" := by
  intro key _ _
  simp only [startTray, lookup_loadConfig, Option.bind_some]
  by_cases shown : key = "proxy_protocol"
  · rw [shown]
    rfl
  · rw [recordedStored, Dictionary.lookup_setItems _ (by simpa using shown),
      AList.lookup_empty, Option.none_or]

/-- A stored value which is the default survives a changed port. -/
theorem settings_keep_default_protocol :
    KeepsHidden recordedBuiltins (.linux recordedWidgets)
      (some (recordedStored false)) "00112233445566778899aabbccddeeff"
      "ffeeddccbbaa99887766554433221100" :=
  ((settings_keep_hidden_iff recordedBuiltins (.linux recordedWidgets)
    (some (recordedStored false)) "00112233445566778899aabbccddeeff"
    "ffeeddccbbaa99887766554433221100").1 (recordedWidgets_save false)).mpr
      recordedStored_atDefaults

/-- With the proxy protocol on, a changed port turns it off. -/
theorem settings_lose_proxy_protocol :
    ¬ ∀ (py : Builtins) (dialog : Dialog) (stored : Option ConfigDict)
        (secret nextSecret : String),
      savedConfig py (startTray dialog.platform secret stored) dialog ≠ none →
      KeepsHidden py dialog stored secret nextSecret := by
  intro claim
  have kept := claim recordedBuiltins (.linux recordedWidgets)
    (some (recordedStored true)) "00112233445566778899aabbccddeeff"
    "ffeeddccbbaa99887766554433221100" (recordedWidgets_save true)
    "proxy_protocol" (by decide)
  have before : (startTray .linux "00112233445566778899aabbccddeeff"
      (some (recordedStored true))).config.lookup "proxy_protocol" =
        some (.bool true) := rfl
  have after : (startTray .linux "ffeeddccbbaa99887766554433221100"
      (editConfigDialog recordedBuiltins
        (startTray .linux "00112233445566778899aabbccddeeff"
          (some (recordedStored true)))
        (.linux recordedWidgets)).stored).config.lookup "proxy_protocol" =
        some (.bool false) := rfl
  simp only [Dialog.platform] at kept
  rw [before, after] at kept
  cases kept

end Recorded

end TgWsProxy.Python
