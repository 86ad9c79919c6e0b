import TgWsProxy.Lib.Hex
import TgWsProxy.Lib.Utf8
import TgWsProxy.Python.SecretGrammar

/-!
# Links to the proxy

Both implementations show a `tg://proxy` link.  Telegram reads in it where the
proxy listens and with which secret; the first byte of the secret says whether
the proxy speaks Fake TLS, and then the domain stands behind the key.
-/

namespace TgWsProxy

open Lib

/-- What Telegram reads in a link. -/
structure ProxyLink where
  server : List Char
  port : Nat
  secret : Bytes
deriving DecidableEq, Repr

/-- The value of the first parameter with the name. -/
def queryValue (name : List Char) (parameters : List (List Char)) :
    Option (List Char) :=
  parameters.findSome? fun parameter =>
    if name ++ ['='] <+: parameter then some (parameter.drop (name.length + 1))
    else none

/-- A link is read parameter by parameter, and the secret digit by digit. -/
def readLink (link : String) : Option ProxyLink :=
  let scheme := "tg://proxy?".toList
  if scheme <+: link.toList then do
    let parameters := (link.toList.drop scheme.length).splitOnP (· = '&')
    let server ← queryValue "server".toList parameters
    let port ← queryValue "port".toList parameters
    let port ← readUnsigned 65536 port
    let secret ← queryValue "secret".toList parameters
    let secret ← hexDecode secret
    some ⟨server, port, secret⟩
  else none

/-- The link of a server, a port and a secret in hexadecimal. -/
def proxyLink (server : String) (port : Nat) (secret : String) : String :=
  "tg://proxy?server=" ++ server ++ "&port=" ++ toString port ++ "&secret=" ++
    secret

/-- The secret of a client: the mode, the key, and the domain in Fake-TLS
mode. -/
def linkSecret (fakeTlsDomain : String) (key : Bytes) : Bytes :=
  if fakeTlsDomain = "" then 0xDD :: key
  else 0xEE :: (key ++ utf8Encode fakeTlsDomain.toList)

section Reading

variable {server secret : String} {port : Nat}

theorem queryValue_here {name value : List Char}
    (parameters : List (List Char)) :
    queryValue name ((name ++ ['='] ++ value) :: parameters) = some value := by
  have starts : name ++ ['='] <+: name ++ ['='] ++ value :=
    List.prefix_append _ _
  have size : (name ++ ['=']).length = name.length + 1 := List.length_append
  rw [queryValue, List.findSome?_cons, if_pos starts, List.drop_left' size]

theorem queryValue_later {name parameter : List Char}
    (other : ¬ name ++ ['='] <+: parameter) (parameters : List (List Char)) :
    queryValue name (parameter :: parameters) = queryValue name parameters := by
  rw [queryValue, List.findSome?_cons, if_neg other]
  rfl

/-- The query of a link is cut where it was put together. -/
theorem splitOnP_query {server port secret : List Char}
    (plainServer : '&' ∉ server) (plainPort : '&' ∉ port)
    (plainSecret : '&' ∉ secret) :
    ("server=".toList ++ server ++ '&' :: ("port=".toList ++ port ++
        '&' :: ("secret=".toList ++ secret))).splitOnP (· = '&') =
      ["server".toList ++ ['='] ++ server, "port".toList ++ ['='] ++ port,
        "secret".toList ++ ['='] ++ secret] := by
  have plain {name value : List Char} (first : '&' ∉ name)
      (second : '&' ∉ value) :
      ∀ char ∈ name ++ value, decide (char = '&') = false := by
    intro char member
    apply decide_eq_false
    rintro rfl
    exact (List.mem_append.mp member).elim first second
  have serverName : '&' ∉ "server=".toList := by simp
  have portName : '&' ∉ "port=".toList := by simp
  have secretName : '&' ∉ "secret=".toList := by simp
  have separates : decide ('&' = '&') = true := decide_eq_true rfl
  rw [List.splitOnP_append_cons_of_forall_mem (plain serverName plainServer) _
      separates,
    List.splitOnP_append_cons_of_forall_mem (plain portName plainPort) _
      separates,
    List.splitOnP_eq_singleton (plain secretName plainSecret)]
  simp

theorem plain_port (port : Nat) : '&' ∉ (toString port).toList := by
  intro member
  have digit := isDigit_of_mem_toString member
  exact absurd digit (by decide)

theorem toList_append_six (a b c d e f : String) :
    (a ++ b ++ c ++ d ++ e ++ f).toList = a.toList ++ b.toList ++
      (c.toList ++ d.toList ++ (e.toList ++ f.toList)) := by
  simp only [String.toList_append, List.append_assoc]

theorem proxyLink_toList (server : String) (port : Nat) (secret : String) :
    (proxyLink server port secret).toList = "tg://proxy?".toList ++
      ("server=".toList ++ server.toList ++ '&' :: ("port=".toList ++
        (toString port).toList ++ '&' :: ("secret=".toList ++
          secret.toList))) := by
  have scheme : "tg://proxy?server=".toList =
      "tg://proxy?".toList ++ "server=".toList := by
    simp
  have portName : "&port=".toList = '&' :: "port=".toList := by
    simp
  have secretName : "&secret=".toList = '&' :: "secret=".toList := by
    simp
  refine (toList_append_six _ _ _ _ _ _).trans ?_
  rw [scheme, portName, secretName]
  -- The texts are left as they are.
  generalize "tg://proxy?".toList = scheme, "server=".toList = serverName,
    "port=".toList = portName, "secret=".toList = secretName,
    (toString port).toList = port
  simp only [List.append_assoc, List.cons_append]

/-- A link is read back as far as its secret is hexadecimal. -/
theorem readLink_proxyLink (plainServer : '&' ∉ server.toList)
    (plainSecret : '&' ∉ secret.toList) (fits : port < 65536) :
    readLink (proxyLink server port secret) =
      (hexDecode secret.toList).map (⟨server.toList, port, ·⟩) := by
  have scheme : "tg://proxy?".toList <+:
      (proxyLink server port secret).toList := by
    rw [proxyLink_toList]
    exact List.prefix_append _ _
  have query : (proxyLink server port secret).toList.drop
      "tg://proxy?".toList.length = "server=".toList ++ server.toList ++
        '&' :: ("port=".toList ++ (toString port).toList ++
          '&' :: ("secret=".toList ++ secret.toList)) := by
    rw [proxyLink_toList]
    exact List.drop_left
  have portSkips : ¬ "port".toList ++ ['='] <+:
      "server".toList ++ ['='] ++ server.toList := by
    simp
  have secretSkips : ¬ "secret".toList ++ ['='] <+:
      "server".toList ++ ['='] ++ server.toList := by
    simp
  have secretSkipsPort : ¬ "secret".toList ++ ['='] <+:
      "port".toList ++ ['='] ++ (toString port).toList := by
    simp
  unfold readLink
  simp only [if_pos scheme, query]
  rw [splitOnP_query plainServer (plain_port port) plainSecret,
    queryValue_here, queryValue_later portSkips, queryValue_here,
    queryValue_later secretSkips, queryValue_later secretSkipsPort,
    queryValue_here]
  simp only [Option.bind_eq_bind, Option.bind_some, readUnsigned_toString fits]
  cases hexDecode secret.toList with
  | none => rfl
  | some bytes => rfl

end Reading

namespace Python

/-- `get_link_host`; the address of the connected socket is not known if there
was an `OSError`. -/
def getLinkHost (localAddress : Option String) (host : String) : String :=
  if host = "0.0.0.0" then localAddress.getD "127.0.0.1" else host

/-- `encode('ascii')`, which raises for other characters. -/
def encodeAscii (text : String) : Option Bytes :=
  if text.toList.all (·.toNat < 128) then some (utf8Encode text.toList) else none

/-- `bytes.hex()`. -/
def hex (bytes : Bytes) : String := String.ofList (hexEncode bytes)

/-- The link which `_run` logs, if it does not raise. -/
def connectLink (localAddress : Option String) (host : String) (port : Nat)
    (secret ftls : String) : Option String :=
  let linkHost := getLinkHost localAddress host
  let ddLink := proxyLink linkHost port ("dd" ++ secret)
  if ftls ≠ "" then do
    let domainHex ← (encodeAscii ftls).map hex
    some (proxyLink linkHost port ("ee" ++ secret ++ domainHex))
  else some ddLink

/-- `tg_proxy_url` of the tray, for a configuration with these values. -/
def tgProxyUrl (localAddress : Option String) (host : String) (port : Nat)
    (secret fakeTlsDomain : String) : Option String :=
  let fakeTls := strip fakeTlsDomain
  let linkHost := getLinkHost localAddress host
  if fakeTls ≠ "" then do
    let domainHex ← (encodeAscii fakeTls).map hex
    some (proxyLink linkHost port ("ee" ++ secret ++ domainHex))
  else some (proxyLink linkHost port ("dd" ++ secret))

end Python

namespace Rust

/-- `get_link_host`. -/
def getLinkHost (localAddress : Option String) (host : String) :
    Option String :=
  if host = "0.0.0.0" then localAddress else some host

/-- The fields of `GuiState` for the link. -/
structure GuiLink where
  linkHost : String
  linkPort : UInt16
  linkSecret : String
  linkDomainHex : String
deriving DecidableEq, Repr

/-- `GuiState` as `main` fills it. -/
def guiLink (localAddress : Option String) (host : String) (port : UInt16)
    (secretHex fakeTlsDomain : String) : GuiLink where
  linkHost := (getLinkHost localAddress host).getD ""
  linkPort := port
  linkSecret := secretHex
  linkDomainHex :=
    if fakeTlsDomain = "" then ""
    else String.ofList (hexEncode (utf8Encode fakeTlsDomain.toList))

/-- `link_text`. -/
def linkText (state : GuiLink) : String :=
  if state.linkDomainHex = "" then
    proxyLink state.linkHost state.linkPort.toNat ("dd" ++ state.linkSecret)
  else
    proxyLink state.linkHost state.linkPort.toNat
      ("ee" ++ state.linkSecret ++ state.linkDomainHex)

/-- The links which `main` logs. -/
def mainLinks (localAddress : Option String) (host : String) (port : UInt16)
    (secretHex fakeTlsDomain : String) : List String :=
  match getLinkHost localAddress host with
  | none => []
  | some host =>
      let ddLink := proxyLink host port.toNat ("dd" ++ secretHex)
      if fakeTlsDomain ≠ "" then
        let domainHex := String.ofList (hexEncode (utf8Encode fakeTlsDomain.toList))
        [ddLink, proxyLink host port.toNat ("ee" ++ secretHex ++ domainHex)]
      else [ddLink]

end Rust

namespace Python

section Secrets

theorem hexDigitValue_eq (char : Char) :
    hexDigitValue char = if isHex char then some (hexValue char) else none := by
  by_cases ascii : char.toNat < 128
  · revert char
    apply ascii_cases
    decide +kernel
  · -- No other character is a digit.
    have large : 128 ≤ char.val.toNat := Nat.le_of_not_lt ascii
    have beyond {limit : Char} (early : limit.val.toNat < 128) :
        ¬ char.val.toNat ≤ limit.val.toNat :=
      Nat.not_le.mpr (Nat.lt_of_lt_of_le early large)
    have notHex : isHex char = false := by
      simp only [isHex, Char.isDigit, Bool.or_eq_false_iff,
        Bool.and_eq_false_iff, decide_eq_false_iff_not, Char.le_def,
        UInt32.le_iff_toNat_le, ge_iff_le]
      exact ⟨⟨Or.inr (@beyond '9' (by decide)), Or.inr (@beyond 'f' (by decide))⟩,
        Or.inr (@beyond 'F' (by decide))⟩
    have noValue : hexDigitValue char = none := by
      simp only [hexDigitValue]
      rw [if_neg (by omega), if_neg (by omega), if_neg (by omega)]
    rw [noValue, notHex]
    rfl

theorem bytesFromhex_eq_hexDecode {text : List Char}
    (digits : ∀ char ∈ text, isHex char = true) :
    bytesFromhex text = hexDecode text := by
  fun_induction bytesFromhex text with
  | case1 => rfl
  | case2 char space =>
      rw [isHexSpace_of_isHex (digits char List.mem_cons_self)] at space
      cases space
  | case3 => rfl
  | case4 char next rest space induction =>
      rw [isHexSpace_of_isHex (digits char List.mem_cons_self)] at space
      cases space
  | case5 char next rest notSpace hex induction =>
      rw [Bool.and_eq_true] at hex
      have first := hexDigitValue_eq char
      have second := hexDigitValue_eq next
      rw [if_pos hex.1] at first
      rw [if_pos hex.2] at second
      rw [hexDecode_cons first second, induction fun other member =>
        digits other (List.mem_cons_of_mem _ (List.mem_cons_of_mem _ member))]
  | case6 char next rest notSpace notHex =>
      have first := digits char List.mem_cons_self
      have second := digits next (List.mem_cons_of_mem _ List.mem_cons_self)
      rw [first, second] at notHex
      exact absurd rfl notHex

/-- What `fromhex` reads are digits and whitespace. -/
theorem plain_of_bytesFromhex {text : List Char} {key : Bytes}
    (decoded : bytesFromhex text = some key) : '&' ∉ text := by
  have other {char : Char} (known : isHexSpace char = true ∨ isHex char = true) :
      '&' ≠ char := by
    rintro rfl
    rcases known with space | hex
    · cases space
    · cases hex
  fun_induction bytesFromhex text generalizing key with
  | case1 => exact List.not_mem_nil
  | case2 char space =>
      exact List.not_mem_cons_of_ne_of_not_mem (other (Or.inl space))
        List.not_mem_nil
  | case3 => cases decoded
  | case4 char next rest space induction =>
      exact List.not_mem_cons_of_ne_of_not_mem (other (Or.inl space))
        (induction decoded)
  | case5 char next rest notSpace hex induction =>
      obtain ⟨later, read, -⟩ := Option.map_eq_some_iff.mp decoded
      rw [Bool.and_eq_true] at hex
      apply List.not_mem_cons_of_ne_of_not_mem (other (Or.inr hex.1))
      exact List.not_mem_cons_of_ne_of_not_mem (other (Or.inr hex.2))
        (induction read)
  | case6 => cases decoded

/-- A secret between its mode and a domain is read as its key if it has digits
only. -/
theorem hexDecode_secret_iff {secret mode domain : List Char} {key : Bytes}
    {front back : Bytes} (decoded : bytesFromhex secret = some key)
    (modeRead : hexDecode mode = some front)
    (domainRead : hexDecode domain = some back) :
    hexDecode (mode ++ (secret ++ domain)) = some (front ++ (key ++ back)) ↔
      ∀ char ∈ secret, isHex char = true := by
  constructor
  · intro read char member
    have digit := digits_of_hexDecode read char
      (List.mem_append_right _ (List.mem_append_left _ member))
    rw [hexDigitValue_eq] at digit
    by_contra other
    rw [if_neg other] at digit
    cases digit
  · intro digits
    rw [bytesFromhex_eq_hexDecode digits] at decoded
    rw [hexDecode_append modeRead, hexDecode_append decoded, domainRead]
    rfl

end Secrets

end Python

section Texts

variable {localAddress : Option String} {host secret fakeTlsDomain : String}
  {port : Nat} {key : Bytes}

/-- The secret in the text of a link. -/
def secretText (secret fakeTlsDomain : String) : String :=
  if fakeTlsDomain = "" then "dd" ++ secret
  else "ee" ++ secret ++ String.ofList (hexEncode (utf8Encode fakeTlsDomain.toList))

theorem secretText_read_iff
    (decoded : Python.bytesFromhex secret.toList = some key) :
    hexDecode (secretText secret fakeTlsDomain).toList =
        some (linkSecret fakeTlsDomain key) ↔
      ∀ char ∈ secret.toList, Python.isHex char = true := by
  have dd : hexDecode "dd".toList = some [0xDD] := by decide +kernel
  have ee : hexDecode "ee".toList = some [0xEE] := by decide +kernel
  by_cases plain : fakeTlsDomain = ""
  · rw [secretText, linkSecret, if_pos plain, if_pos plain]
    have read := Python.hexDecode_secret_iff decoded dd
      (show hexDecode [] = some [] from rfl)
    simp only [List.append_nil, List.cons_append, List.nil_append] at read
    exact String.toList_append ▸ read
  · rw [secretText, linkSecret, if_neg plain, if_neg plain]
    have read := Python.hexDecode_secret_iff decoded ee
      (hexDecode_encode (utf8Encode fakeTlsDomain.toList))
    have text (front middle : String) (back : List Char) :
        (front ++ middle ++ String.ofList back).toList =
          front.toList ++ (middle.toList ++ back) := by
      simp only [String.toList_append, String.toList_ofList, List.append_assoc]
    rw [text]
    exact read

/-- The digits of a domain tell the domain. -/
theorem domainHex_injective {first second : String}
    (same : String.ofList (hexEncode (utf8Encode first.toList)) =
      String.ofList (hexEncode (utf8Encode second.toList))) :
    first = second := by
  have digits := congrArg hexDecode (String.ofList_inj.mp same)
  rw [hexDecode_encode, hexDecode_encode, Option.some.injEq] at digits
  have chars := congrArg utf8Decode digits
  rw [utf8Decode_encode, utf8Decode_encode, Option.some.injEq] at chars
  exact String.toList_inj.mp chars

theorem plain_hexEncode (bytes : Bytes) : '&' ∉ hexEncode bytes := by
  intro member
  have digit := digits_of_hexDecode (hexDecode_encode bytes) '&' member
  cases digit

theorem plain_secretText
    (decoded : Python.bytesFromhex secret.toList = some key) :
    '&' ∉ (secretText secret fakeTlsDomain).toList := by
  have plain := Python.plain_of_bytesFromhex decoded
  have dd : '&' ∉ "dd".toList := by simp
  have ee : '&' ∉ "ee".toList := by simp
  unfold secretText
  split
  · rw [String.toList_append, List.mem_append]
    exact not_or.mpr ⟨dd, plain⟩
  · have domain : '&' ∉ (String.ofList (hexEncode
        (utf8Encode fakeTlsDomain.toList))).toList :=
      String.toList_ofList.symm ▸ plain_hexEncode _
    rw [String.toList_append, String.toList_append, List.mem_append,
      List.mem_append]
    exact not_or.mpr ⟨not_or.mpr ⟨ee, plain⟩, domain⟩

theorem Python.connectLink_eq :
    Python.connectLink localAddress host port secret fakeTlsDomain =
      (Python.encodeAscii fakeTlsDomain).map fun _ =>
        proxyLink (Python.getLinkHost localAddress host) port
          (secretText secret fakeTlsDomain) := by
  by_cases plain : fakeTlsDomain = ""
  · subst plain
    rfl
  · simp only [Python.connectLink, secretText, Python.encodeAscii, ne_eq, plain,
      not_false_eq_true, if_true, if_false]
    split
    · rfl
    · rfl

theorem Rust.linkText_eq (port : UInt16) :
    Rust.linkText (Rust.guiLink localAddress host port secret fakeTlsDomain) =
      proxyLink ((Rust.getLinkHost localAddress host).getD "") port.toNat
        (secretText secret fakeTlsDomain) := by
  by_cases plain : fakeTlsDomain = ""
  · subst plain
    rfl
  · have written : String.ofList (hexEncode (utf8Encode fakeTlsDomain.toList)) ≠
        "" := by
      intro empty
      exact plain (@domainHex_injective _ "" empty)
    simp only [Rust.linkText, Rust.guiLink, secretText, if_neg plain,
      if_neg written]

/-- Two domains give the same secret only if they are the same. -/
theorem secretText_injective {first second : String}
    (same : secretText secret first = secretText secret second) :
    first = second := by
  have modes (other : String) :
      "dd" ++ secret ≠ "ee" ++ secret ++ other := by
    intro same
    have chars := congrArg String.toList same
    rw [String.toList_append, String.toList_append, String.toList_append]
      at chars
    cases chars
  unfold secretText at same
  split at same
  · split at same
    · rename_i left right
      exact left.trans right.symm
    · exact absurd same (modes _)
  · split at same
    · exact absurd same.symm (modes _)
    · exact domainHex_injective (String.append_right_inj _ |>.mp same)

theorem proxyLink_injective {server : String} {left right : String}
    (same : proxyLink server port left = proxyLink server port right) :
    left = right :=
  (String.append_right_inj _).mp same

end Texts

/-- Whatever secret the Python proxy runs with, its link is read as the place
where it listens and its own key exactly if the secret is written in digits
only. -/
theorem connectLink_read_back_iff {localAddress : Option String}
    {host secret ftls link : String} {port : Nat} {key : Bytes}
    (shown : Python.connectLink localAddress host port secret ftls = some link)
    (decoded : Python.bytesFromhex secret.toList = some key)
    (plainHost : '&' ∉ (Python.getLinkHost localAddress host).toList)
    (fits : port < 65536) :
    readLink link = some ⟨(Python.getLinkHost localAddress host).toList, port,
        linkSecret ftls key⟩ ↔
      ∀ char ∈ secret.toList, Python.isHex char = true := by
  rw [Python.connectLink_eq, Option.map_eq_some_iff] at shown
  obtain ⟨-, -, rfl⟩ := shown
  rw [readLink_proxyLink plainHost (plain_secretText decoded) fits,
    ← @secretText_read_iff secret ftls key decoded]
  constructor
  · intro read
    obtain ⟨bytes, digits, same⟩ := Option.map_eq_some_iff.mp read
    cases same
    exact digits
  · intro digits
    rw [digits]
    rfl

theorem connectLink_read_back_spaced :
    readLink "tg://proxy?server=10.0.0.2&port=1443&secret=dd00 11" =
        some ⟨"10.0.0.2".toList, 1443, linkSecret "" [0x00, 0x11]⟩ ↔
      ∀ char ∈ "00 11".toList, Python.isHex char = true :=
  @connectLink_read_back_iff (some "10.0.0.2") "0.0.0.0" "00 11" "" _ 1443
    [0x00, 0x11] (by decide +kernel) (by decide +kernel) (by decide +kernel)
    (by decide)

section Agreement

variable {localAddress : Option String} {host secret : String}
  {first second : String} {port : Nat}

theorem connectLink_inj_iff :
    Python.connectLink localAddress host port secret first =
        Python.connectLink localAddress host port secret second ↔
      first = second ∨ Python.encodeAscii first = none ∧
        Python.encodeAscii second = none := by
  rw [Python.connectLink_eq, Python.connectLink_eq]
  cases firstBytes : Python.encodeAscii first with
  | none =>
      cases secondBytes : Python.encodeAscii second with
      | none => exact iff_of_true rfl (Or.inr ⟨rfl, rfl⟩)
      | some bytes =>
          refine iff_of_false (fun same => by cases same) ?_
          rintro (same | ⟨-, raised⟩)
          · rw [← same, firstBytes] at secondBytes
            cases secondBytes
          · cases raised
  | some bytes =>
      cases secondBytes : Python.encodeAscii second with
      | none =>
          refine iff_of_false (fun same => by cases same) ?_
          rintro (same | ⟨raised, -⟩)
          · rw [← same, firstBytes] at secondBytes
            cases secondBytes
          · cases raised
      | some others =>
          simp only [Option.map_some, Option.some.injEq, reduceCtorEq,
            false_and, or_false]
          constructor
          · intro same
            exact secretText_injective (proxyLink_injective same)
          · rintro rfl
            rfl

theorem encodeAscii_strip {text : String}
    (raised : Python.encodeAscii (Python.strip text) = none) :
    Python.encodeAscii text = none := by
  unfold Python.encodeAscii at raised ⊢
  split at raised
  · cases raised
  · rename_i outside
    apply if_neg
    intro ascii
    apply outside
    rw [List.all_eq_true] at ascii ⊢
    intro char member
    rw [Python.strip, String.toList_ofList] at member
    exact ascii char (mem_of_mem_trimBlanks member)

theorem linkHosts_agree_iff :
    Python.getLinkHost localAddress host =
        (Rust.getLinkHost localAddress host).getD "" ↔
      (host = "0.0.0.0" → localAddress ≠ none) := by
  unfold Python.getLinkHost Rust.getLinkHost
  by_cases anywhere : host = "0.0.0.0"
  · rw [if_pos anywhere, if_pos anywhere]
    cases localAddress with
    | none =>
        refine iff_of_false (fun same => ?_) (fun known => known anywhere rfl)
        exact absurd same (by decide)
    | some address =>
        exact iff_of_true rfl (fun _ known => by cases known)
  · rw [if_neg anywhere, if_neg anywhere]
    exact iff_of_true rfl (fun here => absurd here anywhere)

theorem proxyLink_server_injective {left right : String}
    (same : proxyLink left port secret = proxyLink right port secret) :
    left = right := by
  unfold proxyLink at same
  simp only [String.append_left_inj, String.append_right_inj] at same
  exact same

end Agreement

/-- When the tray shows the link which the proxy logs, and when the two
implementations show the same one. -/
theorem links_agree_iff (localAddress : Option String)
    (host secret fakeTlsDomain : String) (port : UInt16) :
    (Python.tgProxyUrl localAddress host port.toNat secret fakeTlsDomain =
        Python.connectLink localAddress host port.toNat secret fakeTlsDomain ↔
      Python.strip fakeTlsDomain = fakeTlsDomain ∨
        Python.encodeAscii (Python.strip fakeTlsDomain) = none) ∧
    (Python.connectLink localAddress host port.toNat secret fakeTlsDomain =
        some (Rust.linkText
          (Rust.guiLink localAddress host port secret fakeTlsDomain)) ↔
      Python.encodeAscii fakeTlsDomain ≠ none ∧
        (host = "0.0.0.0" → localAddress ≠ none)) ∧
    (Rust.mainLinks localAddress host port secret fakeTlsDomain).getLast? =
      (Rust.getLinkHost localAddress host).map fun _ =>
        Rust.linkText
          (Rust.guiLink localAddress host port secret fakeTlsDomain) := by
  refine ⟨?_, ?_, ?_⟩
  · apply (@connectLink_inj_iff localAddress host secret
      (Python.strip fakeTlsDomain) fakeTlsDomain port.toNat).trans
    exact or_congr_right ⟨And.left, fun raised =>
      ⟨raised, encodeAscii_strip raised⟩⟩
  · rw [Python.connectLink_eq, Rust.linkText_eq, ← linkHosts_agree_iff]
    cases encoded : Python.encodeAscii fakeTlsDomain with
    | none =>
        refine iff_of_false (fun same => by cases same) ?_
        rintro ⟨ascii, -⟩
        exact ascii rfl
    | some bytes =>
        rw [Option.map_some, Option.some.injEq]
        constructor
        · intro same
          exact ⟨Option.some_ne_none bytes, proxyLink_server_injective same⟩
        · rintro ⟨-, hosts⟩
          rw [hosts]
  · rw [Rust.linkText_eq]
    unfold Rust.mainLinks
    cases known : Rust.getLinkHost localAddress host with
    | none => rfl
    | some linkHost =>
        by_cases plain : fakeTlsDomain = ""
        · subst plain
          rfl
        · simp only [ne_eq, plain, not_false_eq_true, if_true, secretText,
            if_false]
          rfl

end TgWsProxy
