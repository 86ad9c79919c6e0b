import TgWsProxy.Lib.Dictionary
import TgWsProxy.Python.Text

/-!
# The configuration of the tray applications

The configuration is a dictionary of JSON values, which `load_config` fills up
from `DEFAULT_CONFIG` and `save_config` writes.  What a settings dialog saves
is built key by key, for Windows and Linux from the widgets of the form and for
macOS from the answers of a sequence of prompts.
-/

namespace TgWsProxy.Python

open Lib

/-- A `float`. -/
inductive PyFloat where
  | finite (value : Rat)
  | infinite (negative : Bool)
  | nan
deriving DecidableEq, Repr

/-- `==` of two floats. -/
def PyFloat.eq : PyFloat → PyFloat → Bool
  | .finite left, .finite right => left == right
  | .infinite left, .infinite right => left == right
  | _, _ => false

/-- A value which `json.load` returns and `json.dump` writes. -/
inductive JsonValue where
  | none
  | bool (value : Bool)
  | int (value : Int)
  | float (value : PyFloat)
  | str (value : String)
  | list (items : List JsonValue)
  | dict (items : List (String × JsonValue))

namespace JsonValue

def number : JsonValue → Option PyFloat
  | .bool value => some (.finite (if value then 1 else 0))
  | .int value => some (.finite value)
  | .float value => some value
  | _ => Option.none

/-- `bool` of a value. -/
def truthy : JsonValue → Bool
  | .none => false
  | .bool value => value
  | .int value => value != 0
  | .float value => !value.eq (.finite 0)
  | .str text => text != ""
  | .list items => !items.isEmpty
  | .dict items => !items.isEmpty

mutual

/-- `==` of two values. -/
def eq : JsonValue → JsonValue → Bool
  | .none, .none => true
  | .str left, .str right => left == right
  | .list left, .list right => eqList left right
  | .dict left, .dict right => left.length == right.length && eqItems left right
  | left, right =>
      match left.number, right.number with
      | some left, some right => left.eq right
      | _, _ => false

def eqList : List JsonValue → List JsonValue → Bool
  | [], [] => true
  | left :: lefts, right :: rights => left.eq right && eqList lefts rights
  | _, _ => false

def eqItems : List (String × JsonValue) → List (String × JsonValue) → Bool
  | [], _ => true
  | (key, left) :: lefts, rights =>
      (match rights.lookup key with
        | some right => left.eq right
        | Option.none => false) && eqItems lefts rights

end

end JsonValue

abbrev ConfigDict := Dictionary String JsonValue

/-- `dict.get` with `None` for a missing key. -/
def getItem (dict : ConfigDict) (key : String) : JsonValue :=
  (dict.lookup key).getD .none

inductive Platform where
  | windows
  | linux
  | macos
deriving DecidableEq, Repr

/-- `_TRAY_DEFAULTS_COMMON`. -/
def trayDefaultsCommon : List (String × JsonValue) :=
  [("port", .int 1443),
   ("host", .str "127.0.0.1"),
   ("dc_ip", .list [.str "2:149.154.167.220", .str "4:149.154.167.220"]),
   ("verbose", .bool false),
   ("check_updates", .bool true),
   ("log_max_mb", .int 5),
   ("buf_kb", .int 256),
   ("pool_size", .int 4),
   ("cfproxy", .bool true),
   ("cfproxy_user_domain", .list []),
   ("cfproxy_worker_domain", .list []),
   ("fake_tls_domain", .str ""),
   ("proxy_protocol", .bool false),
   ("shutdown_timeout", .float (.finite 10))]

/-- `default_tray_config`, with the secret it draws. -/
def defaultTrayConfig (platform : Platform) (secret : String) : ConfigDict :=
  let cfg := (Dictionary.setItems ∅ trayDefaultsCommon).insert "secret"
    (.str secret)
  match platform with
  | .windows => cfg.insert "autostart" (.bool false)
  | .linux | .macos => cfg

/-- `load_config`, given the dictionary which `json.load` reads from the file.
A missing file, a text which is not JSON and a value which is not a dictionary
all end in the defaults. -/
def loadConfig (defaults : ConfigDict) (stored : Option ConfigDict) :
    ConfigDict :=
  match stored with
  | some data => data.fill defaults
  | none => defaults

/-- The built-in functions which the dialogs give texts to. -/
structure Builtins where
  /-- `socket.inet_aton` accepts the text. -/
  inetAton : String → Bool
  /-- `int`, without a value where it raises `ValueError`. -/
  int : String → Option Int
  /-- `float`, without a value where it raises `ValueError`. -/
  float : String → Option PyFloat
  lower : String → String
  repr : String → String

def isHex (char : Char) : Bool :=
  char.isDigit || ('a' ≤ char && char ≤ 'f') || ('A' ≤ char && char ≤ 'F')

/-- The characters which `bytes.fromhex` skips between bytes. -/
def isHexSpace (char : Char) : Bool :=
  char == ' ' || (9 ≤ char.toNat && char.toNat ≤ 13)

/-- `bytes.fromhex` does not raise. -/
def fromhex : List Char → Bool
  | [] => true
  | [char] => isHexSpace char
  | char :: next :: rest =>
      if isHexSpace char then fromhex (next :: rest)
      else isHex char && isHex next && fromhex rest

/-- The items of a text in `coerce_domain_list`. -/
def domainItems (text : String) : List String :=
  splitWords (text.toList.map fun char =>
    if char = ',' ∨ char = ';' then ' ' else char)

/-- The items of an entry of a list, which is skipped unless it is a text. -/
def entryItems : JsonValue → List String
  | .str text => domainItems text
  | _ => []

/-- A pass of the loop of `coerce_domain_list`; `seen` holds the lower case of
what is in `result`. -/
def coerceDomain (py : Builtins) (result : List String) (item : String) :
    List String :=
  let item := strip item
  if item = "" ∨ py.lower item ∈ result.map py.lower then result
  else result ++ [item]

def coerceDomainList (py : Builtins) (value : JsonValue) : List String :=
  let items := match value with
    | .str text => domainItems text
    | .list entries => entries.flatMap entryItems
    | _ => []
  items.foldl (coerceDomain py) []

/-- `parse_dc_ip_list`; the error is the text of its `ValueError`. -/
def parseDcIp (py : Builtins) (redirects : Dictionary Int String)
    (entry : String) : Except String (Dictionary Int String) :=
  let dc := entry.toList.takeWhile (· ≠ ':')
  match entry.toList.dropWhile (· ≠ ':') with
  | [] =>
      .error ("Invalid --dc-ip format " ++ py.repr entry ++ ", expected DC:IP")
  | _ :: ip =>
      match py.int (String.ofList dc) with
      | none => .error ("Invalid --dc-ip " ++ py.repr entry)
      | some number =>
          if py.inetAton (String.ofList ip) then
            .ok (redirects.insert number (String.ofList ip))
          else .error ("Invalid --dc-ip " ++ py.repr entry)

def parseDcIpList (py : Builtins) (entries : List String) :
    Except String (Dictionary Int String) :=
  entries.foldlM (parseDcIp py) ∅

end TgWsProxy.Python
