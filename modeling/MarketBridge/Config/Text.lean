import MarketBridge.Config
import MarketBridge.Toml.Read

/-!
# `Config.Text` — configurations from TOML texts

A configuration text may set `lib-path`, `backend` and `decode`, and nothing else; what it leaves
out is as in the default configuration. Its entries are examined in the order of the text, and the
first fault is the answer.
-/

namespace MarketBridge

/-- What a value is called where a path was expected. -/
def Toml.Value.describe : Toml.Value → String
  | text value => "string " ++ Text.quote value
  | integer value => "integer `" ++ toString value ++ "`"
  | real value => "floating point `" ++ Decimal.Layout.pointed.write value ++ "`"
  | boolean value => "boolean `" ++ toString value ++ "`"
  | moment _ | table _ _ => "map"
  | array _ | tables _ => "sequence"

/-- Whether the value is a table or a list without entries. -/
def Toml.Value.isVoid : Toml.Value → Bool
  | table _ entries => entries.isEmpty
  | array items => items.isEmpty
  | tables elements => elements.isEmpty
  | _ => false

namespace Config

/-- The choice with a name. -/
def choiceNamed {α : Type} (named : List (String × α)) (name : String) : Except ConfigFault α :=
  match named.lookup name with
  | some a => .ok a
  | none => .error (.unknownName name (named.map (·.1)))

/-- A choice: its name, or the table whose only entry has that name and nothing in it. -/
def readChoice {α : Type} (named : List (String × α)) : Toml.Value → Except ConfigFault α
  | .text name => choiceNamed named name
  | .table _ [(name, content)] => do
    let a ← choiceNamed named name
    if content.isVoid then return a else .error .notAName
  | _ => .error .notAName

/-- A path. -/
def readPath : Toml.Value → Except ConfigFault Path
  | .text path => .ok (.ofText path)
  | other => .error (.notAPath other.describe)

/-- The configuration with one more setting. -/
def applySetting (config : Config) (key : String) (value : Toml.Value) :
    Except ConfigFault Config :=
  match key with
  | "lib-path" => (readPath value).map fun p => { config with libPath := some p }
  | "backend" => (readChoice BackendPreference.named value).map fun b =>
      { config with backend := b }
  | "decode" => (readChoice DecodePolicy.named value).map fun d => { config with decode := d }
  | other => .error (.unknownKey other settingNames)

/-- The configuration that a root table describes. -/
def ofEntries (entries : Toml.Entries) : Except ConfigFault Config :=
  entries.foldlM (fun config (key, value) => config.applySetting key value) default

/-- The configuration that a text describes. -/
def ofText (text : String) : Except Error Config :=
  match Toml.read? text with
  | none => .error (.invalidParameter (.config .malformed))
  | some entries =>
    match ofEntries entries with
    | .ok config => .ok config
    | .error fault => .error (.invalidParameter (.config fault))

end Config

end MarketBridge
