import MarketBridge.Error
import MarketBridge.Text.Blank

/-!
# `Config` — which engine code to use, and how strictly to decode

A configuration is a library path, a preference between the two kinds of backend, and a decoding
policy. It comes from the environment, from a text, or is put together by the caller. The path of
the library is the first of three that is given: the configured one, the one in the environment,
and the name under which the library is built on the platform.
-/

namespace MarketBridge

/-! ## Names of choices -/

/-- Which kind of backend to use; `auto` tries the module first and then the library. -/
inductive BackendPreference
  | auto
  | inProcess
  | dylib
  deriving DecidableEq, Repr

namespace BackendPreference

/-- The preference as diagnostics show it. -/
def describe : BackendPreference → String
  | auto => "Auto"
  | inProcess => "InProcess"
  | dylib => "Dylib"

/-- The preferences with the names that configuration texts use. -/
def named : List (String × BackendPreference) :=
  [("auto", auto), ("in-process", inProcess), ("dylib", dylib)]

/-- The preferences with all the names that the environment may use, the empty one included. -/
def spellings : List (String × BackendPreference) :=
  [("", auto), ("auto", auto), ("in-process", inProcess), ("in_process", inProcess),
    ("inprocess", inProcess), ("dylib", dylib), ("abi", dylib)]

end BackendPreference

namespace DecodePolicy

/-- The policies with the names that configuration texts use. -/
def named : List (String × DecodePolicy) :=
  [("strict", strict), ("lenient", lenient)]

/-- The policies with all the names that the environment may use, the empty one included. -/
def spellings : List (String × DecodePolicy) :=
  [("", strict), ("strict", strict), ("lenient", lenient)]

end DecodePolicy

/-- A setting as it is compared with names: without surrounding blanks and in small letters. -/
def normalized (text : String) : String :=
  String.ofList (Text.lowerAscii (Text.trim text.toList))

/-- The preference that a setting spells. -/
def BackendPreference.parse (text : String) : Except Error BackendPreference :=
  match spellings.lookup (normalized text) with
  | some p => .ok p
  | none => .error (.invalidParameter (.unknownBackend (normalized text)))

/-- The policy that a setting spells. -/
def DecodePolicy.parse (text : String) : Except Error DecodePolicy :=
  match spellings.lookup (normalized text) with
  | some p => .ok p
  | none => .error (.invalidParameter (.unknownPolicy (normalized text)))

/-! ## The environment -/

/-- The environment variable with the path of the library. -/
def libraryVariable : String := "HQUANT_RS_LIB"

/-- The environment variable with the backend preference. -/
def backendVariable : String := "HQUANT_BACKEND"

/-- The environment variable with the decoding policy. -/
def decodeVariable : String := "HQUANT_DECODE"

/-- The platform, and the three environment variables as far as they are set. -/
structure Environment where
  platform : String
  library : Option Path
  backend : Option Path
  decode : Option Path
  deriving DecidableEq

/-- No variable is set. -/
def Environment.unset (platform : String) : Environment :=
  ⟨platform, none, none, none⟩

/-- The path in the library variable; an empty one counts as unset. -/
def Environment.libraryPath? (env : Environment) : Option Path :=
  env.library.filter fun p => !p.isEmpty

/-- The file name under which the library is built on a platform. -/
def libraryNameFor (platform : String) : Except Error String :=
  match platform with
  | "linux" => .ok "libhquant_rs.so"
  | "macos" => .ok "libhquant_rs.dylib"
  | "windows" => .ok "hquant_rs.dll"
  | other => .error (.libraryResolution none (.unsupportedPlatform other))

/-- The first path that is given: `explicit`, the library variable, the platform's file name. -/
def Environment.resolveLibraryPath (env : Environment) (explicit : Option Path) :
    Except Error Path :=
  match explicit.filter fun p => !p.isEmpty with
  | some p => .ok p
  | none =>
    match env.libraryPath? with
    | some p => .ok p
    | none => (libraryNameFor env.platform).map Path.ofText

/-! ## Configurations -/

/-- A configuration. -/
structure Config where
  libPath : Option Path
  backend : BackendPreference
  decode : DecodePolicy
  deriving DecidableEq

namespace Config

/-- The names of the settings in texts and documents. -/
def settingNames : List String :=
  ["lib-path", "backend", "decode"]

/-- No path, either backend, strict decoding. -/
def default : Config := ⟨none, .auto, .strict⟩

/-- A setting read by `parse`; one that is unset, or is no text, leaves the `fallback`. -/
def readSetting {α : Type} (value : Option Path) (fallback : α)
    (parse : String → Except Error α) : Except Error α :=
  match value.bind Path.text? with
  | some text => parse text
  | none => .ok fallback

/-- The configuration that the environment describes. -/
def ofEnvironment (env : Environment) : Except Error Config := do
  let backend ← readSetting env.backend default.backend BackendPreference.parse
  let decode ← readSetting env.decode default.decode DecodePolicy.parse
  return ⟨env.libraryPath?, backend, decode⟩

/-- The path of the library that this configuration would load. -/
def libraryPath (config : Config) (env : Environment) : Except Error Path :=
  env.resolveLibraryPath config.libPath

/-- The configuration as diagnostics show it. -/
def describe (config : Config) : String :=
  Text.record "BridgeConfig"
    [("lib_path", Text.optional (config.libPath.map Path.quoted)),
      ("backend", config.backend.describe), ("decode", config.decode.describe)]

end Config

end MarketBridge
