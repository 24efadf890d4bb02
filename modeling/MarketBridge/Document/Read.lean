import MarketBridge.Bar
import MarketBridge.Config
import MarketBridge.Decimal.Read
import MarketBridge.Document
import MarketBridge.Futures
import MarketBridge.Indicator
import MarketBridge.Signal

/-!
# `Document.Read` — typed values from documents

A structure is read from a mapping of its fields or from the sequence of them. The entries are
examined in the order of their keys, and the first one that does not fit is the answer; only then is
a missing field reported, the first in declaration order. Names of choices are case-sensitive.
Entries that the structure does not have are passed over, except in a configuration, where they are
an error.

## Contents

* plain values and choices: `Document.toInt64`, `Document.toFloat`, `Document.toChoice`
* structures: `Parts`, with the two sources `Parts.ofEntries` and `Parts.ofItems`
* one reader per type: `Bar.ofDocument`, `Signal.ofDocument`, `IndicatorSpec.ofDocument`,
  `BacktestParams.ofDocument`, `Config.ofDocument`
-/

namespace MarketBridge

namespace Document

/-! ## Plain values -/

/-- A whole number from `low` up to but not including `high`; `expected` names the range. -/
def toWhole (low high : Int) (expected : String) : Document → Except Misfit Int
  | integer n => if low ≤ n ∧ n < high then .ok n else .error (.outOfRange n expected)
  | other => .error (.wrongType other expected)

/-- A signed 64-bit number. -/
def toInt64 (d : Document) : Except Misfit Int64 :=
  (d.toWhole Int64.minValue.toInt (Int64.maxValue.toInt + 1) "i64").map Int64.ofInt

/-- A 64-bit word. -/
def toWord (d : Document) : Except Misfit UInt64 :=
  (d.toWhole 0 UInt64.size "usize").map fun n => UInt64.ofNat n.toNat

/-- A 32-bit word. -/
def toWord32 (d : Document) : Except Misfit UInt32 :=
  (d.toWhole 0 UInt32.size "u32").map fun n => UInt32.ofNat n.toNat

/-- A float; of a whole number, the float nearest to it. -/
def toFloat : Document → Except Misfit Double
  | real x => .ok x
  | integer n => .ok (Decimal.nearest (n < 0) n.natAbs 0)
  | other => .error (.wrongType other "f64")

/-! ## Choices -/

/-- The choice with a name. -/
def choiceNamed {α : Type} (named : List (String × α)) (name : String) : Except Misfit α :=
  match named.lookup name with
  | some a => .ok a
  | none => .error (.unknownName name (named.map (·.1)))

/-- A choice: its name, or the mapping from its name to nothing. -/
def toChoice {α : Type} (named : List (String × α)) : Document → Except Misfit α
  | text name => choiceNamed named name
  | mapping [(name, content)] => do
    let a ← choiceNamed named name
    match content with
    | null => return a
    | other => .error (.wrongType other "unit")
  | mapping _ => .error .notSingle
  | other => .error (.wrongType other "string or map")

end Document

/-! ## Structures -/

/-- A field of a structure: its name, and what is wrong with a document for it, if anything. -/
structure FieldForm where
  name : String
  misfit? : Document → Option Misfit

/-- The field with the given name that `read` accepts. -/
def FieldForm.of {α : Type} (name : String) (read : Document → Except Misfit α) : FieldForm where
  name := name
  misfit? := fun d =>
    match read d with
    | .ok _ => none
    | .error m => some m

/-- The documents for the fields of a structure, and the fault of a field that has none. -/
structure Parts where
  entries : List (String × Document)
  absent : String → Misfit

namespace Parts

/-- The first fault among entries. An entry of no field is passed over. -/
def misfit? (fields : List FieldForm) (entries : List (String × Document)) : Option Misfit :=
  entries.findSome? fun (key, d) =>
    (fields.find? fun f => f.name = key).bind fun f => f.misfit? d

/-- The parts that a mapping gives. -/
def ofEntries (fields : List FieldForm) (entries : List (String × Document)) :
    Except Misfit Parts :=
  match misfit? fields entries with
  | some m => .error m
  | none => .ok ⟨entries, .missing⟩

/-- The words for `n` elements. -/
def elementsText (n : Nat) : String :=
  if n = 1 then "1 element" else toString n ++ " elements"

/-- The parts that a sequence gives, in declaration order. A structure with fewer fields than items
refuses it as `surplus` says. -/
def ofItems (title : String) (fields : List FieldForm) (surplus : String)
    (items : List Document) : Except Misfit Parts :=
  let entries := (fields.map (·.name)).zip items
  match misfit? fields entries with
  | some m => .error m
  | none =>
    if fields.length < items.length then .error (.tooLong items.length surplus)
    else .ok
      { entries := entries
        absent := fun _ =>
          .tooShort items.length (title ++ " with " ++ elementsText fields.length) }

/-- The parts that a document gives for the structure called `title`. -/
def ofDocument (title : String) (fields : List FieldForm) : Document → Except Misfit Parts
  | .mapping entries => ofEntries fields entries
  | .sequence items => ofItems title fields "fewer elements in array" items
  | other => .error (.wrongType other title)

/-- The value of a field, or `fallback` when there is no document for it. -/
def getD {α : Type} (p : Parts) (name : String) (read : Document → Except Misfit α)
    (fallback : α) : Except Misfit α :=
  match p.entries.lookup name with
  | some d => read d
  | none => .ok fallback

/-- The value of a field that must be there. -/
def get {α : Type} (p : Parts) (name : String) (read : Document → Except Misfit α) :
    Except Misfit α :=
  match p.entries.lookup name with
  | some d => read d
  | none => .error (p.absent name)

end Parts

/-! ## Values of the library -/

/-- A field by its name. -/
def Field.ofDocument (d : Document) : Except Misfit Field :=
  d.toChoice (Field.all.map fun f => (f.name, f))

/-- An action by its name. -/
def Action.ofDocument (d : Document) : Except Misfit Action :=
  d.toChoice (Action.all.map fun a => (a.name, a))

/-- The fields of a bar. -/
def Bar.fieldForms : List FieldForm :=
  .of "timestamp" Document.toInt64 :: Field.all.map fun f => .of f.name Document.toFloat

/-- A bar; the buy volume may be left out and is then `0`. -/
def Bar.ofDocument (d : Document) : Except Misfit Bar := do
  let parts ← Parts.ofDocument "struct Bar" fieldForms d
  let timestamp ← parts.get "timestamp" Document.toInt64
  let opening ← parts.get "open" Document.toFloat
  let high ← parts.get "high" Document.toFloat
  let low ← parts.get "low" Document.toFloat
  let close ← parts.get "close" Document.toFloat
  let volume ← parts.get "volume" Document.toFloat
  let buyVolume ← parts.getD "buy_volume" Document.toFloat 0.0
  return ⟨timestamp, opening, high, low, close, volume, buyVolume⟩

/-- The fields of a signal. -/
def Signal.fieldForms : List FieldForm :=
  [.of "strategy_id" Document.toWord32, .of "action" Action.ofDocument,
    .of "timestamp" Document.toInt64]

/-- A signal. -/
def Signal.ofDocument (d : Document) : Except Misfit Signal := do
  let parts ← Parts.ofDocument "struct Signal" fieldForms d
  let strategy ← parts.get "strategy_id" Document.toWord32
  let action ← parts.get "action" Action.ofDocument
  let timestamp ← parts.get "timestamp" Document.toInt64
  return ⟨strategy, action, timestamp⟩

/-- The fields of backtest parameters. -/
def BacktestParams.fieldForms : List FieldForm :=
  ["initial_margin", "leverage", "contract_size", "maker_fee_rate", "taker_fee_rate",
    "maintenance_margin_rate"].map fun name => .of name Document.toFloat

/-- Backtest parameters. -/
def BacktestParams.ofDocument (d : Document) : Except Misfit BacktestParams := do
  let parts ← Parts.ofDocument "struct BacktestParams" fieldForms d
  let initialMargin ← parts.get "initial_margin" Document.toFloat
  let leverage ← parts.get "leverage" Document.toFloat
  let contractSize ← parts.get "contract_size" Document.toFloat
  let makerFeeRate ← parts.get "maker_fee_rate" Document.toFloat
  let takerFeeRate ← parts.get "taker_fee_rate" Document.toFloat
  let maintenanceMarginRate ← parts.get "maintenance_margin_rate" Document.toFloat
  return ⟨initialMargin, leverage, contractSize, makerFeeRate, takerFeeRate,
    maintenanceMarginRate⟩

/-! ## Indicator specifications

The family of the indicator stands in the entry `type`, or first in a sequence. It is read before
all else, whatever its place among the entries.
-/

namespace IndicatorSpec

/-- The families of indicators. -/
inductive Family
  | rsi
  | sma
  | ema
  | stdDev
  | boll
  | macd
  deriving DecidableEq, Repr

namespace Family

/-- The families with the names that documents use. -/
def named : List (String × Family) :=
  [("rsi", rsi), ("sma", sma), ("ema", ema), ("std_dev", stdDev), ("boll", boll), ("macd", macd)]

/-- The family as errors show it. -/
def title : Family → String
  | rsi => "struct variant IndicatorSpec::Rsi"
  | sma => "struct variant IndicatorSpec::Sma"
  | ema => "struct variant IndicatorSpec::Ema"
  | stdDev => "struct variant IndicatorSpec::StdDev"
  | boll => "struct variant IndicatorSpec::Boll"
  | macd => "struct variant IndicatorSpec::Macd"

/-- The fields of an indicator of the family. -/
def fieldForms : Family → List FieldForm
  | rsi | sma | ema | stdDev => [.of "period" Document.toWord]
  | boll => [.of "period" Document.toWord, .of "k" Document.toFloat]
  | macd =>
    [.of "fast" Document.toWord, .of "slow" Document.toWord, .of "signal" Document.toWord]

/-- The family that a document names. -/
def ofDocument : Document → Except Misfit Family
  | .text name => Document.choiceNamed named name
  | other => .error (.wrongType other "variant identifier")

end Family

/-- The family of the specification and the documents for its fields. -/
def familyAndParts : Document → Except Misfit (Family × Parts)
  | .mapping entries =>
    match entries.lookup "type" with
    | none => .error (.missing "type")
    | some tag => do
      let family ← Family.ofDocument tag
      let parts ← Parts.ofEntries family.fieldForms entries
      return (family, parts)
  | .sequence [] => .error (.missing "type")
  | .sequence (tag :: items) => do
    let family ← Family.ofDocument tag
    let surplus := Parts.elementsText family.fieldForms.length ++ " in sequence"
    let parts ← Parts.ofItems family.title family.fieldForms surplus items
    return (family, parts)
  | other => .error (.wrongType other "internally tagged enum IndicatorSpec")

/-- An indicator specification. -/
def ofDocument (d : Document) : Except Misfit IndicatorSpec := do
  let (family, parts) ← familyAndParts d
  match family with
  | .rsi => return .rsi (← parts.get "period" Document.toWord)
  | .sma => return .sma (← parts.get "period" Document.toWord)
  | .ema => return .ema (← parts.get "period" Document.toWord)
  | .stdDev => return .stdDev (← parts.get "period" Document.toWord)
  | .boll =>
    let period ← parts.get "period" Document.toWord
    let k ← parts.get "k" Document.toFloat
    return .boll period k
  | .macd =>
    let fast ← parts.get "fast" Document.toWord
    let slow ← parts.get "slow" Document.toWord
    let signal ← parts.get "signal" Document.toWord
    return .macd fast slow signal

end IndicatorSpec

/-! ## Configurations -/

/-- A backend preference by its name. -/
def BackendPreference.ofDocument (d : Document) : Except Misfit BackendPreference :=
  d.toChoice named

/-- A decoding policy by its name. -/
def DecodePolicy.ofDocument (d : Document) : Except Misfit DecodePolicy :=
  d.toChoice named

namespace Config

/-- A library path that may be left open. -/
def pathOfDocument : Document → Except Misfit (Option Path)
  | .null => .ok none
  | .text path => .ok (some (.ofText path))
  | other => .error (.wrongType other "path string")

/-- The fields of a configuration. -/
def fieldForms : List FieldForm :=
  [.of "lib-path" pathOfDocument, .of "backend" BackendPreference.ofDocument,
    .of "decode" DecodePolicy.ofDocument]

/-- The fields of a configuration, and an entry of no field, which nothing fits. -/
def strictForms (entries : List (String × Document)) : List FieldForm :=
  fieldForms ++ entries.map fun (key, _) => ⟨key, fun _ => some (.unknownField key settingNames)⟩

/-- The documents for the fields of a configuration. -/
def parts : Document → Except Misfit Parts
  | .mapping entries => Parts.ofEntries (strictForms entries) entries
  | other => Parts.ofDocument "struct BridgeConfig" fieldForms other

/-- A configuration; what is left out is as in the default one. -/
def ofDocument (d : Document) : Except Misfit Config := do
  let parts ← parts d
  let libPath ← parts.getD "lib-path" pathOfDocument default.libPath
  let backend ← parts.getD "backend" BackendPreference.ofDocument default.backend
  let decode ← parts.getD "decode" DecodePolicy.ofDocument default.decode
  return ⟨libPath, backend, decode⟩

end Config

end MarketBridge
