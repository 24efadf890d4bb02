import MarketBridge.Futures
import MarketBridge.Indicator
import MarketBridge.Path
import MarketBridge.Signal

/-!
# `Error` — why a call failed

Every failure is a cause with the data that belongs to it; `Error.message` is the only place where a
cause becomes a sentence.
-/

namespace MarketBridge

/-- What is wrong with a configuration text that is well formed. -/
inductive ConfigFault
  | malformed
  | unknownKey (key : String) (known : List String)
  | unknownName (name : String) (known : List String)
  | notAPath (found : String)
  | notAName
  deriving DecidableEq

/-- What is wrong with an argument. -/
inductive ParameterFault
  | invalidIndicator (spec : IndicatorSpec)
  | notFinite (name : String) (value : Double)
  | notPositive (name : String) (value : Double)
  | belowOne (name : String) (value : Double)
  | negative (name : String) (value : Double)
  | rejectedIndicator (spec : IndicatorSpec)
  | rejectedStrategy (name : String)
  | rejectedBacktest (params : BacktestParams)
  | unknownBackend (name : String)
  | unknownPolicy (name : String)
  | config (fault : ConfigFault)
  | reported (text : String)
  deriving DecidableEq

/-- Why no engine code could be found. -/
inductive LibraryFault
  | noModule
  | missingSymbol (name : String)
  | unsupportedPlatform (platform : String)
  | unloadable
  | reported (text : String)
  deriving DecidableEq

/-- A failed call. -/
inductive Error
  | allocation (what : String) (capacity : UInt64)
  | precondition (what : String)
  | invalidParameter (fault : ParameterFault)
  | invalidAction (text : String)
  | libraryResolution (path : Option Path) (fault : LibraryFault)
  | decoding (what : String) (tag : UInt64)
  | undecodedSignals (recovered : List Signal) (rejected : Nat) (firstTag : UInt8)
  deriving DecidableEq

/-- Names between backticks, as a choice. -/
def choiceText (names : List String) : String :=
  match names.map fun n => "`" ++ n ++ "`" with
  | [] => ""
  | [a] => a
  | [a, b] => a ++ " or " ++ b
  | more => "one of " ++ ", ".intercalate more

/-- The names of which one was expected. -/
def expectedText (known : List String) : String :=
  if known.isEmpty then "there are no variants" else "expected " ++ choiceText known

/-- A configuration fault in words. -/
def ConfigFault.message : ConfigFault → String
  | malformed => "the text is malformed"
  | unknownKey key known => "unknown field `" ++ key ++ "`, " ++ expectedText known
  | unknownName name known => "unknown variant `" ++ name ++ "`, " ++ expectedText known
  | notAPath found => "invalid type: " ++ found ++ ", expected path string"
  | notAName => "wanted string or table"

/-- A parameter fault in words. -/
def ParameterFault.message : ParameterFault → String
  | invalidIndicator spec => "invalid indicator: " ++ spec.describe
  | notFinite name v => name ++ " must be finite, got " ++ Decimal.Layout.plain.write v
  | notPositive name v => name ++ " must be > 0, got " ++ Decimal.Layout.plain.write v
  | belowOne name v => name ++ " must be >= 1, got " ++ Decimal.Layout.plain.write v
  | negative name v => name ++ " must be >= 0, got " ++ Decimal.Layout.plain.write v
  | rejectedIndicator spec => "engine rejected indicator " ++ spec.describe
  | rejectedStrategy name => "engine rejected strategy `" ++ name ++ "`"
  | rejectedBacktest params => "engine rejected backtest params " ++ params.describe
  | unknownBackend name => "HQUANT_BACKEND: unknown backend `" ++ name ++ "`"
  | unknownPolicy name => "HQUANT_DECODE: unknown decode policy `" ++ name ++ "`"
  | config fault => "bridge config: " ++ fault.message
  | reported text => text

/-- A library fault in words. -/
def LibraryFault.message : LibraryFault → String
  | noModule => "no in-process engine module registered"
  | missingSymbol name => "symbol `" ++ name ++ "` is not exported by the loaded library"
  | unsupportedPlatform platform => "unsupported platform: " ++ platform
  | unloadable => "the file cannot be loaded"
  | reported text => text

/-- The sentence that tells a person what happened. -/
def Error.message : Error → String
  | allocation what capacity =>
    "failed to allocate " ++ what ++ " (capacity=" ++ toString capacity ++ ")"
  | precondition what => what ++ " used after close"
  | invalidParameter fault => "invalid parameter: " ++ fault.message
  | invalidAction text =>
    "invalid action: " ++ Text.quote text ++ " (expected BUY, SELL or HOLD)"
  | libraryResolution _ fault => "cannot resolve native library: " ++ fault.message
  | decoding what tag => "cannot decode " ++ what ++ ": unexpected value " ++ toString tag
  | undecodedSignals recovered rejected firstTag =>
    toString rejected ++ " drained signal(s) had an unknown action tag (first: " ++
      toString firstTag ++ "); " ++ toString recovered.length ++ " recovered"

end MarketBridge
