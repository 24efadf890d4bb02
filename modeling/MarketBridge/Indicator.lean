import MarketBridge.Decimal.Layout
import MarketBridge.Text.Record

/-!
# `Indicator` — indicators over the close column

An `IndicatorSpec` says what to compute, a `RawIndicator` is what the engine answers, with a byte
that tells how many of its three slots count, and an `Indicator` is the decoded value.
-/

namespace MarketBridge

/-- An indicator that the engine can be asked to keep. -/
inductive IndicatorSpec
  | rsi (period : UInt64)
  | sma (period : UInt64)
  | ema (period : UInt64)
  | stdDev (period : UInt64)
  | boll (period : UInt64) (k : Double)
  | macd (fast slow signal : UInt64)
  deriving DecidableEq

namespace IndicatorSpec

/-- Whether the engine can compute the indicator: no period is zero and the band width is finite. -/
def isValid : IndicatorSpec → Bool
  | rsi period | sma period | ema period | stdDev period => 0 < period
  | boll period k => 0 < period && k.isFinite
  | macd fast slow signal => 0 < fast && 0 < slow && 0 < signal

/-- The indicator as diagnostics show it. -/
def describe : IndicatorSpec → String
  | rsi period => Text.record "Rsi" [("period", toString period)]
  | sma period => Text.record "Sma" [("period", toString period)]
  | ema period => Text.record "Ema" [("period", toString period)]
  | stdDev period => Text.record "StdDev" [("period", toString period)]
  | boll period k =>
    Text.record "Boll" [("period", toString period), ("k", Decimal.Layout.structural.write k)]
  | macd fast slow signal =>
    Text.record "Macd"
      [("fast", toString fast), ("slow", toString slow), ("signal", toString signal)]

end IndicatorSpec

/-- An indicator value as the engine hands it over. -/
structure RawIndicator where
  kind : UInt8
  a : Double
  b : Double
  c : Double
  deriving DecidableEq

/-- The kind byte of a value with one slot. -/
def scalarKind : UInt8 := 1

/-- The kind byte of a value with three slots. -/
def tripleKind : UInt8 := 2

/-- The latest value of an indicator. -/
inductive Indicator
  | scalar (value : Double)
  | triple (a b c : Double)
  deriving DecidableEq

/-- The first slot of the value. -/
def Indicator.primary : Indicator → Double
  | scalar value => value
  | triple a _ _ => a

end MarketBridge
