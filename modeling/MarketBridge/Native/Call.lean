import MarketBridge.Bar
import MarketBridge.Futures
import MarketBridge.Indicator
import MarketBridge.Ring.View
import MarketBridge.Signal

/-!
# `Native.Call` — the operations of an engine and of a backtest

A call carries its arguments exactly as they cross the boundary, and its kind fixes the type of the
answer. What crosses is still undecoded: kind bytes, action tags and ring metadata are the engine's
own.
-/

namespace MarketBridge

/-- The engine's answer to a poll: the slots it filled, from the first on, and the count that it
reports. Slots that it did not fill stay blank. -/
structure Poll where
  written : List RawSignal
  count : UInt64
  deriving DecidableEq

/-- An operation on a live engine. -/
inductive EngineCall
  | addIndicator (spec : IndicatorSpec)
  | addStrategy (name text : String)
  | pushBar (bar : Bar)
  | updateLastBar (bar : Bar)
  | indicatorLast (id : UInt32)
  | len
  | signalsLen
  | pollSignals (slots : UInt64)
  | column (field : Field)
  | timestampColumn
  deriving DecidableEq

/-- What an engine answers to each call. -/
abbrev EngineCall.Answer : EngineCall → Type
  | addIndicator _ => UInt32
  | addStrategy _ _ => UInt32
  | pushBar _ => Unit
  | updateLastBar _ => Unit
  | indicatorLast _ => RawIndicator
  | len => UInt64
  | signalsLen => UInt64
  | pollSignals _ => Poll
  | column _ => Column Double
  | timestampColumn => Column Int64

/-- An operation on a live backtest. -/
inductive BacktestCall
  | applySignal (tag : UInt8) (price margin : Double)
  | onPrice (price : Double)
  | result (price : Double)
  deriving DecidableEq

/-- What a backtest answers to each call. -/
abbrev BacktestCall.Answer : BacktestCall → Type
  | applySignal _ _ _ => Unit
  | onPrice _ => Unit
  | result _ => RawResult

/-- Anything that engine code can be asked to do, making and freeing included. -/
inductive NativeCall
  | engineNew (capacity : UInt64)
  | engineFree
  | engine (call : EngineCall)
  | backtestNew (params : BacktestParams)
  | backtestFree
  | backtest (call : BacktestCall)
  deriving DecidableEq

end MarketBridge
