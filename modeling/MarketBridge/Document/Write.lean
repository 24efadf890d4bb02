import MarketBridge.Bar
import MarketBridge.Document
import MarketBridge.Futures
import MarketBridge.Indicator
import MarketBridge.Signal

/-!
# `Document.Write` — typed values as documents

Structures become mappings of their fields, choices become their names, and an indicator carries the
name of its sort in the entry `type` or `kind`. A float that is not finite becomes `null`.
-/

namespace MarketBridge

/-- A float as a document. -/
def Document.ofFloat (x : Double) : Document :=
  if x.isFinite then .real x else .null

/-- A 64-bit word as a document. -/
def Document.ofWord (n : UInt64) : Document :=
  .integer n.toNat

/-- The document of a field. -/
def Field.toDocument (f : Field) : Document :=
  .text f.name

/-- The document of an action. -/
def Action.toDocument (a : Action) : Document :=
  .text a.name

/-- The document of a bar. -/
def Bar.toDocument (b : Bar) : Document :=
  .mapping
    [("buy_volume", .ofFloat b.buyVolume), ("close", .ofFloat b.close), ("high", .ofFloat b.high),
      ("low", .ofFloat b.low), ("open", .ofFloat b.opening),
      ("timestamp", .integer b.timestamp.toInt), ("volume", .ofFloat b.volume)]

/-- The document of a signal. -/
def Signal.toDocument (s : Signal) : Document :=
  .mapping
    [("action", s.action.toDocument), ("strategy_id", .integer s.strategy.toNat),
      ("timestamp", .integer s.timestamp.toInt)]

/-- The document of an indicator specification. -/
def IndicatorSpec.toDocument : IndicatorSpec → Document
  | rsi period => .mapping [("period", .ofWord period), ("type", .text "rsi")]
  | sma period => .mapping [("period", .ofWord period), ("type", .text "sma")]
  | ema period => .mapping [("period", .ofWord period), ("type", .text "ema")]
  | stdDev period => .mapping [("period", .ofWord period), ("type", .text "std_dev")]
  | boll period k =>
    .mapping [("k", .ofFloat k), ("period", .ofWord period), ("type", .text "boll")]
  | macd fast slow signal =>
    .mapping
      [("fast", .ofWord fast), ("signal", .ofWord signal), ("slow", .ofWord slow),
        ("type", .text "macd")]

/-- The document of an indicator value. -/
def Indicator.toDocument : Indicator → Document
  | scalar value => .mapping [("kind", .text "scalar"), ("value", .ofFloat value)]
  | triple a b c =>
    .mapping
      [("a", .ofFloat a), ("b", .ofFloat b), ("c", .ofFloat c), ("kind", .text "triple")]

/-- The document of backtest parameters. -/
def BacktestParams.toDocument (p : BacktestParams) : Document :=
  .mapping
    [("contract_size", .ofFloat p.contractSize), ("initial_margin", .ofFloat p.initialMargin),
      ("leverage", .ofFloat p.leverage),
      ("maintenance_margin_rate", .ofFloat p.maintenanceMarginRate),
      ("maker_fee_rate", .ofFloat p.makerFeeRate), ("taker_fee_rate", .ofFloat p.takerFeeRate)]

/-- The document of a backtest result. -/
def BacktestResult.toDocument (r : BacktestResult) : Document :=
  .mapping
    [("equity", .ofFloat r.equity), ("liquidated", .boolean r.liquidated),
      ("max_drawdown_rate", .ofFloat r.maxDrawdownRate), ("profit", .ofFloat r.profit),
      ("profit_rate", .ofFloat r.profitRate)]

end MarketBridge
