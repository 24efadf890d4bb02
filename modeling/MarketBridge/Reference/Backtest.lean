import MarketBridge.Native.Call

/-!
# `Reference.Backtest` — a futures backtest with one position

Acting on a buy or a sell closes what is open at the price and opens the other side with the margin
times the leverage, for a fee. Whenever the equity at a price is not positive, everything is lost.
-/

namespace MarketBridge.Reference

/-- The state of a backtest. -/
structure Backtest where
  params : BacktestParams
  cash : Double
  quantity : Double
  entry : Double
  liquidated : Bool
  deriving DecidableEq

namespace Backtest

/-- A backtest without a position, if the maintenance rate is acceptable. -/
def new? (params : BacktestParams) : Option Backtest :=
  if 1.0 < params.maintenanceMarginRate then none
  else some ⟨params, params.initialMargin, 0.0, 0.0, false⟩

/-- The cash together with what the position has gained since its entry. -/
def equity (b : Backtest) (price : Double) : Double :=
  b.cash + b.quantity * (price - b.entry)

/-- Revalues the position. -/
def onPrice (b : Backtest) (price : Double) : Backtest :=
  if b.equity price ≤ 0.0 then { b with liquidated := true, quantity := 0.0, cash := 0.0 } else b

/-- Closes what is open and opens a position in the direction of `sign`. -/
def trade (b : Backtest) (sign price margin : Double) : Backtest :=
  let notional := margin * b.params.leverage
  { b with
    cash := b.equity price - notional * b.params.takerFeeRate
    quantity := sign * notional / price * b.params.contractSize
    entry := price }

/-- Acts on a signal. -/
def apply (b : Backtest) (tag : UInt8) (price margin : Double) : Backtest :=
  let traded :=
    if tag = 1 then b.trade 1.0 price margin
    else if tag = 2 then b.trade (-1.0) price margin
    else b
  traded.onPrice price

/-- The standing at a price. -/
def result (b : Backtest) (price : Double) : RawResult :=
  let equity := b.equity price
  let profit := equity - b.params.initialMargin
  ⟨equity, profit, profit / b.params.initialMargin, 0.0, if b.liquidated then 1 else 0⟩

/-- Answers a call. -/
def answer : (call : BacktestCall) → Backtest → call.Answer × Backtest
  | .applySignal tag price margin, b => ((), b.apply tag price margin)
  | .onPrice price, b => ((), b.onPrice price)
  | .result price, b => (b.result price, b)

end Backtest

end MarketBridge.Reference
