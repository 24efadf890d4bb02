import MarketBridge.Decimal.Layout
import MarketBridge.Text.Record

/-!
# `Futures` — parameters and results of a futures backtest
-/

namespace MarketBridge

/-- How a futures backtest is set up. -/
structure BacktestParams where
  initialMargin : Double
  leverage : Double
  contractSize : Double
  makerFeeRate : Double
  takerFeeRate : Double
  maintenanceMarginRate : Double
  deriving DecidableEq

namespace BacktestParams

/-- The parameters with their names, in declaration order. -/
def named (p : BacktestParams) : List (String × Double) :=
  [("initial_margin", p.initialMargin), ("leverage", p.leverage),
    ("contract_size", p.contractSize), ("maker_fee_rate", p.makerFeeRate),
    ("taker_fee_rate", p.takerFeeRate), ("maintenance_margin_rate", p.maintenanceMarginRate)]

/-- The three fee and margin rates with their names. -/
def namedRates (p : BacktestParams) : List (String × Double) :=
  p.named.drop 3

/-- The parameters as diagnostics show them. -/
def describe (p : BacktestParams) : String :=
  Text.record "BacktestParams"
    (p.named.map fun (name, v) => (name, Decimal.Layout.structural.write v))

end BacktestParams

/-- A backtest result as the engine hands it over; the last byte tells whether the position was
liquidated. -/
structure RawResult where
  equity : Double
  profit : Double
  profitRate : Double
  maxDrawdownRate : Double
  liquidated : UInt8
  deriving DecidableEq

/-- The standing of a backtest at some price. -/
structure BacktestResult where
  equity : Double
  profit : Double
  profitRate : Double
  maxDrawdownRate : Double
  liquidated : Bool
  deriving DecidableEq

end MarketBridge
