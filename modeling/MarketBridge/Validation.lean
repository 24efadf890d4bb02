import MarketBridge.Error
import MarketBridge.Text.Blank

/-!
# `Validation` — checks made before the engine is touched, and on what it answers

Arguments that the engine would abort on are refused here; bytes that the engine answers become
typed values or an error naming the byte.
-/

namespace MarketBridge

/-! ## Arguments -/

/-- Refuses an indicator with a zero period or an infinite band. -/
def IndicatorSpec.validate (spec : IndicatorSpec) : Except Error Unit :=
  if spec.isValid then .ok () else .error (.invalidParameter (.invalidIndicator spec))

namespace BacktestParams

/-- The first reason to refuse the parameters, if any. Infinite and undefined values come first, in
declaration order; then the margin, the leverage, the contract size and the rates. -/
def fault? (p : BacktestParams) : Option ParameterFault :=
  match p.named.find? fun (_, v) => !v.isFinite with
  | some (name, v) => some (.notFinite name v)
  | none =>
    if p.initialMargin ≤ 0.0 then some (.notPositive "initial_margin" p.initialMargin)
    else if p.leverage < 1.0 then some (.belowOne "leverage" p.leverage)
    else if p.contractSize ≤ 0.0 then some (.notPositive "contract_size" p.contractSize)
    else (p.namedRates.find? fun (_, v) => v < 0.0).map fun (name, v) => .negative name v

/-- Refuses parameters that the engine would abort on. -/
def validate (p : BacktestParams) : Except Error Unit :=
  match p.fault? with
  | some fault => .error (.invalidParameter fault)
  | none => .ok ()

end BacktestParams

/-- The action that a word names, in any mixture of small and capital letters. -/
def Action.parse (text : String) : Except Error Action :=
  match Action.all.find? fun a => a.name.toList == Text.upperAscii text.toList with
  | some a => .ok a
  | none => .error (.invalidAction text)

/-! ## Answers -/

/-- Decodes the kind byte of an indicator value. -/
def Indicator.ofRaw (raw : RawIndicator) : Except Error Indicator :=
  if raw.kind = scalarKind then .ok (.scalar raw.a)
  else if raw.kind = tripleKind then .ok (.triple raw.a raw.b raw.c)
  else .error (.decoding "indicator value kind" raw.kind.toUInt64)

/-- Decodes the liquidation byte of a backtest result. -/
def BacktestResult.ofRaw (raw : RawResult) : Except Error BacktestResult :=
  if raw.liquidated = 0 then
    .ok ⟨raw.equity, raw.profit, raw.profitRate, raw.maxDrawdownRate, false⟩
  else if raw.liquidated = 1 then
    .ok ⟨raw.equity, raw.profit, raw.profitRate, raw.maxDrawdownRate, true⟩
  else .error (.decoding "backtest liquidated flag" raw.liquidated.toUInt64)

end MarketBridge
