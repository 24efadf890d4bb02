import MarketBridge.Backend
import MarketBridge.Validation

/-!
# `Backtest` — the owner of one native futures backtest

The margin, profit and liquidation arithmetic is the engine's; here parameters and actions are
checked, results are decoded, and the native backtest is freed exactly once.
-/

namespace MarketBridge

/-- An owned backtest. `link` is there while it is open. -/
structure Backtest (ε β : Type) where
  link : Option (BacktestLink ε β)
  kind : BackendKind
  params : BacktestParams

namespace Backtest

variable {ε β : Type}

/-! ## Making and closing -/

/-- Makes a backtest with valid parameters. -/
def create (bridge : Bridge ε β) (params : BacktestParams) :
    Op Unit (Except Error (Backtest ε β)) :=
  match params.validate with
  | .error e => return .error e
  | .ok () => do
    match ← bridge.backend.createBacktest params with
    | .error e => return .error e
    | .ok link =>
      Op.log (.backtestCreated bridge.backend.kind params)
      return .ok ⟨some link, bridge.backend.kind, params⟩

/-- Whether the backtest has been closed. -/
def isClosed (b : Backtest ε β) : Bool :=
  b.link.isNone

/-- Frees the native backtest unless that has been done. -/
def close : Op (Backtest ε β) Unit :=
  fun b =>
    match b.link with
    | some link =>
      ⟨(), { b with link := none }, link.drop ++ [.log (.backtestClosed b.kind)]⟩
    | none => ⟨(), b, []⟩

/-- What dropping the backtest leaves in the journal. -/
def drop (b : Backtest ε β) : List Event :=
  match b.link with
  | some link => link.drop
  | none => []

/-- The backtest as diagnostics show it. -/
def describe (b : Backtest ε β) : String :=
  Text.record "FuturesBacktest"
    [("backend", b.kind.describe), ("params", b.params.describe),
      ("closed", toString b.isClosed)]

/-! ## Calls -/

/-- Sends a call to the native backtest if it is open. -/
def invoke (c : BacktestCall) : Op (Backtest ε β) (Except Error c.Answer) :=
  fun b =>
    match b.link with
    | none => ⟨.error (.precondition backtestLabel), b, []⟩
    | some link =>
      let o := BacktestLink.call c link
      ⟨o.answer, { b with link := some o.state }, o.events⟩

/-- Acts on a signal. A buy closes any short position and opens or extends a long one, a sell does
the reverse, and a hold only revalues. -/
def apply (action : Action) (price margin : Double) : Op (Backtest ε β) (Except Error Unit) :=
  invoke (.applySignal action.tag price margin)

/-- Acts on a signal given by its name. -/
def applySignal (text : String) (price margin : Double) :
    Op (Backtest ε β) (Except Error Unit) :=
  match Action.parse text with
  | .error e => return .error e
  | .ok action => apply action price margin

/-- Revalues the position at a price. -/
def onPrice (price : Double) : Op (Backtest ε β) (Except Error Unit) :=
  invoke (.onPrice price)

/-- The standing at a price. -/
def result (price : Double) : Op (Backtest ε β) (Except Error BacktestResult) := do
  let answer ← invoke (.result price)
  return answer.bind BacktestResult.ofRaw

end Backtest

end MarketBridge
