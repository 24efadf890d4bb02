import MarketBridge.Backend

/-!
# `Backend` — what crosses when something is made or called

Making an engine enters the constructor once and links what it returns; a null pointer is a failed
allocation for engines and a refusal of the parameters for backtests. A link through a table holds
the pointer as a handle that was acquired and not released (`TableBackend.engineLink`,
`TableBackend.backtestLink`), so its calls all reach the table.
-/

namespace MarketBridge

variable {ε β : Type}

/-- The link through the table to an engine in state `s`. -/
def TableBackend.engineLink (b : TableBackend ε β) (s : ε) : EngineLink ε β :=
  .table b ⟨engineLabel, fun _ => [.native b.code.site .engineFree], some s⟩

/-- The link through the table to a backtest in state `s`. -/
def TableBackend.backtestLink (b : TableBackend ε β) (s : β) : BacktestLink ε β :=
  .table b ⟨backtestLabel, fun _ => [.native b.code.site .backtestFree], some s⟩

namespace Backend

/-! ## Making -/

theorem createEngine_table (b : TableBackend ε β) (capacity : UInt64) :
    createEngine capacity (.table b) () =
      match b.code.newEngine capacity with
      | none => ⟨.error (.allocation engineLabel capacity), (),
          [.native b.code.site (.engineNew capacity)]⟩
      | some s => ⟨.ok (b.engineLink s), (),
          [.native b.code.site (.engineNew capacity), .log (.handleAcquired engineLabel)]⟩ := by
  have hmake : b.code.makeEngine capacity () =
      ⟨b.code.newEngine capacity, (), [.native b.code.site (.engineNew capacity)]⟩ := rfl
  rw [createEngine, Op.bind_apply, hmake]
  cases b.code.newEngine capacity with
  | none => rfl
  | some s => rfl

theorem createEngine_inProcess (m : EngineModule ε β) (capacity : UInt64) :
    createEngine capacity (.inProcess m) () =
      match m.newEngine capacity with
      | none => ⟨.error (.allocation engineLabel capacity), (),
          [.native m.site (.engineNew capacity)]⟩
      | some s => ⟨.ok (.inProcess m s), (), [.native m.site (.engineNew capacity)]⟩ := by
  have hmake : m.makeEngine capacity () =
      ⟨m.newEngine capacity, (), [.native m.site (.engineNew capacity)]⟩ := rfl
  rw [createEngine, Op.bind_apply, hmake]
  cases m.newEngine capacity with
  | none => rfl
  | some s => rfl

theorem createBacktest_table (b : TableBackend ε β) (params : BacktestParams) :
    createBacktest params (.table b) () =
      match b.code.newBacktest params with
      | none => ⟨.error (.invalidParameter (.rejectedBacktest params)), (),
          [.native b.code.site (.backtestNew params)]⟩
      | some s => ⟨.ok (b.backtestLink s), (),
          [.native b.code.site (.backtestNew params), .log (.handleAcquired backtestLabel)]⟩ := by
  have hmake : b.code.makeBacktest params () =
      ⟨b.code.newBacktest params, (), [.native b.code.site (.backtestNew params)]⟩ := rfl
  rw [createBacktest, Op.bind_apply, hmake]
  cases b.code.newBacktest params with
  | none => rfl
  | some s => rfl

theorem createBacktest_inProcess (m : EngineModule ε β) (params : BacktestParams) :
    createBacktest params (.inProcess m) () =
      match m.newBacktest params with
      | none => ⟨.error (.invalidParameter (.rejectedBacktest params)), (),
          [.native m.site (.backtestNew params)]⟩
      | some s => ⟨.ok (.inProcess m s), (), [.native m.site (.backtestNew params)]⟩ := by
  have hmake : m.makeBacktest params () =
      ⟨m.newBacktest params, (), [.native m.site (.backtestNew params)]⟩ := rfl
  rw [createBacktest, Op.bind_apply, hmake]
  cases m.newBacktest params with
  | none => rfl
  | some s => rfl

end Backend

/-! ## Calling -/

namespace TableBackend

variable {σ α : Type} {b : TableBackend ε β} {y : OptionalSymbol}

/-- A symbol that is there makes no difference. -/
theorem needing_of_has (h : b.table.has y = true) (op : Op σ (Except Error α)) :
    b.needing (some y) op = op :=
  if_pos h

/-- A symbol that is not there fails the call before the library is entered. -/
theorem needing_of_lacks (h : ¬ b.table.has y = true) (op : Op σ (Except Error α)) :
    b.needing (some y) op = pure (.error (missing y)) :=
  if_neg h

end TableBackend

theorem EngineLink.call_engineLink (b : TableBackend ε β) (c : EngineCall) (s : ε) :
    EngineLink.call c (b.engineLink s) =
      ⟨(b.engineCall c s).answer, b.engineLink (b.engineCall c s).state,
        (b.engineCall c s).events⟩ := rfl

theorem EngineLink.call_inProcess (m : EngineModule ε β) (c : EngineCall) (s : ε) :
    EngineLink.call c (.inProcess m s) =
      ⟨(m.callEngine c s).answer, .inProcess m (m.callEngine c s).state,
        (m.callEngine c s).events⟩ := rfl

theorem BacktestLink.call_backtestLink (b : TableBackend ε β) (c : BacktestCall) (s : β) :
    BacktestLink.call c (b.backtestLink s) =
      ⟨(b.backtestCall c s).answer, b.backtestLink (b.backtestCall c s).state,
        (b.backtestCall c s).events⟩ := rfl

theorem BacktestLink.call_inProcess (m : EngineModule ε β) (c : BacktestCall) (s : β) :
    BacktestLink.call c (.inProcess m s) =
      ⟨(m.callBacktest c s).answer, .inProcess m (m.callBacktest c s).state,
        (m.callBacktest c s).events⟩ := rfl

end MarketBridge
