import MarketBridge.Proofs.Boundary
import MarketBridge.Session.Step

/-!
# `Resolution` — where errors about resolving a library come from

A call through a table fails to resolve the library only if it needs a symbol that the library lacks
(`TableBackend.engineCall_resolves`). No check of an argument and no decoding of an answer gives
such an error, and neither does making an engine or a backtest behind a table.
-/

namespace MarketBridge

variable {ε β α γ : Type}

/-- Whether the error is about resolving a library or a symbol of it. -/
def Error.isResolution : Error → Bool
  | .libraryResolution _ _ => true
  | _ => false

/-- The error that the answer reports. -/
def Answer.error? : Answer → Option Error
  | .failed e => some e
  | .drained (.error e) _ => some e
  | _ => none

/-- Whether the answer reports that a library or a symbol of it could not be resolved. -/
def Answer.isResolution (a : Answer) : Bool :=
  a.error?.any Error.isResolution

/-- The answer is no error about resolving a library. -/
def Resolves (x : Except Error α) : Prop :=
  ∀ e, x = .error e → e.isResolution = false

namespace Resolves

theorem ok (a : α) : Resolves (.ok a) := nofun

theorem error {e : Error} (h : e.isResolution = false) : Resolves (.error e : Except Error α) := by
  rintro _ ⟨⟩
  exact h

theorem bind {x : Except Error α} {f : α → Except Error γ} (hx : Resolves x)
    (hf : ∀ a, Resolves (f a)) : Resolves (x.bind f) := by
  cases x with
  | error e => exact error (hx e rfl)
  | ok a => exact hf a

theorem map {x : Except Error α} (f : α → γ) (h : Resolves x) : Resolves (x.map f) := by
  cases x with
  | error e => exact error (h e rfl)
  | ok a => exact ok (f a)

theorem ofExcept {wrap : α → Answer} (hwrap : ∀ a, (wrap a).isResolution = false)
    {x : Except Error α} (h : Resolves x) : (Answer.ofExcept wrap x).isResolution = false := by
  cases x with
  | error e => exact h e rfl
  | ok a => exact hwrap a

end Resolves

/-! ## Checks and decoding -/

theorem BacktestParams.validate_resolves (p : BacktestParams) : Resolves p.validate := by
  unfold validate
  cases p.fault? with
  | none => exact .ok ()
  | some fault => exact .error rfl

theorem Action.parse_resolves (text : String) : Resolves (Action.parse text) := by
  unfold parse
  cases Action.all.find? fun a => a.name.toList == Text.upperAscii text.toList with
  | none => exact .error rfl
  | some a => exact .ok a

theorem Indicator.ofRaw_resolves (raw : RawIndicator) : Resolves (ofRaw raw) := by
  unfold ofRaw
  by_cases one : raw.kind = scalarKind
  · rw [if_pos one]
    exact .ok _
  · rw [if_neg one]
    by_cases three : raw.kind = tripleKind
    · rw [if_pos three]
      exact .ok _
    · rw [if_neg three]
      exact .error rfl

theorem BacktestResult.ofRaw_resolves (raw : RawResult) : Resolves (ofRaw raw) := by
  unfold ofRaw
  by_cases zero : raw.liquidated = 0
  · rw [if_pos zero]
    exact .ok _
  · rw [if_neg zero]
    by_cases one : raw.liquidated = 1
    · rw [if_pos one]
      exact .ok _
    · rw [if_neg one]
      exact .error rfl

theorem RawView.checkMeta_resolves (capacity len head : UInt64) :
    Resolves (checkMeta capacity len head) := by
  unfold checkMeta
  by_cases long : capacity < len
  · rw [if_pos long]
    exact .error rfl
  · rw [if_neg long]
    by_cases outside : (0 < capacity && capacity ≤ head) = true
    · rw [if_pos outside]
      exact .error rfl
    · rw [if_neg outside]
      exact .ok ()

theorem RawView.ofColumn_resolves (column : Column α) : Resolves (ofColumn column) := by
  unfold ofColumn
  cases column.slots with
  | none => exact .ok _
  | some data => exact (checkMeta_resolves _ _ _).bind fun _ => .ok _

theorem Batch.count_resolves (b : Batch) : Resolves b.count := by
  unfold count
  cases b.refused with
  | nil => exact .ok _
  | cons first rest => exact .error rfl

theorem Batch.signals_resolves (b : Batch) : Resolves b.signals := by
  unfold signals
  cases b.refused with
  | nil => exact .ok _
  | cons first rest => exact .error rfl

/-! ## Calls through a table -/

namespace TableBackend

variable {b : TableBackend ε β}

/-- An operation whose symbol is there is carried out. -/
theorem needing_of_all {σ : Type} {symbol : Option OptionalSymbol}
    (h : symbol.all b.table.has = true) (op : Op σ (Except Error α)) :
    b.needing symbol op = op := by
  cases symbol with
  | none => rfl
  | some y => exact needing_of_has h op

theorem needing_resolves {σ : Type} {symbol : Option OptionalSymbol}
    (h : symbol.all b.table.has = true) {op : Op σ (Except Error α)} {s : σ}
    (hop : Resolves (op s).answer) : Resolves (b.needing symbol op s).answer := by
  rw [needing_of_all h]
  exact hop

theorem accepted_resolves (id : UInt32) (fault : ParameterFault) :
    Resolves (accepted id fault) := by
  unfold accepted
  by_cases zero : id = 0
  · rw [if_pos zero]
    exact .error rfl
  · rw [if_neg zero]
    exact .ok id

/-- A call whose symbol the library has, if it needs one, is no failure to resolve. -/
theorem engineCall_resolves {c : EngineCall} (h : c.symbol?.all b.table.has = true) (s : ε) :
    Resolves (b.engineCall c s).answer := by
  unfold engineCall
  cases c with
  | addIndicator spec =>
    rw [EngineCall.symbol?_addIndicator] at h
    exact needing_resolves h (accepted_resolves _ _)
  | addStrategy name text => exact accepted_resolves _ _
  | len =>
    dsimp only
    by_cases has : b.table.has .len = true
    · rw [if_pos has]
      exact .ok _
    · rw [if_neg has]
      exact .ok _
  | column field =>
    rw [EngineCall.symbol?_column] at h
    exact needing_resolves h (.ok _)
  | timestampColumn => exact needing_resolves h (.ok _)
  | _ => exact .ok _

end TableBackend

/-! ## Making -/

theorem Backend.createEngine_resolves (b : TableBackend ε β) (capacity : UInt64) :
    Resolves ((Backend.table b).createEngine capacity ()).answer := by
  rw [createEngine_table]
  cases b.code.newEngine capacity with
  | none => exact .error rfl
  | some s => exact .ok _

theorem Backend.createBacktest_resolves (b : TableBackend ε β) (params : BacktestParams) :
    Resolves ((Backend.table b).createBacktest params ()).answer := by
  rw [createBacktest_table]
  cases b.code.newBacktest params with
  | none => exact .error rfl
  | some s => exact .ok _

end MarketBridge
