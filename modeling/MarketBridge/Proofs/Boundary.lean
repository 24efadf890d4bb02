import MarketBridge.Proofs.Backend
import MarketBridge.Proofs.Journal.Crossing
import MarketBridge.Proofs.Validation
import MarketBridge.Selector

/-!
# `Boundary` — what one call makes cross

A call to an open wrapper becomes one native call with the same arguments, at the site of the
engine code (`Backend.crossing`). Through a table it becomes none if the library lacks the symbol
that the call needs, and the length is read off the close column if the library lacks that one.
The links that a backend makes are `Live`, and stay so under every call; of a live link
`EngineLink.call_crosses` and `BacktestLink.call_crosses` say what crosses.
-/

namespace MarketBridge

open Outcome

variable {ε β : Type}

/-! ## What should cross -/

/-- The optional symbol without which the call cannot be made. -/
def EngineCall.symbol? : EngineCall → Option OptionalSymbol
  | addIndicator (.sma _) => some .addSma
  | addIndicator (.ema _) => some .addEma
  | addIndicator (.stdDev _) => some .addStdDev
  | addIndicator (.boll _ _) => some .addBoll
  | addIndicator (.macd _ _ _) => some .addMacd
  | column .opening => some .openColumn
  | column .high => some .highColumn
  | column .low => some .lowColumn
  | column .volume => some .volumeColumn
  | column .buyVolume => some .buyVolumeColumn
  | timestampColumn => some .timestampColumn
  | _ => none

theorem EngineCall.symbol?_addIndicator (spec : IndicatorSpec) :
    (addIndicator spec).symbol? = spec.symbol? := by
  cases spec <;> rfl

theorem EngineCall.symbol?_column (field : Field) : (column field).symbol? = field.symbol? := by
  cases field <;> rfl

/-- The call that a library with this table is asked to carry out, if any. -/
def SymbolTable.carried (t : SymbolTable) : EngineCall → List EngineCall
  | .len => if t.has .len then [.len] else [.column .close]
  | c => if c.symbol?.all t.has then [c] else []

namespace Backend

/-- Where the engine code of the backend runs. -/
def site : Backend ε β → Site
  | table b => b.code.site
  | inProcess m => m.site

/-- The engine calls that a call becomes. -/
def carried (c : EngineCall) : Backend ε β → List EngineCall
  | table b => b.table.carried c
  | inProcess _ => [c]

/-- What an engine call makes cross. -/
def crossing (b : Backend ε β) (c : EngineCall) : List Event :=
  (b.carried c).map fun c => .native b.site (.engine c)

/-- What a backtest call makes cross. -/
def backtestCrossing (b : Backend ε β) (c : BacktestCall) : List Event :=
  [.native b.site (.backtest c)]

end Backend

/-! ## What a table and a module make cross -/

theorem TableBackend.needing_events {σ α : Type} (b : TableBackend ε β)
    (symbol : Option OptionalSymbol) (op : Op σ (Except Error α)) (s : σ) :
    (b.needing symbol op s).events =
      if symbol.all b.table.has then (op s).events else [] := by
  cases symbol with
  | none => rfl
  | some name =>
    show ((if b.table.has name then op else pure (.error (missing name)) : Op σ _) s).events = _
    by_cases has : b.table.has name = true
    · rw [if_pos has, Option.all_some, if_pos has]
    · rw [if_neg has, Option.all_some, if_neg has]
      rfl

theorem TableBackend.engineCall_events (b : TableBackend ε β) (c : EngineCall) (s : ε) :
    (b.engineCall c s).events = (Backend.table b).crossing c := by
  unfold Backend.crossing Backend.carried SymbolTable.carried
  -- the calls that need a symbol, the length with its fallback, and the calls that need none
  cases c with
  | addIndicator spec =>
    dsimp only
    rw [engineCall, needing_events, apply_ite (List.map _), EngineCall.symbol?_addIndicator]
    rfl
  | column field =>
    dsimp only
    rw [engineCall, needing_events, apply_ite (List.map _), EngineCall.symbol?_column]
    rfl
  | timestampColumn =>
    rw [engineCall, needing_events, apply_ite (List.map _)]
    rfl
  | len =>
    show _ = (if b.table.has .len then [EngineCall.len] else [.column .close]).map _
    rw [engineCall]
    by_cases has : b.table.has .len = true
    · rw [if_pos has, if_pos has]
      rfl
    · rw [if_neg has, if_neg has]
      rfl
  | _ => rfl

/-- A call that needs a symbol which the library lacks does not reach it. -/
theorem TableBackend.engineCall_of_lacks {b : TableBackend ε β} {c : EngineCall}
    {y : OptionalSymbol} (hc : c.symbol? = some y) (hlacks : ¬ b.table.has y = true) (s : ε) :
    b.engineCall c s = ⟨.error (missing y), s, []⟩ := by
  have hneeding : ∀ op : Op ε (Except Error c.Answer),
      b.needing c.symbol? op s = ⟨.error (missing y), s, []⟩ := by
    intro op
    rw [hc, needing_of_lacks hlacks]
    rfl
  -- the three calls that are made only if the symbol is there
  cases c with
  | addIndicator spec =>
    rw [EngineCall.symbol?_addIndicator] at hneeding
    exact hneeding _
  | column field =>
    rw [EngineCall.symbol?_column] at hneeding
    exact hneeding _
  | timestampColumn => exact hneeding _
  | _ => cases hc

/-- A call other than for the length is carried as it is, unless its symbol is missing. -/
theorem SymbolTable.carried_or_lacks (t : SymbolTable) {c : EngineCall} (hc : c ≠ .len) :
    t.carried c = [c] ∨ ∃ y, c.symbol? = some y ∧ ¬ t.has y = true := by
  have hcarried : t.carried c = if c.symbol?.all t.has then [c] else [] := by
    cases c with
    | len => exact absurd rfl hc
    | _ => rfl
  cases hsymbol : c.symbol? with
  | none =>
    left
    rw [hcarried, hsymbol]
    rfl
  | some y =>
    rw [hsymbol, Option.all_some] at hcarried
    by_cases has : t.has y = true
    · left
      rw [hcarried, if_pos has]
    · exact .inr ⟨y, rfl, has⟩

theorem Failure.crossings_settle {σ α : Type} (answer : Except Failure α) (s : σ) :
    crossings (Failure.settle answer s).events = [] := by
  cases answer with
  | ok a => rfl
  | error f => exact crossings_map_log (fun n => n) f.warnings

/-! ## Live links -/

/-- The link is one that a backend makes, to an engine that has not been freed. -/
inductive EngineLink.Live : EngineLink ε β → Prop
  | table (b : TableBackend ε β) (s : ε) : Live (b.engineLink s)
  | inProcess (m : EngineModule ε β) (s : ε) : Live (.inProcess m s)

/-- The link is one that a backend makes, to a backtest that has not been freed. -/
inductive BacktestLink.Live : BacktestLink ε β → Prop
  | table (b : TableBackend ε β) (s : β) : Live (b.backtestLink s)
  | inProcess (m : EngineModule ε β) (s : β) : Live (.inProcess m s)

/-- The way that the calls of the link travel. -/
def EngineLink.backend : EngineLink ε β → Backend ε β
  | .table b _ => .table b
  | .inProcess m _ => .inProcess m

/-- The way that the calls of the link travel. -/
def BacktestLink.backend : BacktestLink ε β → Backend ε β
  | .table b _ => .table b
  | .inProcess m _ => .inProcess m

/-- A call crosses as its backend says, and leaves a live link of that backend. -/
theorem EngineLink.call_crosses {l : EngineLink ε β} (h : l.Live) (c : EngineCall) :
    Crosses (fun l' => l'.Live ∧ l'.backend = l.backend) (l.backend.crossing c)
      (EngineLink.call c l) := by
  cases h with
  | table b s =>
    rw [call_engineLink]
    refine ⟨?_, .table b _, rfl⟩
    -- a table leaves nothing but crossings
    rw [b.engineCall_events]
    exact List.filter_eq_self.mpr fun event hmem => by
      obtain ⟨c', -, rfl⟩ := List.mem_map.mp hmem
      rfl
  | inProcess m s =>
    rw [call_inProcess]
    refine ⟨?_, .inProcess m _, rfl⟩
    -- a module may leave warnings after its call
    have hsettled := Failure.crossings_settle (m.engine c s).1 (m.engine c s).2
    exact congrArg (List.cons (.native m.site (.engine c))) hsettled

/-- A call other than for the length crosses as it is, or leaves the link. -/
theorem EngineLink.carried_or_state {l : EngineLink ε β} (h : l.Live) {c : EngineCall}
    (hc : c ≠ .len) : c ∈ l.backend.carried c ∨ (EngineLink.call c l).state = l := by
  cases h with
  | table b s =>
    rcases b.table.carried_or_lacks hc with carried | ⟨y, hy, hlacks⟩
    · left
      show c ∈ b.table.carried c
      rw [carried]
      exact List.mem_singleton_self c
    · right
      rw [call_engineLink, TableBackend.engineCall_of_lacks hy hlacks]
  | inProcess m s => exact .inl (List.mem_singleton_self c)

theorem BacktestLink.call_crosses {l : BacktestLink ε β} (h : l.Live) (c : BacktestCall) :
    Crosses (fun l' => l'.Live ∧ l'.backend = l.backend) (l.backend.backtestCrossing c)
      (BacktestLink.call c l) := by
  cases h with
  | table b s => exact ⟨rfl, .table b _, rfl⟩
  | inProcess m s =>
    rw [call_inProcess]
    refine ⟨?_, .inProcess m _, rfl⟩
    have hsettled := Failure.crossings_settle (m.backtest c s).1 (m.backtest c s).2
    exact congrArg (List.cons (.native m.site (.backtest c))) hsettled

theorem EngineLink.Live.crossings_drop {l : EngineLink ε β} (h : l.Live) :
    crossings l.drop = [] := by
  cases h <;> rfl

theorem BacktestLink.Live.crossings_drop {l : BacktestLink ε β} (h : l.Live) :
    crossings l.drop = [] := by
  cases h <;> rfl

/-! ## Making -/

namespace Backend

/-- Making an engine enters the constructor once, and what is made is live. -/
theorem createEngine_crosses (b : Backend ε β) (capacity : UInt64) :
    crossings (b.createEngine capacity ()).events = [.native b.site (.engineNew capacity)] ∧
      ∀ l, (b.createEngine capacity ()).answer = .ok l → l.Live := by
  cases b with
  | table b =>
    rw [createEngine_table]
    cases b.code.newEngine capacity with
    | none =>
      refine ⟨rfl, ?_⟩
      rintro l ⟨⟩
    | some s =>
      refine ⟨rfl, ?_⟩
      rintro l ⟨⟩
      exact .table b s
  | inProcess m =>
    rw [createEngine_inProcess]
    cases m.newEngine capacity with
    | none =>
      refine ⟨rfl, ?_⟩
      rintro l ⟨⟩
    | some s =>
      refine ⟨rfl, ?_⟩
      rintro l ⟨⟩
      exact .inProcess m s

/-- Making a backtest enters the constructor once, and what is made is live. -/
theorem createBacktest_crosses (b : Backend ε β) (params : BacktestParams) :
    crossings (b.createBacktest params ()).events = [.native b.site (.backtestNew params)] ∧
      ∀ l, (b.createBacktest params ()).answer = .ok l → l.Live := by
  cases b with
  | table b =>
    rw [createBacktest_table]
    cases b.code.newBacktest params with
    | none =>
      refine ⟨rfl, ?_⟩
      rintro l ⟨⟩
    | some s =>
      refine ⟨rfl, ?_⟩
      rintro l ⟨⟩
      exact .table b s
  | inProcess m =>
    rw [createBacktest_inProcess]
    cases m.newBacktest params with
    | none =>
      refine ⟨rfl, ?_⟩
      rintro l ⟨⟩
    | some s =>
      refine ⟨rfl, ?_⟩
      rintro l ⟨⟩
      exact .inProcess m s

end Backend

end MarketBridge
