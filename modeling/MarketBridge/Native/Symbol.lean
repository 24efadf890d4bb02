import MarketBridge.Bar
import MarketBridge.Error
import MarketBridge.Indicator

/-!
# `Native.Symbol` — the names that an engine library exports

Fifteen symbols every library must have and twelve it may lack. A `SymbolTable` holds the addresses
found under those names; `SymbolTable.resolve` looks them up in declaration order and stops at the
first required one that is missing.
-/

namespace MarketBridge

/-- A symbol without which a library is of no use. -/
inductive RequiredSymbol
  | engineNew
  | engineFree
  | addRsi
  | addStrategy
  | pushBar
  | updateLastBar
  | indicatorLast
  | signalsLen
  | pollSignals
  | closeColumn
  | backtestNew
  | backtestFree
  | backtestApplySignal
  | backtestOnPrice
  | backtestResult
  deriving DecidableEq, Repr

namespace RequiredSymbol

/-- All required symbols, in the order in which they are looked up. -/
def all : List RequiredSymbol :=
  [engineNew, engineFree, addRsi, addStrategy, pushBar, updateLastBar, indicatorLast, signalsLen,
    pollSignals, closeColumn, backtestNew, backtestFree, backtestApplySignal, backtestOnPrice,
    backtestResult]

/-- The name under which the symbol is exported. -/
def name : RequiredSymbol → String
  | engineNew => "hquant_new"
  | engineFree => "hquant_free"
  | addRsi => "hquant_add_rsi"
  | addStrategy => "hquant_add_strategy"
  | pushBar => "hquant_push_bar"
  | updateLastBar => "hquant_update_last_bar"
  | indicatorLast => "hquant_indicator_last"
  | signalsLen => "hquant_signals_len"
  | pollSignals => "hquant_poll_signals"
  | closeColumn => "hquant_close_column"
  | backtestNew => "hq_backtest_new"
  | backtestFree => "hq_backtest_free"
  | backtestApplySignal => "hq_backtest_apply_signal"
  | backtestOnPrice => "hq_backtest_on_price"
  | backtestResult => "hq_backtest_result"

theorem mem_all (s : RequiredSymbol) : s ∈ all := by
  cases s <;> decide

end RequiredSymbol

/-- A symbol that older libraries lack. -/
inductive OptionalSymbol
  | addSma
  | addEma
  | addStdDev
  | addBoll
  | addMacd
  | len
  | openColumn
  | highColumn
  | lowColumn
  | volumeColumn
  | buyVolumeColumn
  | timestampColumn
  deriving DecidableEq, Repr

namespace OptionalSymbol

/-- All optional symbols. -/
def all : List OptionalSymbol :=
  [addSma, addEma, addStdDev, addBoll, addMacd, len, openColumn, highColumn, lowColumn,
    volumeColumn, buyVolumeColumn, timestampColumn]

/-- The name under which the symbol is exported. -/
def name : OptionalSymbol → String
  | addSma => "hquant_add_sma_close"
  | addEma => "hquant_add_ema_close"
  | addStdDev => "hquant_add_stddev_close"
  | addBoll => "hquant_add_boll"
  | addMacd => "hquant_add_macd"
  | len => "hquant_len"
  | openColumn => "hquant_open_column"
  | highColumn => "hquant_high_column"
  | lowColumn => "hquant_low_column"
  | volumeColumn => "hquant_volume_column"
  | buyVolumeColumn => "hquant_buy_volume_column"
  | timestampColumn => "hquant_timestamp_column"

theorem mem_all (s : OptionalSymbol) : s ∈ all := by
  cases s <;> decide

end OptionalSymbol

/-- The optional symbol that adding the indicator needs; the relative strength index needs none. -/
def IndicatorSpec.symbol? : IndicatorSpec → Option OptionalSymbol
  | rsi _ => none
  | sma _ => some .addSma
  | ema _ => some .addEma
  | stdDev _ => some .addStdDev
  | boll _ _ => some .addBoll
  | macd _ _ _ => some .addMacd

/-- The optional symbol that reading the column needs; the close column needs none. -/
def Field.symbol? : Field → Option OptionalSymbol
  | .close => none
  | .opening => some .openColumn
  | .high => some .highColumn
  | .low => some .lowColumn
  | .volume => some .volumeColumn
  | .buyVolume => some .buyVolumeColumn

/-- Where a symbol's code lies. -/
abbrev Address := UInt64

/-- The addresses of the symbols of a library. -/
structure SymbolTable where
  required : RequiredSymbol → Address
  optional : OptionalSymbol → Option Address

namespace SymbolTable

/-- The first required symbol without an address. -/
def missing? (lookup : String → Option Address) : Option RequiredSymbol :=
  RequiredSymbol.all.find? fun s => (lookup s.name).isNone

/-- The table of the addresses that `lookup` gives, if it has all the required ones. -/
def resolve (lookup : String → Option Address) : Except LibraryFault SymbolTable :=
  match missing? lookup with
  | some s => .error (.missingSymbol s.name)
  | none =>
    .ok
      { required := fun s => (lookup s.name).getD 0
        optional := fun s => lookup s.name }

/-- Whether the library has the optional symbol. -/
def has (t : SymbolTable) (s : OptionalSymbol) : Bool :=
  (t.optional s).isSome

/-- The table without the given optional symbols. -/
def without (t : SymbolTable) (omitted : List OptionalSymbol) : SymbolTable :=
  { t with optional := fun s => if s ∈ omitted then none else t.optional s }

end SymbolTable

end MarketBridge
