import MarketBridge.Reference.Code
import MarketBridge.Selector

/-!
# `Loading` — a library is loaded exactly if it is complete

All that loading looks at in a library is which symbols it exports under the names that a table
knows. Those that no library may lack are looked up in the order in which the table declares them,
and the first that is not there is the error (`SymbolTable.resolve_eq_error_iff`); if all are there
the table binds every symbol to what is exported under its own name, and only to that
(`SymbolTable.resolve_eq_ok_iff`). `TableBackend.libraries_load_if_complete` says so of loading the
library at a path.
-/

namespace MarketBridge

variable {ε β : Type}

/-! ## Names -/

/-- The symbols that no library may lack, each under the name by which it is exported, in the order
in which a table declares them. -/
def RequiredSymbol.exports : List (String × RequiredSymbol) :=
  [("hquant_new", .engineNew), ("hquant_free", .engineFree), ("hquant_add_rsi", .addRsi),
    ("hquant_add_strategy", .addStrategy), ("hquant_push_bar", .pushBar),
    ("hquant_update_last_bar", .updateLastBar), ("hquant_indicator_last", .indicatorLast),
    ("hquant_signals_len", .signalsLen), ("hquant_poll_signals", .pollSignals),
    ("hquant_close_column", .closeColumn), ("hq_backtest_new", .backtestNew),
    ("hq_backtest_free", .backtestFree), ("hq_backtest_apply_signal", .backtestApplySignal),
    ("hq_backtest_on_price", .backtestOnPrice), ("hq_backtest_result", .backtestResult)]

/-- The symbols that a library may lack, each under the name by which it is exported. -/
def OptionalSymbol.exports : List (String × OptionalSymbol) :=
  [("hquant_add_sma_close", .addSma), ("hquant_add_ema_close", .addEma),
    ("hquant_add_stddev_close", .addStdDev), ("hquant_add_boll", .addBoll),
    ("hquant_add_macd", .addMacd), ("hquant_len", .len), ("hquant_open_column", .openColumn),
    ("hquant_high_column", .highColumn), ("hquant_low_column", .lowColumn),
    ("hquant_volume_column", .volumeColumn), ("hquant_buy_volume_column", .buyVolumeColumn),
    ("hquant_timestamp_column", .timestampColumn)]

/-- Where everything is listed under its name, it stands next to its own name and to no other. -/
theorem mem_named_iff {α : Type} {name : α → String} {all : List α} (hall : ∀ a, a ∈ all)
    {n : String} {a : α} : (n, a) ∈ all.map (fun a => (name a, a)) ↔ n = name a := by
  rw [List.mem_map]
  constructor
  · rintro ⟨a', -, hpair⟩
    cases hpair
    rfl
  · rintro rfl
    exact ⟨a, hall a, rfl⟩

theorem RequiredSymbol.mem_exports_iff {name : String} {s : RequiredSymbol} :
    (name, s) ∈ exports ↔ name = s.name := by
  have hexports : exports = all.map fun s => (s.name, s) := rfl
  rw [hexports]
  exact mem_named_iff mem_all

theorem OptionalSymbol.mem_exports_iff {name : String} {s : OptionalSymbol} :
    (name, s) ∈ exports ↔ name = s.name := by
  have hexports : exports = all.map fun s => (s.name, s) := rfl
  rw [hexports]
  exact mem_named_iff mem_all

/-- The names that no library may lack, in order. -/
def requiredNames : List String :=
  RequiredSymbol.exports.map (·.1)

/-- The names that a library may lack. -/
def optionalNames : List String :=
  OptionalSymbol.exports.map (·.1)

theorem RequiredSymbol.name_mem (s : RequiredSymbol) : s.name ∈ requiredNames :=
  List.mem_map.mpr ⟨(s.name, s), mem_exports_iff.mpr rfl, rfl⟩

theorem OptionalSymbol.name_mem (s : OptionalSymbol) : s.name ∈ optionalNames :=
  List.mem_map.mpr ⟨(s.name, s), mem_exports_iff.mpr rfl, rfl⟩

/-! ## Looking symbols up -/

namespace SymbolTable

/-- Something is found under the name. -/
def Finds (lookup : String → Option Address) (name : String) : Prop :=
  (lookup name).isSome = true

instance (lookup : String → Option Address) (name : String) : Decidable (Finds lookup name) :=
  inferInstanceAs (Decidable (_ = true))

/-- Nothing is found under the name, but something under every required name before it. -/
def FirstLacking (lookup : String → Option Address) (name : String) : Prop :=
  ∃ before after, requiredNames = before ++ name :: after ∧
    (∀ earlier ∈ before, Finds lookup earlier) ∧ ¬ Finds lookup name

/-- Every entry of the table is what is found under the entry's own name. -/
structure Binds (t : SymbolTable) (lookup : String → Option Address) : Prop where
  required : ∀ name s, (name, s) ∈ RequiredSymbol.exports → lookup name = some (t.required s)
  optional : ∀ name s, (name, s) ∈ OptionalSymbol.exports → t.optional s = lookup name

variable {lookup lookup' : String → Option Address}

/-- The missing symbol is the first required name under which nothing is found. -/
theorem missing?_name (lookup : String → Option Address) :
    (missing? lookup).map RequiredSymbol.name =
      requiredNames.find? fun name => (lookup name).isNone := by
  have hnames : requiredNames = RequiredSymbol.all.map RequiredSymbol.name := rfl
  rw [hnames, List.find?_map]
  rfl

theorem missing?_eq_none_iff :
    missing? lookup = none ↔ ∀ name ∈ requiredNames, Finds lookup name := by
  rw [← Option.map_eq_none_iff (f := RequiredSymbol.name), missing?_name, List.find?_eq_none]
  simp [Finds, Option.isSome_iff_ne_none]

theorem find_lacking_eq_some_iff {name : String} :
    (requiredNames.find? fun name => (lookup name).isNone) = some name ↔
      FirstLacking lookup name := by
  rw [List.find?_eq_some_iff_append]
  constructor
  · rintro ⟨nothing, before, after, hnames, earlier⟩
    refine ⟨before, after, hnames, fun name' hmem => ?_, ?_⟩
    · simpa [Finds] using earlier name' hmem
    · simpa [Finds] using nothing
  · rintro ⟨before, after, hnames, earlier, nothing⟩
    refine ⟨?_, before, after, hnames, fun name' hmem => ?_⟩
    · simpa [Finds] using nothing
    · simpa [Finds] using earlier name' hmem

/-- The lookup fails by the first required name under which nothing is found. -/
theorem resolve_eq_error_iff {fault : LibraryFault} :
    resolve lookup = .error fault ↔
      ∃ name, FirstLacking lookup name ∧ fault = .missingSymbol name := by
  have hname := missing?_name lookup
  unfold resolve
  cases hmissing : missing? lookup with
  | none =>
    -- everything is found, so no name is the first one lacking
    rw [hmissing, Option.map_none] at hname
    constructor
    · intro h
      cases h
    · rintro ⟨name, lacking, -⟩
      rw [find_lacking_eq_some_iff.mpr lacking] at hname
      cases hname
  | some s =>
    rw [hmissing, Option.map_some] at hname
    constructor
    · intro h
      cases h
      exact ⟨s.name, find_lacking_eq_some_iff.mp hname.symm, rfl⟩
    · rintro ⟨name, lacking, rfl⟩
      rw [find_lacking_eq_some_iff.mpr lacking] at hname
      cases hname
      rfl

/-- A table binds one thing at most to every symbol. -/
theorem Binds.unique {t t' : SymbolTable} (h : t.Binds lookup) (h' : t'.Binds lookup) : t = t' := by
  obtain ⟨required, optional⟩ := t
  obtain ⟨required', optional'⟩ := t'
  congr 1
  · funext s
    have hfound := h.required s.name s (RequiredSymbol.mem_exports_iff.mpr rfl)
    have hfound' := h'.required s.name s (RequiredSymbol.mem_exports_iff.mpr rfl)
    exact Option.some.inj (hfound.symm.trans hfound')
  · funext s
    have hfound := h.optional s.name s (OptionalSymbol.mem_exports_iff.mpr rfl)
    have hfound' := h'.optional s.name s (OptionalSymbol.mem_exports_iff.mpr rfl)
    exact hfound.trans hfound'.symm

/-- The lookup succeeds if something is found under every required name, and gives the one table
that binds each symbol to what is found under its name. -/
theorem resolve_eq_ok_iff {t : SymbolTable} :
    resolve lookup = .ok t ↔ (∀ name ∈ requiredNames, Finds lookup name) ∧ t.Binds lookup := by
  rw [← missing?_eq_none_iff]
  unfold resolve
  cases hmissing : missing? lookup with
  | some s => simp
  | none =>
    have hall := missing?_eq_none_iff.mp hmissing
    have hbinds : Binds ⟨fun s => (lookup s.name).getD 0, fun s => lookup s.name⟩ lookup := by
      constructor
      · intro name s hmem
        obtain rfl := RequiredSymbol.mem_exports_iff.mp hmem
        obtain ⟨address, hfound⟩ := Option.isSome_iff_exists.mp (hall s.name s.name_mem)
        simp [hfound]
      · intro name s hmem
        obtain rfl := OptionalSymbol.mem_exports_iff.mp hmem
        rfl
    constructor
    · intro h
      cases h
      exact ⟨rfl, hbinds⟩
    · rintro ⟨-, hbinds'⟩
      exact congrArg Except.ok (hbinds.unique hbinds')

/-- What is found under other names makes no difference. -/
theorem resolve_congr
    (h : ∀ name ∈ requiredNames ++ optionalNames, lookup' name = lookup name) :
    resolve lookup' = resolve lookup := by
  have hrequired : ∀ s : RequiredSymbol, lookup' s.name = lookup s.name := fun s =>
    h s.name (List.mem_append_left _ s.name_mem)
  have hoptional : ∀ s : OptionalSymbol, lookup' s.name = lookup s.name := fun s =>
    h s.name (List.mem_append_right _ s.name_mem)
  unfold resolve missing?
  simp only [hrequired, hoptional]

end SymbolTable

/-! ## Loading -/

/-- The library exports a symbol under the name. -/
def Library.Exports (library : Library ε β) (name : String) : Prop :=
  SymbolTable.Finds library.symbol name

namespace TableBackend

variable {host host' : Host ε β} {path : Path} {library library' : Library ε β}

/-- Loading resolves the symbols, and adds the path to what is wrong with them. -/
theorem load_answer (h : host.library path = some library) :
    (load host path ()).answer =
      match SymbolTable.resolve library.symbol with
      | .error fault => .error (.libraryResolution (some path) fault)
      | .ok table => .ok ⟨path.shown, true, table, library.code⟩ := by
  unfold load
  rw [Op.bind_apply, h]
  dsimp only
  cases SymbolTable.resolve library.symbol with
  | error fault => rfl
  | ok table => rfl

theorem load_eq_ok_iff (h : host.library path = some library) {b : TableBackend ε β} :
    (load host path ()).answer = .ok b ↔
      ∃ table, SymbolTable.resolve library.symbol = .ok table ∧
        b = ⟨path.shown, true, table, library.code⟩ := by
  rw [load_answer h]
  cases SymbolTable.resolve library.symbol with
  | error fault => simp
  | ok table => simp [eq_comm]

theorem load_eq_error_iff (h : host.library path = some library) {error : Error} :
    (load host path ()).answer = .error error ↔
      ∃ fault, SymbolTable.resolve library.symbol = .error fault ∧
        error = .libraryResolution (some path) fault := by
  rw [load_answer h]
  cases SymbolTable.resolve library.symbol with
  | error fault => simp [eq_comm]
  | ok table => simp

/-- Libraries with the same code and the same symbols under the names of a table load alike. -/
theorem load_congr (h : host.library path = some library)
    (h' : host'.library path = some library') (hcode : library'.code = library.code)
    (hsymbols : ∀ name ∈ requiredNames ++ optionalNames,
      library'.symbol name = library.symbol name) :
    load host' path = load host path := by
  have hresolve := SymbolTable.resolve_congr hsymbols
  unfold load
  rw [h, h']
  dsimp only
  rw [hresolve, hcode]

/-- What comes of loading the library at a path. -/
structure LoadLaw (host : Host ε β) (path : Path) (library : Library ε β) : Prop where
  /-- It is loaded exactly if it exports everything that no library may lack. -/
  loads_iff : (∃ b, (load host path ()).answer = .ok b) ↔
    ∀ name ∈ requiredNames, library.Exports name
  /-- The error of any other names the path and the first of those symbols that is lacking. -/
  fails_iff : ∀ error, (load host path ()).answer = .error error ↔
    ∃ name, SymbolTable.FirstLacking library.symbol name ∧
      error = .libraryResolution (some path) (.missingSymbol name)
  /-- What is loaded is its code, by a table of what it exports under the name of each entry. -/
  binds : ∀ b, (load host path ()).answer = .ok b →
    b.table.Binds library.symbol ∧ b.code = library.code
  /-- An optional entry is there exactly if its name is exported. -/
  optional_iff : ∀ b, (load host path ()).answer = .ok b →
    ∀ name s, (name, s) ∈ OptionalSymbol.exports → (b.table.has s = true ↔ library.Exports name)
  /-- Symbols of other names have no influence. -/
  others : ∀ (host' : Host ε β) (library' : Library ε β), host'.library path = some library' →
    library'.code = library.code →
    (∀ name ∈ requiredNames ++ optionalNames, library'.symbol name = library.symbol name) →
    load host' path = load host path

/-- **A library is loaded exactly if it is complete.** Whatever the library at the path exports: it
is loaded if it exports all fifteen symbols that no library may lack, and otherwise the error names
the first of them that it lacks; the table has under each of the twenty-seven names what the library
exports under it, and nothing else that it exports makes a difference. -/
theorem libraries_load_if_complete (host : Host ε β) (path : Path) (library : Library ε β)
    (h : host.library path = some library) : LoadLaw host path library := by
  constructor
  case loads_iff =>
    constructor
    · rintro ⟨b, hloaded⟩
      obtain ⟨table, hresolved, -⟩ := (load_eq_ok_iff h).mp hloaded
      exact (SymbolTable.resolve_eq_ok_iff.mp hresolved).1
    · intro hall
      have hnone := SymbolTable.missing?_eq_none_iff.mpr hall
      cases hresolved : SymbolTable.resolve library.symbol with
      | ok table => exact ⟨_, (load_eq_ok_iff h).mpr ⟨table, hresolved, rfl⟩⟩
      | error fault =>
        unfold SymbolTable.resolve at hresolved
        rw [hnone] at hresolved
        cases hresolved
  case fails_iff =>
    intro error
    rw [load_eq_error_iff h]
    constructor
    · rintro ⟨fault, hresolved, rfl⟩
      obtain ⟨name, lacking, rfl⟩ := SymbolTable.resolve_eq_error_iff.mp hresolved
      exact ⟨name, lacking, rfl⟩
    · rintro ⟨name, lacking, rfl⟩
      exact ⟨_, SymbolTable.resolve_eq_error_iff.mpr ⟨name, lacking, rfl⟩, rfl⟩
  case binds =>
    intro b hloaded
    obtain ⟨table, hresolved, rfl⟩ := (load_eq_ok_iff h).mp hloaded
    exact ⟨(SymbolTable.resolve_eq_ok_iff.mp hresolved).2, rfl⟩
  case optional_iff =>
    intro b hloaded name s hmem
    obtain ⟨table, hresolved, rfl⟩ := (load_eq_ok_iff h).mp hloaded
    obtain ⟨-, hbinds⟩ := SymbolTable.resolve_eq_ok_iff.mp hresolved
    unfold SymbolTable.has Library.Exports SymbolTable.Finds
    rw [hbinds.optional name s hmem]
  case others =>
    intro host' library' h' hcode hsymbols
    exact load_congr h h' hcode hsymbols

/-- The reference engine as a library that lacks one optional and two required symbols. -/
def lackingLibrary : Library Reference.Engine Reference.Backtest :=
  Reference.library (Reference.symbolNames.filter fun name =>
    name ∉ ["hquant_signals_len", "hq_backtest_free", "hquant_len"])

/-- A host on which that library is at every path. -/
def lackingHost : Host Reference.Engine Reference.Backtest :=
  ⟨.unset "linux", none, fun _ => some lackingLibrary⟩

/-- Of two required symbols that are lacking, the one that a table declares first is named. -/
theorem lacking_library_fails :
    lackingHost.library (.ofText "/opt/hquant.so") = some lackingLibrary ∧
      (load lackingHost (.ofText "/opt/hquant.so") ()).answer =
        .error (.libraryResolution (some (.ofText "/opt/hquant.so"))
          (.missingSymbol "hquant_signals_len")) := by
  refine ⟨rfl, ((libraries_load_if_complete lackingHost _ lackingLibrary rfl).fails_iff _).mpr ?_⟩
  refine ⟨"hquant_signals_len", ?_, rfl⟩
  refine ⟨["hquant_new", "hquant_free", "hquant_add_rsi", "hquant_add_strategy", "hquant_push_bar",
    "hquant_update_last_bar", "hquant_indicator_last"], ["hquant_poll_signals",
    "hquant_close_column", "hq_backtest_new", "hq_backtest_free", "hq_backtest_apply_signal",
    "hq_backtest_on_price", "hq_backtest_result"], rfl, ?_, ?_⟩
  · decide
  · decide

end TableBackend

end MarketBridge
