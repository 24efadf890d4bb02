import MarketBridge.Reference.Code
import MarketBridge.Script
import MarketBridge.Selector

/-!
# `Standin` — reference engines and scripted engines in one session

A session has one type of engine states. Where both stand-ins take part, that type is the sum of the
two: a constructor decides the side, and every later call is answered by the side that the state is
on. The shelf holds the libraries that can be loaded by path.
-/

namespace MarketBridge.Standin

/-- The state of an engine of either sort. -/
abbrev Engine := Reference.Engine ⊕ Script

/-- The state of a backtest of either sort. -/
abbrev Backtest := Reference.Backtest ⊕ Script

/-- Continues on one side of a sum. -/
def onSide {α σ τ : Type} (inject : σ → τ) (answered : α × σ) : α × τ :=
  (answered.1, inject answered.2)

/-! ## Code -/

/-- Answers an engine call on the side that the state is on. -/
def answer (call : EngineCall) : Engine → call.Answer × Engine
  | .inl e => onSide .inl (Reference.Engine.answer call e)
  | .inr s => onSide .inr (Script.answer call s)

/-- Answers a backtest call on the side that the state is on. -/
def answerBacktest (call : BacktestCall) : Backtest → call.Answer × Backtest
  | .inl b => onSide .inl (Reference.Backtest.answer call b)
  | .inr s => onSide .inr (Script.answerBacktest call s)

/-- The code of the reference engine. -/
def referenceCode (site : Site) : NativeCode Engine Backtest where
  site := site
  newEngine := fun capacity => (Reference.Engine.new? capacity).map .inl
  engine := answer
  newBacktest := fun params => (Reference.Backtest.new? params).map .inl
  backtest := answerBacktest

/-- The code of a scripted engine. -/
def scriptedCode (script : Script) : NativeCode Engine Backtest where
  site := .scripted
  newEngine := fun capacity => (script.code.newEngine capacity).map .inr
  engine := answer
  newBacktest := fun params => (script.code.newBacktest params).map .inr
  backtest := answerBacktest

/-! ## Modules -/

/-- Answers an engine call to a module on the side that the state is on. -/
def moduleAnswer (call : EngineCall) : Engine → Except Failure call.Answer × Engine
  | .inl e => onSide .inl (Reference.moduleAnswer call e)
  | .inr s => onSide .inr (s.engineModule.engine call s)

/-- Answers a backtest call to a module on the side that the state is on. -/
def moduleAnswerBacktest (call : BacktestCall) : Backtest → Except Failure call.Answer × Backtest
  | .inl b => onSide .inl (Reference.engineModule.backtest call b)
  | .inr s => onSide .inr (s.engineModule.backtest call s)

/-- The module of the reference engine. -/
def referenceModule : EngineModule Engine Backtest where
  site := .linked
  name := Reference.engineModule.name
  probe := Reference.engineModule.probe
  newEngine := (referenceCode .linked).newEngine
  engine := moduleAnswer
  newBacktest := (referenceCode .linked).newBacktest
  backtest := moduleAnswerBacktest

/-- The module of a scripted engine. -/
def scriptedModule (script : Script) : EngineModule Engine Backtest where
  site := .scripted
  name := script.name
  probe := script.probe
  newEngine := (scriptedCode script).newEngine
  engine := moduleAnswer
  newBacktest := (scriptedCode script).newBacktest
  backtest := moduleAnswerBacktest

/-! ## Bridges -/

/-- Linked code behind a table of the reference engine's symbols. -/
def linkedBackend (table : SymbolTable) (code : NativeCode Engine Backtest) :
    Backend Engine Backtest :=
  .table ⟨"reference-engine (static)", false, table, code⟩

/-! ## The shelf -/

/-- The bytes of the longest path that the loader follows. -/
def longestPath : Nat := 4095

/-- The path that the loader follows: one zero byte at the end only closes a path. -/
def followed (path : Path) : Path :=
  let bytes := path.toBytes
  if bytes.getLast? = some 0 then .ofBytes bytes.dropLast else path

/-- The name of the file that a path leads to from the directory of the libraries: the path is not
too long, has a slash, does not start with one, and leads nowhere but to a file of that
directory. -/
def fileName? (path : Path) : Option String := do
  if longestPath < path.bytes.size then failure
  let text ← path.text?
  let parts := text.toList.splitOn '/'
  let name ← parts.getLast?
  let before := parts.dropLast
  if before.head? = some [] || before.isEmpty then none
  else if before.all fun part => part = [] || part = ['.'] then some (String.ofList name)
  else none

/-- The symbols that a file of the shelf exports, if it is a library. -/
def exports? (file : String) : Option (List String) :=
  let required := RequiredSymbol.all.map (·.name)
  if file = "libfull.so" then some Reference.symbolNames
  else if file = "libcore.so" then some required
  else if file = "libempty.so" then some []
  else
    (required.find? fun symbol => file = "libno_" ++ symbol ++ ".so").map fun symbol =>
      Reference.symbolNames.filter (· ≠ symbol)

/-- The symbols that can be found after loading a path. An empty path is the running program, which
exports none. -/
def symbolsAt? (path : Path) : Option (List String) :=
  if path.isEmpty then some [] else (fileName? path).bind exports?

/-- The library at a path. -/
def shelf (path : Path) : Option (Library Engine Backtest) := do
  let names ← symbolsAt? (followed path)
  let library := Reference.library names
  return ⟨library.symbol, referenceCode .loaded⟩

end MarketBridge.Standin
