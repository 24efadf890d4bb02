import MarketBridge.Backtest
import MarketBridge.Config
import MarketBridge.Engine

/-!
# `Selector` — choosing the backend once

A selector has a configuration and perhaps a module to offer. The module inside the program is the
offered one, else the registered one; it may refuse. The library is the one at the resolved path,
which must export every required symbol. With no preference the library is tried only when there is
no usable module.
-/

namespace MarketBridge

/-- What a selection depends on besides the selector: the environment, the module that was
registered first, and the libraries that can be loaded. -/
structure Host (ε β : Type) where
  environment : Environment
  registered : Option (EngineModule ε β)
  library : Path → Option (Library ε β)

variable {ε β : Type}

/-- Registers a module for the whole program. Only the first one stays; answers whether this one
was it. -/
def Host.register (m : EngineModule ε β) : Op (Host ε β) Bool := do
  let host ← Op.get
  let isFirst := host.registered.isNone
  if isFirst then Op.set { host with registered := some m }
  Op.log (.moduleRegistration m.name isFirst)
  return isFirst

/-- Loads the library at a path. -/
def TableBackend.load (host : Host ε β) (path : Path) :
    Op Unit (Except Error (TableBackend ε β)) := do
  Op.log (.loadingLibrary path)
  match host.library path with
  | none => return .error (.libraryResolution (some path) .unloadable)
  | some library =>
    match SymbolTable.resolve library.symbol with
    | .error fault => return .error (.libraryResolution (some path) fault)
    | .ok table => return .ok ⟨path.shown, true, table, library.code⟩

/-- A configuration, and a module offered ahead of the registered one. -/
structure Selector (ε β : Type) where
  config : Config
  offered : Option (EngineModule ε β)

namespace Selector

/-- The selector that the environment describes, with no module to offer. -/
def ofEnvironment (host : Host ε β) : Except Error (Selector ε β) :=
  (Config.ofEnvironment host.environment).map fun config => ⟨config, none⟩

/-- The module to use, if there is one and it does not refuse. -/
def inProcess (s : Selector ε β) (host : Host ε β) :
    Op Unit (Except Error (EngineModule ε β)) :=
  match s.offered <|> host.registered with
  | none => return .error (.libraryResolution none .noModule)
  | some m => do
    match ← m.consult with
    | .error e => return .error e
    | .ok () => return .ok m

/-- The library to use, if it can be found and loaded. -/
def dylib (s : Selector ε β) (host : Host ε β) : Op Unit (Except Error (TableBackend ε β)) :=
  match s.config.libraryPath host.environment with
  | .error e => return .error e
  | .ok path => TableBackend.load host path

/-- The library, when there is no usable module. -/
def fallback (s : Selector ε β) (host : Host ε β) : Op Unit (Except Error (Backend ε β)) := do
  let answer ← s.dylib host
  return answer.map .table

/-- The backend that the preference leads to. -/
def backend (s : Selector ε β) (host : Host ε β) : Op Unit (Except Error (Backend ε β)) :=
  match s.config.backend with
  | .inProcess => do
    let answer ← s.inProcess host
    return answer.map .inProcess
  | .dylib => s.fallback host
  | .auto => do
    match ← s.inProcess host with
    | .ok m => return .ok (.inProcess m)
    | .error e => do
      Op.log (.fallingBack e)
      s.fallback host

/-- Selects the backend. -/
def select (s : Selector ε β) (host : Host ε β) : Op Unit (Except Error (Bridge ε β)) := do
  match ← s.backend host with
  | .error e => return .error e
  | .ok backend =>
    Op.log (.backendSelected backend.kind backend.origin)
    return .ok ⟨backend, s.config.decode⟩

/-- The selector as diagnostics show it. -/
def describe (s : Selector ε β) : String :=
  Text.record "BackendSelector"
    [("config", s.config.describe),
      ("module", Text.optional (s.offered.map fun m => Text.quote m.name))]

end Selector

/-- The bridge that the environment describes. -/
def Bridge.ofEnvironment (host : Host ε β) : Op Unit (Except Error (Bridge ε β)) :=
  match Selector.ofEnvironment host with
  | .error e => return .error e
  | .ok s => s.select host

/-- Makes an engine on the bridge that the environment describes. -/
def Engine.ofEnvironment (host : Host ε β) (capacity : UInt64) :
    Op Unit (Except Error (Engine ε β)) := do
  match ← Bridge.ofEnvironment host with
  | .error e => return .error e
  | .ok bridge => Engine.create bridge capacity

/-- Makes a backtest on the bridge that the environment describes. -/
def Backtest.ofEnvironment (host : Host ε β) (params : BacktestParams) :
    Op Unit (Except Error (Backtest ε β)) := do
  match ← Bridge.ofEnvironment host with
  | .error e => return .error e
  | .ok bridge => Backtest.create bridge params

end MarketBridge
