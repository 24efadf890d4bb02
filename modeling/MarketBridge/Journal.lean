import MarketBridge.Error
import MarketBridge.Native.Call

/-!
# `Journal` — what an operation leaves behind besides its answer

Operations are functions on a state. Whatever they do outside it, writing a log line or entering
engine code, is an `Event` in the list that the operation returns, in the order in which it
happened. `Op σ` is the monad of such operations.
-/

namespace MarketBridge

/-- How calls reach the engine. -/
inductive BackendKind
  | inProcess
  | dylib
  deriving DecidableEq, Repr

/-- The name of the kind. -/
def BackendKind.name : BackendKind → String
  | inProcess => "in-process"
  | dylib => "dylib"

/-- The kind as diagnostics show it. -/
def BackendKind.describe : BackendKind → String
  | inProcess => "InProcess"
  | dylib => "Dylib"

/-! ## Log lines -/

/-- How much a log line matters. -/
inductive Level
  | debug
  | info
  | warn
  deriving DecidableEq, Repr

/-- Something worth a log line. -/
inductive Notice
  | handleAcquired (label : String)
  | handleReleased (label : String)
  | engineCreated (kind : BackendKind) (capacity : UInt64)
  | engineClosed (kind : BackendKind)
  | backtestCreated (kind : BackendKind) (params : BacktestParams)
  | backtestClosed (kind : BackendKind)
  | unknownTag (signal : RawSignal)
  | overReported (queued copied : UInt64)
  | underReported (queued copied : UInt64)
  | drained (copied : UInt64)
  | moduleRegistration (name : String) (registered : Bool)
  | fallingBack (reason : Error)
  | loadingLibrary (path : Path)
  | backendSelected (kind : BackendKind) (origin : String)
  deriving DecidableEq

namespace Notice

/-- The level of the line. -/
def level : Notice → Level
  | unknownTag _ | overReported _ _ | underReported _ _ => .warn
  | backendSelected _ _ => .info
  | _ => .debug

/-- The sentence of the line. -/
def message : Notice → String
  | handleAcquired _ => "native handle acquired"
  | handleReleased _ => "native handle released"
  | engineCreated _ _ => "hquant engine created"
  | engineClosed _ => "hquant engine closed"
  | backtestCreated _ _ => "futures backtest created"
  | backtestClosed _ => "futures backtest closed"
  | unknownTag _ => "unknown signal action tag, decoding as HOLD"
  | overReported _ _ => "engine reported more signals than requested"
  | underReported _ _ => "signal queue shrank during drain"
  | drained _ => "drained signals"
  | moduleRegistration _ _ => "in-process engine module registration"
  | fallingBack _ => "in-process module unavailable, falling back to dylib"
  | loadingLibrary _ => "loading hquant library"
  | backendSelected _ _ => "hquant backend selected"

/-- The named values of the line, as text. -/
def fields : Notice → List (String × String)
  | handleAcquired label | handleReleased label => [("handle", label)]
  | engineCreated kind capacity => [("backend", kind.name), ("capacity", toString capacity)]
  | engineClosed kind | backtestClosed kind => [("backend", kind.name)]
  | backtestCreated kind params => [("backend", kind.name), ("params", params.describe)]
  | unknownTag signal =>
    [("strategy_id", toString signal.strategy), ("tag", toString signal.tag),
      ("timestamp", toString signal.timestamp)]
  | overReported queued copied | underReported queued copied =>
    [("queued", toString queued), ("copied", toString copied)]
  | drained copied => [("copied", toString copied)]
  | moduleRegistration name registered =>
    [("module", name), ("registered", toString registered)]
  | fallingBack reason => [("reason", reason.message)]
  | loadingLibrary path => [("path", path.shown)]
  | backendSelected kind origin => [("backend", kind.name), ("origin", origin)]

end Notice

/-! ## Events -/

/-- Which engine code a native call ran in: code linked into the program, code of a loaded library,
or a scripted engine. -/
inductive Site
  | linked
  | loaded
  | scripted
  deriving DecidableEq, Repr

/-- A trace that an operation leaves outside its state. -/
inductive Event
  | log (notice : Notice)
  | native (site : Site) (call : NativeCall)
  deriving DecidableEq

/-- The log line of an event, if it is one. -/
def Event.notice? : Event → Option Notice
  | log notice => some notice
  | native _ _ => none

/-- The native call of an event, if it is one that ran at `site`. -/
def Event.callAt? (site : Site) : Event → Option NativeCall
  | log _ => none
  | native s call => if s = site then some call else none

/-- The log lines among `events`. -/
def notices (events : List Event) : List Notice :=
  events.filterMap Event.notice?

/-- The native calls among `events` that ran at `site`. -/
def callsAt (site : Site) (events : List Event) : List NativeCall :=
  events.filterMap (Event.callAt? site)

/-! ## Operations -/

/-- The result of an operation: its answer, the state after it, and the events in order. -/
structure Outcome (σ α : Type) where
  answer : α
  state : σ
  events : List Event

/-- An operation on states of type `σ` that answers an `α`. -/
def Op (σ α : Type) : Type :=
  σ → Outcome σ α

namespace Op

variable {σ τ α β : Type}

/-- Runs the operation. -/
def run (op : Op σ α) (s : σ) : Outcome σ α :=
  op s

/-- Answers `a` and does nothing. -/
protected def pure (a : α) : Op σ α :=
  fun s => ⟨a, s, []⟩

/-- Runs `op`, then the operation that its answer gives. -/
protected def bind (op : Op σ α) (next : α → Op σ β) : Op σ β :=
  fun s =>
    let first := op s
    let second := next first.answer first.state
    ⟨second.answer, second.state, first.events ++ second.events⟩

/-- Runs `op` and applies `f` to its answer. -/
protected def map (f : α → β) (op : Op σ α) : Op σ β :=
  fun s =>
    let o := op s
    ⟨f o.answer, o.state, o.events⟩

instance : Monad (Op σ) where
  pure := Op.pure
  bind := Op.bind
  map := Op.map

/-- Answers the state. -/
def get : Op σ σ :=
  fun s => ⟨s, s, []⟩

/-- Replaces the state. -/
def set (s : σ) : Op σ Unit :=
  fun _ => ⟨(), s, []⟩

/-- Changes the state. -/
def modify (f : σ → σ) : Op σ Unit :=
  fun s => ⟨(), f s, []⟩

/-- Leaves one event. -/
def emit (event : Event) : Op σ Unit :=
  fun s => ⟨(), s, [event]⟩

/-- Leaves a log line. -/
def log (notice : Notice) : Op σ Unit :=
  emit (.log notice)

/-- Runs an operation that needs no state. -/
def lift (op : Op Unit α) : Op σ α :=
  fun s =>
    let o := op ()
    ⟨o.answer, s, o.events⟩

@[simp] theorem pure_apply (a : α) (s : σ) : (pure a : Op σ α) s = ⟨a, s, []⟩ := rfl

@[simp] theorem bind_apply (op : Op σ α) (next : α → Op σ β) (s : σ) :
    (op >>= next) s =
      ⟨(next (op s).answer (op s).state).answer, (next (op s).answer (op s).state).state,
        (op s).events ++ (next (op s).answer (op s).state).events⟩ := rfl

@[simp] theorem map_apply (f : α → β) (op : Op σ α) (s : σ) :
    (f <$> op) s = ⟨f (op s).answer, (op s).state, (op s).events⟩ := rfl

theorem bind_assoc_op {γ : Type} (x : Op σ α) (f : α → Op σ β) (g : β → Op σ γ) :
    x >>= f >>= g = x >>= fun a => f a >>= g := by
  funext s
  show Outcome.mk _ _ ((x s).events ++ (f _ _).events ++ (g _ _).events) = _
  rw [List.append_assoc]
  rfl

theorem bind_pure_comp_op (f : α → β) (x : Op σ α) :
    x >>= (fun a => pure (f a)) = f <$> x := by
  funext s
  show Outcome.mk _ _ ((x s).events ++ []) = _
  rw [List.append_nil]
  rfl

instance : LawfulMonad (Op σ) where
  map_const := rfl
  id_map _ := rfl
  seqLeft_eq x y := by
    funext s
    show Outcome.mk _ _ ((x s).events ++ ((y _).events ++ [])) = _
    rw [List.append_nil]
    rfl
  seqRight_eq x y := by
    funext s
    rfl
  pure_seq _ _ := rfl
  bind_pure_comp := bind_pure_comp_op
  bind_map _ _ := rfl
  pure_bind _ _ := rfl
  bind_assoc := bind_assoc_op

end Op

end MarketBridge
