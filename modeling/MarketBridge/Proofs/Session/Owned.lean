import Mathlib.Data.List.Perm.Basic
import MarketBridge.Proofs.Session.Perform
import MarketBridge.Proofs.Session.Prescribed

/-!
# `Session.Owned` — who owns which native resource

A wrapper that is open owns one native engine or backtest, an `Allocation`. A constructor that
succeeds allocates one and hands it to the wrapper that it makes, and one that fails allocates
nothing (`Engine.create_builds`, `Backtest.create_builds`). Closing and dropping free what a wrapper
owns, and no other operation on it frees anything (`Engine.perform_frees_nothing`,
`Backtest.perform_frees_nothing`).
-/

namespace MarketBridge

open Op (Keeps)

variable {ε β : Type}

/-! ## What is freed -/

/-- A native resource, and where it lives. -/
inductive Allocation
  | engine (site : Site)
  | backtest (site : Site)
  deriving DecidableEq

/-- The resource that the event frees, if it frees one. -/
def Event.freed? : Event → Option Allocation
  | .native site .engineFree => some (.engine site)
  | .native site .backtestFree => some (.backtest site)
  | _ => none

/-- The resources that were freed, in order. -/
def freed (events : List Event) : List Allocation :=
  events.filterMap Event.freed?

@[simp] theorem freed_nil : freed [] = [] := rfl

@[simp] theorem freed_append (xs ys : List Event) : freed (xs ++ ys) = freed xs ++ freed ys :=
  List.filterMap_append ..

@[simp] theorem freed_cons_log (n : Notice) (events : List Event) :
    freed (.log n :: events) = freed events := rfl

theorem freed_eq_nil {events : List Event} (h : ∀ event ∈ events, event.freed? = none) :
    freed events = [] :=
  List.filterMap_eq_nil_iff.mpr h

namespace Counters

theorem engineFrees_foldl (calls : List NativeCall) (c : Counters) :
    (calls.foldl count c).engineFrees = c.engineFrees + calls.count .engineFree := by
  induction calls generalizing c with
  | nil => rfl
  | cons call rest ih =>
    rw [List.foldl_cons, ih, List.count_cons]
    unfold count
    split <;> simp <;> omega

theorem backtestFrees_foldl (calls : List NativeCall) (c : Counters) :
    (calls.foldl count c).backtestFrees = c.backtestFrees + calls.count .backtestFree := by
  induction calls generalizing c with
  | nil => rfl
  | cons call rest ih =>
    rw [List.foldl_cons, ih, List.count_cons]
    unfold count
    split <;> simp <;> omega

/-- The counter of freed engines counts those that lived in linked code. -/
theorem engineFrees_ofEvents (events : List Event) :
    (ofEvents events).engineFrees = (freed events).count (.engine .linked) := by
  unfold ofEvents freed callsAt
  rw [engineFrees_foldl, List.count_filterMap, List.count_filterMap]
  refine (Nat.zero_add _).trans (List.countP_congr fun event _ => ?_)
  obtain n | ⟨site, call⟩ := event
  · rfl
  · cases site <;> cases call <;> rfl

/-- The counter of freed backtests counts those that lived in linked code. -/
theorem backtestFrees_ofEvents (events : List Event) :
    (ofEvents events).backtestFrees = (freed events).count (.backtest .linked) := by
  unfold ofEvents freed callsAt
  rw [backtestFrees_foldl, List.count_filterMap, List.count_filterMap]
  refine (Nat.zero_add _).trans (List.countP_congr fun event _ => ?_)
  obtain n | ⟨site, call⟩ := event
  · rfl
  · cases site <;> cases call <;> rfl

end Counters

/-! ## What is owned -/

/-- What the wrapper owns: the native engine, as long as it is open. -/
def Engine.owned (e : Engine ε β) : List Allocation :=
  (e.backend?.map fun b => .engine b.site).toList

/-- What the wrapper owns: the native backtest, as long as it is open. -/
def Backtest.owned (b : Backtest ε β) : List Allocation :=
  (b.backend?.map fun b => .backtest b.site).toList

namespace Session

/-- What the wrappers of the session own. -/
def owned (s : Session ε β) : List Allocation :=
  s.engines.toList.flatMap Engine.owned ++ s.backtests.toList.flatMap Backtest.owned

/-- What the engine at a place owns. -/
def ownedByEngine (s : Session ε β) (slot : Nat) : List Allocation :=
  (s.engines.get? slot).toList.flatMap Engine.owned

/-- What the backtest at a place owns. -/
def ownedByBacktest (s : Session ε β) (slot : Nat) : List Allocation :=
  (s.backtests.get? slot).toList.flatMap Backtest.owned

end Session

theorem Engine.owned_of_closed {e : Engine ε β} (h : e.isClosed = true) : e.owned = [] := by
  unfold owned backend?
  rw [Option.isNone_iff_eq_none.mp h]
  rfl

theorem Backtest.owned_of_closed {b : Backtest ε β} (h : b.isClosed = true) : b.owned = [] := by
  unfold owned backend?
  rw [Option.isNone_iff_eq_none.mp h]
  rfl

/-! ## What is made -/

namespace Backend

/-- What the engine constructor allocates: nothing if it returns null. -/
def engineMade (capacity : UInt64) : Backend ε β → List Allocation
  | table b => (b.code.newEngine capacity).elim [] fun _ => [.engine b.code.site]
  | inProcess m => (m.newEngine capacity).elim [] fun _ => [.engine m.site]

/-- What the backtest constructor allocates: nothing if it returns null. -/
def backtestMade (params : BacktestParams) : Backend ε β → List Allocation
  | table b => (b.code.newBacktest params).elim [] fun _ => [.backtest b.code.site]
  | inProcess m => (m.newBacktest params).elim [] fun _ => [.backtest m.site]

end Backend

namespace Bridge

/-- What making an engine allocates; a capacity of zero does not reach the constructor. -/
def engineMade (bridge : Bridge ε β) (capacity : UInt64) : List Allocation :=
  if capacity = 0 then [] else bridge.backend.engineMade capacity

/-- What making a backtest allocates; parameters that are refused do not reach the constructor. -/
def backtestMade (bridge : Bridge ε β) (params : BacktestParams) : List Allocation :=
  if params.Acceptable then bridge.backend.backtestMade params else []

end Bridge

namespace Session

/-- What a step allocates. -/
def made (s : Session ε β) : Step → List Allocation
  | .newEngine _ capacity => s.bridge.engineMade capacity
  | .newEngineFromEnvironment _ capacity =>
    match s.environmentBridge with
    | .ok bridge => bridge.engineMade capacity
    | .error _ => []
  | .newBacktest _ params => s.bridge.backtestMade params
  | .newBacktestFromEnvironment _ params =>
    match s.environmentBridge with
    | .ok bridge => bridge.backtestMade params
    | .error _ => []
  | _ => []

/-- What a step frees: what the wrapper that is closed or dropped owns, or the wrapper whose place
is taken by one that could be made. -/
def released (s : Session ε β) : Step → List Allocation
  | .newEngine slot capacity =>
    if s.bridge.engineMade capacity = [] then [] else s.ownedByEngine slot
  | .newEngineFromEnvironment slot capacity =>
    if s.made (.newEngineFromEnvironment slot capacity) = [] then [] else s.ownedByEngine slot
  | .dropEngine slot | .engine slot .close => s.ownedByEngine slot
  | .newBacktest slot params =>
    if s.bridge.backtestMade params = [] then [] else s.ownedByBacktest slot
  | .newBacktestFromEnvironment slot params =>
    if s.made (.newBacktestFromEnvironment slot params) = [] then [] else s.ownedByBacktest slot
  | .dropBacktest slot | .backtest slot .close => s.ownedByBacktest slot
  | _ => []

/-- What the steps allocate, each in the state that the ones before it have led to. -/
def madeRun : List Step → Session ε β → List Allocation
  | [], _ => []
  | next :: rest, s => s.made next ++ madeRun rest (advance (step next) s).2

end Session

/-! ## Constructors -/

/-- A constructor frees nothing; if it fails nothing was made, and what it makes owns what was
made. -/
structure Builds {α : Type} (owned : α → List Allocation) (made : List Allocation)
    (o : Outcome Unit (Except Error α)) : Prop where
  freed : freed o.events = []
  error : ∀ e, o.answer = .error e → made = []
  ok : ∀ a, o.answer = .ok a → made ≠ [] ∧ owned a = made

namespace Builds

variable {α : Type} {owned : α → List Allocation} {made : List Allocation} {events : List Event}

theorem of_error {e : Error} (h : MarketBridge.freed events = []) :
    Builds owned [] ⟨.error e, (), events⟩ :=
  ⟨h, fun _ _ => rfl, fun _ h => nomatch h⟩

theorem of_ok {a : α} (h : MarketBridge.freed events = []) (howned : owned a = made)
    (hmade : made ≠ []) : Builds owned made ⟨.ok a, (), events⟩ := by
  refine ⟨h, fun _ h => (nomatch h), ?_⟩
  rintro a' ⟨⟩
  exact ⟨hmade, howned⟩

/-- Log lines and what else frees nothing may come before and after. -/
theorem after {before : List Event} {o : Outcome Unit (Except Error α)}
    (hbefore : MarketBridge.freed before = []) (h : Builds owned made o) :
    Builds owned made ⟨o.answer, o.state, before ++ o.events⟩ := by
  refine ⟨?_, h.error, h.ok⟩
  rw [freed_append, hbefore, h.freed, List.nil_append]

end Builds

theorem Backend.createEngine_builds (b : Backend ε β) (capacity : UInt64) :
    Builds (fun l => [.engine l.backend.site]) (b.engineMade capacity)
      (b.createEngine capacity ()) := by
  cases b with
  | table b =>
    rw [createEngine_table, engineMade]
    cases b.code.newEngine capacity with
    | none => exact .of_error rfl
    | some s => exact .of_ok rfl rfl (List.cons_ne_nil _ _)
  | inProcess m =>
    rw [createEngine_inProcess, engineMade]
    cases m.newEngine capacity with
    | none => exact .of_error rfl
    | some s => exact .of_ok rfl rfl (List.cons_ne_nil _ _)

theorem Backend.createBacktest_builds (b : Backend ε β) (params : BacktestParams) :
    Builds (fun l => [.backtest l.backend.site]) (b.backtestMade params)
      (b.createBacktest params ()) := by
  cases b with
  | table b =>
    rw [createBacktest_table, backtestMade]
    cases b.code.newBacktest params with
    | none => exact .of_error rfl
    | some s => exact .of_ok rfl rfl (List.cons_ne_nil _ _)
  | inProcess m =>
    rw [createBacktest_inProcess, backtestMade]
    cases m.newBacktest params with
    | none => exact .of_error rfl
    | some s => exact .of_ok rfl rfl (List.cons_ne_nil _ _)

theorem Engine.create_builds (bridge : Bridge ε β) (capacity : UInt64) :
    Builds owned (bridge.engineMade capacity) (create bridge capacity ()) := by
  unfold create Bridge.engineMade
  by_cases zero : capacity = 0
  · rw [if_pos zero, if_pos zero]
    exact .of_error rfl
  · rw [if_neg zero, if_neg zero, Op.bind_apply]
    obtain ⟨hfreed, herror, hok⟩ := bridge.backend.createEngine_builds capacity
    cases hmade : (bridge.backend.createEngine capacity ()).answer with
    | error e =>
      rw [herror e hmade]
      exact .after hfreed (.of_error rfl)
    | ok l =>
      obtain ⟨made, owned⟩ := hok l hmade
      exact .after hfreed (.of_ok rfl owned made)

theorem Backtest.create_builds (bridge : Bridge ε β) (params : BacktestParams) :
    Builds owned (bridge.backtestMade params) (create bridge params ()) := by
  unfold create Bridge.backtestMade
  by_cases hparams : params.Acceptable
  · rw [if_pos hparams, BacktestParams.validate_of_acceptable hparams]
    dsimp only
    rw [Op.bind_apply]
    obtain ⟨hfreed, herror, hok⟩ := bridge.backend.createBacktest_builds params
    cases hmade : (bridge.backend.createBacktest params ()).answer with
    | error e =>
      rw [herror e hmade]
      exact .after hfreed (.of_error rfl)
    | ok l =>
      obtain ⟨made, owned⟩ := hok l hmade
      exact .after hfreed (.of_ok rfl owned made)
  · obtain ⟨e, hrefused⟩ := BacktestParams.validate_of_not_acceptable hparams
    rw [if_neg hparams, hrefused]
    exact .of_error rfl

namespace Session

/-- Finding the bridge of the environment frees nothing. -/
theorem freed_ofEnvironment (host : Host ε β) :
    freed (Bridge.ofEnvironment host ()).events = [] := by
  have hkeeps := Bridge.ofEnvironment_keeps (I := fun _ => True) (p := fun e => e.freed? = none)
    (fun _ => rfl) host () trivial
  exact freed_eq_nil hkeeps.2

theorem engineOfEnvironment_builds (s : Session ε β) (slot : Nat) (capacity : UInt64) :
    Builds Engine.owned (s.made (.newEngineFromEnvironment slot capacity))
      (Engine.ofEnvironment s.host capacity ()) := by
  have hfound := freed_ofEnvironment s.host
  unfold Engine.ofEnvironment made environmentBridge
  rw [Op.bind_apply]
  dsimp only
  cases (Bridge.ofEnvironment s.host ()).answer with
  | error e => exact .after hfound (.of_error rfl)
  | ok bridge => exact .after hfound (Engine.create_builds bridge capacity)

theorem backtestOfEnvironment_builds (s : Session ε β) (slot : Nat) (params : BacktestParams) :
    Builds Backtest.owned (s.made (.newBacktestFromEnvironment slot params))
      (Backtest.ofEnvironment s.host params ()) := by
  have hfound := freed_ofEnvironment s.host
  unfold Backtest.ofEnvironment made environmentBridge
  rw [Op.bind_apply]
  dsimp only
  cases (Bridge.ofEnvironment s.host ()).answer with
  | error e => exact .after hfound (.of_error rfl)
  | ok bridge => exact .after hfound (Backtest.create_builds bridge params)

end Session

/-! ## Wrappers -/

theorem EngineLink.Live.freed_drop {l : EngineLink ε β} (h : l.Live) :
    freed l.drop = [.engine l.backend.site] := by
  cases h <;> rfl

theorem BacktestLink.Live.freed_drop {l : BacktestLink ε β} (h : l.Live) :
    freed l.drop = [.backtest l.backend.site] := by
  cases h <;> rfl

theorem Failure.settle_freed {σ α : Type} (answer : Except Failure α) (s : σ) :
    ∀ event ∈ (Failure.settle answer s).events, event.freed? = none := by
  intro event hmem
  cases answer with
  | ok a => exact absurd hmem List.not_mem_nil
  | error f =>
    obtain ⟨n, -, rfl⟩ := List.mem_map.mp hmem
    rfl

theorem EngineLink.Live.call_freed {l : EngineLink ε β} (h : l.Live) (c : EngineCall) :
    ∀ event ∈ (EngineLink.call c l).events, event.freed? = none := by
  intro event hmem
  cases h with
  | table b s =>
    rw [call_engineLink, b.engineCall_events] at hmem
    obtain ⟨c', -, rfl⟩ := List.mem_map.mp hmem
    rfl
  | inProcess m s =>
    rw [call_inProcess] at hmem
    rcases List.mem_cons.mp hmem with rfl | warned
    · rfl
    · exact Failure.settle_freed _ _ event warned

theorem BacktestLink.Live.call_freed {l : BacktestLink ε β} (h : l.Live) (c : BacktestCall) :
    ∀ event ∈ (BacktestLink.call c l).events, event.freed? = none := by
  intro event hmem
  cases h with
  | table b s =>
    obtain rfl : event = .native b.code.site (.backtest c) := List.mem_singleton.mp hmem
    rfl
  | inProcess m s =>
    rw [call_inProcess] at hmem
    rcases List.mem_cons.mp hmem with rfl | warned
    · rfl
    · exact Failure.settle_freed _ _ event warned

namespace Engine

variable {e : Engine ε β}

theorem freed_drop (h : e.Live) : freed e.drop = e.owned := by
  obtain ⟨link, kind, decode, capacity⟩ := e
  cases link with
  | none => rfl
  | some l => exact (h l rfl).freed_drop

theorem freed_close (h : e.Live) : freed (close e).events = e.owned := by
  obtain ⟨link, kind, decode, capacity⟩ := e
  cases link with
  | none => rfl
  | some l =>
    show freed (l.drop ++ [.log (.engineClosed kind)]) = _
    rw [freed_append, (h l rfl).freed_drop]
    rfl

theorem owned_close (e : Engine ε β) : (close e).state.owned = [] := by
  obtain ⟨link, kind, decode, capacity⟩ := e
  cases link with
  | none => rfl
  | some l => rfl

theorem invoke_keeps_owner (o : Option (Backend ε β)) (c : EngineCall) :
    Keeps (At o) (fun event => event.freed? = none) (invoke c : Op (Engine ε β) _) := by
  intro e h
  refine ⟨(invoke_crosses h c).state, ?_⟩
  obtain ⟨link, kind, decode, capacity⟩ := e
  cases link with
  | none => exact fun _ hmem => absurd hmem List.not_mem_nil
  | some l => exact (h.2 l rfl).call_freed c

/-- A step that does not close the wrapper frees nothing and leaves it what it owns. -/
theorem perform_frees_nothing (h : e.Live) (buffer : List Signal) {st : EngineStep}
    (hst : st ≠ .close) :
    freed (perform buffer st e).events = [] ∧ (perform buffer st e).state.owned = e.owned := by
  obtain ⟨⟨backend, -⟩, events⟩ := perform_keeps (I := At e.backend?)
    (p := fun event => event.freed? = none) (fun _ => rfl) (invoke_keeps_owner _) buffer hst e
    ⟨rfl, h⟩
  refine ⟨freed_eq_nil events, ?_⟩
  unfold owned
  rw [backend]

end Engine

namespace Backtest

variable {b : Backtest ε β}

theorem freed_drop (h : b.Live) : freed b.drop = b.owned := by
  obtain ⟨link, kind, params⟩ := b
  cases link with
  | none => rfl
  | some l => exact (h l rfl).freed_drop

theorem freed_close (h : b.Live) : freed (close b).events = b.owned := by
  obtain ⟨link, kind, params⟩ := b
  cases link with
  | none => rfl
  | some l =>
    show freed (l.drop ++ [.log (.backtestClosed kind)]) = _
    rw [freed_append, (h l rfl).freed_drop]
    rfl

theorem owned_close (b : Backtest ε β) : (close b).state.owned = [] := by
  obtain ⟨link, kind, params⟩ := b
  cases link with
  | none => rfl
  | some l => rfl

theorem invoke_keeps_owner (o : Option (Backend ε β)) (c : BacktestCall) :
    Keeps (fun b : Backtest ε β => b.backend? = o ∧ b.Live) (fun event => event.freed? = none)
      (invoke c) := by
  rintro ⟨link, kind, params⟩ ⟨rfl, hlive⟩
  cases link with
  | none => exact ⟨⟨rfl, hlive⟩, fun _ hmem => absurd hmem List.not_mem_nil⟩
  | some l =>
    obtain ⟨-, live, backend⟩ := BacktestLink.call_crosses (hlive l rfl) c
    refine ⟨⟨congrArg some backend, ?_⟩, (hlive l rfl).call_freed c⟩
    rintro l' ⟨⟩
    exact live

/-- A step that does not close the wrapper frees nothing and leaves it what it owns. -/
theorem perform_frees_nothing (h : b.Live) {st : BacktestStep} (hst : st ≠ .close) :
    freed (perform st b).events = [] ∧ (perform st b).state.owned = b.owned := by
  obtain ⟨⟨backend, -⟩, events⟩ := perform_keeps (I := fun x => x.backend? = b.backend? ∧ x.Live)
    (p := fun event => event.freed? = none) (invoke_keeps_owner _) hst b ⟨rfl, h⟩
  refine ⟨freed_eq_nil events, ?_⟩
  unfold owned
  rw [backend]

end Backtest

end MarketBridge
