import MarketBridge.Proofs.Journal.Keeps
import MarketBridge.Proofs.Session.Slots
import MarketBridge.Session.Run

/-!
# `Session.Perform` — a step on a wrapper, apart from the session around it

A step on an engine or on a backtest works on that wrapper and on nothing else of the session but
the signal buffer. `Engine.perform` and `Backtest.perform` are what it does there, and
`Session.step_engine` and `Session.step_backtest` say that the session takes over the answer, puts
the wrapper back in its place and keeps the events. Whatever every call keeps, every step but
closing keeps (`Engine.perform_keeps`, `Backtest.perform_keeps`). The other equations of this file
do the same for making, placing and dropping.
-/

namespace MarketBridge

variable {ε β α : Type}

open Op (Keeps)

/-! ## Steps on engines -/

namespace Engine

/-- Runs an operation on the wrapper; its answer as a session shows it, and the buffer as it is. -/
def reply (buffer : List Signal) (wrap : α → Answer) (op : Op (Engine ε β) (Except Error α)) :
    Op (Engine ε β) (Answer × List Signal) := do
  return (.ofExcept wrap (← op), buffer)

/-- What a step does to the wrapper: its answer, and the signal buffer after it. -/
def perform (buffer : List Signal) : EngineStep → Op (Engine ε β) (Answer × List Signal)
  | .close => do
    close
    return (.done, buffer)
  | .isClosed => do return (.flag (← Op.get).isClosed, buffer)
  | .capacity => do return (.number (← Op.get).capacity, buffer)
  | .kind => do return (.text (← Op.get).kind.name, buffer)
  | .describe => do return (.text (← Op.get).describe, buffer)
  | .len => reply buffer .number len
  | .isEmpty => reply buffer .flag isEmpty
  | .push bar => reply buffer (fun _ => .done) (pushBar bar)
  | .update bar => reply buffer (fun _ => .done) (updateLastBar bar)
  | .pushCloses timestamp closes =>
    reply buffer (fun _ => .done) (Session.pushCloses timestamp closes)
  | .addIndicator spec => reply buffer (fun id => .number id.toUInt64) (addIndicator spec)
  | .addRsi period => reply buffer (fun id => .number id.toUInt64) (addRsi period)
  | .addStrategy name text => reply buffer (fun id => .number id.toUInt64) (addStrategy name text)
  | .indicatorLast id => reply buffer .indicator (indicatorLast id)
  | .signalsLen => reply buffer .number signalsLen
  | .poll => reply buffer .signals pollSignals
  | .drain => do
    let (answer, after) ← drainSignalsInto buffer
    return (.drained answer after, after)
  | .raw field => reply buffer .rawFloats (rawView field)
  | .ordered field => reply buffer .orderedFloats (orderedView field)
  | .list field => reply buffer .floats (orderedList field)
  | .timestampsRaw => reply buffer .rawTimes timestampRawView
  | .timestampsOrdered => reply buffer .orderedTimes timestampOrderedView

section Keeps

variable {I : Engine ε β → Prop} {p : Event → Prop} (hlog : ∀ n, p (.log n))
  (hcall : ∀ c, Keeps I p (invoke c : Op (Engine ε β) _))

include hcall

theorem addIndicator_keeps (spec : IndicatorSpec) :
    Keeps I p (addIndicator spec : Op (Engine ε β) _) := by
  unfold addIndicator
  cases spec.validate with
  | error e => exact .pure _
  | ok _ => exact hcall _

theorem pushCloses_keeps (timestamp : Int64) (closes : List Double) :
    Keeps I p (Session.pushCloses timestamp closes : Op (Engine ε β) _) := by
  induction closes generalizing timestamp with
  | nil => exact .pure _
  | cons close rest ih =>
    refine .bind (hcall (.pushBar (.flat timestamp close))) fun first => ?_
    refine .bind (ih (timestamp + 1)) fun others => ?_
    cases first with
    | error e => exact .pure _
    | ok _ => exact .pure _

include hlog

theorem drain_keeps : Keeps I p (drain : Op (Engine ε β) _) :=
  .bind .get fun e => Batch.drain_keeps hlog hcall e.decode

theorem drainSignalsInto_keeps (buffer : List Signal) :
    Keeps I p (drainSignalsInto buffer : Op (Engine ε β) _) := by
  refine .bind (drain_keeps hlog hcall) fun answer => ?_
  cases answer with
  | error e => exact .pure _
  | ok batch => exact .pure _

/-- Every step but closing keeps what every call keeps. -/
theorem perform_keeps (buffer : List Signal) {st : EngineStep} (hst : st ≠ .close) :
    Keeps I p (perform buffer st : Op (Engine ε β) _) := by
  cases st with
  | close => exact absurd rfl hst
  | isClosed => exact Keeps.get.andThen _
  | capacity => exact Keeps.get.andThen _
  | kind => exact Keeps.get.andThen _
  | describe => exact Keeps.get.andThen _
  | len => exact (hcall .len).andThen _
  | isEmpty => exact ((hcall .len).andThen _).andThen _
  | push bar => exact (hcall (.pushBar bar)).andThen _
  | update bar => exact (hcall (.updateLastBar bar)).andThen _
  | pushCloses timestamp closes => exact (pushCloses_keeps hcall timestamp closes).andThen _
  | addIndicator spec => exact (addIndicator_keeps hcall spec).andThen _
  | addRsi period => exact (addIndicator_keeps hcall (.rsi period)).andThen _
  | addStrategy name text => exact (hcall (.addStrategy name text)).andThen _
  | indicatorLast id => exact ((hcall (.indicatorLast id)).andThen _).andThen _
  | signalsLen => exact (hcall .signalsLen).andThen _
  | poll => exact ((drain_keeps hlog hcall).andThen _).andThen _
  | drain => exact (drainSignalsInto_keeps hlog hcall buffer).bind fun _ => .pure _
  | raw field => exact ((hcall (.column field)).andThen _).andThen _
  | ordered field => exact (((hcall (.column field)).andThen _).andThen _).andThen _
  | list field => exact ((((hcall (.column field)).andThen _).andThen _).andThen _).andThen _
  | timestampsRaw => exact ((hcall .timestampColumn).andThen _).andThen _
  | timestampsOrdered => exact (((hcall .timestampColumn).andThen _).andThen _).andThen _

end Keeps

end Engine

/-! ## Steps on backtests -/

namespace Backtest

/-- Runs an operation on the wrapper; its answer as a session shows it. -/
def reply (wrap : α → Answer) (op : Op (Backtest ε β) (Except Error α)) :
    Op (Backtest ε β) Answer := do
  return .ofExcept wrap (← op)

/-- What a step does to the wrapper, and its answer. -/
def perform : BacktestStep → Op (Backtest ε β) Answer
  | .close => do
    close
    return .done
  | .isClosed => do return .flag (← Op.get).isClosed
  | .kind => do return .text (← Op.get).kind.name
  | .describe => do return .text (← Op.get).describe
  | .params => do return .params (← Op.get).params
  | .applySignal text price margin => reply (fun _ => .done) (applySignal text price margin)
  | .apply action price margin => reply (fun _ => .done) (apply action price margin)
  | .onPrice price => reply (fun _ => .done) (onPrice price)
  | .result price => reply .result (result price)

/-- Every step but closing keeps what every call keeps. -/
theorem perform_keeps {I : Backtest ε β → Prop} {p : Event → Prop}
    (hcall : ∀ c, Keeps I p (invoke c : Op (Backtest ε β) _)) {st : BacktestStep}
    (hst : st ≠ .close) : Keeps I p (perform st : Op (Backtest ε β) _) := by
  cases st with
  | close => exact absurd rfl hst
  | isClosed => exact Keeps.get.andThen _
  | kind => exact Keeps.get.andThen _
  | describe => exact Keeps.get.andThen _
  | params => exact Keeps.get.andThen _
  | applySignal text price margin =>
    refine .andThen _ ?_
    unfold applySignal
    cases Action.parse text with
    | error e => exact .pure _
    | ok action => exact hcall _
  | apply action price margin => exact (hcall _).andThen _
  | onPrice price => exact (hcall _).andThen _
  | result price => exact ((hcall (.result price)).andThen _).andThen _

end Backtest

/-! ## Steps of sessions -/

namespace Session

variable {s : Session ε β} {slot : Nat}

/-- The engines and the backtests stand in order. -/
structure Ordered (s : Session ε β) : Prop where
  engines : s.engines.Ordered
  backtests : s.backtests.Ordered

theorem ordered_start (host : Host ε β) (bridge : Bridge ε β) : (start host bridge).Ordered :=
  ⟨Slots.ordered_empty, Slots.ordered_empty⟩

theorem step_engine_of_none (h : s.engines.get? slot = none) (st : EngineStep) :
    step (.engine slot st) s = ⟨.noEngine, s, []⟩ := by
  unfold step
  simp only [Op.bind_apply, Op.get, h]
  rfl

theorem step_backtest_of_none (h : s.backtests.get? slot = none) (st : BacktestStep) :
    step (.backtest slot st) s = ⟨.noBacktest, s, []⟩ := by
  unfold step
  simp only [Op.bind_apply, Op.get, h]
  rfl

theorem step_engine_apply {e : Engine ε β} (he : s.engines.get? slot = some e) (st : EngineStep) :
    step (.engine slot st) s = engineStep slot e st s := by
  unfold step
  simp only [Op.bind_apply, Op.get, he]
  rfl

theorem step_backtest_apply {b : Backtest ε β} (hb : s.backtests.get? slot = some b)
    (st : BacktestStep) : step (.backtest slot st) s = backtestStep slot b st s := by
  unfold step
  simp only [Op.bind_apply, Op.get, hb]
  rfl

/-- A step on an engine is what it does to the wrapper, put back in its place. -/
theorem step_engine (h : s.Ordered) {e : Engine ε β} (he : s.engines.get? slot = some e)
    (st : EngineStep) :
    step (.engine slot st) s =
      ⟨(e.perform s.buffer st).answer.1,
        { s with
          engines := s.engines.set slot (e.perform s.buffer st).state
          buffer := (e.perform s.buffer st).answer.2 },
        (e.perform s.buffer st).events⟩ := by
  -- what only looks at the wrapper does not put it back
  have hsame : { s with engines := s.engines.set slot e } = s := by
    rw [h.engines.set_of_get? he]
  rw [step_engine_apply he]
  cases st with
  | isClosed => exact congrArg (Outcome.mk _ · _) hsame.symm
  | capacity => exact congrArg (Outcome.mk _ · _) hsame.symm
  | kind => exact congrArg (Outcome.mk _ · _) hsame.symm
  | describe => exact congrArg (Outcome.mk _ · _) hsame.symm
  | _ => rfl

theorem step_backtest (h : s.Ordered) {b : Backtest ε β} (hb : s.backtests.get? slot = some b)
    (st : BacktestStep) :
    step (.backtest slot st) s =
      ⟨(b.perform st).answer, { s with backtests := s.backtests.set slot (b.perform st).state },
        (b.perform st).events⟩ := by
  have hsame : { s with backtests := s.backtests.set slot b } = s := by
    rw [h.backtests.set_of_get? hb]
  rw [step_backtest_apply hb]
  cases st with
  | isClosed => exact congrArg (Outcome.mk _ · _) hsame.symm
  | kind => exact congrArg (Outcome.mk _ · _) hsame.symm
  | describe => exact congrArg (Outcome.mk _ · _) hsame.symm
  | params => exact congrArg (Outcome.mk _ · _) hsame.symm
  | _ => rfl

/-! ### Making, placing and dropping -/

theorem lift_bind {α : Type} (made : Op Unit α) (place : α → Op (Session ε β) Answer) :
    (Op.lift made >>= place) s =
      ⟨(place (made ()).answer s).answer, (place (made ()).answer s).state,
        (made ()).events ++ (place (made ()).answer s).events⟩ := rfl

/-- An engine that could not be made leaves the session as it is. -/
theorem placeEngine_of_error {made : Op Unit (Except Error (Engine ε β))} {error : Error}
    (h : (made ()).answer = .error error) :
    (Op.lift made >>= placeEngine slot) s = ⟨.failed error, s, (made ()).events⟩ := by
  rw [lift_bind, h]
  show Outcome.mk _ _ ((made ()).events ++ []) = _
  rw [List.append_nil]
  rfl

/-- A new engine takes its place, and what was there before is dropped after that. -/
theorem placeEngine_of_ok {made : Op Unit (Except Error (Engine ε β))} {e : Engine ε β}
    (h : (made ()).answer = .ok e) :
    (Op.lift made >>= placeEngine slot) s =
      ⟨.done, { s with engines := s.engines.set slot e },
        (made ()).events ++ (s.engines.get? slot).elim [] Engine.drop⟩ := by
  rw [lift_bind, h]
  show Outcome.mk _ _ ((made ()).events ++ ((s.engines.get? slot).elim [] Engine.drop ++ [])) = _
  rw [List.append_nil]
  rfl

/-- A backtest that could not be made leaves the session as it is. -/
theorem placeBacktest_of_error {made : Op Unit (Except Error (Backtest ε β))} {error : Error}
    (h : (made ()).answer = .error error) :
    (Op.lift made >>= placeBacktest slot) s = ⟨.failed error, s, (made ()).events⟩ := by
  rw [lift_bind, h]
  show Outcome.mk _ _ ((made ()).events ++ []) = _
  rw [List.append_nil]
  rfl

/-- A new backtest takes its place, and what was there before is dropped after that. -/
theorem placeBacktest_of_ok {made : Op Unit (Except Error (Backtest ε β))} {b : Backtest ε β}
    (h : (made ()).answer = .ok b) :
    (Op.lift made >>= placeBacktest slot) s =
      ⟨.done, { s with backtests := s.backtests.set slot b },
        (made ()).events ++ (s.backtests.get? slot).elim [] Backtest.drop⟩ := by
  rw [lift_bind, h]
  show Outcome.mk _ _
    ((made ()).events ++ ((s.backtests.get? slot).elim [] Backtest.drop ++ [])) = _
  rw [List.append_nil]
  rfl

theorem step_dropEngine_of_none (h : s.engines.get? slot = none) :
    step (.dropEngine slot) s = ⟨.flag false, s, []⟩ := by
  unfold step
  simp only [Op.bind_apply, Op.get, h]
  rfl

theorem step_dropEngine {e : Engine ε β} (h : s.engines.get? slot = some e) :
    step (.dropEngine slot) s =
      ⟨.flag true, { s with engines := s.engines.erase slot }, e.drop⟩ := by
  unfold step
  simp only [Op.bind_apply, Op.get, h]
  exact congrArg (Outcome.mk _ _) (List.append_nil e.drop)

theorem step_dropBacktest_of_none (h : s.backtests.get? slot = none) :
    step (.dropBacktest slot) s = ⟨.flag false, s, []⟩ := by
  unfold step
  simp only [Op.bind_apply, Op.get, h]
  rfl

theorem step_dropBacktest {b : Backtest ε β} (h : s.backtests.get? slot = some b) :
    step (.dropBacktest slot) s =
      ⟨.flag true, { s with backtests := s.backtests.erase slot }, b.drop⟩ := by
  unfold step
  simp only [Op.bind_apply, Op.get, h]
  exact congrArg (Outcome.mk _ _) (List.append_nil b.drop)

/-! ### Order is kept -/

theorem Ordered.placeEngine (h : s.Ordered) (made : Op Unit (Except Error (Engine ε β))) :
    ((Op.lift made >>= Session.placeEngine slot) s).state.Ordered := by
  cases hmade : (made ()).answer with
  | error error =>
    rw [placeEngine_of_error hmade]
    exact h
  | ok e =>
    rw [placeEngine_of_ok hmade]
    exact ⟨h.engines.set slot e, h.backtests⟩

theorem Ordered.placeBacktest (h : s.Ordered) (made : Op Unit (Except Error (Backtest ε β))) :
    ((Op.lift made >>= Session.placeBacktest slot) s).state.Ordered := by
  cases hmade : (made ()).answer with
  | error error =>
    rw [placeBacktest_of_error hmade]
    exact h
  | ok b =>
    rw [placeBacktest_of_ok hmade]
    exact ⟨h.engines, h.backtests.set slot b⟩

/-- Every step leaves the wrappers in order. -/
theorem Ordered.step (h : s.Ordered) (st : Step) : (Session.step st s).state.Ordered := by
  cases st with
  | newEngine slot capacity => exact h.placeEngine (Engine.create s.bridge capacity)
  | newEngineFromEnvironment slot capacity =>
    exact h.placeEngine (Engine.ofEnvironment s.host capacity)
  | dropEngine slot =>
    cases there : s.engines.get? slot with
    | none =>
      rw [step_dropEngine_of_none there]
      exact h
    | some e =>
      rw [step_dropEngine there]
      exact ⟨h.engines.erase slot, h.backtests⟩
  | engine slot st =>
    cases there : s.engines.get? slot with
    | none =>
      rw [step_engine_of_none there]
      exact h
    | some e =>
      rw [step_engine h there]
      exact ⟨h.engines.set slot _, h.backtests⟩
  | newBacktest slot params => exact h.placeBacktest (Backtest.create s.bridge params)
  | newBacktestFromEnvironment slot params =>
    exact h.placeBacktest (Backtest.ofEnvironment s.host params)
  | dropBacktest slot =>
    cases there : s.backtests.get? slot with
    | none =>
      rw [step_dropBacktest_of_none there]
      exact h
    | some b =>
      rw [step_dropBacktest there]
      exact ⟨h.engines, h.backtests.erase slot⟩
  | backtest slot st =>
    cases there : s.backtests.get? slot with
    | none =>
      rw [step_backtest_of_none there]
      exact h
    | some b =>
      rw [step_backtest h there]
      exact ⟨h.engines, h.backtests.set slot _⟩
  | buffer => exact h
  | clearBuffer => exact ⟨h.engines, h.backtests⟩
  | calls => exact ⟨h.engines, h.backtests⟩
  | counters => exact h

theorem Ordered.advance (h : s.Ordered) (st : Step) :
    (Session.advance (Session.step st) s).2.Ordered :=
  ⟨(h.step st).engines, (h.step st).backtests⟩

theorem Ordered.run (h : s.Ordered) (steps : List Step) : (Session.run steps s).2.Ordered := by
  induction steps generalizing s with
  | nil => exact h
  | cons next rest ih => exact ih (h.advance next)

end Session

end MarketBridge
