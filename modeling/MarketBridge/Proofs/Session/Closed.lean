import MarketBridge.Proofs.Session.Called
import MarketBridge.Proofs.Session.Placed
import MarketBridge.Script

/-!
# `Session.Closed` — wrappers stay closed

A closed wrapper still says what it was made with and that it is closed, and closing it again does
nothing. Every other step fails: with the fault of its argument if an open wrapper would refuse that
too (`EngineStep.refusal?`, `BacktestStep.refusal?`), and otherwise because the wrapper is closed.
`EngineStep.closedAnswer` and `BacktestStep.closedAnswer` are the answers in full. No step leaves
anything else behind (`Engine.perform_of_closed`, `Backtest.perform_of_closed`), so that a run of a
session finds the wrapper as it was closed (`Session.closed_wrappers_stay_closed`).
-/

namespace MarketBridge

variable {ε β α : Type}

/-! ## What a closed engine answers -/

/-- The error of a step that is refused for its argument, before it matters whether the engine is
open. -/
def EngineStep.refusal? : EngineStep → Option Error
  | .addIndicator spec =>
    if spec.Acceptable then none else some (.invalidParameter (.invalidIndicator spec))
  | .addRsi period =>
    if period = 0 then some (.invalidParameter (.invalidIndicator (.rsi period))) else none
  | _ => none

/-- The answer of a closed engine that was made with the given kind and capacity. Pushing no bars is
no call. -/
def EngineStep.closedAnswer (kind : BackendKind) (capacity : UInt64) (buffer : List Signal) :
    EngineStep → Answer
  | .close => .done
  | .isClosed => .flag true
  | .capacity => .number capacity
  | .kind => .text kind.name
  | .describe =>
    .text (Text.record "HQuant"
      [("backend", kind.describe), ("capacity", toString capacity), ("closed", "true")])
  | .pushCloses _ [] => .done
  | .drain => .drained (.error (.precondition engineLabel)) buffer
  | step => .failed (step.refusal?.getD (.precondition engineLabel))

/-- A relative strength index is refused as the indicator that it is. -/
theorem EngineStep.refusal?_addRsi (period : UInt64) :
    (addRsi period).refusal? = (addIndicator (.rsi period)).refusal? := by
  have hrsi := IndicatorSpec.acceptable_rsi_iff period
  unfold refusal?
  dsimp only
  by_cases hzero : period = 0
  · rw [if_pos hzero, if_neg fun acceptable => hrsi.mp acceptable hzero]
  · rw [if_neg hzero, if_pos (hrsi.mpr hzero)]

namespace Engine

variable {e : Engine ε β} {error : Error}

/-- An operation that fails and does nothing else makes a step that fails and does nothing else. -/
theorem reply_of_failed {op : Op (Engine ε β) (Except Error α)} (h : op e = ⟨.error error, e, []⟩)
    (buffer : List Signal) (wrap : α → Answer) :
    reply buffer wrap op e = ⟨(.failed error, buffer), e, []⟩ := by
  unfold reply
  rw [Op.bind_apply, h]
  rfl

theorem addIndicator_of_refusal {spec : IndicatorSpec}
    (h : (EngineStep.addIndicator spec).refusal? = some error) (e : Engine ε β) :
    addIndicator spec e = ⟨.error error, e, []⟩ := by
  by_cases hspec : spec.Acceptable
  · rw [EngineStep.refusal?, if_pos hspec] at h
    cases h
  · rw [EngineStep.refusal?, if_neg hspec] at h
    cases h
    unfold addIndicator
    rw [IndicatorSpec.validate_of_not_acceptable hspec]
    rfl

/-- A step that is refused for its argument is so by every wrapper, and does nothing. -/
theorem perform_of_refusal {step : EngineStep} (h : step.refusal? = some error)
    (buffer : List Signal) (e : Engine ε β) :
    e.perform buffer step = ⟨(.failed error, buffer), e, []⟩ := by
  cases step with
  | addIndicator spec => exact reply_of_failed (addIndicator_of_refusal h e) buffer _
  | addRsi period =>
    rw [EngineStep.refusal?_addRsi] at h
    exact reply_of_failed (addIndicator_of_refusal h e) buffer _
  | _ => cases h

theorem invoke_of_closed (hclosed : e.isClosed = true) (c : EngineCall) :
    invoke c e = ⟨.error (.precondition engineLabel), e, []⟩ := by
  obtain ⟨link, kind, decode, capacity⟩ := e
  obtain rfl : link = none := Option.isNone_iff_eq_none.mp hclosed
  rfl

/-- The argument is looked at before the wrapper is found to be closed. -/
theorem addIndicator_of_closed (hclosed : e.isClosed = true) (spec : IndicatorSpec) :
    addIndicator spec e =
      ⟨.error ((EngineStep.addIndicator spec).refusal?.getD (.precondition engineLabel)), e,
        []⟩ := by
  cases hrefusal : (EngineStep.addIndicator spec).refusal? with
  | some error => exact addIndicator_of_refusal hrefusal e
  | none =>
    have acceptable : spec.Acceptable := by
      by_contra hspec
      rw [EngineStep.refusal?, if_neg hspec] at hrefusal
      cases hrefusal
    rw [addIndicator_of_acceptable acceptable]
    exact invoke_of_closed hclosed (.addIndicator spec)

/-- Every one of the bars fails, and the first failure is the answer. -/
theorem pushCloses_of_closed (hclosed : e.isClosed = true) (timestamp : Int64) (close : Double)
    (closes : List Double) :
    Session.pushCloses timestamp (close :: closes) e =
      ⟨.error (.precondition engineLabel), e, []⟩ := by
  induction closes generalizing timestamp close with
  | nil =>
    unfold Session.pushCloses pushBar
    rw [Op.bind_apply, invoke_of_closed hclosed]
    rfl
  | cons next rest ih =>
    unfold Session.pushCloses pushBar
    rw [Op.bind_apply, invoke_of_closed hclosed]
    dsimp only
    rw [Op.bind_apply, ih]
    rfl

/-- A closed engine answers as prescribed, and nothing else happens. -/
theorem perform_of_closed (hclosed : e.isClosed = true) (buffer : List Signal) (step : EngineStep) :
    e.perform buffer step = ⟨(step.closedAnswer e.kind e.capacity buffer, buffer), e, []⟩ := by
  cases step with
  | addIndicator spec => exact reply_of_failed (addIndicator_of_closed hclosed spec) buffer _
  | addRsi period =>
    unfold EngineStep.closedAnswer
    dsimp only
    rw [EngineStep.refusal?_addRsi]
    exact reply_of_failed (addIndicator_of_closed hclosed (.rsi period)) buffer _
  | pushCloses timestamp closes =>
    cases closes with
    | nil => rfl
    | cons close rest =>
      exact reply_of_failed (pushCloses_of_closed hclosed timestamp close rest) buffer _
  | _ =>
    -- the steps that make one call, or look at nothing but the wrapper
    obtain ⟨link, kind, decode, capacity⟩ := e
    obtain rfl : link = none := Option.isNone_iff_eq_none.mp hclosed
    rfl

/-- The wrapper was made with the given kind and capacity. -/
def MadeOf (kind : BackendKind) (capacity : UInt64) (e : Engine ε β) : Prop :=
  e.kind = kind ∧ e.capacity = capacity

theorem create_madeOf {bridge : Bridge ε β} {capacity : UInt64}
    (h : (create bridge capacity ()).answer = .ok e) : e.MadeOf bridge.backend.kind capacity := by
  unfold create at h
  by_cases zero : capacity = 0
  · rw [if_pos zero] at h
    cases h
  · rw [if_neg zero, Op.bind_apply] at h
    cases hmade : (bridge.backend.createEngine capacity ()).answer with
    | error error =>
      rw [hmade] at h
      cases h
    | ok l =>
      rw [hmade] at h
      cases h
      exact ⟨rfl, rfl⟩

theorem close_madeOf {kind : BackendKind} {capacity : UInt64} (h : e.MadeOf kind capacity) :
    (close e).state.MadeOf kind capacity ∧ (close e).state.isClosed = true := by
  obtain ⟨link, kind', decode, capacity'⟩ := e
  cases link with
  | none => exact ⟨h, rfl⟩
  | some l => exact ⟨h, rfl⟩

/-- No step changes what the wrapper was made with. -/
theorem perform_madeOf {kind : BackendKind} {capacity : UInt64} (e : Engine ε β)
    (buffer : List Signal) (step : EngineStep) (h : e.MadeOf kind capacity) :
    (e.perform buffer step).state.MadeOf kind capacity := by
  have calls : ∀ c, Op.Keeps (MadeOf kind capacity) (fun _ => True)
      (invoke c : Op (Engine ε β) _) := by
    rintro c ⟨link, kind', decode, capacity'⟩ hmade
    cases link with
    | none => exact ⟨hmade, fun _ _ => trivial⟩
    | some l => exact ⟨hmade, fun _ _ => trivial⟩
  by_cases hclose : step = .close
  · subst hclose
    exact (close_madeOf h).1
  · exact (perform_keeps (fun _ => trivial) calls buffer hclose e h).1

end Engine

/-! ## What a closed backtest answers -/

/-- The error of a step that is refused for its argument, before it matters whether the backtest is
open. -/
def BacktestStep.refusal? : BacktestStep → Option Error
  | .applySignal text _ _ =>
    if Action.spelled? text = none then some (.invalidAction text) else none
  | _ => none

/-- The answer of a closed backtest that was made with the given kind and parameters. -/
def BacktestStep.closedAnswer (kind : BackendKind) (params : BacktestParams) :
    BacktestStep → Answer
  | .close => .done
  | .isClosed => .flag true
  | .kind => .text kind.name
  | .describe =>
    .text (Text.record "FuturesBacktest"
      [("backend", kind.describe), ("params", params.describe), ("closed", "true")])
  | .params => .params params
  | step => .failed (step.refusal?.getD (.precondition backtestLabel))

namespace Backtest

variable {x : Backtest ε β}

/-- A step that is refused for its argument is so by every wrapper, and does nothing. -/
theorem perform_of_refusal {step : BacktestStep} {error : Error} (h : step.refusal? = some error)
    (x : Backtest ε β) : x.perform step = ⟨.failed error, x, []⟩ := by
  cases step with
  | applySignal text price margin =>
    unfold perform applySignal
    dsimp only
    rw [Action.parse_eq]
    cases hspelled : Action.spelled? text with
    | none =>
      rw [BacktestStep.refusal?, if_pos hspelled] at h
      cases h
      rfl
    | some action =>
      rw [BacktestStep.refusal?, if_neg (by simp [hspelled])] at h
      cases h
  | _ => cases h

/-- A closed backtest answers as prescribed, and nothing else happens. -/
theorem perform_of_closed (hclosed : x.isClosed = true) (step : BacktestStep) :
    x.perform step = ⟨step.closedAnswer x.kind x.params, x, []⟩ := by
  obtain ⟨link, kind, params⟩ := x
  obtain rfl : link = none := Option.isNone_iff_eq_none.mp hclosed
  cases step with
  | applySignal text price margin =>
    -- the text is read before the wrapper is found to be closed
    unfold perform applySignal BacktestStep.closedAnswer BacktestStep.refusal?
    dsimp only
    rw [Action.parse_eq]
    cases Action.spelled? text with
    | none => rfl
    | some action => rfl
  | _ => rfl

/-- The wrapper was made with the given kind and parameters. -/
def MadeOf (kind : BackendKind) (params : BacktestParams) (x : Backtest ε β) : Prop :=
  x.kind = kind ∧ x.params = params

theorem create_madeOf {bridge : Bridge ε β} {params : BacktestParams}
    (h : (create bridge params ()).answer = .ok x) : x.MadeOf bridge.backend.kind params := by
  unfold create at h
  cases hvalid : params.validate with
  | error error =>
    rw [hvalid] at h
    cases h
  | ok _ =>
    rw [hvalid] at h
    dsimp only at h
    rw [Op.bind_apply] at h
    cases hmade : (bridge.backend.createBacktest params ()).answer with
    | error error =>
      rw [hmade] at h
      cases h
    | ok l =>
      rw [hmade] at h
      cases h
      exact ⟨rfl, rfl⟩

theorem close_madeOf {kind : BackendKind} {params : BacktestParams} (h : x.MadeOf kind params) :
    (close x).state.MadeOf kind params ∧ (close x).state.isClosed = true := by
  obtain ⟨link, kind', params'⟩ := x
  cases link with
  | none => exact ⟨h, rfl⟩
  | some l => exact ⟨h, rfl⟩

/-- No step changes what the wrapper was made with. -/
theorem perform_madeOf {kind : BackendKind} {params : BacktestParams} (x : Backtest ε β)
    (step : BacktestStep) (h : x.MadeOf kind params) :
    (x.perform step).state.MadeOf kind params := by
  have calls : ∀ c, Op.Keeps (MadeOf kind params) (fun _ => True)
      (invoke c : Op (Backtest ε β) _) := by
    rintro c ⟨link, kind', params'⟩ hmade
    cases link with
    | none => exact ⟨hmade, fun _ _ => trivial⟩
    | some l => exact ⟨hmade, fun _ _ => trivial⟩
  by_cases hclose : step = .close
  · subst hclose
    exact (close_madeOf h).1
  · exact (perform_keeps calls hclose x h).1

end Backtest

/-! ## Sessions -/

namespace Session

variable {s : Session ε β} {slot : Nat}

/-- At the place there is a closed engine: every step on it is answered as prescribed, and leaves
the session as it is. -/
def EngineClosed (s : Session ε β) (slot : Nat) (kind : BackendKind) (capacity : UInt64) : Prop :=
  ∀ inner, advance (step (.engine slot inner)) s = (inner.closedAnswer kind capacity s.buffer, s)

/-- At the place there is a closed backtest. -/
def BacktestClosed (s : Session ε β) (slot : Nat) (kind : BackendKind) (params : BacktestParams) :
    Prop :=
  ∀ inner, advance (step (.backtest slot inner)) s = (inner.closedAnswer kind params, s)

/-- A step on an engine that does nothing but answer does not change the session. -/
theorem advance_engine (h : s.Ordered) {e : Engine ε β} (he : s.engines.get? slot = some e)
    {inner : EngineStep} {answer : Answer}
    (hstep : e.perform s.buffer inner = ⟨(answer, s.buffer), e, []⟩) :
    advance (step (.engine slot inner)) s = (answer, s) := by
  unfold advance
  rw [step_engine h he, hstep]
  dsimp only
  rw [h.engines.set_of_get? he, List.append_nil]

theorem advance_backtest (h : s.Ordered) {x : Backtest ε β} (hx : s.backtests.get? slot = some x)
    {inner : BacktestStep} {answer : Answer} (hstep : x.perform inner = ⟨answer, x, []⟩) :
    advance (step (.backtest slot inner)) s = (answer, s) := by
  unfold advance
  rw [step_backtest h hx, hstep]
  dsimp only
  rw [h.backtests.set_of_get? hx, List.append_nil]

/-- What a session shows of an engine that is closed in it after `opened`, from which on other steps
follow. -/
structure ClosesEngine (opened : Session ε β) (slot : Nat) (kind : BackendKind) (capacity : UInt64)
    (after : List Step) : Prop where
  /-- Before, the engine tells what it was made with. -/
  made : advance (step (.engine slot .kind)) opened = (.text kind.name, opened) ∧
    advance (step (.engine slot .capacity)) opened = (.number capacity, opened)
  /-- Before, too, steps are refused for their arguments. -/
  refused : ∀ inner error, inner.refusal? = some error →
    advance (step (.engine slot inner)) opened = (.failed error, opened)
  /-- However many steps follow, the engine is closed. -/
  closed : (run (.engine slot .close :: after) opened).2.EngineClosed slot kind capacity

/-- What a session shows of a backtest that is closed in it after `opened`, from which on other
steps follow. -/
structure ClosesBacktest (opened : Session ε β) (slot : Nat) (kind : BackendKind)
    (params : BacktestParams) (after : List Step) : Prop where
  /-- Before, the backtest tells what it was made with. -/
  made : advance (step (.backtest slot .kind)) opened = (.text kind.name, opened) ∧
    advance (step (.backtest slot .params)) opened = (.params params, opened)
  /-- Before, too, steps are refused for their arguments. -/
  refused : ∀ inner error, inner.refusal? = some error →
    advance (step (.backtest slot inner)) opened = (.failed error, opened)
  /-- However many steps follow, the backtest is closed. -/
  closed : (run (.backtest slot .close :: after) opened).2.BacktestClosed slot kind params

theorem closesEngine (h : s.Ordered) {e : Engine ε β} (he : s.engines.get? slot = some e)
    {kind : BackendKind} {capacity : UInt64} (hmade : e.MadeOf kind capacity) {after : List Step}
    (hspares : ∀ st ∈ after, st.sparesEngine slot = true) :
    s.ClosesEngine slot kind capacity after where
  made := by
    obtain ⟨rfl, rfl⟩ := hmade
    exact ⟨advance_engine h he rfl, advance_engine h he rfl⟩
  refused inner error hrefusal := advance_engine h he (Engine.perform_of_refusal hrefusal _ e)
  closed := by
    obtain ⟨⟨rfl, rfl⟩, hclosed⟩ := Engine.close_madeOf hmade
    have hordered := h.advance (.engine slot .close)
    have hplaced : (advance (step (.engine slot .close)) s).2.engines.get? slot =
        some (Engine.close e).state := by
      show (step (.engine slot .close) s).state.engines.get? slot = _
      rw [step_engine h he]
      exact Slots.get?_set_self _
    -- a step on a closed engine leaves it as it is
    have hkeeps : ∀ e' buffer inner, e' = (Engine.close e).state →
        (Engine.perform buffer inner e').state = (Engine.close e).state := by
      rintro e' buffer inner rfl
      rw [Engine.perform_of_closed hclosed]
    obtain ⟨e', he', rfl⟩ := run_keeps_engine hkeeps hordered hplaced rfl hspares
    exact fun inner => advance_engine (hordered.run after) he'
      (Engine.perform_of_closed hclosed _ inner)

theorem closesBacktest (h : s.Ordered) {x : Backtest ε β} (hx : s.backtests.get? slot = some x)
    {kind : BackendKind} {params : BacktestParams} (hmade : x.MadeOf kind params)
    {after : List Step} (hspares : ∀ st ∈ after, st.sparesBacktest slot = true) :
    s.ClosesBacktest slot kind params after where
  made := by
    obtain ⟨rfl, rfl⟩ := hmade
    exact ⟨advance_backtest h hx rfl, advance_backtest h hx rfl⟩
  refused inner error hrefusal := advance_backtest h hx (Backtest.perform_of_refusal hrefusal x)
  closed := by
    obtain ⟨⟨rfl, rfl⟩, hclosed⟩ := Backtest.close_madeOf hmade
    have hordered := h.advance (.backtest slot .close)
    have hplaced : (advance (step (.backtest slot .close)) s).2.backtests.get? slot =
        some (Backtest.close x).state := by
      show (step (.backtest slot .close) s).state.backtests.get? slot = _
      rw [step_backtest h hx]
      exact Slots.get?_set_self _
    have hkeeps : ∀ x' inner, x' = (Backtest.close x).state →
        (Backtest.perform inner x').state = (Backtest.close x).state := by
      rintro x' inner rfl
      rw [Backtest.perform_of_closed hclosed]
    obtain ⟨x', hx', rfl⟩ := run_keeps_backtest hkeeps hordered hplaced rfl hspares
    exact fun inner => advance_backtest (hordered.run after) hx'
      (Backtest.perform_of_closed hclosed inner)

/-! ### From making to closing -/

/-- At the place there is an engine as it was made, with the capacity, by a bridge of the kind. -/
def HoldsNewEngine (s : Session ε β) (slot : Nat) (kind : BackendKind) (capacity : UInt64) : Prop :=
  ∃ bridge e, bridge.backend.kind = kind ∧ (Engine.create bridge capacity ()).answer = .ok e ∧
    s.engines.get? slot = some e

/-- At the place there is a backtest as it was made, with the parameters, by a bridge of the
kind. -/
def HoldsNewBacktest (s : Session ε β) (slot : Nat) (kind : BackendKind) (params : BacktestParams) :
    Prop :=
  ∃ bridge x, bridge.backend.kind = kind ∧ (Backtest.create bridge params ()).answer = .ok x ∧
    s.backtests.get? slot = some x

/-- Every engine that a session makes is there as it was made. -/
theorem holdsNewEngine {capacity : UInt64}
    (h : (step (.newEngine slot capacity) s).answer = .done) :
    (step (.newEngine slot capacity) s).state.HoldsNewEngine slot s.bridge.backend.kind
      capacity := by
  cases hmade : (Engine.create s.bridge capacity ()).answer with
  | error error =>
    have hfailed : step (.newEngine slot capacity) s =
        ⟨.failed error, s, (Engine.create s.bridge capacity ()).events⟩ :=
      placeEngine_of_error hmade
    rw [hfailed] at h
    cases h
  | ok e => exact ⟨s.bridge, e, rfl, hmade, placed_newEngine hmade⟩

theorem holdsNewBacktest {params : BacktestParams}
    (h : (step (.newBacktest slot params) s).answer = .done) :
    (step (.newBacktest slot params) s).state.HoldsNewBacktest slot s.bridge.backend.kind
      params := by
  cases hmade : (Backtest.create s.bridge params ()).answer with
  | error error =>
    have hfailed : step (.newBacktest slot params) s =
        ⟨.failed error, s, (Backtest.create s.bridge params ()).events⟩ :=
      placeBacktest_of_error hmade
    rw [hfailed] at h
    cases h
  | ok x => exact ⟨s.bridge, x, rfl, hmade, placed_newBacktest hmade⟩

/-- **Closed wrappers stay closed.** In every session, and whatever happens before and after, an
engine or a backtest that was made and then closed answers at the boundary: it tells what it was
made with, it is closed, it refuses arguments as it did before, and fails in every other call. No
step on it changes it, the caller's buffer or anything else. -/
theorem closed_wrappers_stay_closed (host : Host ε β) (bridge : Bridge ε β)
    (before during after : List Step) (slot : Nat) :
    (∀ kind capacity, (run before (start host bridge)).2.HoldsNewEngine slot kind capacity →
      (∀ st ∈ during ++ after, st.sparesEngine slot = true) →
        (run during (run before (start host bridge)).2).2.ClosesEngine slot kind capacity after) ∧
      ∀ kind params, (run before (start host bridge)).2.HoldsNewBacktest slot kind params →
        (∀ st ∈ during ++ after, st.sparesBacktest slot = true) →
          (run during (run before (start host bridge)).2).2.ClosesBacktest slot kind params
            after := by
  have hordered := (ordered_start host bridge).run before
  constructor
  · rintro kind capacity ⟨made, e, rfl, hcreated, hplaced⟩ hspares
    obtain ⟨hduring, hafter⟩ := List.forall_mem_append.mp hspares
    obtain ⟨e', he', hmade⟩ := run_keeps_engine Engine.perform_madeOf hordered hplaced
      (Engine.create_madeOf hcreated) hduring
    exact closesEngine (hordered.run during) he' hmade hafter
  · rintro kind params ⟨made, x, rfl, hcreated, hplaced⟩ hspares
    obtain ⟨hduring, hafter⟩ := List.forall_mem_append.mp hspares
    obtain ⟨x', hx', hmade⟩ := run_keeps_backtest Backtest.perform_madeOf hordered hplaced
      (Backtest.create_madeOf hcreated) hduring
    exact closesBacktest (hordered.run during) hx' hmade hafter

end Session

/-! ## A scripted session -/

namespace Script

/-- A session on scripted engines inside the program. -/
def session : Session Script Script :=
  .start ⟨.unset "linux", none, fun _ => none⟩ ⟨.inProcess plain.engineModule, .strict⟩

/-- Parameters that no check refuses. -/
def params : BacktestParams :=
  ⟨1000.0, 10.0, 1.0, 0.0, 0.0, 0.5⟩

/-- Makes an engine and a backtest. -/
def making : List Step :=
  [.newEngine 0 4, .newBacktest 0 params]

/-- Uses them, with good and with bad arguments. -/
def working : List Step :=
  [.engine 0 (.addRsi 14), .engine 0 (.addRsi 0), .backtest 0 (.applySignal "up" 1.5 10.0)]

/-- Goes on after they have been closed: calls, a drain, another close, and another engine. -/
def goingOn : List Step :=
  [.engine 0 .len, .engine 0 .drain, .backtest 0 .close, .engine 0 .close, .newEngine 1 8,
    .backtest 0 (.result 1.5)]

theorem holdsNewEngine_making :
    (Session.run making session).2.HoldsNewEngine 0 .inProcess 4 := by
  have hmade : (Session.step (.newEngine 0 4) session).answer = .done := rfl
  obtain ⟨bridge, e, hkind, hcreated, hplaced⟩ := Session.holdsNewEngine hmade
  refine ⟨bridge, e, hkind, hcreated, ?_⟩
  have hsame := Session.placeBacktest_engines (i := 0)
    (s := (Session.advance (Session.step (.newEngine 0 4)) session).2)
    (Backtest.create session.bridge params)
  exact (congrArg (fun engines => engines.get? 0) hsame).trans hplaced

theorem holdsNewBacktest_making :
    (Session.run making session).2.HoldsNewBacktest 0 .inProcess params := by
  have hmade : (Session.step (.newBacktest 0 params)
      (Session.advance (Session.step (.newEngine 0 4)) session).2).answer = .done := by
    have acceptable : params.Acceptable := by decide +kernel
    have hcreated : (Backtest.create session.bridge params ()).answer =
        .ok ⟨some (.inProcess plain.engineModule plain), .inProcess, params⟩ := by
      unfold Backtest.create
      rw [BacktestParams.validate_of_acceptable acceptable]
      rfl
    exact congrArg Outcome.answer (Session.placeBacktest_of_ok hcreated)
  exact Session.holdsNewBacktest hmade

end Script

/-- They stay closed, and so the lengths and results that are asked for fail at the boundary. -/
theorem Script.wrappers_stay_closed :
    (Session.run making session).2.HoldsNewEngine 0 .inProcess 4 ∧
      (Session.run making session).2.HoldsNewBacktest 0 .inProcess params ∧
      (∀ st ∈ working ++ goingOn, st.sparesEngine 0 = true ∧ st.sparesBacktest 0 = true) ∧
      (Session.run working (Session.run making session).2).2.ClosesEngine 0 .inProcess 4 goingOn ∧
      (Session.run working (Session.run making session).2).2.ClosesBacktest 0 .inProcess params
        goingOn := by
  have hspares : ∀ st ∈ working ++ goingOn,
      st.sparesEngine 0 = true ∧ st.sparesBacktest 0 = true := by
    decide
  have hclosed := Session.closed_wrappers_stay_closed ⟨.unset "linux", none, fun _ => none⟩
    ⟨.inProcess plain.engineModule, .strict⟩ making working goingOn 0
  refine ⟨holdsNewEngine_making, holdsNewBacktest_making, hspares, ?_, ?_⟩
  · exact hclosed.1 _ _ holdsNewEngine_making fun st hst => (hspares st hst).1
  · exact hclosed.2 _ _ holdsNewBacktest_making fun st hst => (hspares st hst).2

end MarketBridge
