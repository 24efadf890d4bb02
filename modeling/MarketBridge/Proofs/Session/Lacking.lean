import MarketBridge.Proofs.Session.Called
import MarketBridge.Proofs.Session.Thinned
import MarketBridge.Proofs.Session.Through

/-!
# `Session.Lacking` — steps that need a symbol which the library lacks

`Session.lacks` is the symbol that a step needs and that the library behind its engine lacks. Such a
step fails by that symbol and does nothing else (`Session.step_of_lacks`). On wrappers that go
through tables no other step fails to resolve anything (`Session.step_resolves`), unless it selects
its backend.
-/

namespace MarketBridge

variable {ε β : Type}

/-! ## What a step needs -/

/-- The optional symbol without which the step cannot be carried out on an open engine. Indicators
that are refused need none. -/
def EngineStep.symbol? : EngineStep → Option OptionalSymbol
  | .addIndicator spec =>
    if spec.Acceptable then
      match spec with
      | .rsi _ => none
      | .sma _ => some .addSma
      | .ema _ => some .addEma
      | .stdDev _ => some .addStdDev
      | .boll _ _ => some .addBoll
      | .macd _ _ _ => some .addMacd
    else none
  | .raw field | .ordered field | .list field =>
    match field with
    | .opening => some .openColumn
    | .high => some .highColumn
    | .low => some .lowColumn
    | .close => none
    | .volume => some .volumeColumn
    | .buyVolume => some .buyVolumeColumn
  | .timestampsRaw | .timestampsOrdered => some .timestampColumn
  | _ => none

/-- It is the symbol that the call of the step needs. -/
theorem EngineStep.symbol?_eq (st : EngineStep) :
    st.symbol? = st.call?.bind EngineCall.symbol? := by
  cases st with
  | addIndicator spec =>
    unfold symbol? call?
    dsimp only
    by_cases acceptable : spec.Acceptable
    · rw [if_pos acceptable, if_pos acceptable, Option.bind_some]
      cases spec <;> rfl
    · rw [if_neg acceptable, if_neg acceptable]
      rfl
  | addRsi period =>
    show none = (if period = 0 then none else some (EngineCall.addIndicator (.rsi period))).bind _
    by_cases zero : period = 0
    · rw [if_pos zero]
      rfl
    · rw [if_neg zero]
      rfl
  | raw field => cases field <;> rfl
  | ordered field => cases field <;> rfl
  | list field => cases field <;> rfl
  | _ => rfl

/-! ## Calls -/

namespace Engine

variable {e : Engine ε β} {st : EngineStep} {c : EngineCall} {y : OptionalSymbol}

/-- The library behind the engine has the symbol of the call, if the call needs one and goes to a
library at all. -/
def Supports (e : Engine ε β) (c : EngineCall) : Prop :=
  ∀ b, e.backend? = some (.table b) → c.symbol?.all b.table.has = true

theorem supports_of_none (h : c.symbol? = none) : e.Supports c := by
  intro b _
  rw [h]
  rfl

/-- The symbol that the step needs and that the library behind the engine lacks. -/
def lacks (e : Engine ε β) (st : EngineStep) : Option OptionalSymbol :=
  match e.backend? with
  | some (.table b) => st.symbol?.filter fun y => !b.table.has y
  | _ => none

theorem lacks_of_table {b : TableBackend ε β} (hb : e.backend? = some (.table b)) :
    e.lacks st = st.symbol?.filter fun y => !b.table.has y := by
  unfold lacks
  rw [hb]

theorem exists_call_of_lacks (h : e.lacks st = some y) :
    ∃ b c, e.backend? = some (.table b) ∧ st.call? = some c ∧ c.symbol? = some y ∧
      ¬ b.table.has y = true := by
  have htable : ∃ b, e.backend? = some (.table b) := by
    unfold lacks at h
    split at h
    · exact ⟨_, ‹_›⟩
    · cases h
  obtain ⟨b, hb⟩ := htable
  rw [lacks_of_table hb, st.symbol?_eq] at h
  obtain ⟨hsymbol, hlacks⟩ := Option.filter_eq_some_iff.mp h
  obtain ⟨c, hc, hy⟩ := Option.bind_eq_some_iff.mp hsymbol
  exact ⟨b, c, hb, hc, hy, by simpa using hlacks⟩

theorem supports_of_lacks (h : e.lacks st = none) (hc : st.call? = some c) : e.Supports c := by
  intro b hb
  rw [lacks_of_table hb, st.symbol?_eq, hc, Option.bind_some] at h
  cases hy : c.symbol? with
  | none => rfl
  | some y =>
    rw [hy] at h
    simpa using h

theorem invoke_of_lacks (hlive : e.Live) {b : TableBackend ε β}
    (hb : e.backend? = some (.table b)) (hc : c.symbol? = some y)
    (hlacks : ¬ b.table.has y = true) :
    invoke c e = ⟨.error (TableBackend.missing y), e, []⟩ := by
  obtain ⟨link, kind, decode, capacity⟩ := e
  cases link with
  | none => cases hb
  | some l =>
    have live := hlive l rfl
    cases live with
    | inProcess m s => cases hb
    | table b' s =>
      obtain rfl : b' = b := Backend.table.inj (Option.some.inj hb)
      unfold invoke
      dsimp only
      rw [EngineLink.call_engineLink, TableBackend.engineCall_of_lacks hc hlacks]

/-- A step that needs a symbol which the library lacks fails by that symbol and does nothing
else. -/
theorem perform_of_lacks (hlive : e.Live) (h : e.lacks st = some y) (buffer : List Signal) :
    perform buffer st e = ⟨(.failed (TableBackend.missing y), buffer), e, []⟩ := by
  obtain ⟨b, c, hb, hcall, hc, hlacks⟩ := exists_call_of_lacks h
  obtain ⟨f, hf, hperform⟩ := perform_of_call (ε := ε) (β := β) hcall
  rw [hperform, Op.bind_apply, invoke_of_lacks hlive hb hc hlacks]
  dsimp only
  rw [hf.error]
  rfl

end Engine

/-! ## Wrappers on tables -/

/-- The backend is a table of symbols. -/
def Backend.IsTable (b : Backend ε β) : Prop :=
  ∃ t, b = .table t

namespace Engine

/-- The wrapper is closed or owns a live engine behind a table. -/
def OnTable (e : Engine ε β) : Prop :=
  e.Live ∧ ∀ b ∈ e.backend?, b.IsTable

variable {e : Engine ε β} {st : EngineStep} {c : EngineCall}

theorem OnTable.invoke (h : e.OnTable) (c : EngineCall) :
    (Engine.invoke c e).state.OnTable := by
  obtain ⟨backend, live⟩ := (invoke_crosses ⟨rfl, h.1⟩ c).state
  refine ⟨live, ?_⟩
  rw [backend]
  exact h.2

theorem invoke_resolves (h : e.OnTable) (hc : e.Supports c) :
    Resolves (invoke c e).answer := by
  obtain ⟨link, kind, decode, capacity⟩ := e
  cases link with
  | none => exact .error rfl
  | some l =>
    have live := h.1 l rfl
    cases live with
    | table b s => exact TableBackend.engineCall_resolves (hc b rfl) s
    | inProcess m s =>
      obtain ⟨t, ht⟩ := h.2 _ rfl
      cases ht

theorem pushCloses_resolves (h : e.OnTable) (timestamp : Int64) (closes : List Double) :
    Resolves (Session.pushCloses timestamp closes e).answer := by
  induction closes generalizing timestamp e with
  | nil => exact .ok ()
  | cons close rest ih =>
    have hfirst : Resolves (invoke (.pushBar (.flat timestamp close)) e).answer :=
      invoke_resolves h (supports_of_none rfl)
    have hothers := ih (h.invoke (.pushBar (.flat timestamp close))) (timestamp + 1)
    unfold Session.pushCloses
    rw [Op.bind_apply]
    dsimp only [pushBar]
    -- the first error is the answer, and without one that of the later bars
    cases hanswer : (invoke (.pushBar (.flat timestamp close)) e).answer with
    | error error => exact .error (hfirst error hanswer)
    | ok _ => exact hothers

theorem drain_resolves (h : e.OnTable) : Resolves (drain e).answer := by
  have hlen : Resolves (invoke .signalsLen e).answer := invoke_resolves h (supports_of_none rfl)
  show Resolves (Batch.drain invoke e.decode e).answer
  unfold Batch.drain
  rw [Op.bind_apply]
  dsimp only
  cases hqueued : (invoke .signalsLen e).answer with
  | error error => exact .error (hlen error hqueued)
  | ok queued =>
    dsimp only
    by_cases bare : queued = 0
    · rw [if_pos bare]
      exact .ok _
    · have hpoll : Resolves
          (invoke (.pollSignals queued) (invoke .signalsLen e).state).answer :=
        invoke_resolves (h.invoke .signalsLen) (supports_of_none rfl)
      rw [if_neg bare, Op.bind_apply]
      dsimp only
      cases hpolled : (invoke (.pollSignals queued) (invoke .signalsLen e).state).answer with
      | error error => exact .error (hpoll error hpolled)
      | ok poll => exact .ok _

/-- A step on an engine behind a table that lacks no symbol does not fail to resolve one. -/
theorem perform_resolves (h : e.OnTable) (hlacks : e.lacks st = none) (buffer : List Signal) :
    (perform buffer st e).answer.1.isResolution = false := by
  cases hst : st.call? with
  | some c =>
    obtain ⟨f, hf, hperform⟩ := perform_of_call (ε := ε) (β := β) hst
    have hcall := invoke_resolves h (supports_of_lacks hlacks hst)
    rw [hperform, Op.bind_apply]
    show (f (invoke c e).answer).isResolution = false
    -- an error of the call is passed on, and decoding adds none about the library
    cases hanswer : (invoke c e).answer with
    | error error =>
      rw [hf.error]
      exact hcall error hanswer
    | ok a => exact hf.ok a
  | none =>
    cases st with
    | pushCloses timestamp closes =>
      exact (pushCloses_resolves h timestamp closes).ofExcept fun _ => rfl
    | addIndicator spec =>
      have hrefused : Resolves (addIndicator spec e).answer := by
        rw [addIndicator_refused hst]
        exact .error rfl
      exact hrefused.ofExcept fun _ => rfl
    | addRsi period =>
      have hrefused : Resolves (addRsi period e).answer := by
        rw [addRsi_refused hst]
        exact .error rfl
      exact hrefused.ofExcept fun _ => rfl
    | poll =>
      exact ((drain_resolves h).bind fun batch => batch.signals_resolves).ofExcept fun _ => rfl
    | drain =>
      have hdrain := drain_resolves h
      show (Answer.drained (drainSignalsInto buffer e).answer.1 _).isResolution = false
      unfold drainSignalsInto
      rw [Op.bind_apply]
      dsimp only
      cases hdrained : (drain e).answer with
      | error error => exact hdrain error hdrained
      | ok batch =>
        have hcount := batch.count_resolves
        show (Answer.drained batch.count _).isResolution = false
        cases hcounted : batch.count with
        | error error => exact hcount error hcounted
        | ok count => rfl
    | close => rfl
    | isClosed => rfl
    | capacity => rfl
    | kind => rfl
    | describe => rfl
    | _ => cases hst

/-- Making an engine behind a table is no failure to resolve one. -/
theorem create_resolves {bridge : Bridge ε β} (h : bridge.backend.IsTable) (capacity : UInt64) :
    Resolves (create bridge capacity ()).answer := by
  obtain ⟨b, hb⟩ := h
  have hmade := Backend.createEngine_resolves b capacity
  unfold create
  by_cases zero : capacity = 0
  · rw [if_pos zero]
    exact .error rfl
  · rw [if_neg zero, Op.bind_apply, hb]
    cases hanswer : (Backend.createEngine capacity (.table b) ()).answer with
    | error error => exact .error (hmade error hanswer)
    | ok l => exact .ok _

end Engine

namespace Backtest

variable {x : Backtest ε β}

/-- Calls to a backtest behind a table need no symbol that the library may lack. -/
theorem invoke_resolves (hlive : x.Live) (htable : ∀ b ∈ x.backend?, b.IsTable)
    (c : BacktestCall) : Resolves (invoke c x).answer := by
  obtain ⟨link, kind, params⟩ := x
  cases link with
  | none => exact .error rfl
  | some l =>
    have live := hlive l rfl
    cases live with
    | table b s => exact .ok _
    | inProcess m s =>
      obtain ⟨t, ht⟩ := htable _ rfl
      cases ht

theorem perform_resolves (hlive : x.Live) (htable : ∀ b ∈ x.backend?, b.IsTable)
    (st : BacktestStep) : (perform st x).answer.isResolution = false := by
  have calls := invoke_resolves hlive htable
  cases st with
  | applySignal text price margin =>
    have happly : Resolves (applySignal text price margin x).answer := by
      unfold applySignal
      cases hparse : Action.parse text with
      | error error => exact .error (Action.parse_resolves text error hparse)
      | ok action => exact calls (.applySignal action.tag price margin)
    exact happly.ofExcept fun _ => rfl
  | apply action price margin =>
    exact (calls (.applySignal action.tag price margin)).ofExcept fun _ => rfl
  | onPrice price => exact (calls (.onPrice price)).ofExcept fun _ => rfl
  | result price =>
    have hresult := (calls (.result price)).bind BacktestResult.ofRaw_resolves
    exact hresult.ofExcept fun _ => rfl
  | _ => rfl

theorem create_resolves {bridge : Bridge ε β} (h : bridge.backend.IsTable)
    (params : BacktestParams) : Resolves (create bridge params ()).answer := by
  obtain ⟨b, hb⟩ := h
  have hmade := Backend.createBacktest_resolves b params
  unfold create
  cases hvalid : params.validate with
  | error error => exact .error (params.validate_resolves error hvalid)
  | ok _ =>
    dsimp only
    rw [Op.bind_apply, hb]
    cases hanswer : (Backend.createBacktest params (.table b) ()).answer with
    | error error => exact .error (hmade error hanswer)
    | ok l => exact .ok _

end Backtest

/-! ## Sessions -/

namespace Session

variable {s : Session ε β} {st : Step} {y : OptionalSymbol} {j : List Event}

/-- The optional symbol that the step needs, if the engine that it is about is open. -/
def needs (s : Session ε β) : Step → Option OptionalSymbol
  | .engine slot st =>
    (s.engines.get? slot).bind fun e => if e.isClosed then none else st.symbol?
  | _ => none

/-- The symbol that the step needs and that the library behind the engine lacks. -/
def lacks (s : Session ε β) : Step → Option OptionalSymbol
  | .engine slot st => (s.engines.get? slot).bind fun e => e.lacks st
  | _ => none

/-- If all wrappers go through the same table, a step lacks the symbols that it needs and that are
not in that table. -/
theorem lacks_eq_filter {b : TableBackend ε β} (h : s.Through (· = .table b)) (st : Step) :
    s.lacks st = (s.needs st).filter fun y => !b.table.has y := by
  cases st with
  | engine slot inner =>
    unfold lacks needs
    dsimp only
    cases there : s.engines.get? slot with
    | none => rfl
    | some e =>
      have hb := h.engines e (Slots.mem_toList_of_get? there)
      obtain ⟨link, kind, decode, capacity⟩ := e
      cases link with
      | none => rfl
      | some l => exact Engine.lacks_of_table (congrArg some (hb l.backend rfl))
  | _ => rfl

/-- **A step that lacks a symbol** fails by that symbol and does nothing else. -/
theorem step_of_lacks (hlive : s.Live j) (hordered : s.Ordered) (h : s.lacks st = some y) :
    step st s = ⟨.failed (TableBackend.missing y), s, []⟩ := by
  cases st with
  | engine slot inner =>
    obtain ⟨e, there, hlacks⟩ := Option.bind_eq_some_iff.mp h
    -- the wrapper is put back as it was
    have hsame := hordered.engines.set_of_get? there
    rw [step_engine hordered there,
      Engine.perform_of_lacks (hlive.engines e (Slots.mem_toList_of_get? there)) hlacks]
    dsimp only
    rw [hsame]
  | _ => cases h

theorem placeEngine_resolves {slot : Nat} {op : Op Unit (Except Error (Engine ε β))}
    (h : Resolves (op ()).answer) :
    ((Op.lift op >>= placeEngine slot) s).answer.isResolution = false := by
  cases hmade : (op ()).answer with
  | error error =>
    rw [placeEngine_of_error hmade]
    exact h error hmade
  | ok e =>
    rw [placeEngine_of_ok hmade]
    rfl

theorem placeBacktest_resolves {slot : Nat} {op : Op Unit (Except Error (Backtest ε β))}
    (h : Resolves (op ()).answer) :
    ((Op.lift op >>= placeBacktest slot) s).answer.isResolution = false := by
  cases hmade : (op ()).answer with
  | error error =>
    rw [placeBacktest_of_error hmade]
    exact h error hmade
  | ok x =>
    rw [placeBacktest_of_ok hmade]
    rfl

/-- **A step that lacks no symbol** does not fail to resolve anything, as long as all calls go
through tables. -/
theorem step_resolves (hlive : s.Live j) (hordered : s.Ordered)
    (hthrough : s.Through Backend.IsTable) (hlacks : s.lacks st = none)
    (hselects : st.selects = false) : (step st s).answer.isResolution = false := by
  cases st with
  | newEngine slot capacity =>
    exact placeEngine_resolves (Engine.create_resolves hthrough.bridge capacity)
  | newEngineFromEnvironment slot capacity => cases hselects
  | dropEngine slot =>
    cases there : s.engines.get? slot with
    | none =>
      rw [step_dropEngine_of_none there]
      rfl
    | some e =>
      rw [step_dropEngine there]
      rfl
  | engine slot inner =>
    cases there : s.engines.get? slot with
    | none =>
      rw [step_engine_of_none there]
      rfl
    | some e =>
      have hmem := Slots.mem_toList_of_get? there
      have hnone : (s.engines.get? slot).bind (fun e => e.lacks inner) = none := hlacks
      rw [there, Option.bind_some] at hnone
      rw [step_engine hordered there]
      exact Engine.perform_resolves ⟨hlive.engines e hmem, hthrough.engines e hmem⟩ hnone s.buffer
  | newBacktest slot params =>
    exact placeBacktest_resolves (Backtest.create_resolves hthrough.bridge params)
  | newBacktestFromEnvironment slot params => cases hselects
  | dropBacktest slot =>
    cases there : s.backtests.get? slot with
    | none =>
      rw [step_dropBacktest_of_none there]
      rfl
    | some x =>
      rw [step_dropBacktest there]
      rfl
  | backtest slot inner =>
    cases there : s.backtests.get? slot with
    | none =>
      rw [step_backtest_of_none there]
      rfl
    | some x =>
      have hmem := Slots.mem_toList_of_get? there
      rw [step_backtest hordered there]
      exact Backtest.perform_resolves (hlive.backtests x hmem) (hthrough.backtests x hmem) inner
  | _ => rfl

/-! ## Whole sessions -/

/-- The steps of a session, each marked as kept unless it lacks a symbol. -/
def supported : List Step → Session ε β → List (Step × Bool)
  | [], _ => []
  | st :: rest, s => (st, (s.lacks st).isNone) :: supported rest (advance (step st) s).2

theorem allSteps_supported (steps : List Step) (s : Session ε β) :
    allSteps (supported steps s) = steps := by
  induction steps generalizing s with
  | nil => rfl
  | cons next rest ih => exact congrArg (next :: ·) (ih _)

/-- Each step is marked by what it lacks when it is its turn. -/
theorem supported_marks (steps : List Step) (s : Session ε β) :
    ∀ done st kept, done ++ [(st, kept)] <+: supported steps s →
      kept = ((run (allSteps done) s).2.lacks st).isNone := by
  induction steps generalizing s with
  | nil =>
    intro done st kept hdone
    exact absurd (List.prefix_nil.mp hdone) (List.append_ne_nil_of_right_ne_nil _ nofun)
  | cons next rest ih =>
    intro done st kept hdone
    -- the first step is marked in `s`, the later ones in the session that it leads to
    cases done with
    | nil =>
      obtain ⟨hnext, -⟩ := List.cons_prefix_cons.mp hdone
      cases hnext
      rfl
    | cons first others =>
      obtain ⟨hfirst, hothers⟩ := List.cons_prefix_cons.mp hdone
      cases hfirst
      exact ih _ others st kept hothers

end Session

end MarketBridge
