import MarketBridge.Proofs.Selector
import MarketBridge.Proofs.Session.Slots
import MarketBridge.Session.Run

/-!
# `Session.Prescribed` — exactly the validated calls cross

What a step makes cross is prescribed by its arguments and by the wrapper it is about, before it is
carried out: nothing for a closed wrapper, for arguments that are refused and for what only reads
the wrapper, else one native call with the arguments of the step, and a poll after a length that is
not zero (`Session.prescribed`). `Session.step_crosses` says that a step keeps to that, and
`Session.crossings_run` that a whole session does.
-/

namespace MarketBridge

open Outcome

variable {ε β : Type}

/-! ## What is prescribed for wrappers -/

namespace Engine

/-- The way that the calls of an open wrapper travel. -/
def backend? (e : Engine ε β) : Option (Backend ε β) :=
  e.link.map EngineLink.backend

/-- What a call makes cross; nothing if the wrapper is closed. -/
def crossing (e : Engine ε β) (c : EngineCall) : List Event :=
  e.backend?.elim [] fun b => b.crossing c

/-- What a drain makes cross: the question for the length, and one poll for that many signals if
that is answered by a number that is not zero. -/
def drainCrossing (e : Engine ε β) : List Event :=
  e.crossing .signalsLen ++
    Batch.pollAfter (fun queued => e.crossing (.pollSignals queued)) e.signalsLen.answer

/-- The bars that stay at the given closes, one time unit apart. -/
def flatBars (timestamp : Int64) : List Double → List Bar
  | [] => []
  | close :: rest => .flat timestamp close :: flatBars (timestamp + 1) rest

/-- What a step on the wrapper makes cross. -/
def prescribed (e : Engine ε β) : EngineStep → List Event
  | .close | .isClosed | .capacity | .kind | .describe => []
  | .len | .isEmpty => e.crossing .len
  | .push bar => e.crossing (.pushBar bar)
  | .update bar => e.crossing (.updateLastBar bar)
  | .pushCloses timestamp closes =>
    (flatBars timestamp closes).flatMap fun bar => e.crossing (.pushBar bar)
  | .addIndicator spec => if spec.Acceptable then e.crossing (.addIndicator spec) else []
  | .addRsi period => if period = 0 then [] else e.crossing (.addIndicator (.rsi period))
  | .addStrategy name text => e.crossing (.addStrategy name text)
  | .indicatorLast id => e.crossing (.indicatorLast id)
  | .signalsLen => e.crossing .signalsLen
  | .poll | .drain => e.drainCrossing
  | .raw field | .ordered field | .list field => e.crossing (.column field)
  | .timestampsRaw | .timestampsOrdered => e.crossing .timestampColumn

end Engine

namespace Backtest

/-- The way that the calls of an open wrapper travel. -/
def backend? (b : Backtest ε β) : Option (Backend ε β) :=
  b.link.map BacktestLink.backend

/-- What a call makes cross; nothing if the wrapper is closed. -/
def crossing (b : Backtest ε β) (c : BacktestCall) : List Event :=
  b.backend?.elim [] fun backend => backend.backtestCrossing c

/-- What a step on the wrapper makes cross. -/
def prescribed (b : Backtest ε β) : BacktestStep → List Event
  | .close | .isClosed | .kind | .describe | .params => []
  | .applySignal text price margin =>
    (Action.tagSpelled? text).elim [] fun tag => b.crossing (.applySignal tag price margin)
  | .apply .buy price margin => b.crossing (.applySignal 1 price margin)
  | .apply .sell price margin => b.crossing (.applySignal 2 price margin)
  | .apply .hold price margin => b.crossing (.applySignal 3 price margin)
  | .onPrice price => b.crossing (.onPrice price)
  | .result price => b.crossing (.result price)

end Backtest

theorem Engine.prescribed_addIndicator {e : Engine ε β} {spec : IndicatorSpec}
    (h : spec.Acceptable) :
    e.prescribed (.addIndicator spec) = e.crossing (.addIndicator spec) := by
  rw [prescribed, if_pos h]

theorem Engine.prescribed_addRsi {e : Engine ε β} {period : UInt64}
    (h : (IndicatorSpec.rsi period).Acceptable) :
    e.prescribed (.addRsi period) = e.crossing (.addIndicator (.rsi period)) := by
  rw [prescribed, if_neg ((IndicatorSpec.acceptable_rsi_iff period).mp h)]

/-- Nothing crosses for a closed wrapper. -/
theorem Engine.prescribed_of_closed {e : Engine ε β} (h : e.isClosed = true) (st : EngineStep) :
    e.prescribed st = [] := by
  obtain ⟨link, kind, decode, capacity⟩ := e
  obtain rfl : link = none := Option.isNone_iff_eq_none.mp h
  cases st with
  | pushCloses timestamp closes => exact List.flatMap_eq_nil_iff.mpr fun _ _ => rfl
  | addIndicator spec =>
    show (if spec.Acceptable then ([] : List Event) else []) = []
    rw [ite_self]
  | addRsi period =>
    show (if period = 0 then ([] : List Event) else []) = []
    rw [ite_self]
  | _ => rfl

theorem Backtest.prescribed_of_closed {b : Backtest ε β} (h : b.isClosed = true)
    (st : BacktestStep) : b.prescribed st = [] := by
  obtain ⟨link, kind, params⟩ := b
  obtain rfl : link = none := Option.isNone_iff_eq_none.mp h
  cases st with
  | applySignal text price margin =>
    unfold prescribed
    dsimp only
    cases Action.tagSpelled? text with
    | none => rfl
    | some tag => rfl
  | apply action price margin => cases action <;> rfl
  | _ => rfl

/-! ## What is prescribed for sessions -/

/-- What making an engine makes cross. -/
def Bridge.engineCrossing (bridge : Bridge ε β) (capacity : UInt64) : List Event :=
  if capacity = 0 then [] else [.native bridge.backend.site (.engineNew capacity)]

/-- What making a backtest makes cross. -/
def Bridge.backtestCrossing (bridge : Bridge ε β) (params : BacktestParams) : List Event :=
  if params.Acceptable then [.native bridge.backend.site (.backtestNew params)] else []

namespace Session

/-- The bridge that the environment of the session describes, if there is one. -/
def environmentBridge (s : Session ε β) : Except Error (Bridge ε β) :=
  (Bridge.ofEnvironment s.host ()).answer

/-- What a step makes cross. -/
def prescribed (s : Session ε β) : Step → List Event
  | .newEngine _ capacity => s.bridge.engineCrossing capacity
  | .newEngineFromEnvironment _ capacity =>
    match s.environmentBridge with
    | .ok bridge => bridge.engineCrossing capacity
    | .error _ => []
  | .engine slot step => (s.engines.get? slot).elim [] fun e => e.prescribed step
  | .newBacktest _ params => s.bridge.backtestCrossing params
  | .newBacktestFromEnvironment _ params =>
    match s.environmentBridge with
    | .ok bridge => bridge.backtestCrossing params
    | .error _ => []
  | .backtest slot step => (s.backtests.get? slot).elim [] fun b => b.prescribed step
  | .dropEngine _ | .dropBacktest _ | .buffer | .clearBuffer | .calls | .counters => []

/-- What the steps make cross, each in the state that the ones before it have led to. -/
def prescribedRun : List Step → Session ε β → List Event
  | [], _ => []
  | next :: rest, s => s.prescribed next ++ prescribedRun rest (advance (step next) s).2

end Session

/-! ## Wrappers keep to it -/

namespace Engine

/-- The wrapper is closed or owns a live link. -/
def Live (e : Engine ε β) : Prop :=
  ∀ l ∈ e.link, l.Live

/-- The calls of the wrapper travel by `o`, by nothing if it is closed, and what it owns is live. -/
def At (o : Option (Backend ε β)) (e : Engine ε β) : Prop :=
  e.backend? = o ∧ e.Live

variable {o : Option (Backend ε β)} {e : Engine ε β}

theorem invoke_crosses (h : e.At o) (c : EngineCall) :
    Crosses (At o) (o.elim [] fun b => b.crossing c) (invoke c e) := by
  obtain ⟨link, kind, decode, capacity⟩ := e
  obtain ⟨rfl, hlive⟩ := h
  cases link with
  | none => exact ⟨rfl, rfl, hlive⟩
  | some l =>
    obtain ⟨crossed, live, backend⟩ := EngineLink.call_crosses (hlive l rfl) c
    refine ⟨crossed, congrArg some backend, ?_⟩
    rintro l' ⟨⟩
    exact live

theorem addIndicator_crosses (h : e.At o) (spec : IndicatorSpec) :
    Crosses (At o)
      (if spec.Acceptable then o.elim [] fun b => b.crossing (.addIndicator spec) else [])
      (addIndicator spec e) := by
  unfold addIndicator
  by_cases hspec : spec.Acceptable
  · rw [if_pos hspec, IndicatorSpec.validate_of_acceptable hspec]
    exact invoke_crosses h (.addIndicator spec)
  · rw [if_neg hspec, IndicatorSpec.validate_of_not_acceptable hspec]
    exact .pure h

theorem addRsi_crosses (h : e.At o) (period : UInt64) :
    Crosses (At o)
      (if period = 0 then [] else o.elim [] fun b => b.crossing (.addIndicator (.rsi period)))
      (addRsi period e) := by
  have hadd := addIndicator_crosses h (.rsi period)
  by_cases zero : period = 0
  · rw [if_neg fun hspec => (IndicatorSpec.acceptable_rsi_iff period).mp hspec zero] at hadd
    rw [if_pos zero]
    exact hadd
  · rw [if_pos ((IndicatorSpec.acceptable_rsi_iff period).mpr zero)] at hadd
    rw [if_neg zero]
    exact hadd

theorem drain_crosses (h : e.At o) : Crosses (At o) e.drainCrossing e.drain := by
  have hbackend := h.1
  show Crosses (At o) _ (Batch.drain invoke e.decode e)
  unfold drainCrossing crossing
  rw [hbackend]
  exact Batch.drain_crosses e.decode (invoke_crosses h .signalsLen)
    fun queued _ hu => invoke_crosses hu (.pollSignals queued)

theorem drainSignalsInto_crosses (h : e.At o) (buffer : List Signal) :
    Crosses (At o) e.drainCrossing (e.drainSignalsInto buffer) := by
  rw [← List.append_nil e.drainCrossing]
  refine .bind (drain_crosses h) fun hdrained => ?_
  cases e.drain.answer with
  | error error => exact .pure hdrained
  | ok batch => exact .pure hdrained

/-- Every bar is pushed, also after one that failed. -/
theorem pushCloses_crosses (h : e.At o) (timestamp : Int64) (closes : List Double) :
    Crosses (At o)
      ((flatBars timestamp closes).flatMap fun bar => o.elim [] fun b => b.crossing (.pushBar bar))
      (Session.pushCloses timestamp closes e) := by
  induction closes generalizing timestamp e with
  | nil => exact .pure h
  | cons close rest ih =>
    rw [flatBars, List.flatMap_cons]
    refine .bind (invoke_crosses h (.pushBar (.flat timestamp close))) fun hpushed => ?_
    -- which of the answers is passed on makes no difference to what crosses
    rw [← List.append_nil (List.flatMap _ _)]
    refine .bind (ih hpushed (timestamp + 1)) fun hothers => ?_
    cases (pushBar (.flat timestamp close) e).answer with
    | error error => exact .pure hothers
    | ok _ => exact .pure hothers

/-- Closing frees, which is no crossing. -/
theorem close_crosses (h : e.Live) : Crosses Live [] e.close := by
  obtain ⟨link, kind, decode, capacity⟩ := e
  cases link with
  | none => exact ⟨rfl, h⟩
  | some l =>
    refine ⟨?_, ?_⟩
    · show crossings (l.drop ++ [.log (.engineClosed kind)]) = []
      rw [crossings_append, (h l rfl).crossings_drop]
      rfl
    · rintro l' ⟨⟩

theorem crossings_drop (h : e.Live) : crossings e.drop = [] := by
  obtain ⟨link, kind, decode, capacity⟩ := e
  cases link with
  | none => rfl
  | some l => exact (h l rfl).crossings_drop

end Engine

namespace Backtest

/-- The wrapper is closed or owns a live link. -/
def Live (b : Backtest ε β) : Prop :=
  ∀ l ∈ b.link, l.Live

variable {b : Backtest ε β}

theorem invoke_crosses (h : b.Live) (c : BacktestCall) :
    Crosses Live (b.crossing c) (invoke c b) := by
  obtain ⟨link, kind, params⟩ := b
  cases link with
  | none => exact ⟨rfl, h⟩
  | some l =>
    obtain ⟨crossed, live, -⟩ := BacktestLink.call_crosses (h l rfl) c
    refine ⟨crossed, ?_⟩
    rintro l' ⟨⟩
    exact live

theorem applySignal_crosses (h : b.Live) (text : String) (price margin : Double) :
    Crosses Live
      ((Action.tagSpelled? text).elim [] fun tag => b.crossing (.applySignal tag price margin))
      (applySignal text price margin b) := by
  unfold applySignal
  rw [Action.parse_eq, Action.tagSpelled?_eq]
  cases Action.spelled? text with
  | none => exact .pure h
  | some action => exact invoke_crosses h (.applySignal action.tag price margin)

/-- The three bytes are those that the actions are sent as. -/
theorem apply_crosses (h : b.Live) (action : Action) (price margin : Double) :
    Crosses Live (b.prescribed (.apply action price margin)) (apply action price margin b) := by
  have hcall := invoke_crosses h (.applySignal action.tag price margin)
  cases action with
  | buy => exact hcall
  | sell => exact hcall
  | hold => exact hcall

theorem close_crosses (h : b.Live) : Crosses Live [] b.close := by
  obtain ⟨link, kind, params⟩ := b
  cases link with
  | none => exact ⟨rfl, h⟩
  | some l =>
    refine ⟨?_, ?_⟩
    · show crossings (l.drop ++ [.log (.backtestClosed kind)]) = []
      rw [crossings_append, (h l rfl).crossings_drop]
      rfl
    · rintro l' ⟨⟩

theorem crossings_drop (h : b.Live) : crossings b.drop = [] := by
  obtain ⟨link, kind, params⟩ := b
  cases link with
  | none => rfl
  | some l => exact (h l rfl).crossings_drop

end Backtest

/-! ## Making keeps to it -/

/-- The answer of a constructor: what was made, if anything was, has `P`. -/
def MadeWith {α : Type} (P : α → Prop) (made : Except Error α) : Prop :=
  ∀ a, made = .ok a → P a

theorem Engine.create_crosses (bridge : Bridge ε β) (capacity : UInt64) :
    crossings (create bridge capacity ()).events = bridge.engineCrossing capacity ∧
      MadeWith Live (create bridge capacity ()).answer := by
  unfold create Bridge.engineCrossing
  by_cases zero : capacity = 0
  · rw [if_pos zero, if_pos zero]
    refine ⟨rfl, ?_⟩
    rintro e ⟨⟩
  · rw [if_neg zero, if_neg zero, Op.bind_apply]
    obtain ⟨crossed, live⟩ := bridge.backend.createEngine_crosses capacity
    dsimp only
    rw [crossings_append, crossed]
    cases hmade : (bridge.backend.createEngine capacity ()).answer with
    | error error =>
      refine ⟨List.append_nil _, ?_⟩
      rintro e ⟨⟩
    | ok l =>
      refine ⟨List.append_nil _, ?_⟩
      rintro e ⟨⟩ l' ⟨⟩
      exact live l hmade

theorem Backtest.create_crosses (bridge : Bridge ε β) (params : BacktestParams) :
    crossings (create bridge params ()).events = bridge.backtestCrossing params ∧
      MadeWith Live (create bridge params ()).answer := by
  unfold create Bridge.backtestCrossing
  by_cases hparams : params.Acceptable
  · rw [if_pos hparams, BacktestParams.validate_of_acceptable hparams]
    dsimp only
    rw [Op.bind_apply]
    obtain ⟨crossed, live⟩ := bridge.backend.createBacktest_crosses params
    dsimp only
    rw [crossings_append, crossed]
    cases hmade : (bridge.backend.createBacktest params ()).answer with
    | error e =>
      refine ⟨List.append_nil _, ?_⟩
      rintro b ⟨⟩
    | ok l =>
      refine ⟨List.append_nil _, ?_⟩
      rintro b ⟨⟩ l' ⟨⟩
      exact live l hmade
  · obtain ⟨e, hrefused⟩ := BacktestParams.validate_of_not_acceptable hparams
    rw [if_neg hparams, hrefused]
    refine ⟨rfl, ?_⟩
    rintro b ⟨⟩

namespace Session

variable {s : Session ε β}

theorem engineOfEnvironment_crosses (s : Session ε β) (slot : Nat) (capacity : UInt64) :
    crossings (Engine.ofEnvironment s.host capacity ()).events =
        s.prescribed (.newEngineFromEnvironment slot capacity) ∧
      MadeWith Engine.Live (Engine.ofEnvironment s.host capacity ()).answer := by
  have silent := (Bridge.ofEnvironment_silent s.host).crossed
  unfold Engine.ofEnvironment prescribed environmentBridge
  rw [Op.bind_apply]
  dsimp only
  rw [crossings_append, silent, List.nil_append]
  cases (Bridge.ofEnvironment s.host ()).answer with
  | error e =>
    refine ⟨rfl, ?_⟩
    rintro e' ⟨⟩
  | ok bridge => exact Engine.create_crosses bridge capacity

theorem backtestOfEnvironment_crosses (s : Session ε β) (slot : Nat) (params : BacktestParams) :
    crossings (Backtest.ofEnvironment s.host params ()).events =
        s.prescribed (.newBacktestFromEnvironment slot params) ∧
      MadeWith Backtest.Live (Backtest.ofEnvironment s.host params ()).answer := by
  have silent := (Bridge.ofEnvironment_silent s.host).crossed
  unfold Backtest.ofEnvironment prescribed environmentBridge
  rw [Op.bind_apply]
  dsimp only
  rw [crossings_append, silent, List.nil_append]
  cases (Bridge.ofEnvironment s.host ()).answer with
  | error e =>
    refine ⟨rfl, ?_⟩
    rintro e' ⟨⟩
  | ok bridge => exact Backtest.create_crosses bridge params

/-! ### Steps on wrappers -/

/-- Every wrapper of the session is closed or owns a live link, and `journal` is written up. -/
structure Live (journal : List Event) (s : Session ε β) : Prop where
  engines : ∀ e ∈ s.engines.toList, e.Live
  backtests : ∀ b ∈ s.backtests.toList, b.Live
  journal : s.journal = journal

variable {j : List Event}

theorem Live.setEngine (h : Live j s) (slot : Nat) {e : Engine ε β} (he : e.Live) :
    Live j { s with engines := s.engines.set slot e } := by
  refine { h with engines := fun e' hmem => ?_ }
  rcases Slots.mem_toList_set hmem with rfl | there
  · exact he
  · exact h.engines e' there

theorem Live.setBacktest (h : Live j s) (slot : Nat) {b : Backtest ε β} (hb : b.Live) :
    Live j { s with backtests := s.backtests.set slot b } := by
  refine { h with backtests := fun b' hmem => ?_ }
  rcases Slots.mem_toList_set hmem with rfl | there
  · exact hb
  · exact h.backtests b' there

theorem onEngine_crosses {α : Type} {e : Engine ε β} {op : Op (Engine ε β) α} {xs : List Event}
    (h : Live j s) (slot : Nat) (hop : Crosses Engine.Live xs (op e)) :
    Crosses (Live j) xs (onEngine slot e op s) :=
  ⟨hop.crossed, h.setEngine slot hop.state⟩

theorem onBacktest_crosses {α : Type} {b : Backtest ε β} {op : Op (Backtest ε β) α}
    {xs : List Event} (h : Live j s) (slot : Nat) (hop : Crosses Backtest.Live xs (op b)) :
    Crosses (Live j) xs (onBacktest slot b op s) :=
  ⟨hop.crossed, h.setBacktest slot hop.state⟩

/-- A step on an engine makes cross what is prescribed for the wrapper. -/
theorem engineStep_crosses (h : Live j s) (slot : Nat) {e : Engine ε β} (he : e.Live)
    (st : EngineStep) : Crosses (Live j) (e.prescribed st) (engineStep slot e st s) := by
  have hat : e.At e.backend? := ⟨rfl, he⟩
  -- an operation on the wrapper, and an answer computed from what it answers
  have passes : ∀ {α : Type} {op : Op (Engine ε β) α} {xs : List Event} (f : α → Answer),
      Crosses Engine.Live xs (op e) →
      Crosses (Live j) xs ((onEngine slot e op >>= fun a => pure (f a)) s) := fun f hop =>
    (onEngine_crosses h slot hop).andThen f
  have stays : ∀ {α : Type} {o : Outcome (Engine ε β) α} {xs : List Event},
      Crosses (Engine.At e.backend?) xs o → Crosses Engine.Live xs o := fun ho =>
    ho.mono fun _ hu => hu.2
  have calls := fun c => stays (Engine.invoke_crosses hat c)
  cases st with
  | close => exact passes _ (Engine.close_crosses he)
  | isClosed => exact .pure h
  | capacity => exact .pure h
  | kind => exact .pure h
  | describe => exact .pure h
  | len => exact passes _ (calls .len)
  | isEmpty => exact passes _ ((calls .len).andThen _)
  | push bar => exact passes _ (calls (.pushBar bar))
  | update bar => exact passes _ (calls (.updateLastBar bar))
  | pushCloses timestamp closes =>
    exact passes _ (stays (Engine.pushCloses_crosses hat timestamp closes))
  | addIndicator spec => exact passes _ (stays (Engine.addIndicator_crosses hat spec))
  | addRsi period => exact passes _ (stays (Engine.addRsi_crosses hat period))
  | addStrategy name text => exact passes _ (calls (.addStrategy name text))
  | indicatorLast id => exact passes _ ((calls (.indicatorLast id)).andThen _)
  | signalsLen => exact passes _ (calls .signalsLen)
  | poll => exact passes _ (stays ((Engine.drain_crosses hat).andThen _))
  | drain =>
    have hdrain := stays (Engine.drainSignalsInto_crosses hat s.buffer)
    refine .get ?_
    show Crosses (Live j) e.drainCrossing _
    rw [← List.append_nil e.drainCrossing]
    refine .bind (onEngine_crosses h slot hdrain) fun hdrained => ?_
    exact .modify (.pure ⟨hdrained.engines, hdrained.backtests, hdrained.journal⟩)
  | raw field => exact passes _ ((calls (.column field)).andThen _)
  | ordered field => exact passes _ (((calls (.column field)).andThen _).andThen _)
  | list field => exact passes _ ((((calls (.column field)).andThen _).andThen _).andThen _)
  | timestampsRaw => exact passes _ ((calls .timestampColumn).andThen _)
  | timestampsOrdered => exact passes _ (((calls .timestampColumn).andThen _).andThen _)

theorem backtestStep_crosses (h : Live j s) (slot : Nat) {b : Backtest ε β} (hb : b.Live)
    (st : BacktestStep) : Crosses (Live j) (b.prescribed st) (backtestStep slot b st s) := by
  have passes : ∀ {α : Type} {op : Op (Backtest ε β) α} {xs : List Event} (f : α → Answer),
      Crosses Backtest.Live xs (op b) →
      Crosses (Live j) xs ((onBacktest slot b op >>= fun a => pure (f a)) s) := fun f hop =>
    (onBacktest_crosses h slot hop).andThen f
  have calls := Backtest.invoke_crosses hb
  cases st with
  | close => exact passes _ (Backtest.close_crosses hb)
  | isClosed => exact .pure h
  | kind => exact .pure h
  | describe => exact .pure h
  | params => exact .pure h
  | applySignal text price margin =>
    exact passes _ (Backtest.applySignal_crosses hb text price margin)
  | apply action price margin => exact passes _ (Backtest.apply_crosses hb action price margin)
  | onPrice price => exact passes _ (calls (.onPrice price))
  | result price => exact passes _ ((calls (.result price)).andThen _)

/-! ### Steps on the places -/

theorem placeEngine_crosses (h : Live j s) (slot : Nat) {made : Except Error (Engine ε β)}
    (hmade : MadeWith Engine.Live made) : Crosses (Live j) [] (placeEngine slot made s) := by
  cases made with
  | error e => exact .pure h
  | ok e =>
    refine ⟨?_, h.setEngine slot (hmade e rfl)⟩
    show crossings ((s.engines.get? slot).elim [] Engine.drop ++ []) = []
    rw [List.append_nil]
    cases before : s.engines.get? slot with
    | none => rfl
    | some e' => exact Engine.crossings_drop (h.engines e' (Slots.mem_toList_of_get? before))

theorem placeBacktest_crosses (h : Live j s) (slot : Nat) {made : Except Error (Backtest ε β)}
    (hmade : MadeWith Backtest.Live made) : Crosses (Live j) [] (placeBacktest slot made s) := by
  cases made with
  | error e => exact .pure h
  | ok b =>
    refine ⟨?_, h.setBacktest slot (hmade b rfl)⟩
    show crossings ((s.backtests.get? slot).elim [] Backtest.drop ++ []) = []
    rw [List.append_nil]
    cases before : s.backtests.get? slot with
    | none => rfl
    | some b' => exact Backtest.crossings_drop (h.backtests b' (Slots.mem_toList_of_get? before))

/-- Placing what a constructor made makes nothing more cross than the constructor did. -/
theorem lift_crosses {α : Type} {x : Op Unit α} {f : α → Op (Session ε β) Answer}
    {xs : List Event} (hx : crossings (x ()).events = xs)
    (hf : Crosses (Live j) [] (f (x ()).answer s)) :
    Crosses (Live j) xs ((Op.lift x >>= f) s) := by
  refine ⟨?_, hf.state⟩
  show crossings ((x ()).events ++ (f (x ()).answer s).events) = xs
  rw [crossings_append, hx, hf.crossed, List.append_nil]

theorem emitAll_crosses (h : Live j s) {xs : List Event} (hx : crossings xs = []) :
    Crosses (Live j) [] (emitAll xs s) :=
  ⟨hx, h⟩

theorem showCalls_crosses (h : Live j s) : Crosses (Live j) [] (showCalls s) :=
  .get (.modify (.pure ⟨h.engines, h.backtests, h.journal⟩))

/-- **One step.** What crosses is what is prescribed for the step, and the wrappers stay live. -/
theorem step_crosses (h : Live j s) (st : Step) :
    Crosses (Live j) (s.prescribed st) (step st s) := by
  cases st with
  | newEngine slot capacity =>
    obtain ⟨crossed, live⟩ := Engine.create_crosses s.bridge capacity
    exact .get (lift_crosses crossed (placeEngine_crosses h slot live))
  | newEngineFromEnvironment slot capacity =>
    obtain ⟨crossed, live⟩ := s.engineOfEnvironment_crosses slot capacity
    exact .get (lift_crosses crossed (placeEngine_crosses h slot live))
  | dropEngine slot =>
    refine .get ?_
    cases there : s.engines.get? slot with
    | none => exact .pure h
    | some e =>
      -- the engine is freed, and the places that are left are live as before
      have hdrop := Engine.crossings_drop (h.engines e (Slots.mem_toList_of_get? there))
      have hrest : Live j { s with engines := s.engines.erase slot } :=
        { h with engines := fun e' hmem => h.engines e' (Slots.mem_toList_erase hmem) }
      exact .modify ((emitAll_crosses hrest hdrop).andThen fun _ => Answer.flag true)
  | engine slot st =>
    refine .get ?_
    unfold prescribed
    dsimp only
    cases there : s.engines.get? slot with
    | none => exact .pure h
    | some e => exact engineStep_crosses h slot (h.engines e (Slots.mem_toList_of_get? there)) st
  | newBacktest slot params =>
    obtain ⟨crossed, live⟩ := Backtest.create_crosses s.bridge params
    exact .get (lift_crosses crossed (placeBacktest_crosses h slot live))
  | newBacktestFromEnvironment slot params =>
    obtain ⟨crossed, live⟩ := s.backtestOfEnvironment_crosses slot params
    exact .get (lift_crosses crossed (placeBacktest_crosses h slot live))
  | dropBacktest slot =>
    refine .get ?_
    cases there : s.backtests.get? slot with
    | none => exact .pure h
    | some b =>
      have hdrop := Backtest.crossings_drop (h.backtests b (Slots.mem_toList_of_get? there))
      have hrest : Live j { s with backtests := s.backtests.erase slot } :=
        { h with backtests := fun b' hmem => h.backtests b' (Slots.mem_toList_erase hmem) }
      exact .modify ((emitAll_crosses hrest hdrop).andThen fun _ => Answer.flag true)
  | backtest slot st =>
    refine .get ?_
    unfold prescribed
    dsimp only
    cases there : s.backtests.get? slot with
    | none => exact .pure h
    | some b =>
      exact backtestStep_crosses h slot (h.backtests b (Slots.mem_toList_of_get? there)) st
  | buffer => exact .get (.pure h)
  | clearBuffer => exact .modify (.pure ⟨h.engines, h.backtests, h.journal⟩)
  | calls => exact (showCalls_crosses h).andThen _
  | counters => exact .get (.pure h)

/-! ## Whole sessions -/

theorem live_start (host : Host ε β) (bridge : Bridge ε β) : Live [] (start host bridge) :=
  ⟨fun _ hmem => absurd hmem List.not_mem_nil, fun _ hmem => absurd hmem List.not_mem_nil, rfl⟩

/-- Writing the events of a step into the journal. -/
theorem advance_crosses {α : Type} {op : Op (Session ε β) α} {xs : List Event}
    (h : Crosses (Live s.journal) xs (op s)) :
    Live (advance op s).2.journal (advance op s).2 ∧
      crossings (advance op s).2.journal = crossings s.journal ++ xs := by
  refine ⟨⟨h.state.engines, h.state.backtests, rfl⟩, ?_⟩
  show crossings ((op s).state.journal ++ (op s).events) = _
  rw [crossings_append, h.crossed, h.state.journal]

/-- A run makes cross what is prescribed for its steps, one after another. -/
theorem run_crosses (h : Live s.journal s) (steps : List Step) :
    Live (run steps s).2.journal (run steps s).2 ∧
      crossings (run steps s).2.journal = crossings s.journal ++ prescribedRun steps s := by
  induction steps generalizing s with
  | nil => exact ⟨h, (List.append_nil _).symm⟩
  | cons next rest ih =>
    obtain ⟨live, crossed⟩ := advance_crosses (step_crosses h next)
    obtain ⟨hlive, hcrossed⟩ := ih live
    refine ⟨hlive, ?_⟩
    rw [prescribedRun, ← List.append_assoc, ← crossed]
    exact hcrossed

end Session

end MarketBridge
