import MarketBridge.Proofs.Session.Twin

/-!
# `Session.Agreement` — a session cannot tell the table from the module

Two sessions that start from twin bridges stay twins. `Session.step_alike` is the step of that
argument and `Session.sights_eq_of_twin` the induction over the steps: what a caller sees after each
step, the answer, the buffer and the counters, is the same in both. Only the steps that ask a
wrapper for the name of its backend are left out (`Step.namesBackend`).
-/

namespace MarketBridge

open Outcome

variable {ε β : Type}

/-! ## What a caller sees -/

/-- Whether the step asks an engine for the name of its backend. -/
def EngineStep.namesBackend : EngineStep → Bool
  | .kind | .describe => true
  | _ => false

/-- Whether the step asks a backtest for the name of its backend. -/
def BacktestStep.namesBackend : BacktestStep → Bool
  | .kind | .describe => true
  | _ => false

/-- Whether the step asks for the name of a backend. -/
def Step.namesBackend : Step → Bool
  | .engine _ step => step.namesBackend
  | .backtest _ step => step.namesBackend
  | _ => false

/-- What a caller sees of one step: the answer, unless it names a backend, then the signal buffer
and the counters after the step. -/
structure Sight where
  answer : Option Answer
  buffer : List Signal
  counters : Counters

namespace Session

/-- What is seen of a step that answered `answer` and left the session `s`. -/
def sight (step : Step) (answer : Answer) (s : Session ε β) : Sight :=
  ⟨if step.namesBackend then none else some answer, s.buffer, .ofEvents s.journal⟩

/-- What is seen of each step in turn. -/
def sights : List Step → Session ε β → List Sight
  | [], _ => []
  | next :: rest, s =>
    let (answer, s') := advance (step next) s
    sight next answer s' :: sights rest s'

theorem sights_cons (next : Step) (rest : List Step) (s : Session ε β) :
    sights (next :: rest) s = sight next (step next s).answer (advance (step next) s).2 ::
      sights rest (advance (step next) s).2 := rfl

/-- The counters when everything has been dropped at the end. -/
def closingCounters (s : Session ε β) : Counters :=
  .ofEvents (advance finish s).2.journal

/-! ## Twin sessions -/

/-- Sessions on twin bridges with twin wrappers in the same places. -/
structure Twin (b : TableBackend ε β) (m : EngineModule ε β) (s t : Session ε β) : Prop where
  host : s.host = t.host
  bridge : ∃ decode, s.bridge = ⟨.table b, decode⟩ ∧ t.bridge = ⟨.inProcess m, decode⟩
  engines : Slots.Rel (Engine.Twin b m) s.engines t.engines
  backtests : Slots.Rel (Backtest.Twin b m) s.backtests t.backtests
  buffer : s.buffer = t.buffer
  journal : trace s.journal = trace t.journal
  callsShown : s.callsShown = t.callsShown

variable {b : TableBackend ε β} {m : EngineModule ε β} {Room : ε → Prop} {s t : Session ε β}

theorem twin_start (b : TableBackend ε β) (m : EngineModule ε β) (host : Host ε β)
    (decode : DecodePolicy) :
    Twin b m (start host ⟨.table b, decode⟩) (start host ⟨.inProcess m, decode⟩) :=
  ⟨rfl, ⟨decode, rfl, rfl⟩, .empty, .empty, rfl, rfl, rfl⟩

/-- The same answer, where the answer does not name a backend. -/
def AgreeUnless (named : Bool) (a a' : Answer) : Prop :=
  named = false → a = a'

theorem agreeUnless_of_eq {named : Bool} {o o' : Outcome (Session ε β) Answer}
    (h : Alike (Twin b m) Eq o o') : Alike (Twin b m) (AgreeUnless named) o o' :=
  h.mono (fun _ _ hR => hR) fun _ _ ha _ => ha

/-! ### Steps on an engine -/

theorem onEngine_alike {α : Type} {e e' : Engine ε β} {op : Op (Engine ε β) α} (slot : Nat)
    (h : Twin b m s t) (hop : Alike (Engine.Twin b m) Eq (op e) (op e')) :
    Alike (Twin b m) Eq (onEngine slot e op s) (onEngine slot e' op t) :=
  ⟨hop.answer, { h with engines := h.engines.set slot hop.state }, hop.trace⟩

theorem pushCloses_parallel (hm : Mirrors b m Room) (timestamp : Int64) (closes : List Double) :
    Engine.Parallel b m (pushCloses timestamp closes) := by
  induction closes generalizing timestamp with
  | nil => exact fun _ _ h => .pure rfl h
  | cons close rest ih =>
    intro e e' h
    have pushed : Alike (Engine.Twin b m) Eq (Engine.pushBar (.flat timestamp close) e)
        (Engine.pushBar (.flat timestamp close) e') :=
      Engine.invoke_parallel hm (c := .pushBar _) rfl e e' h
    refine .bind pushed ?_
    rintro first _ u v rfl h₁
    refine .bind (ih (timestamp + 1) u v h₁) ?_
    rintro others _ u' v' rfl h₂
    cases first with
    | error err => exact .pure rfl h₂
    | ok _ => exact .pure rfl h₂

theorem engineStep_alike (hm : Mirrors b m Room) (h : Twin b m s t) {e e' : Engine ε β}
    (he : Engine.Twin b m e e') (slot : Nat) (st : EngineStep)
    (hroom : ∀ x, e.native? = some x → Room x) :
    Alike (Twin b m) (AgreeUnless st.namesBackend) (engineStep slot e st s)
      (engineStep slot e' st t) := by
  -- a step that passes its answer on
  have passes : ∀ {α : Type} {op : Op (Engine ε β) α} (f : α → Answer) {named : Bool},
      Alike (Engine.Twin b m) Eq (op e) (op e') →
      Alike (Twin b m) (AgreeUnless named) ((onEngine slot e op >>= fun a => pure (f a)) s)
        ((onEngine slot e' op >>= fun a => pure (f a)) t) := fun f _ hop =>
    agreeUnless_of_eq ((onEngine_alike slot h hop).andThen f)
  have calls : ∀ c : EngineCall, c.isRegistration = false →
      Alike (Engine.Twin b m) Eq (Engine.invoke c e) (Engine.invoke c e') := fun _ hc =>
    Engine.invoke_parallel hm hc e e' he
  cases st with
  | close => exact passes _ (Engine.close_parallel hm e e' he)
  | isClosed =>
    exact .pure (fun _ => congrArg Answer.flag (Engine.isClosed_eq_of_twin he)) h
  | capacity => exact .pure (fun _ => congrArg Answer.number he.capacity) h
  | kind => exact .pure (fun hn => absurd hn (by decide)) h
  | describe => exact .pure (fun hn => absurd hn (by decide)) h
  | len => exact passes _ (calls .len rfl)
  | isEmpty => exact passes _ ((calls .len rfl).andThen _)
  | push bar => exact passes _ (calls (.pushBar bar) rfl)
  | update bar => exact passes _ (calls (.updateLastBar bar) rfl)
  | pushCloses timestamp closes =>
    exact passes _ (pushCloses_parallel hm timestamp closes e e' he)
  | addIndicator spec => exact passes _ (Engine.addIndicator_alike hm he spec hroom)
  | addRsi period => exact passes _ (Engine.addIndicator_alike hm he (.rsi period) hroom)
  | addStrategy name text => exact passes _ (calls (.addStrategy name text) rfl)
  | indicatorLast id => exact passes _ ((calls (.indicatorLast id) rfl).andThen _)
  | signalsLen => exact passes _ (calls .signalsLen rfl)
  | poll => exact passes _ ((Engine.drain_parallel hm e e' he).andThen _)
  | drain =>
    refine agreeUnless_of_eq (.get ?_)
    rw [h.buffer]
    refine .bind (onEngine_alike slot h (Engine.drainSignalsInto_parallel hm t.buffer e e' he)) ?_
    rintro answered _ u v rfl h₁
    obtain ⟨answer, buffer⟩ := answered
    exact .modify (.pure rfl { h₁ with buffer := rfl })
  | raw field => exact passes _ ((calls (.column field) rfl).andThen _)
  | ordered field => exact passes _ (((calls (.column field) rfl).andThen _).andThen _)
  | list field => exact passes _ ((((calls (.column field) rfl).andThen _).andThen _).andThen _)
  | timestampsRaw => exact passes _ ((calls .timestampColumn rfl).andThen _)
  | timestampsOrdered => exact passes _ (((calls .timestampColumn rfl).andThen _).andThen _)

/-! ### Steps on a backtest -/

theorem onBacktest_alike {α : Type} {x x' : Backtest ε β} {op : Op (Backtest ε β) α} (slot : Nat)
    (h : Twin b m s t) (hop : Alike (Backtest.Twin b m) Eq (op x) (op x')) :
    Alike (Twin b m) Eq (onBacktest slot x op s) (onBacktest slot x' op t) :=
  ⟨hop.answer, { h with backtests := h.backtests.set slot hop.state }, hop.trace⟩

theorem backtestStep_alike (hm : Mirrors b m Room) (h : Twin b m s t) {x x' : Backtest ε β}
    (hx : Backtest.Twin b m x x') (slot : Nat) (st : BacktestStep) :
    Alike (Twin b m) (AgreeUnless st.namesBackend) (backtestStep slot x st s)
      (backtestStep slot x' st t) := by
  have passes : ∀ {α : Type} {op : Op (Backtest ε β) α} (f : α → Answer) {named : Bool},
      Alike (Backtest.Twin b m) Eq (op x) (op x') →
      Alike (Twin b m) (AgreeUnless named) ((onBacktest slot x op >>= fun a => pure (f a)) s)
        ((onBacktest slot x' op >>= fun a => pure (f a)) t) := fun f _ hop =>
    agreeUnless_of_eq ((onBacktest_alike slot h hop).andThen f)
  cases st with
  | close => exact passes _ (Backtest.close_parallel hm x x' hx)
  | isClosed => exact .pure (fun _ => congrArg Answer.flag (Backtest.isClosed_eq_of_twin hx)) h
  | kind => exact .pure (fun hn => absurd hn (by decide)) h
  | describe => exact .pure (fun hn => absurd hn (by decide)) h
  | params => exact .pure (fun _ => congrArg Answer.params hx.params) h
  | applySignal text price margin =>
    exact passes _ (Backtest.applySignal_parallel hm text price margin x x' hx)
  | apply action price margin =>
    exact passes _ (Backtest.invoke_parallel hm (.applySignal action.tag price margin) x x' hx)
  | onPrice price => exact passes _ (Backtest.invoke_parallel hm (.onPrice price) x x' hx)
  | result price => exact passes _ (Backtest.result_parallel hm price x x' hx)

/-! ### Steps on the places -/

theorem placeEngine_alike (hm : Mirrors b m Room) (h : Twin b m s t) (slot : Nat)
    {made made' : Except Error (Engine ε β)} (hmade : MadeAlike (Engine.Twin b m) made made') :
    Alike (Twin b m) Eq (placeEngine slot made s) (placeEngine slot made' t) := by
  cases hmade with
  | error e => exact .pure rfl h
  | @ok e e' he =>
    refine ⟨rfl, { h with engines := h.engines.set slot he }, ?_⟩
    show trace ((s.engines.get? slot).elim [] Engine.drop ++ []) =
      trace ((t.engines.get? slot).elim [] Engine.drop ++ [])
    rw [List.append_nil, List.append_nil]
    have before := h.engines.get? slot
    generalize s.engines.get? slot = o, t.engines.get? slot = o' at before
    cases before with
    | none => rfl
    | some twins => exact Engine.trace_drop_of_twin hm twins

theorem placeBacktest_alike (hm : Mirrors b m Room) (h : Twin b m s t) (slot : Nat)
    {made made' : Except Error (Backtest ε β)}
    (hmade : MadeAlike (Backtest.Twin b m) made made') :
    Alike (Twin b m) Eq (placeBacktest slot made s) (placeBacktest slot made' t) := by
  cases hmade with
  | error e => exact .pure rfl h
  | @ok x x' hx =>
    refine ⟨rfl, { h with backtests := h.backtests.set slot hx }, ?_⟩
    show trace ((s.backtests.get? slot).elim [] Backtest.drop ++ []) =
      trace ((t.backtests.get? slot).elim [] Backtest.drop ++ [])
    rw [List.append_nil, List.append_nil]
    have before := h.backtests.get? slot
    generalize s.backtests.get? slot = o, t.backtests.get? slot = o' at before
    cases before with
    | none => rfl
    | some twins => exact Backtest.trace_drop_of_twin hm twins

theorem emitAll_alike (h : Twin b m s t) {xs ys : List Event} (hxy : trace xs = trace ys) :
    Alike (Twin b m) Eq (emitAll xs s) (emitAll ys t) :=
  ⟨rfl, h, hxy⟩

theorem showCalls_alike (h : Twin b m s t) :
    Alike (Twin b m) Eq (showCalls s) (showCalls t) := by
  have fresh : s.freshCalls = t.freshCalls := by
    unfold freshCalls
    rw [callsAt_eq_of_trace h.journal, h.callsShown]
  refine .get (.modify ?_)
  rw [fresh]
  exact .pure rfl { h with callsShown := congrArg (· + t.freshCalls.length) h.callsShown }

/-- **One step.** Twins answer a step alike and stay twins, with the same native calls. -/
theorem step_alike (hm : Mirrors b m Room) (h : Twin b m s t) (hroom : s.EachNative Room)
    (st : Step) :
    Alike (Twin b m) (AgreeUnless st.namesBackend) (step st s) (step st t) := by
  cases st with
  | newEngine slot capacity =>
    obtain ⟨decode, hs, ht⟩ := h.bridge
    refine agreeUnless_of_eq (.get ?_)
    rw [hs, ht]
    exact .bind (.lift (Engine.create_alike hm decode capacity) h)
      fun _ _ _ _ hmade h₁ => placeEngine_alike hm h₁ slot hmade
  | newEngineFromEnvironment slot capacity =>
    refine agreeUnless_of_eq (.get ?_)
    rw [h.host]
    exact .bind (.lift ⟨.refl Engine.Twin.refl _, rfl, rfl⟩ h)
      fun _ _ _ _ hmade h₁ => placeEngine_alike hm h₁ slot hmade
  | dropEngine slot =>
    refine agreeUnless_of_eq (.get ?_)
    have there := h.engines.get? slot
    generalize s.engines.get? slot = o, t.engines.get? slot = o' at there
    cases there with
    | none => exact .pure rfl h
    | some he =>
      have h₁ : Twin b m { s with engines := s.engines.erase slot }
        { t with engines := t.engines.erase slot } := { h with engines := h.engines.erase slot }
      exact .modify (.bind (emitAll_alike h₁ (Engine.trace_drop_of_twin hm he))
        fun _ _ _ _ _ h₂ => .pure rfl h₂)
  | engine slot st =>
    refine .get ?_
    have there := h.engines.get? slot
    have room := fun e (he : s.engines.get? slot = some e) x (hx : e.native? = some x) =>
      hroom.at he hx
    generalize s.engines.get? slot = o, t.engines.get? slot = o' at there room
    cases there with
    | none => exact agreeUnless_of_eq (.pure rfl h)
    | @some e e' he => exact engineStep_alike hm h he slot st (room e rfl)
  | newBacktest slot params =>
    obtain ⟨decode, hs, ht⟩ := h.bridge
    refine agreeUnless_of_eq (.get ?_)
    rw [hs, ht]
    exact .bind (.lift (Backtest.create_alike hm decode params) h)
      fun _ _ _ _ hmade h₁ => placeBacktest_alike hm h₁ slot hmade
  | newBacktestFromEnvironment slot params =>
    refine agreeUnless_of_eq (.get ?_)
    rw [h.host]
    exact .bind (.lift ⟨.refl Backtest.Twin.refl _, rfl, rfl⟩ h)
      fun _ _ _ _ hmade h₁ => placeBacktest_alike hm h₁ slot hmade
  | dropBacktest slot =>
    refine agreeUnless_of_eq (.get ?_)
    have there := h.backtests.get? slot
    generalize s.backtests.get? slot = o, t.backtests.get? slot = o' at there
    cases there with
    | none => exact .pure rfl h
    | some hx =>
      have h₁ : Twin b m { s with backtests := s.backtests.erase slot }
        { t with backtests := t.backtests.erase slot } :=
        { h with backtests := h.backtests.erase slot }
      exact .modify (.bind (emitAll_alike h₁ (Backtest.trace_drop_of_twin hm hx))
        fun _ _ _ _ _ h₂ => .pure rfl h₂)
  | backtest slot st =>
    refine .get ?_
    have there := h.backtests.get? slot
    generalize s.backtests.get? slot = o, t.backtests.get? slot = o' at there
    cases there with
    | none => exact agreeUnless_of_eq (.pure rfl h)
    | some hx => exact backtestStep_alike hm h hx slot st
  | buffer => exact agreeUnless_of_eq (.get (.pure (congrArg Answer.signals h.buffer) h))
  | clearBuffer => exact agreeUnless_of_eq (.modify (.pure rfl { h with buffer := rfl }))
  | calls => exact agreeUnless_of_eq ((showCalls_alike h).andThen _)
  | counters =>
    exact agreeUnless_of_eq
      (.get (.pure (congrArg Answer.counters (Counters.ofEvents_eq_of_trace h.journal)) h))

theorem finish_alike (hm : Mirrors b m Room) (h : Twin b m s t) :
    Alike (Twin b m) Eq (finish s) (finish t) := by
  refine ⟨rfl, { h with engines := .empty, backtests := .empty }, ?_⟩
  show trace (s.engines.toList.flatMap Engine.drop ++ s.backtests.toList.flatMap Backtest.drop) =
    trace (t.engines.toList.flatMap Engine.drop ++ t.backtests.toList.flatMap Backtest.drop)
  rw [trace_append, trace_append,
    trace_flatMap (h.engines.toList.imp fun _ _ he => Engine.trace_drop_of_twin hm he),
    trace_flatMap (h.backtests.toList.imp fun _ _ hx => Backtest.trace_drop_of_twin hm hx)]

/-! ## Whole sessions -/

/-- Writing the events of an operation into the journal keeps twins twins. -/
theorem advance_twin {Q : Answer → Answer → Prop} {op op' : Op (Session ε β) Answer}
    (h : Alike (Twin b m) Q (op s) (op' t)) : Twin b m (advance op s).2 (advance op' t).2 := by
  refine { h.state with journal := ?_ }
  show trace ((op s).state.journal ++ (op s).events) =
    trace ((op' t).state.journal ++ (op' t).events)
  rw [trace_append, trace_append, h.state.journal, h.trace]

theorem sight_eq {st : Step} {a a' : Answer} (ha : AgreeUnless st.namesBackend a a')
    (h : Twin b m s t) : sight st a s = sight st a' t := by
  unfold sight
  rw [h.buffer, Counters.ofEvents_eq_of_trace h.journal]
  cases hn : st.namesBackend with
  | true => rfl
  | false => rw [ha hn]

/-- **A whole run.** Twins show the same after every step and end as twins, as long as no engine
is without room before a step. -/
theorem sights_eq_of_twin (hm : Mirrors b m Room) (steps : List Step) (h : Twin b m s t)
    (hroom : ∀ done next, done ++ [next] <+: steps → (run done s).2.EachNative Room) :
    sights steps s = sights steps t ∧ Twin b m (run steps s).2 (run steps t).2 := by
  induction steps generalizing s t with
  | nil => exact ⟨rfl, h⟩
  | cons next rest ih =>
    have alike := step_alike hm h (hroom [] next ⟨rest, rfl⟩) next
    have h₁ := advance_twin alike
    obtain ⟨hsights, htwin⟩ := ih h₁ fun done last hdone =>
      hroom (next :: done) last (List.cons_prefix_cons.mpr ⟨rfl, hdone⟩)
    refine ⟨?_, htwin⟩
    rw [sights_cons, sights_cons, sight_eq alike.answer h₁, hsights]

theorem closingCounters_eq_of_twin (hm : Mirrors b m Room) (h : Twin b m s t) :
    s.closingCounters = t.closingCounters := by
  obtain ⟨-, state, trace⟩ := finish_alike hm h
  refine Counters.ofEvents_eq_of_trace ?_
  show MarketBridge.trace (s.journal ++ _) = MarketBridge.trace (t.journal ++ _)
  rw [trace_append, trace_append, h.journal, trace]

end Session

end MarketBridge
