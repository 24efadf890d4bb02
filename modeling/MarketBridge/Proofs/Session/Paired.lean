import MarketBridge.Proofs.Journal.Shown
import MarketBridge.Proofs.Session.Agreement
import MarketBridge.Proofs.Session.Perform

/-!
# `Session.Paired` — two sessions with related wrappers and the same to show

`Session.Paired RE RB` relates sessions whose engines are related by `RE` and whose backtests are by
`RB`, place by place, with the same buffer and the same to show of their journals. A `Pairing` says
that the bridges of the two make related wrappers, that related backtests act alike, and that
related wrappers show the same when they are dropped. Then a step keeps sessions paired and answers
the same in both, as long as it does so for the two engines it is about (`Session.step_paired`).
-/

namespace MarketBridge

open Outcome

variable {ε β : Type}

/-- What the bridges and the wrappers of two sessions have to satisfy for the sessions to stay
paired, the steps on engines aside. -/
structure Pairing (bridge bridge' : Bridge ε β) (RE : Engine ε β → Engine ε β → Prop)
    (RB : Backtest ε β → Backtest ε β → Prop) : Prop where
  sameEngine : ∀ e, RE e e
  sameBacktest : ∀ b, RB b b
  createEngine : ∀ capacity, Alike Eq (MadeAlike RE) (Engine.create bridge capacity ())
    (Engine.create bridge' capacity ())
  createBacktest : ∀ params, Alike Eq (MadeAlike RB) (Backtest.create bridge params ())
    (Backtest.create bridge' params ())
  dropEngine : ∀ e e', RE e e' → trace e.drop = trace e'.drop
  dropBacktest : ∀ b b', RB b b' → trace b.drop = trace b'.drop
  backtest : ∀ st b b', RB b b' → Alike RB Eq (b.perform st) (b'.perform st)

namespace Session

/-- Related wrappers in the same places, the same buffer, and the same to show. -/
structure Paired (host : Host ε β) (bridge bridge' : Bridge ε β)
    (RE : Engine ε β → Engine ε β → Prop) (RB : Backtest ε β → Backtest ε β → Prop)
    (s t : Session ε β) : Prop where
  hosts : s.host = host ∧ t.host = host
  bridges : s.bridge = bridge ∧ t.bridge = bridge'
  engines : Slots.Rel RE s.engines t.engines
  backtests : Slots.Rel RB s.backtests t.backtests
  ordered : s.Ordered
  buffer : s.buffer = t.buffer
  journal : shown s.journal = shown t.journal
  callsShown : s.callsShown = t.callsShown

variable {host : Host ε β} {bridge bridge' : Bridge ε β} {RE : Engine ε β → Engine ε β → Prop}
  {RB : Backtest ε β → Backtest ε β → Prop} {s t : Session ε β}

theorem paired_start (host : Host ε β) (bridge bridge' : Bridge ε β) :
    Paired host bridge bridge' RE RB (start host bridge) (start host bridge') :=
  ⟨⟨rfl, rfl⟩, ⟨rfl, rfl⟩, .empty, .empty, ordered_start host bridge, rfl, rfl, rfl⟩

namespace Paired

theorem host_eq (h : Paired host bridge bridge' RE RB s t) : s.host = t.host :=
  h.hosts.1.trans h.hosts.2.symm

theorem ordered_right (h : Paired host bridge bridge' RE RB s t) : t.Ordered :=
  ⟨h.engines.ordered h.ordered.engines, h.backtests.ordered h.ordered.backtests⟩

theorem setEngine (h : Paired host bridge bridge' RE RB s t) (slot : Nat) {e e' : Engine ε β}
    (he : RE e e') :
    Paired host bridge bridge' RE RB { s with engines := s.engines.set slot e }
      { t with engines := t.engines.set slot e' } :=
  { h with
    engines := h.engines.set slot he
    ordered := ⟨h.ordered.engines.set slot e, h.ordered.backtests⟩ }

theorem setBuffer (h : Paired host bridge bridge' RE RB s t) (buffer : List Signal) :
    Paired host bridge bridge' RE RB { s with buffer } { t with buffer } :=
  { h with ordered := ⟨h.ordered.engines, h.ordered.backtests⟩, buffer := rfl }

theorem setBacktest (h : Paired host bridge bridge' RE RB s t) (slot : Nat) {b b' : Backtest ε β}
    (hb : RB b b') :
    Paired host bridge bridge' RE RB { s with backtests := s.backtests.set slot b }
      { t with backtests := t.backtests.set slot b' } :=
  { h with
    backtests := h.backtests.set slot hb
    ordered := ⟨h.ordered.engines, h.ordered.backtests.set slot b⟩ }

end Paired

/-! ## Steps -/

theorem placeEngine_paired (hp : Pairing bridge bridge' RE RB)
    (h : Paired host bridge bridge' RE RB s t) (slot : Nat)
    {op op' : Op Unit (Except Error (Engine ε β))}
    (hmade : Alike Eq (MadeAlike RE) (op ()) (op' ())) :
    Agree (Paired host bridge bridge' RE RB) ((Op.lift op >>= placeEngine slot) s)
      ((Op.lift op' >>= placeEngine slot) t) := by
  obtain ⟨answers, -, htrace⟩ := hmade
  have hshown := shown_eq_of_trace htrace
  generalize hanswer : (op ()).answer = made, hanswer' : (op' ()).answer = made' at answers
  cases answers with
  | error e =>
    rw [placeEngine_of_error hanswer, placeEngine_of_error hanswer']
    exact ⟨rfl, h, hshown⟩
  | @ok e e' he =>
    rw [placeEngine_of_ok hanswer, placeEngine_of_ok hanswer']
    refine ⟨rfl, h.setEngine slot he, ?_⟩
    -- what stood at the place is dropped in both
    rw [shown_append, shown_append, hshown]
    have before := h.engines.get? slot
    generalize s.engines.get? slot = o, t.engines.get? slot = o' at before
    cases before with
    | none => rfl
    | some hold => exact congrArg _ (shown_eq_of_trace (hp.dropEngine _ _ hold))

theorem placeBacktest_paired (hp : Pairing bridge bridge' RE RB)
    (h : Paired host bridge bridge' RE RB s t) (slot : Nat)
    {op op' : Op Unit (Except Error (Backtest ε β))}
    (hmade : Alike Eq (MadeAlike RB) (op ()) (op' ())) :
    Agree (Paired host bridge bridge' RE RB) ((Op.lift op >>= placeBacktest slot) s)
      ((Op.lift op' >>= placeBacktest slot) t) := by
  obtain ⟨answers, -, htrace⟩ := hmade
  have hshown := shown_eq_of_trace htrace
  generalize hanswer : (op ()).answer = made, hanswer' : (op' ()).answer = made' at answers
  cases answers with
  | error e =>
    rw [placeBacktest_of_error hanswer, placeBacktest_of_error hanswer']
    exact ⟨rfl, h, hshown⟩
  | @ok b b' hb =>
    rw [placeBacktest_of_ok hanswer, placeBacktest_of_ok hanswer']
    refine ⟨rfl, h.setBacktest slot hb, ?_⟩
    -- what stood at the place is dropped in both
    rw [shown_append, shown_append, hshown]
    have before := h.backtests.get? slot
    generalize s.backtests.get? slot = o, t.backtests.get? slot = o' at before
    cases before with
    | none => rfl
    | some hold => exact congrArg _ (shown_eq_of_trace (hp.dropBacktest _ _ hold))

theorem dropEngine_paired (hp : Pairing bridge bridge' RE RB)
    (h : Paired host bridge bridge' RE RB s t) (slot : Nat) :
    Agree (Paired host bridge bridge' RE RB) (step (.dropEngine slot) s)
      (step (.dropEngine slot) t) := by
  have there := h.engines.get? slot
  generalize hs : s.engines.get? slot = o, ht : t.engines.get? slot = o' at there
  cases there with
  | none =>
    rw [step_dropEngine_of_none hs, step_dropEngine_of_none ht]
    exact ⟨rfl, h, rfl⟩
  | some he =>
    rw [step_dropEngine hs, step_dropEngine ht]
    refine ⟨rfl, ?_, shown_eq_of_trace (hp.dropEngine _ _ he)⟩
    exact { h with
      engines := h.engines.erase slot
      ordered := ⟨h.ordered.engines.erase slot, h.ordered.backtests⟩ }

theorem dropBacktest_paired (hp : Pairing bridge bridge' RE RB)
    (h : Paired host bridge bridge' RE RB s t) (slot : Nat) :
    Agree (Paired host bridge bridge' RE RB) (step (.dropBacktest slot) s)
      (step (.dropBacktest slot) t) := by
  have there := h.backtests.get? slot
  generalize hs : s.backtests.get? slot = o, ht : t.backtests.get? slot = o' at there
  cases there with
  | none =>
    rw [step_dropBacktest_of_none hs, step_dropBacktest_of_none ht]
    exact ⟨rfl, h, rfl⟩
  | some hb =>
    rw [step_dropBacktest hs, step_dropBacktest ht]
    refine ⟨rfl, ?_, shown_eq_of_trace (hp.dropBacktest _ _ hb)⟩
    exact { h with
      backtests := h.backtests.erase slot
      ordered := ⟨h.ordered.engines, h.ordered.backtests.erase slot⟩ }

/-- The two engines at a place act alike in a step. -/
def ActAlike (RE : Engine ε β → Engine ε β → Prop) (s : Session ε β) (st : Step) : Prop :=
  ∀ slot inner e e', st = .engine slot inner → s.engines.get? slot = some e → RE e e' →
    Agree RE (e.perform s.buffer inner) (e'.perform s.buffer inner)

theorem engine_paired (h : Paired host bridge bridge' RE RB s t) (slot : Nat) (inner : EngineStep)
    (hact : s.ActAlike RE (.engine slot inner)) :
    Agree (Paired host bridge bridge' RE RB) (step (.engine slot inner) s)
      (step (.engine slot inner) t) := by
  have there := h.engines.get? slot
  generalize hs : s.engines.get? slot = o, ht : t.engines.get? slot = o' at there
  cases there with
  | none =>
    rw [step_engine_of_none hs, step_engine_of_none ht]
    exact ⟨rfl, h, rfl⟩
  | @some e e' he =>
    obtain ⟨answer, state, events⟩ := hact slot inner e e' rfl hs he
    rw [step_engine h.ordered hs, step_engine h.ordered_right ht, ← h.buffer]
    rw [answer]
    exact ⟨rfl, (h.setEngine slot state).setBuffer _, events⟩

theorem backtest_paired (hp : Pairing bridge bridge' RE RB)
    (h : Paired host bridge bridge' RE RB s t) (slot : Nat) (inner : BacktestStep) :
    Agree (Paired host bridge bridge' RE RB) (step (.backtest slot inner) s)
      (step (.backtest slot inner) t) := by
  have there := h.backtests.get? slot
  generalize hs : s.backtests.get? slot = o, ht : t.backtests.get? slot = o' at there
  cases there with
  | none =>
    rw [step_backtest_of_none hs, step_backtest_of_none ht]
    exact ⟨rfl, h, rfl⟩
  | @some b b' hb =>
    obtain ⟨answer, state, events⟩ := hp.backtest inner b b' hb
    rw [step_backtest h.ordered hs, step_backtest h.ordered_right ht]
    exact ⟨answer, h.setBacktest slot state, shown_eq_of_trace events⟩

theorem freshCalls_eq_of_paired (h : Paired host bridge bridge' RE RB s t) :
    s.freshCalls = t.freshCalls := by
  unfold freshCalls
  rw [callsAt_scripted_eq_of_shown h.journal, h.callsShown]

/-- **One step.** Paired sessions answer a step the same and stay paired, if the engines that the
step is about act alike. -/
theorem step_paired (hp : Pairing bridge bridge' RE RB) (h : Paired host bridge bridge' RE RB s t)
    (st : Step) (hact : s.ActAlike RE st) :
    Agree (Paired host bridge bridge' RE RB) (step st s) (step st t) := by
  cases st with
  | newEngine slot capacity =>
    have hmade := hp.createEngine capacity
    rw [← h.bridges.1, ← h.bridges.2] at hmade
    exact placeEngine_paired hp h slot hmade
  | newEngineFromEnvironment slot capacity =>
    -- the environment is the same for both, and so is what it leads to
    have hmade : Alike Eq (MadeAlike RE) (Engine.ofEnvironment s.host capacity ())
        (Engine.ofEnvironment s.host capacity ()) := ⟨.refl hp.sameEngine _, rfl, rfl⟩
    have hright : step (.newEngineFromEnvironment slot capacity) t =
        (Op.lift (Engine.ofEnvironment s.host capacity) >>= placeEngine slot) t := by
      rw [h.host_eq]
      rfl
    rw [hright]
    exact placeEngine_paired hp h slot hmade
  | dropEngine slot => exact dropEngine_paired hp h slot
  | engine slot inner => exact engine_paired h slot inner hact
  | newBacktest slot params =>
    have hmade := hp.createBacktest params
    rw [← h.bridges.1, ← h.bridges.2] at hmade
    exact placeBacktest_paired hp h slot hmade
  | newBacktestFromEnvironment slot params =>
    have hmade : Alike Eq (MadeAlike RB) (Backtest.ofEnvironment s.host params ())
        (Backtest.ofEnvironment s.host params ()) := ⟨.refl hp.sameBacktest _, rfl, rfl⟩
    have hright : step (.newBacktestFromEnvironment slot params) t =
        (Op.lift (Backtest.ofEnvironment s.host params) >>= placeBacktest slot) t := by
      rw [h.host_eq]
      rfl
    rw [hright]
    exact placeBacktest_paired hp h slot hmade
  | dropBacktest slot => exact dropBacktest_paired hp h slot
  | backtest slot inner => exact backtest_paired hp h slot inner
  | buffer => exact ⟨congrArg Answer.signals h.buffer, h, rfl⟩
  | clearBuffer => exact ⟨rfl, h.setBuffer [], rfl⟩
  | calls =>
    have hfresh := freshCalls_eq_of_paired h
    refine ⟨congrArg Answer.calls hfresh, ?_, rfl⟩
    have hcount : s.callsShown + s.freshCalls.length = t.callsShown + t.freshCalls.length := by
      rw [hfresh, h.callsShown]
    exact { h with
      ordered := ⟨h.ordered.engines, h.ordered.backtests⟩
      callsShown := hcount }
  | counters => exact ⟨congrArg Answer.counters (Counters.ofEvents_eq_of_shown h.journal), h, rfl⟩

/-! ## Writing the journal -/

theorem advance_paired {op op' : Op (Session ε β) Answer}
    (h : Agree (Paired host bridge bridge' RE RB) (op s) (op' t)) :
    Paired host bridge bridge' RE RB (advance op s).2 (advance op' t).2 := by
  have hjournal : shown ((op s).state.journal ++ (op s).events) =
      shown ((op' t).state.journal ++ (op' t).events) := by
    rw [shown_append, shown_append, h.state.journal, h.shown]
  exact { h.state with
    ordered := ⟨h.state.ordered.engines, h.state.ordered.backtests⟩
    journal := hjournal }

/-- Dropping everything shows the same in both. -/
theorem closingCounters_eq_of_paired (hp : Pairing bridge bridge' RE RB)
    (h : Paired host bridge bridge' RE RB s t) : s.closingCounters = t.closingCounters := by
  have hengines : shown (s.engines.toList.flatMap Engine.drop) =
      shown (t.engines.toList.flatMap Engine.drop) :=
    shown_flatMap (h.engines.toList.imp fun e e' he => shown_eq_of_trace (hp.dropEngine e e' he))
  have hbacktests : shown (s.backtests.toList.flatMap Backtest.drop) =
      shown (t.backtests.toList.flatMap Backtest.drop) :=
    shown_flatMap (h.backtests.toList.imp fun b b' hb =>
      shown_eq_of_trace (hp.dropBacktest b b' hb))
  refine Counters.ofEvents_eq_of_shown ?_
  show shown (s.journal ++ (_ ++ _)) = shown (t.journal ++ (_ ++ _))
  rw [shown_append, shown_append, shown_append, shown_append, h.journal, hengines, hbacktests]

end Session

end MarketBridge
