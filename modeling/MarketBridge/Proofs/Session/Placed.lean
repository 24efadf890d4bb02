import MarketBridge.Proofs.Session.Perform

/-!
# `Session.Placed` — what stands at a place of a session

As long as no other wrapper is put at a place and none is dropped there, what stands there is the
wrapper that was put there, changed by the steps on it and by nothing else
(`Session.step_placed_engine`, `Session.step_placed_backtest`). So whatever every step on a wrapper
keeps, a run of the session keeps (`Session.run_keeps_engine`, `Session.run_keeps_backtest`).
-/

namespace MarketBridge

variable {ε β : Type}

/-- The step puts no engine at the place and drops none there. -/
def Step.sparesEngine (slot : Nat) : Step → Bool
  | .newEngine i _ | .newEngineFromEnvironment i _ | .dropEngine i => i != slot
  | _ => true

/-- The step puts no backtest at the place and drops none there. -/
def Step.sparesBacktest (slot : Nat) : Step → Bool
  | .newBacktest i _ | .newBacktestFromEnvironment i _ | .dropBacktest i => i != slot
  | _ => true

namespace Slots

variable {α : Type} {s : Slots α} {i j : Nat}

theorem get?_set_self (a : α) : (s.set i a).get? i = some a := by
  rw [get?_set, if_pos rfl]

theorem get?_set_of_ne (h : (i != j) = true) (a : α) : (s.set i a).get? j = s.get? j := by
  rw [get?_set, if_neg (Ne.symm (bne_iff_ne.mp h))]

theorem get?_erase_of_ne (h : (i != j) = true) : (s.erase i).get? j = s.get? j := by
  rw [get?_erase, if_neg (Ne.symm (bne_iff_ne.mp h))]

end Slots

namespace Session

variable {s : Session ε β} {slot : Nat}

/-! ## Engines -/

/-- The engine that a step makes stands at its place after it. -/
theorem placed_newEngine {capacity : UInt64} {e : Engine ε β}
    (hmade : (Engine.create s.bridge capacity ()).answer = .ok e) :
    (step (.newEngine slot capacity) s).state.engines.get? slot = some e := by
  show ((Op.lift (Engine.create s.bridge capacity) >>= placeEngine slot)
    s).state.engines.get? slot = some e
  rw [placeEngine_of_ok hmade]
  exact Slots.get?_set_self e

/-- Placing an engine elsewhere changes nothing here. -/
theorem placeEngine_elsewhere {i : Nat} (hi : (i != slot) = true)
    (made : Op Unit (Except Error (Engine ε β))) :
    ((Op.lift made >>= placeEngine i) s).state.engines.get? slot = s.engines.get? slot := by
  cases hmade : (made ()).answer with
  | error error => rw [placeEngine_of_error hmade]
  | ok e =>
    rw [placeEngine_of_ok hmade]
    exact Slots.get?_set_of_ne hi e

/-- Placing a backtest changes no engine. -/
theorem placeBacktest_engines {i : Nat} (made : Op Unit (Except Error (Backtest ε β))) :
    ((Op.lift made >>= placeBacktest i) s).state.engines = s.engines := by
  cases hmade : (made ()).answer with
  | error error => rw [placeBacktest_of_error hmade]
  | ok x => rw [placeBacktest_of_ok hmade]

/-- After a step that spares the place there stands the engine that stood there, as it was or as a
step on it leaves it. -/
theorem step_placed_engine (h : s.Ordered) {e : Engine ε β} (he : s.engines.get? slot = some e)
    {st : Step} (hspares : st.sparesEngine slot = true) :
    ∃ e', (step st s).state.engines.get? slot = some e' ∧
      (e' = e ∨ ∃ inner, e' = (e.perform s.buffer inner).state) := by
  have unchanged : (step st s).state.engines.get? slot = s.engines.get? slot →
      ∃ e', (step st s).state.engines.get? slot = some e' ∧
        (e' = e ∨ ∃ inner, e' = (e.perform s.buffer inner).state) :=
    fun hsame => ⟨e, hsame.trans he, .inl rfl⟩
  cases st with
  | newEngine i capacity =>
    exact unchanged (placeEngine_elsewhere hspares (Engine.create s.bridge capacity))
  | newEngineFromEnvironment i capacity =>
    exact unchanged (placeEngine_elsewhere hspares (Engine.ofEnvironment s.host capacity))
  | dropEngine i =>
    refine unchanged ?_
    cases there : s.engines.get? i with
    | none => rw [step_dropEngine_of_none there]
    | some dropped =>
      rw [step_dropEngine there]
      exact Slots.get?_erase_of_ne hspares
  | engine i inner =>
    cases there : s.engines.get? i with
    | none =>
      refine unchanged ?_
      rw [step_engine_of_none there]
    | some performed =>
      by_cases hi : i = slot
      · subst hi
        obtain rfl : performed = e := Option.some.inj (there.symm.trans he)
        rw [step_engine h there]
        exact ⟨_, Slots.get?_set_self _, .inr ⟨inner, rfl⟩⟩
      · refine unchanged ?_
        rw [step_engine h there]
        exact Slots.get?_set_of_ne (bne_iff_ne.mpr hi) _
  | newBacktest i params =>
    have hsame : (step (.newBacktest i params) s).state.engines = s.engines :=
      placeBacktest_engines (Backtest.create s.bridge params)
    refine unchanged ?_
    rw [hsame]
  | newBacktestFromEnvironment i params =>
    have hsame : (step (.newBacktestFromEnvironment i params) s).state.engines = s.engines :=
      placeBacktest_engines (Backtest.ofEnvironment s.host params)
    refine unchanged ?_
    rw [hsame]
  | dropBacktest i =>
    refine unchanged ?_
    cases there : s.backtests.get? i with
    | none => rw [step_dropBacktest_of_none there]
    | some dropped => rw [step_dropBacktest there]
  | backtest i inner =>
    refine unchanged ?_
    cases there : s.backtests.get? i with
    | none => rw [step_backtest_of_none there]
    | some performed => rw [step_backtest h there]
  | buffer => exact unchanged rfl
  | clearBuffer => exact unchanged rfl
  | calls => exact unchanged rfl
  | counters => exact unchanged rfl

/-- What every step on an engine keeps, a run keeps of the engine at a place that it spares. -/
theorem run_keeps_engine {I : Engine ε β → Prop}
    (hkeeps : ∀ e buffer inner, I e → I (e.perform buffer inner).state) (h : s.Ordered)
    {e : Engine ε β} (he : s.engines.get? slot = some e) (hI : I e) {steps : List Step}
    (hspares : ∀ st ∈ steps, st.sparesEngine slot = true) :
    ∃ e', (run steps s).2.engines.get? slot = some e' ∧ I e' := by
  induction steps generalizing s e with
  | nil => exact ⟨e, he, hI⟩
  | cons next rest ih =>
    obtain ⟨hnext, hrest⟩ := List.forall_mem_cons.mp hspares
    obtain ⟨e', he', hstep⟩ := step_placed_engine h he hnext
    have hI' : I e' := by
      rcases hstep with rfl | ⟨inner, rfl⟩
      · exact hI
      · exact hkeeps e s.buffer inner hI
    exact ih (h.advance next) he' hI' hrest

/-! ## Backtests -/

/-- The backtest that a step makes stands at its place after it. -/
theorem placed_newBacktest {params : BacktestParams} {x : Backtest ε β}
    (hmade : (Backtest.create s.bridge params ()).answer = .ok x) :
    (step (.newBacktest slot params) s).state.backtests.get? slot = some x := by
  show ((Op.lift (Backtest.create s.bridge params) >>= placeBacktest slot)
    s).state.backtests.get? slot = some x
  rw [placeBacktest_of_ok hmade]
  exact Slots.get?_set_self x

/-- Placing a backtest elsewhere changes nothing here. -/
theorem placeBacktest_elsewhere {i : Nat} (hi : (i != slot) = true)
    (made : Op Unit (Except Error (Backtest ε β))) :
    ((Op.lift made >>= placeBacktest i) s).state.backtests.get? slot =
      s.backtests.get? slot := by
  cases hmade : (made ()).answer with
  | error error => rw [placeBacktest_of_error hmade]
  | ok x =>
    rw [placeBacktest_of_ok hmade]
    exact Slots.get?_set_of_ne hi x

/-- Placing an engine changes no backtest. -/
theorem placeEngine_backtests {i : Nat} (made : Op Unit (Except Error (Engine ε β))) :
    ((Op.lift made >>= placeEngine i) s).state.backtests = s.backtests := by
  cases hmade : (made ()).answer with
  | error error => rw [placeEngine_of_error hmade]
  | ok e => rw [placeEngine_of_ok hmade]

/-- After a step that spares the place there stands the backtest that stood there, as it was or as a
step on it leaves it. -/
theorem step_placed_backtest (h : s.Ordered) {x : Backtest ε β}
    (hx : s.backtests.get? slot = some x) {st : Step} (hspares : st.sparesBacktest slot = true) :
    ∃ x', (step st s).state.backtests.get? slot = some x' ∧
      (x' = x ∨ ∃ inner, x' = (x.perform inner).state) := by
  have unchanged : (step st s).state.backtests.get? slot = s.backtests.get? slot →
      ∃ x', (step st s).state.backtests.get? slot = some x' ∧
        (x' = x ∨ ∃ inner, x' = (x.perform inner).state) :=
    fun hsame => ⟨x, hsame.trans hx, .inl rfl⟩
  cases st with
  | newEngine i capacity =>
    have hsame : (step (.newEngine i capacity) s).state.backtests = s.backtests :=
      placeEngine_backtests (Engine.create s.bridge capacity)
    refine unchanged ?_
    rw [hsame]
  | newEngineFromEnvironment i capacity =>
    have hsame : (step (.newEngineFromEnvironment i capacity) s).state.backtests = s.backtests :=
      placeEngine_backtests (Engine.ofEnvironment s.host capacity)
    refine unchanged ?_
    rw [hsame]
  | dropEngine i =>
    refine unchanged ?_
    cases there : s.engines.get? i with
    | none => rw [step_dropEngine_of_none there]
    | some dropped => rw [step_dropEngine there]
  | engine i inner =>
    refine unchanged ?_
    cases there : s.engines.get? i with
    | none => rw [step_engine_of_none there]
    | some performed => rw [step_engine h there]
  | newBacktest i params =>
    exact unchanged (placeBacktest_elsewhere hspares (Backtest.create s.bridge params))
  | newBacktestFromEnvironment i params =>
    exact unchanged (placeBacktest_elsewhere hspares (Backtest.ofEnvironment s.host params))
  | dropBacktest i =>
    refine unchanged ?_
    cases there : s.backtests.get? i with
    | none => rw [step_dropBacktest_of_none there]
    | some dropped =>
      rw [step_dropBacktest there]
      exact Slots.get?_erase_of_ne hspares
  | backtest i inner =>
    cases there : s.backtests.get? i with
    | none =>
      refine unchanged ?_
      rw [step_backtest_of_none there]
    | some performed =>
      by_cases hi : i = slot
      · subst hi
        obtain rfl : performed = x := Option.some.inj (there.symm.trans hx)
        rw [step_backtest h there]
        exact ⟨_, Slots.get?_set_self _, .inr ⟨inner, rfl⟩⟩
      · refine unchanged ?_
        rw [step_backtest h there]
        exact Slots.get?_set_of_ne (bne_iff_ne.mpr hi) _
  | buffer => exact unchanged rfl
  | clearBuffer => exact unchanged rfl
  | calls => exact unchanged rfl
  | counters => exact unchanged rfl

/-- What every step on a backtest keeps, a run keeps of the backtest at a place that it spares. -/
theorem run_keeps_backtest {I : Backtest ε β → Prop}
    (hkeeps : ∀ x inner, I x → I (x.perform inner).state) (h : s.Ordered) {x : Backtest ε β}
    (hx : s.backtests.get? slot = some x) (hI : I x) {steps : List Step}
    (hspares : ∀ st ∈ steps, st.sparesBacktest slot = true) :
    ∃ x', (run steps s).2.backtests.get? slot = some x' ∧ I x' := by
  induction steps generalizing s x with
  | nil => exact ⟨x, hx, hI⟩
  | cons next rest ih =>
    obtain ⟨hnext, hrest⟩ := List.forall_mem_cons.mp hspares
    obtain ⟨x', hx', hstep⟩ := step_placed_backtest h hx hnext
    have hI' : I x' := by
      rcases hstep with rfl | ⟨inner, rfl⟩
      · exact hI
      · exact hkeeps x inner hI
    exact ih (h.advance next) hx' hI' hrest

end Session

end MarketBridge
