import MarketBridge.Proofs.Session.Owned

/-!
# `Session.Through` — which backends the wrappers of a session go through

The calls of an open wrapper go through the backend that it was made from. So if the bridge of a
session has a property, and every bridge that its environment describes has it, then all its open
wrappers go through backends with that property, whatever the steps (`Session.Through.step`).
-/

namespace MarketBridge

variable {ε β : Type}

/-! ## Wrappers -/

theorem Backend.createEngine_backend (b : Backend ε β) (capacity : UInt64) :
    ∀ l, (b.createEngine capacity ()).answer = .ok l → l.backend = b := by
  cases b with
  | table b =>
    rw [createEngine_table]
    cases b.code.newEngine capacity with
    | none => rintro l ⟨⟩
    | some s =>
      rintro l ⟨⟩
      rfl
  | inProcess m =>
    rw [createEngine_inProcess]
    cases m.newEngine capacity with
    | none => rintro l ⟨⟩
    | some s =>
      rintro l ⟨⟩
      rfl

theorem Backend.createBacktest_backend (b : Backend ε β) (params : BacktestParams) :
    ∀ l, (b.createBacktest params ()).answer = .ok l → l.backend = b := by
  cases b with
  | table b =>
    rw [createBacktest_table]
    cases b.code.newBacktest params with
    | none => rintro l ⟨⟩
    | some s =>
      rintro l ⟨⟩
      rfl
  | inProcess m =>
    rw [createBacktest_inProcess]
    cases m.newBacktest params with
    | none => rintro l ⟨⟩
    | some s =>
      rintro l ⟨⟩
      rfl

theorem Engine.create_backend (bridge : Bridge ε β) (capacity : UInt64) :
    ∀ e, (create bridge capacity ()).answer = .ok e → e.backend? = some bridge.backend := by
  unfold create
  by_cases zero : capacity = 0
  · rw [if_pos zero]
    rintro e ⟨⟩
  · have hlink := bridge.backend.createEngine_backend capacity
    rw [if_neg zero, Op.bind_apply]
    cases hmade : (bridge.backend.createEngine capacity ()).answer with
    | error error => rintro e ⟨⟩
    | ok l =>
      rintro e ⟨⟩
      exact congrArg some (hlink l hmade)

theorem Backtest.create_backend (bridge : Bridge ε β) (params : BacktestParams) :
    ∀ x, (create bridge params ()).answer = .ok x → x.backend? = some bridge.backend := by
  unfold create
  cases params.validate with
  | error error => rintro x ⟨⟩
  | ok _ =>
    have hlink := bridge.backend.createBacktest_backend params
    dsimp only
    rw [Op.bind_apply]
    cases hmade : (bridge.backend.createBacktest params ()).answer with
    | error error => rintro x ⟨⟩
    | ok l =>
      rintro x ⟨⟩
      exact congrArg some (hlink l hmade)

/-- A step on a wrapper leads it nowhere else: it stays at its backend or is closed. -/
theorem Engine.perform_backend {e : Engine ε β} (h : e.Live) (buffer : List Signal)
    (st : EngineStep) : ∀ b ∈ (perform buffer st e).state.backend?, b ∈ e.backend? := by
  -- every step but closing keeps the backend, and closing leaves none
  have keeps : st ≠ .close → ∀ b ∈ (perform buffer st e).state.backend?, b ∈ e.backend? := by
    intro hst b hb
    obtain ⟨⟨backend, -⟩, -⟩ := perform_keeps (I := At e.backend?) (fun _ => rfl)
      (invoke_keeps_owner _) buffer hst e ⟨rfl, h⟩
    rwa [backend] at hb
  cases st with
  | close =>
    obtain ⟨link, kind, decode, capacity⟩ := e
    cases link with
    | none => exact fun _ hb => hb
    | some l =>
      rintro b ⟨⟩
  | _ => exact keeps (by rintro ⟨⟩)

theorem Backtest.perform_backend {x : Backtest ε β} (h : x.Live) (st : BacktestStep) :
    ∀ b ∈ (perform st x).state.backend?, b ∈ x.backend? := by
  have keeps : st ≠ .close → ∀ b ∈ (perform st x).state.backend?, b ∈ x.backend? := by
    intro hst b hb
    obtain ⟨⟨backend, -⟩, -⟩ := perform_keeps (I := fun y => y.backend? = x.backend? ∧ y.Live)
      (invoke_keeps_owner _) hst x ⟨rfl, h⟩
    rwa [backend] at hb
  cases st with
  | close =>
    obtain ⟨link, kind, params⟩ := x
    cases link with
    | none => exact fun _ hb => hb
    | some l =>
      rintro b ⟨⟩
  | _ => exact keeps (by rintro ⟨⟩)

/-! ## Sessions -/

/-- Whether the step selects a bridge of its own, by the environment. -/
def Step.selects : Step → Bool
  | .newEngineFromEnvironment _ _ | .newBacktestFromEnvironment _ _ => true
  | _ => false

/-- The bridge that the environment describes, if there is one, has a backend with `P`. -/
def Host.Offers (P : Backend ε β → Prop) (host : Host ε β) : Prop :=
  ∀ bridge, (Bridge.ofEnvironment host ()).answer = .ok bridge → P bridge.backend

namespace Session

/-- The open wrappers of the session, and the next ones, go through backends with `P`. -/
structure Through (P : Backend ε β → Prop) (s : Session ε β) : Prop where
  bridge : P s.bridge.backend
  engines : ∀ e ∈ s.engines.toList, ∀ b ∈ e.backend?, P b
  backtests : ∀ x ∈ s.backtests.toList, ∀ b ∈ x.backend?, P b

variable {P : Backend ε β → Prop} {s : Session ε β} {j : List Event}

theorem through_start (host : Host ε β) {bridge : Bridge ε β} (h : P bridge.backend) :
    (start host bridge).Through P :=
  ⟨h, fun _ hmem => absurd hmem List.not_mem_nil, fun _ hmem => absurd hmem List.not_mem_nil⟩

namespace Through

theorem setEngine (h : s.Through P) (slot : Nat) {e : Engine ε β} (he : ∀ b ∈ e.backend?, P b) :
    ({ s with engines := s.engines.set slot e } : Session ε β).Through P := by
  refine { h with engines := fun e' hmem => ?_ }
  rcases Slots.mem_toList_set hmem with rfl | there
  · exact he
  · exact h.engines e' there

theorem setBacktest (h : s.Through P) (slot : Nat) {x : Backtest ε β}
    (hx : ∀ b ∈ x.backend?, P b) :
    ({ s with backtests := s.backtests.set slot x } : Session ε β).Through P := by
  refine { h with backtests := fun x' hmem => ?_ }
  rcases Slots.mem_toList_set hmem with rfl | there
  · exact hx
  · exact h.backtests x' there

theorem placeEngine (h : s.Through P) (slot : Nat) {op : Op Unit (Except Error (Engine ε β))}
    (hop : ∀ e, (op ()).answer = .ok e → ∀ b ∈ e.backend?, P b) :
    ((Op.lift op >>= Session.placeEngine slot) s).state.Through P := by
  cases hmade : (op ()).answer with
  | error error =>
    rw [placeEngine_of_error hmade]
    exact h
  | ok e =>
    rw [placeEngine_of_ok hmade]
    exact h.setEngine slot (hop e hmade)

theorem placeBacktest (h : s.Through P) (slot : Nat) {op : Op Unit (Except Error (Backtest ε β))}
    (hop : ∀ x, (op ()).answer = .ok x → ∀ b ∈ x.backend?, P b) :
    ((Op.lift op >>= Session.placeBacktest slot) s).state.Through P := by
  cases hmade : (op ()).answer with
  | error error =>
    rw [placeBacktest_of_error hmade]
    exact h
  | ok x =>
    rw [placeBacktest_of_ok hmade]
    exact h.setBacktest slot (hop x hmade)

/-- What is made from the environment goes through what the environment offers. -/
theorem ofEnvironment {α : Type} {host : Host ε β} {make : Bridge ε β → Op Unit (Except Error α)}
    {backend? : α → Option (Backend ε β)} (hoffers : host.Offers P)
    (hmake : ∀ bridge a, (make bridge ()).answer = .ok a → backend? a = some bridge.backend)
    {a : α}
    (h : ((Bridge.ofEnvironment host >>= fun
      | .error e => pure (.error e)
      | .ok bridge => make bridge) ()).answer = .ok a) :
    ∀ b ∈ backend? a, P b := by
  rw [Op.bind_apply] at h
  cases hfound : (Bridge.ofEnvironment host ()).answer with
  | error e =>
    rw [hfound] at h
    cases h
  | ok bridge =>
    rw [hfound] at h
    intro b hb
    rw [hmake bridge a h] at hb
    cases hb
    exact hoffers bridge hfound

/-- **One step.** Wrappers go on through backends with the property. -/
theorem step (h : s.Through P) (hlive : Live j s) (hordered : s.Ordered) (st : Step)
    (hoffers : st.selects = true → s.host.Offers P) : (Session.step st s).state.Through P := by
  cases st with
  | newEngine slot capacity =>
    refine h.placeEngine slot fun e hmade b hb => ?_
    rw [Engine.create_backend _ _ e hmade] at hb
    cases hb
    exact h.bridge
  | newEngineFromEnvironment slot capacity =>
    refine h.placeEngine slot fun e hmade => ?_
    exact ofEnvironment (hoffers rfl) (fun bridge => Engine.create_backend bridge capacity) hmade
  | dropEngine slot =>
    cases there : s.engines.get? slot with
    | none =>
      rw [step_dropEngine_of_none there]
      exact h
    | some e =>
      rw [step_dropEngine there]
      exact { h with engines := fun e' hmem => h.engines e' (Slots.mem_toList_erase hmem) }
  | engine slot inner =>
    cases there : s.engines.get? slot with
    | none =>
      rw [step_engine_of_none there]
      exact h
    | some e =>
      have hmem := Slots.mem_toList_of_get? there
      have hset := h.setEngine slot (e := (e.perform s.buffer inner).state) fun b hb =>
        h.engines e hmem b (Engine.perform_backend (hlive.engines e hmem) s.buffer inner b hb)
      rw [step_engine hordered there]
      exact ⟨hset.bridge, hset.engines, hset.backtests⟩
  | newBacktest slot params =>
    refine h.placeBacktest slot fun x hmade b hb => ?_
    rw [Backtest.create_backend _ _ x hmade] at hb
    cases hb
    exact h.bridge
  | newBacktestFromEnvironment slot params =>
    refine h.placeBacktest slot fun x hmade => ?_
    exact ofEnvironment (hoffers rfl) (fun bridge => Backtest.create_backend bridge params) hmade
  | dropBacktest slot =>
    cases there : s.backtests.get? slot with
    | none =>
      rw [step_dropBacktest_of_none there]
      exact h
    | some x =>
      rw [step_dropBacktest there]
      exact { h with backtests := fun x' hmem => h.backtests x' (Slots.mem_toList_erase hmem) }
  | backtest slot inner =>
    cases there : s.backtests.get? slot with
    | none =>
      rw [step_backtest_of_none there]
      exact h
    | some x =>
      have hmem := Slots.mem_toList_of_get? there
      rw [step_backtest hordered there]
      exact h.setBacktest slot fun b hb =>
        h.backtests x hmem b (Backtest.perform_backend (hlive.backtests x hmem) inner b hb)
  | buffer => exact h
  | clearBuffer => exact ⟨h.bridge, h.engines, h.backtests⟩
  | calls => exact ⟨h.bridge, h.engines, h.backtests⟩
  | counters => exact h

/-- **A whole run.** As long as no step selects a bridge of its own, all wrappers go through
backends with the property. -/
theorem run (h : s.Through P) (hlive : s.Live s.journal) (hordered : s.Ordered)
    (steps : List Step) (hselects : ∀ st ∈ steps, st.selects = false) :
    (Session.run steps s).2.Through P := by
  induction steps generalizing s with
  | nil => exact h
  | cons next rest ih =>
    have hnext : next.selects = true → s.host.Offers P := by
      rw [hselects next List.mem_cons_self]
      nofun
    obtain ⟨bridge, engines, backtests⟩ := h.step hlive hordered next hnext
    obtain ⟨live, -⟩ := advance_crosses (step_crosses hlive next)
    exact ih ⟨bridge, engines, backtests⟩ live (hordered.advance next)
      fun st hmem => hselects st (List.mem_cons_of_mem next hmem)

end Through

end Session

end MarketBridge
