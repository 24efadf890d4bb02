import MarketBridge.Proofs.Backend
import MarketBridge.Proofs.Journal.Lockstep
import MarketBridge.Proofs.Session.Native
import MarketBridge.Proofs.Session.Slots

/-!
# `Session.Twin` — the same code behind a table and behind a module

A table *mirrors* a module when the two lead to the same code (`Mirrors`). Two wrappers are then
twins if they hold the same native state, one through the table and one through the module, and two
sessions are twins if their wrappers are, place by place. `Session.step_alike` says that a step
keeps sessions twins and answers the same in both, unless the step asks for the name of the
backend. The one thing that can tell the two apart is an indicator id of zero, which a table takes
for a refusal and a module does not: `Room` is what an engine needs for its next id not to be zero.
-/

namespace MarketBridge

open Outcome

variable {ε β : Type}

/-- Whether the call registers an indicator. -/
def EngineCall.isRegistration : EngineCall → Bool
  | .addIndicator _ => true
  | _ => false

/-- The table `b` and the module `m` lead to the same code, up to registering indicators in engines
without `Room`. -/
structure Mirrors (b : TableBackend ε β) (m : EngineModule ε β) (Room : ε → Prop) : Prop where
  site : b.code.site = m.site
  newEngine : b.code.newEngine = m.newEngine
  newBacktest : b.code.newBacktest = m.newBacktest
  engine : ∀ c s, (c.isRegistration = true → Room s) → b.engineCall c s = m.callEngine c s
  backtest : ∀ c s, b.backtestCall c s = m.callBacktest c s

/-! ## Links -/

/-- Links to the same engine: the same link, or one through the table and one to the module. -/
inductive EngineLink.Twin (b : TableBackend ε β) (m : EngineModule ε β) :
    EngineLink ε β → EngineLink ε β → Prop
  | same (l : EngineLink ε β) : Twin b m l l
  | across (s : ε) : Twin b m (b.engineLink s) (.inProcess m s)

/-- Links to the same backtest. -/
inductive BacktestLink.Twin (b : TableBackend ε β) (m : EngineModule ε β) :
    BacktestLink ε β → BacktestLink ε β → Prop
  | same (l : BacktestLink ε β) : Twin b m l l
  | across (s : β) : Twin b m (b.backtestLink s) (.inProcess m s)

variable {b : TableBackend ε β} {m : EngineModule ε β} {Room : ε → Prop}

theorem EngineLink.Twin.call_alike (hm : Mirrors b m Room) {l l' : EngineLink ε β}
    (h : Twin b m l l') (c : EngineCall)
    (hroom : c.isRegistration = true → ∀ s, l.native? = some s → Room s) :
    Alike (Twin b m) Eq (EngineLink.call c l) (EngineLink.call c l') := by
  cases h with
  | same l => exact ⟨rfl, .same _, rfl⟩
  | across s =>
    have hcall := hm.engine c s fun hc => hroom hc s rfl
    rw [call_engineLink, call_inProcess, hcall]
    exact ⟨rfl, .across _, rfl⟩

theorem BacktestLink.Twin.call_alike (hm : Mirrors b m Room) {l l' : BacktestLink ε β}
    (h : Twin b m l l') (c : BacktestCall) :
    Alike (Twin b m) Eq (BacktestLink.call c l) (BacktestLink.call c l') := by
  cases h with
  | same l => exact ⟨rfl, .same _, rfl⟩
  | across s =>
    have hcall := hm.backtest c s
    rw [call_backtestLink, call_inProcess, hcall]
    exact ⟨rfl, .across _, rfl⟩

theorem EngineLink.Twin.trace_drop (hm : Mirrors b m Room) {l l' : EngineLink ε β}
    (h : Twin b m l l') : trace l.drop = trace l'.drop := by
  cases h with
  | same l => rfl
  | across s =>
    show [Event.native b.code.site .engineFree] = [.native m.site .engineFree]
    rw [hm.site]

theorem BacktestLink.Twin.trace_drop (hm : Mirrors b m Room) {l l' : BacktestLink ε β}
    (h : Twin b m l l') : trace l.drop = trace l'.drop := by
  cases h with
  | same l => rfl
  | across s =>
    show [Event.native b.code.site .backtestFree] = [.native m.site .backtestFree]
    rw [hm.site]

/-! ## Making -/

/-- The answers of two constructors: the same error, or related values. -/
inductive MadeAlike {α : Type} (R : α → α → Prop) : Except Error α → Except Error α → Prop
  | error (e : Error) : MadeAlike R (.error e) (.error e)
  | ok {a a' : α} (h : R a a') : MadeAlike R (.ok a) (.ok a')

theorem MadeAlike.refl {α : Type} {R : α → α → Prop} (hR : ∀ a, R a a) (made : Except Error α) :
    MadeAlike R made made := by
  cases made with
  | error e => exact .error e
  | ok a => exact .ok (hR a)

theorem Backend.createEngine_alike (hm : Mirrors b m Room) (capacity : UInt64) :
    Alike Eq (MadeAlike (EngineLink.Twin b m)) ((Backend.table b).createEngine capacity ())
      ((Backend.inProcess m).createEngine capacity ()) := by
  have hsite : [Event.native b.code.site (.engineNew capacity)] =
      [.native m.site (.engineNew capacity)] := by rw [hm.site]
  unfold createEngine
  refine .bind (P := Eq) (Q := Eq) ⟨congrFun hm.newEngine capacity, rfl, hsite⟩ ?_
  rintro raw _ u _ rfl rfl
  cases raw with
  | none => exact ⟨.error _, rfl, rfl⟩
  | some s => exact ⟨.ok (.across s), rfl, rfl⟩

theorem Backend.createBacktest_alike (hm : Mirrors b m Room) (params : BacktestParams) :
    Alike Eq (MadeAlike (BacktestLink.Twin b m)) ((Backend.table b).createBacktest params ())
      ((Backend.inProcess m).createBacktest params ()) := by
  have hsite : [Event.native b.code.site (.backtestNew params)] =
      [.native m.site (.backtestNew params)] := by rw [hm.site]
  unfold createBacktest
  refine .bind (P := Eq) (Q := Eq) ⟨congrFun hm.newBacktest params, rfl, hsite⟩ ?_
  rintro raw _ u _ rfl rfl
  cases raw with
  | none => exact ⟨.error _, rfl, rfl⟩
  | some s => exact ⟨.ok (.across s), rfl, rfl⟩

/-! ## Engine wrappers -/

/-- Wrappers of the same engine that differ at most in the kind of their backend. -/
structure Engine.Twin (b : TableBackend ε β) (m : EngineModule ε β) (e e' : Engine ε β) :
    Prop where
  link : Option.Rel (EngineLink.Twin b m) e.link e'.link
  decode : e.decode = e'.decode
  capacity : e.capacity = e'.capacity

namespace Engine

theorem Twin.refl (e : Engine ε β) : Twin b m e e := by
  refine ⟨?_, rfl, rfl⟩
  cases e.link with
  | none => exact .none
  | some l => exact .some (.same l)

/-- An operation that cannot tell twins apart. -/
def Parallel (b : TableBackend ε β) (m : EngineModule ε β) {α : Type}
    (op : Op (Engine ε β) α) : Prop :=
  ∀ e e', Twin b m e e' → Alike (Twin b m) Eq (op e) (op e')

theorem invoke_alike (hm : Mirrors b m Room) {e e' : Engine ε β} (h : Twin b m e e')
    (c : EngineCall) (hroom : c.isRegistration = true → ∀ s, e.native? = some s → Room s) :
    Alike (Twin b m) Eq (invoke c e) (invoke c e') := by
  obtain ⟨link, kind, decode, capacity⟩ := e
  obtain ⟨link', kind', decode', capacity'⟩ := e'
  obtain ⟨hlink, hdecode, hcapacity⟩ := h
  cases hlink with
  | none => exact ⟨rfl, ⟨.none, hdecode, hcapacity⟩, rfl⟩
  | some hl =>
    obtain ⟨answer, state, trace⟩ := hl.call_alike hm c hroom
    exact ⟨answer, ⟨.some state, hdecode, hcapacity⟩, trace⟩

theorem invoke_parallel (hm : Mirrors b m Room) {c : EngineCall} (hc : c.isRegistration = false) :
    Parallel b m (invoke c) := fun _ _ h =>
  invoke_alike hm h c fun hreg => absurd hreg (by simp [hc])

theorem addIndicator_alike (hm : Mirrors b m Room) {e e' : Engine ε β} (h : Twin b m e e')
    (spec : IndicatorSpec) (hroom : ∀ s, e.native? = some s → Room s) :
    Alike (Twin b m) Eq (addIndicator spec e) (addIndicator spec e') := by
  unfold addIndicator
  cases spec.validate with
  | error err => exact .pure rfl h
  | ok _ => exact invoke_alike hm h (.addIndicator spec) fun _ => hroom

theorem drain_parallel (hm : Mirrors b m Room) : Parallel b m drain := by
  intro e e' h
  show Alike (Twin b m) Eq (Batch.drain invoke e.decode e) (Batch.drain invoke e'.decode e')
  rw [← h.decode]
  exact Batch.drain_alike e.decode (invoke_parallel hm rfl) (fun _ => invoke_parallel hm rfl) h

theorem drainSignalsInto_parallel (hm : Mirrors b m Room) (buffer : List Signal) :
    Parallel b m (drainSignalsInto buffer) := by
  intro e e' h
  refine .bind (drain_parallel hm e e' h) ?_
  rintro answer _ u v rfl ht
  cases answer with
  | error err => exact .pure rfl ht
  | ok batch => exact .pure rfl ht

theorem close_parallel (hm : Mirrors b m Room) : Parallel b m close := by
  rintro ⟨link, kind, decode, capacity⟩ ⟨link', kind', decode', capacity'⟩
    ⟨hlink, hdecode, hcapacity⟩
  cases hlink with
  | none => exact ⟨rfl, ⟨.none, hdecode, hcapacity⟩, rfl⟩
  | @some l l' hl =>
    refine ⟨rfl, ⟨.none, hdecode, hcapacity⟩, ?_⟩
    show trace (l.drop ++ _) = trace (l'.drop ++ _)
    rw [trace_append, trace_append, hl.trace_drop hm]
    rfl

theorem trace_drop_of_twin (hm : Mirrors b m Room) {e e' : Engine ε β} (h : Twin b m e e') :
    trace e.drop = trace e'.drop := by
  obtain ⟨link, kind, decode, capacity⟩ := e
  obtain ⟨link', kind', decode', capacity'⟩ := e'
  obtain ⟨hlink, -, -⟩ := h
  cases hlink with
  | none => rfl
  | some hl => exact hl.trace_drop hm

theorem isClosed_eq_of_twin {e e' : Engine ε β} (h : Twin b m e e') :
    e.isClosed = e'.isClosed := by
  obtain ⟨link, kind, decode, capacity⟩ := e
  obtain ⟨link', kind', decode', capacity'⟩ := e'
  obtain ⟨hlink, -, -⟩ := h
  cases hlink with
  | none => rfl
  | some _ => rfl

theorem create_alike (hm : Mirrors b m Room) (decode : DecodePolicy) (capacity : UInt64) :
    Alike Eq (MadeAlike (Twin b m)) (create ⟨.table b, decode⟩ capacity ())
      (create ⟨.inProcess m, decode⟩ capacity ()) := by
  unfold create
  by_cases zero : capacity = 0
  · rw [if_pos zero, if_pos zero]
    exact .pure (.error _) rfl
  · rw [if_neg zero, if_neg zero]
    refine .bind (Backend.createEngine_alike hm capacity) ?_
    rintro made made' u _ hmade rfl
    cases hmade with
    | error e => exact .pure (.error e) rfl
    | ok hl => exact .bind (.log rfl) fun _ _ _ _ _ h => .pure (.ok ⟨.some hl, rfl, rfl⟩) h

end Engine

/-! ## Backtest wrappers -/

/-- Wrappers of the same backtest that differ at most in the kind of their backend. -/
structure Backtest.Twin (b : TableBackend ε β) (m : EngineModule ε β) (t t' : Backtest ε β) :
    Prop where
  link : Option.Rel (BacktestLink.Twin b m) t.link t'.link
  params : t.params = t'.params

namespace Backtest

theorem Twin.refl (t : Backtest ε β) : Twin b m t t := by
  refine ⟨?_, rfl⟩
  cases t.link with
  | none => exact .none
  | some l => exact .some (.same l)

/-- An operation that cannot tell twins apart. -/
def Parallel (b : TableBackend ε β) (m : EngineModule ε β) {α : Type}
    (op : Op (Backtest ε β) α) : Prop :=
  ∀ t t', Twin b m t t' → Alike (Twin b m) Eq (op t) (op t')

theorem invoke_parallel (hm : Mirrors b m Room) (c : BacktestCall) : Parallel b m (invoke c) := by
  rintro ⟨link, kind, params⟩ ⟨link', kind', params'⟩ ⟨hlink, hparams⟩
  cases hlink with
  | none => exact ⟨rfl, ⟨.none, hparams⟩, rfl⟩
  | some hl =>
    obtain ⟨answer, state, trace⟩ := hl.call_alike hm c
    exact ⟨answer, ⟨.some state, hparams⟩, trace⟩

theorem applySignal_parallel (hm : Mirrors b m Room) (text : String) (price margin : Double) :
    Parallel b m (applySignal text price margin) := by
  intro t t' h
  unfold applySignal
  cases Action.parse text with
  | error e => exact .pure rfl h
  | ok action => exact invoke_parallel hm (.applySignal action.tag price margin) t t' h

theorem result_parallel (hm : Mirrors b m Room) (price : Double) :
    Parallel b m (result price) := fun t t' h =>
  (invoke_parallel hm (.result price) t t' h).andThen _

theorem close_parallel (hm : Mirrors b m Room) : Parallel b m close := by
  rintro ⟨link, kind, params⟩ ⟨link', kind', params'⟩ ⟨hlink, hparams⟩
  cases hlink with
  | none => exact ⟨rfl, ⟨.none, hparams⟩, rfl⟩
  | @some l l' hl =>
    refine ⟨rfl, ⟨.none, hparams⟩, ?_⟩
    show trace (l.drop ++ _) = trace (l'.drop ++ _)
    rw [trace_append, trace_append, hl.trace_drop hm]
    rfl

theorem trace_drop_of_twin (hm : Mirrors b m Room) {t t' : Backtest ε β} (h : Twin b m t t') :
    trace t.drop = trace t'.drop := by
  obtain ⟨link, kind, params⟩ := t
  obtain ⟨link', kind', params'⟩ := t'
  obtain ⟨hlink, -⟩ := h
  cases hlink with
  | none => rfl
  | some hl => exact hl.trace_drop hm

theorem isClosed_eq_of_twin {t t' : Backtest ε β} (h : Twin b m t t') :
    t.isClosed = t'.isClosed := by
  obtain ⟨link, kind, params⟩ := t
  obtain ⟨link', kind', params'⟩ := t'
  obtain ⟨hlink, -⟩ := h
  cases hlink with
  | none => rfl
  | some _ => rfl

theorem create_alike (hm : Mirrors b m Room) (decode : DecodePolicy) (params : BacktestParams) :
    Alike Eq (MadeAlike (Twin b m)) (create ⟨.table b, decode⟩ params ())
      (create ⟨.inProcess m, decode⟩ params ()) := by
  unfold create
  cases params.validate with
  | error e => exact .pure (.error e) rfl
  | ok _ =>
    refine .bind (Backend.createBacktest_alike hm params) ?_
    rintro made made' u _ hmade rfl
    cases hmade with
    | error e => exact .pure (.error e) rfl
    | ok hl => exact .bind (.log rfl) fun _ _ _ _ _ h => .pure (.ok ⟨.some hl, rfl⟩) h

end Backtest

end MarketBridge
