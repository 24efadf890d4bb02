import MarketBridge.Proofs.Boundary
import MarketBridge.Proofs.Journal.Lockstep

/-!
# `Journal.Shown` — what a session can tell of its journal

Of all that a session writes into its journal its answers show only some: the counters count what
linked code freed and revalued, and the calls of scripted engines can be asked for. `shown` keeps
those events. Two outcomes agree (`Outcome.Agree`) if they answer the same, leave related states and
show the same; an operation is `Traceless` if it leaves its state as it was and shows nothing.
-/

namespace MarketBridge

variable {σ τ α γ : Type}

/-- Whether the answers of a session can depend on the event. -/
def Event.isShown : Event → Bool
  | .log _ => false
  | .native .scripted _ => true
  | .native .linked .engineFree | .native .linked .backtestFree => true
  | .native .linked (.backtest (.applySignal _ _ _)) => true
  | .native .linked (.backtest (.onPrice _)) => true
  | .native _ _ => false

/-- The events on which the answers of a session can depend. -/
def shown (events : List Event) : List Event :=
  events.filter Event.isShown

@[simp] theorem shown_nil : shown [] = [] := rfl

@[simp] theorem shown_append (xs ys : List Event) : shown (xs ++ ys) = shown xs ++ shown ys :=
  List.filter_append ..

@[simp] theorem shown_cons_log (n : Notice) (events : List Event) :
    shown (.log n :: events) = shown events := rfl

theorem shown_eq_nil {events : List Event} (h : ∀ event ∈ events, event.isShown = false) :
    shown events = [] := by
  rw [shown, List.filter_eq_nil_iff]
  intro event hmem
  simp [h event hmem]

theorem shown_flatMap {α β : Type} {f : α → List Event} {g : β → List Event} {xs : List α}
    {ys : List β} (h : List.Forall₂ (fun x y => shown (f x) = shown (g y)) xs ys) :
    shown (xs.flatMap f) = shown (ys.flatMap g) := by
  induction h with
  | nil => rfl
  | cons hxy _ ih => rw [List.flatMap_cons, List.flatMap_cons, shown_append, shown_append, hxy, ih]

/-- Log lines are not shown. -/
theorem shown_trace (events : List Event) : shown (trace events) = shown events := by
  unfold shown trace
  rw [List.filter_filter]
  refine List.filter_congr fun event _ => ?_
  cases event with
  | log n => rfl
  | native site call => exact Bool.and_true _

theorem shown_eq_of_trace {xs ys : List Event} (h : trace xs = trace ys) : shown xs = shown ys := by
  rw [← shown_trace, h, shown_trace]

/-- What is not shown of linked code is not shown of loaded code. -/
theorem not_isShown {site : Site} {call : NativeCall} (hsite : site ≠ .scripted)
    (hcall : (Event.native .linked call).isShown = false) :
    (Event.native site call).isShown = false := by
  cases site with
  | linked => exact hcall
  | loaded => rfl
  | scripted => exact absurd rfl hsite

/-- Engine calls are not shown, unless they go to a scripted engine. -/
theorem TableBackend.shown_engineCall {ε β : Type} {b : TableBackend ε β}
    (hsite : b.code.site ≠ .scripted) (c : EngineCall) (s : ε) :
    shown (b.engineCall c s).events = [] := by
  rw [b.engineCall_events]
  refine shown_eq_nil fun event hmem => ?_
  obtain ⟨c', -, rfl⟩ := List.mem_map.mp hmem
  exact not_isShown hsite rfl

/-! ## What is read off a journal -/

theorem callsAt_scripted_shown (events : List Event) :
    callsAt .scripted (shown events) = callsAt .scripted events := by
  unfold callsAt shown
  rw [List.filterMap_filter]
  refine List.filterMap_congr fun event _ => ?_
  obtain n | ⟨site, call⟩ := event
  · rfl
  · cases site with
    | scripted => rfl
    | _ => split <;> rfl

theorem callsAt_scripted_eq_of_shown {xs ys : List Event} (h : shown xs = shown ys) :
    callsAt .scripted xs = callsAt .scripted ys := by
  rw [← callsAt_scripted_shown, h, callsAt_scripted_shown]

theorem Counters.foldl_shown (events : List Event) (c : Counters) :
    (callsAt .linked (shown events)).foldl count c = (callsAt .linked events).foldl count c := by
  induction events generalizing c with
  | nil => rfl
  | cons event rest ih =>
    obtain n | ⟨site, call⟩ := event
    · exact ih c
    · cases site with
      | linked =>
        -- a call that is not shown leaves the counters as they are
        cases call with
        | engineFree => exact ih _
        | backtestFree => exact ih _
        | backtest call =>
          cases call with
          | applySignal tag price margin => exact ih _
          | onPrice price => exact ih _
          | result price => exact ih c
        | _ => exact ih c
      | loaded => exact ih c
      | scripted => exact ih c

theorem Counters.ofEvents_eq_of_shown {xs ys : List Event} (h : shown xs = shown ys) :
    ofEvents xs = ofEvents ys := by
  unfold ofEvents
  rw [← foldl_shown, h, foldl_shown]

/-! ## Outcomes -/

/-- Two outcomes with the same answer, related states and the same to show. -/
structure Outcome.Agree (R : σ → τ → Prop) (o : Outcome σ α) (o' : Outcome τ α) : Prop where
  answer : o.answer = o'.answer
  state : R o.state o'.state
  shown : shown o.events = shown o'.events

namespace Outcome.Agree

variable {R : σ → τ → Prop} {s : σ} {t : τ}

theorem of_alike {o : Outcome σ α} {o' : Outcome τ α} (h : Alike R Eq o o') : Agree R o o' :=
  ⟨h.answer, h.state, shown_eq_of_trace h.trace⟩

theorem refl {R : σ → σ → Prop} {o : Outcome σ α} (h : R o.state o.state) : Agree R o o :=
  ⟨rfl, h, rfl⟩

/-- Two sequences agree if their first parts do and if, whatever answer and related states the
first parts give, their second parts do. -/
theorem bind {P : σ → τ → Prop} {x : Op σ α} {y : Op τ α} {f : α → Op σ γ} {g : α → Op τ γ}
    (first : Agree P (x s) (y t))
    (second : ∀ a u v, P u v → Agree R (f a u) (g a v)) : Agree R ((x >>= f) s) ((y >>= g) t) := by
  obtain ⟨answer, state, shown⟩ := second (x s).answer _ _ first.state
  rw [Op.bind_apply, Op.bind_apply, ← first.answer]
  refine ⟨answer, state, ?_⟩
  dsimp only
  rw [shown_append, shown_append, first.shown, shown]

/-- The same function of the answer. -/
theorem andThen {x : Op σ α} {y : Op τ α} (f : α → γ) (h : Agree R (x s) (y t)) :
    Agree R ((x >>= fun a => Pure.pure (f a)) s) ((y >>= fun a => Pure.pure (f a)) t) :=
  h.bind fun _ _ _ hR => ⟨rfl, hR, rfl⟩

end Outcome.Agree

/-- The operation left the state `s` as it was and has nothing to show. -/
structure Outcome.Traceless (s : σ) (o : Outcome σ α) : Prop where
  state : o.state = s
  shown : shown o.events = []

namespace Outcome.Traceless

variable {s : σ}

theorem pure (a : α) : Traceless s ((Pure.pure a : Op σ α) s) :=
  ⟨rfl, rfl⟩

theorem bind {x : Op σ α} {f : α → Op σ γ} (first : Traceless s (x s))
    (second : Traceless s (f (x s).answer s)) : Traceless s ((x >>= f) s) := by
  obtain ⟨state, hshown⟩ := first
  rw [Op.bind_apply, state]
  refine ⟨second.state, ?_⟩
  show MarketBridge.shown ((x s).events ++ (f (x s).answer s).events) = []
  rw [shown_append, hshown, second.shown]
  rfl

theorem andThen {x : Op σ α} (f : α → γ) (h : Traceless s (x s)) :
    Traceless s ((x >>= fun a => Pure.pure (f a)) s) :=
  h.bind (.pure _)

end Outcome.Traceless

end MarketBridge
