import MarketBridge.Proofs.Drain

/-!
# `Journal.Crossing` — which native calls an operation makes

`crossings` keeps of a journal the native calls that a caller asked for: everything but log lines
and the freeing that goes with closing and dropping. `Outcome.Crosses P expected` says of an outcome
that it made exactly the `expected` calls, in order, and left a state with `P`. Its rules follow the
way operations are put together, as those of `Outcome.Alike` do for two operations at once.
-/

namespace MarketBridge

/-- Whether the event is a native call other than freeing. -/
def Event.isCrossing : Event → Bool
  | .log _ => false
  | .native _ .engineFree | .native _ .backtestFree => false
  | .native _ _ => true

/-- The native calls among `events`, freeing aside. -/
def crossings (events : List Event) : List Event :=
  events.filter Event.isCrossing

@[simp] theorem crossings_nil : crossings [] = [] := rfl

@[simp] theorem crossings_append (xs ys : List Event) :
    crossings (xs ++ ys) = crossings xs ++ crossings ys := List.filter_append ..

@[simp] theorem crossings_cons_log (n : Notice) (events : List Event) :
    crossings (.log n :: events) = crossings events := rfl

@[simp] theorem crossings_map_log {α : Type} (f : α → Notice) (xs : List α) :
    crossings (xs.map fun x => .log (f x)) = [] := by
  induction xs with
  | nil => rfl
  | cons x rest ih => rw [List.map_cons, crossings_cons_log, ih]

variable {σ α β : Type}

/-- The outcome made exactly the expected calls and left a state with `P`. -/
structure Outcome.Crosses (P : σ → Prop) (expected : List Event) (o : Outcome σ α) : Prop where
  crossed : crossings o.events = expected
  state : P o.state

namespace Outcome.Crosses

variable {P R : σ → Prop} {s : σ} {xs ys : List Event}

theorem pure {a : α} (h : P s) : Crosses P [] ((Pure.pure a : Op σ α) s) :=
  ⟨rfl, h⟩

theorem log {n : Notice} (h : P s) : Crosses P [] (Op.log n s) :=
  ⟨rfl, h⟩

/-- What a sequence makes cross is what its first part does, and then what the second part does
after the answer and the state that the first part gave. -/
theorem bind {x : Op σ α} {f : α → Op σ β} (first : Crosses P xs (x s))
    (second : P (x s).state → Crosses R ys (f (x s).answer (x s).state)) :
    Crosses R (xs ++ ys) ((x >>= f) s) := by
  obtain ⟨crossed, state⟩ := second first.state
  refine ⟨?_, state⟩
  rw [Op.bind_apply, crossings_append, first.crossed, crossed]

/-- Computing something from the answer crosses nothing. -/
theorem andThen {x : Op σ α} (f : α → β) (h : Crosses P xs (x s)) :
    Crosses P xs ((x >>= fun a => Pure.pure (f a)) s) := by
  have hseq := h.bind (f := fun a => Pure.pure (f a)) fun hP => pure (a := f (x s).answer) hP
  rwa [List.append_nil] at hseq

/-- Reading the state first. -/
theorem get {f : σ → Op σ α} (h : Crosses P xs (f s s)) : Crosses P xs ((Op.get >>= f) s) := h

/-- Changing the state first. -/
theorem modify {p : σ → σ} {f : Unit → Op σ α} (h : Crosses P xs (f () (p s))) :
    Crosses P xs ((Op.modify p >>= f) s) := h

theorem mono {o : Outcome σ α} (h : Crosses P xs o) (hR : ∀ u, P u → R u) : Crosses R xs o :=
  ⟨h.crossed, hR _ h.state⟩

end Outcome.Crosses

open Outcome

/-! ## Draining -/

namespace Batch

variable {P : σ → Prop}

theorem crossings_report (policy : DecodePolicy) (queued : UInt64) (poll : Poll) :
    crossings (report policy queued poll) = [] := by
  have hmismatch : crossings (mismatch queued poll.count) = [] := by
    unfold mismatch
    by_cases more : queued < poll.count
    · rw [if_pos more]
      rfl
    · by_cases fewer : poll.count < queued
      · rw [if_neg more, if_pos fewer]
        rfl
      · rw [if_neg more, if_neg fewer]
        rfl
  unfold report DecodePolicy.warnings
  rw [crossings_append, crossings_append, hmismatch, crossings_map_log]
  rfl

/-- The poll that a drain makes after it was told how many signals are queued. -/
def pollAfter (f : UInt64 → List Event) : Except Error UInt64 → List Event
  | .ok queued => if queued = 0 then [] else f queued
  | .error _ => []

/-- A drain asks for the length once and polls once for that many if there are any, whatever is
answered. -/
theorem drain_crosses {call : (c : EngineCall) → Op σ (Except Error c.Answer)} {s : σ}
    (policy : DecodePolicy) {xs : List Event} {f : UInt64 → List Event}
    (hlen : Crosses P xs (call .signalsLen s))
    (hpoll : ∀ queued u, P u → Crosses P (f queued) (call (.pollSignals queued) u)) :
    Crosses P (xs ++ pollAfter f (call .signalsLen s).answer) (drain call policy s) := by
  refine hlen.bind fun hstate => ?_
  generalize (call .signalsLen s).state = u at hstate
  cases (call .signalsLen s).answer with
  | error e => exact .pure hstate
  | ok queued =>
    show Crosses P (if queued = 0 then [] else f queued) _
    dsimp only
    by_cases bare : queued = 0
    · rw [if_pos bare, if_pos bare]
      exact .pure hstate
    · rw [if_neg bare, if_neg bare]
      rw [← List.append_nil (f queued)]
      refine (hpoll queued u hstate).bind fun hpolled => ?_
      cases (call (.pollSignals queued) u).answer with
      | error e => exact .pure hpolled
      | ok poll =>
        -- what the drain makes of the answer is log lines only
        refine .andThen Except.ok ?_
        rw [ofPoll_apply]
        exact ⟨crossings_report policy queued poll, hpolled⟩

end Batch

end MarketBridge
