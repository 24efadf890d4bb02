import MarketBridge.Engine
import MarketBridge.Proofs.Journal.Trace

/-!
# `Journal.Lockstep` — two operations side by side

`Outcome.Alike R Q` compares two outcomes: their answers are related by `Q`, the states they leave
by `R`, and their traces are equal. Log lines are free to differ. The rules follow the way
operations are put together (`Alike.pure`, `Alike.log`, `Alike.bind`); with them the drain, which
is the one operation that makes a second call depend on a first, is compared once for any two ways
of sending calls (`Batch.drain_alike`).
-/

namespace MarketBridge

variable {σ τ α β : Type}

/-- Two outcomes with related answers and states and with the same native calls. -/
structure Outcome.Alike (R : σ → τ → Prop) (Q : α → β → Prop) (o : Outcome σ α)
    (o' : Outcome τ β) : Prop where
  answer : Q o.answer o'.answer
  state : R o.state o'.state
  trace : trace o.events = trace o'.events

namespace Outcome.Alike

variable {R : σ → τ → Prop} {s : σ} {t : τ}

theorem pure {Q : α → β → Prop} {a : α} {b : β} (hQ : Q a b) (hR : R s t) :
    Alike R Q ((Pure.pure a : Op σ α) s) ((Pure.pure b : Op τ β) t) :=
  ⟨hQ, hR, rfl⟩

theorem log {n m : Notice} (hR : R s t) : Alike R Eq (Op.log n s) (Op.log m t) :=
  ⟨rfl, hR, rfl⟩

/-- Two sequences are alike if their first parts are and if, whatever related answers and states
the first parts give, their second parts are. -/
theorem bind {γ δ : Type} {P : σ → τ → Prop} {Q : α → β → Prop} {S : γ → δ → Prop}
    {x : Op σ α} {y : Op τ β} {f : α → Op σ γ} {g : β → Op τ δ} (first : Alike P Q (x s) (y t))
    (second : ∀ a b u v, Q a b → P u v → Alike R S (f a u) (g b v)) :
    Alike R S ((x >>= f) s) ((y >>= g) t) := by
  obtain ⟨answer, state, trace⟩ := second _ _ _ _ first.answer first.state
  refine ⟨answer, state, ?_⟩
  rw [Op.bind_apply, Op.bind_apply, trace_append, trace_append, first.trace, trace]

theorem map {γ : Type} {x : Op σ α} {y : Op τ α} (f : α → γ) (h : Alike R Eq (x s) (y t)) :
    Alike R Eq ((f <$> x) s) ((f <$> y) t) :=
  ⟨congrArg f h.answer, h.state, h.trace⟩

/-- The same answer, and the same function of it. -/
theorem andThen {γ : Type} {x : Op σ α} {y : Op τ α} (f : α → γ)
    (first : Alike R Eq (x s) (y t)) :
    Alike R Eq ((x >>= fun a => Pure.pure (f a)) s) ((y >>= fun a => Pure.pure (f a)) t) :=
  bind first fun _ _ _ _ hQ hR => pure (congrArg f hQ) hR

/-- Reading the state first. -/
theorem get {Q : α → β → Prop} {f : σ → Op σ α} {g : τ → Op τ β}
    (h : Alike R Q (f s s) (g t t)) : Alike R Q ((Op.get >>= f) s) ((Op.get >>= g) t) := h

/-- Changing the state first. -/
theorem modify {Q : α → β → Prop} {p : σ → σ} {q : τ → τ} {f : Unit → Op σ α} {g : Unit → Op τ β}
    (h : Alike R Q (f () (p s)) (g () (q t))) :
    Alike R Q ((Op.modify p >>= f) s) ((Op.modify q >>= g) t) := h

theorem lift {Q : α → β → Prop} {x : Op Unit α} {y : Op Unit β} (h : Alike Eq Q (x ()) (y ()))
    (hR : R s t) : Alike R Q (Op.lift x s) (Op.lift y t) :=
  ⟨h.answer, hR, h.trace⟩

theorem mono {P : σ → τ → Prop} {Q S : α → β → Prop} {o : Outcome σ α} {o' : Outcome τ β}
    (h : Alike P Q o o') (hR : ∀ u v, P u v → R u v) (hS : ∀ a b, Q a b → S a b) :
    Alike R S o o' :=
  ⟨hS _ _ h.answer, hR _ _ h.state, h.trace⟩

end Outcome.Alike

open Outcome

/-! ## Decoding reads no state -/

section Decoding

variable {R : σ → τ → Prop} {s : σ} {t : τ}

theorem RawSignal.decode_alike (policy : DecodePolicy) (raw : RawSignal) (hR : R s t) :
    Alike R Eq (raw.decode policy s) (raw.decode policy t) := by
  unfold RawSignal.decode
  cases Action.ofTag? raw.tag with
  | some action => exact .pure rfl hR
  | none =>
    cases policy with
    | strict => exact .pure rfl hR
    | lenient => exact .bind (.log hR) fun _ _ _ _ _ h => .pure rfl h

namespace Batch

theorem decodeAll_alike (policy : DecodePolicy) (raws : List RawSignal) (hR : R s t) :
    Alike R Eq (decodeAll policy raws s) (decodeAll policy raws t) := by
  induction raws generalizing s t with
  | nil => exact .pure rfl hR
  | cons raw rest ih =>
    refine .bind (raw.decode_alike policy hR) ?_
    rintro answer _ u v rfl h
    cases answer with
    | ok signal => exact (ih h).map _
    | error e => exact (ih h).map _

theorem logMismatch_alike (queued copied : UInt64) (hR : R s t) :
    Alike R Eq (logMismatch queued copied s) (logMismatch queued copied t) := by
  unfold logMismatch
  by_cases more : queued < copied
  · rw [if_pos more, if_pos more]
    exact .log hR
  · rw [if_neg more, if_neg more]
    by_cases fewer : copied < queued
    · rw [if_pos fewer, if_pos fewer]
      exact .log hR
    · rw [if_neg fewer, if_neg fewer]
      exact .pure rfl hR

theorem ofPoll_alike (policy : DecodePolicy) (queued : UInt64) (poll : Poll) (hR : R s t) :
    Alike R Eq (ofPoll policy queued poll s) (ofPoll policy queued poll t) := by
  refine .bind (logMismatch_alike queued poll.count hR) fun _ _ _ _ _ h₁ => ?_
  refine .bind (decodeAll_alike policy _ h₁) ?_
  rintro decoded _ _ _ rfl h₂
  exact .bind (.log h₂) fun _ _ _ _ _ h₃ => .pure rfl h₃

/-- Two drains are alike if the queries they make are. -/
theorem drain_alike {call : (c : EngineCall) → Op σ (Except Error c.Answer)}
    {call' : (c : EngineCall) → Op τ (Except Error c.Answer)} (policy : DecodePolicy)
    (hlen : ∀ u v, R u v → Alike R Eq (call .signalsLen u) (call' .signalsLen v))
    (hpoll : ∀ q u v, R u v → Alike R Eq (call (.pollSignals q) u) (call' (.pollSignals q) v))
    (hR : R s t) : Alike R Eq (drain call policy s) (drain call' policy t) := by
  refine .bind (hlen s t hR) ?_
  rintro answer _ u v rfl h₁
  cases answer with
  | error e => exact .pure rfl h₁
  | ok queued =>
    dsimp only
    by_cases none : queued = 0
    · rw [if_pos none, if_pos none]
      exact .pure rfl h₁
    · rw [if_neg none, if_neg none]
      refine .bind (hpoll queued u v h₁) ?_
      rintro answer _ u' v' rfl h₂
      cases answer with
      | error e => exact .pure rfl h₂
      | ok poll => exact (ofPoll_alike policy queued poll h₂).andThen Except.ok

end Batch

end Decoding

end MarketBridge
