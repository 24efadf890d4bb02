import MarketBridge.Selector

/-!
# `Journal.Keeps` — what every part of an operation keeps, the whole keeps

`Op.Keeps I p` says that an operation keeps `I` of the state and leaves no event without `p`. Its
rules follow the way operations are put together. A drain keeps what its calls keep
(`Batch.drain_keeps`), and finding a backend keeps everything, since all that it leaves is log lines
(`Bridge.ofEnvironment_keeps`).
-/

namespace MarketBridge

variable {σ ε β α γ : Type}

/-! ## Rules -/

/-- The operation keeps `I` of the state, and all its events have `p`. -/
def Op.Keeps (I : σ → Prop) (p : Event → Prop) (op : Op σ α) : Prop :=
  ∀ s, I s → I (op s).state ∧ ∀ event ∈ (op s).events, p event

namespace Op.Keeps

variable {I : σ → Prop} {p : Event → Prop}

theorem pure (a : α) : Keeps I p (Pure.pure a : Op σ α) := by
  intro s h
  exact ⟨h, fun _ hmem => absurd hmem List.not_mem_nil⟩

theorem get : Keeps I p (Op.get : Op σ σ) := by
  intro s h
  exact ⟨h, fun _ hmem => absurd hmem List.not_mem_nil⟩

theorem log {n : Notice} (hn : p (.log n)) : Keeps I p (Op.log n : Op σ Unit) := by
  intro s h
  refine ⟨h, fun event hmem => ?_⟩
  obtain rfl : event = .log n := List.mem_singleton.mp hmem
  exact hn

theorem bind {x : Op σ α} {f : α → Op σ γ} (first : Keeps I p x)
    (second : ∀ a, Keeps I p (f a)) : Keeps I p (x >>= f) := by
  intro s h
  obtain ⟨state, events⟩ := first s h
  obtain ⟨state', events'⟩ := second (x s).answer (x s).state state
  refine ⟨state', fun event hmem => ?_⟩
  rcases List.mem_append.mp hmem with before | after
  · exact events event before
  · exact events' event after

theorem map {x : Op σ α} (f : α → γ) (h : Keeps I p x) : Keeps I p (f <$> x) := h

theorem andThen {x : Op σ α} (f : α → γ) (h : Keeps I p x) :
    Keeps I p (x >>= fun a => Pure.pure (f a)) :=
  h.bind fun _ => pure _

end Op.Keeps

open Op (Keeps)

/-! ## Draining -/

section Decoding

variable {I : σ → Prop} {p : Event → Prop}

theorem RawSignal.decode_keeps (hlog : ∀ n, p (.log n)) (policy : DecodePolicy)
    (raw : RawSignal) : Keeps I p (raw.decode policy : Op σ _) := by
  unfold RawSignal.decode
  cases Action.ofTag? raw.tag with
  | some action => exact .pure _
  | none =>
    cases policy with
    | strict => exact .pure _
    | lenient => exact (Keeps.log (hlog _)).andThen _

namespace Batch

theorem decodeAll_keeps (hlog : ∀ n, p (.log n)) (policy : DecodePolicy) (raws : List RawSignal) :
    Keeps I p (decodeAll policy raws : Op σ _) := by
  induction raws with
  | nil => exact .pure _
  | cons raw rest ih =>
    refine .bind (RawSignal.decode_keeps hlog policy raw) fun answer => ?_
    cases answer with
    | ok signal => exact ih.map _
    | error e => exact ih.map _

theorem logMismatch_keeps (hlog : ∀ n, p (.log n)) (queued copied : UInt64) :
    Keeps I p (logMismatch queued copied : Op σ Unit) := by
  unfold logMismatch
  by_cases more : queued < copied
  · rw [if_pos more]
    exact .log (hlog _)
  · rw [if_neg more]
    by_cases fewer : copied < queued
    · rw [if_pos fewer]
      exact .log (hlog _)
    · rw [if_neg fewer]
      exact .pure _

theorem drain_keeps (hlog : ∀ n, p (.log n))
    {call : (c : EngineCall) → Op σ (Except Error c.Answer)} (hcall : ∀ c, Keeps I p (call c))
    (policy : DecodePolicy) : Keeps I p (drain call policy) := by
  refine .bind (hcall .signalsLen) fun answer => ?_
  cases answer with
  | error e => exact .pure _
  | ok queued =>
    dsimp only
    by_cases none : queued = 0
    · rw [if_pos none]
      exact .pure _
    · rw [if_neg none]
      refine .bind (hcall (.pollSignals queued)) fun answer => ?_
      cases answer with
      | error e => exact .pure _
      | ok poll =>
        refine .andThen Except.ok (.bind (logMismatch_keeps hlog _ _) fun _ => ?_)
        refine .bind (decodeAll_keeps hlog _ _) fun _ => ?_
        exact (Keeps.log (hlog _)).andThen _

end Batch

end Decoding

/-! ## Selecting -/

section Selecting

variable {I : Unit → Prop} {p : Event → Prop} (hlog : ∀ n, p (.log n))

include hlog

theorem Failure.settle_keeps (answer : Except Failure α) :
    Keeps I p (Failure.settle answer : Op Unit (Except Error α)) := by
  cases answer with
  | ok a => exact .pure _
  | error f =>
    intro s h
    refine ⟨h, fun event hmem => ?_⟩
    obtain ⟨n, -, rfl⟩ := List.mem_map.mp hmem
    exact hlog n

theorem TableBackend.load_keeps (host : Host ε β) (path : Path) :
    Keeps I p (TableBackend.load host path) := by
  unfold load
  refine .bind (.log (hlog _)) fun _ => ?_
  cases host.library path with
  | none => exact .pure _
  | some library =>
    dsimp only
    cases SymbolTable.resolve library.symbol with
    | error fault => exact .pure _
    | ok table => exact .pure _

namespace Selector

theorem inProcess_keeps (s : Selector ε β) (host : Host ε β) : Keeps I p (s.inProcess host) := by
  unfold inProcess
  cases s.offered <|> host.registered with
  | none => exact .pure _
  | some m =>
    refine .bind (Failure.settle_keeps hlog m.probe) fun answer => ?_
    cases answer with
    | error e => exact .pure _
    | ok _ => exact .pure _

theorem fallback_keeps (s : Selector ε β) (host : Host ε β) : Keeps I p (s.fallback host) := by
  unfold fallback dylib
  refine .andThen _ ?_
  cases s.config.libraryPath host.environment with
  | error e => exact .pure _
  | ok path => exact TableBackend.load_keeps hlog host path

theorem backend_keeps (s : Selector ε β) (host : Host ε β) : Keeps I p (s.backend host) := by
  unfold backend
  cases s.config.backend with
  | inProcess => exact (inProcess_keeps hlog s host).andThen _
  | dylib => exact fallback_keeps hlog s host
  | auto =>
    refine .bind (inProcess_keeps hlog s host) fun answer => ?_
    cases answer with
    | ok m => exact .pure _
    | error e => exact .bind (.log (hlog _)) fun _ => fallback_keeps hlog s host

theorem select_keeps (s : Selector ε β) (host : Host ε β) : Keeps I p (s.select host) := by
  refine .bind (backend_keeps hlog s host) fun answer => ?_
  cases answer with
  | error e => exact .pure _
  | ok backend => exact .bind (.log (hlog _)) fun _ => .pure _

end Selector

/-- Finding the bridge that the environment describes leaves nothing but log lines. -/
theorem Bridge.ofEnvironment_keeps (host : Host ε β) : Keeps I p (Bridge.ofEnvironment host) := by
  unfold ofEnvironment
  cases Selector.ofEnvironment host with
  | error e => exact .pure _
  | ok s => exact s.select_keeps hlog host

end Selecting

end MarketBridge
