import MarketBridge.Proofs.Journal.Shown
import MarketBridge.Proofs.Resolution
import MarketBridge.Proofs.Session.Perform

/-!
# `Session.Called` — steps that make one call

Most steps on an engine make one call, `EngineStep.call?`, and make their answer of its answer:
`Engine.perform_of_call` says that this is all they do. What is left are the steps that only look at
the wrapper, those that are refused before the engine is entered, closing, the drains, and pushing
many bars. So two wrappers act alike in a step as soon as they do so in those parts
(`Engine.perform_agree`).
-/

namespace MarketBridge

open Outcome

variable {ε β α : Type}

/-- The one call that the step makes to an open engine, if it makes one. -/
def EngineStep.call? : EngineStep → Option EngineCall
  | .len | .isEmpty => some .len
  | .push bar => some (.pushBar bar)
  | .update bar => some (.updateLastBar bar)
  | .addIndicator spec => if spec.Acceptable then some (.addIndicator spec) else none
  | .addRsi period => if period = 0 then none else some (.addIndicator (.rsi period))
  | .addStrategy name text => some (.addStrategy name text)
  | .indicatorLast id => some (.indicatorLast id)
  | .signalsLen => some .signalsLen
  | .raw field | .ordered field | .list field => some (.column field)
  | .timestampsRaw | .timestampsOrdered => some .timestampColumn
  | .close | .isClosed | .capacity | .kind | .describe | .pushCloses _ _ | .poll | .drain => none

/-- Whether the step empties the signal queue. -/
def EngineStep.drains : EngineStep → Bool
  | .poll | .drain => true
  | _ => false

/-- A way to make the answer of a step of the answer to its call: errors are passed on, and none of
those that are added is about resolving the library. -/
structure Reading (f : Except Error α → Answer) : Prop where
  error : ∀ e, f (.error e) = .failed e
  ok : ∀ a, (f (.ok a)).isResolution = false

theorem EngineStep.call?_addIndicator {spec : IndicatorSpec} {c : EngineCall} :
    (addIndicator spec).call? = some c ↔ spec.Acceptable ∧ .addIndicator spec = c := by
  unfold call?
  simp

theorem EngineStep.call?_addRsi {period : UInt64} {c : EngineCall} :
    (addRsi period).call? = some c ↔
      (IndicatorSpec.rsi period).Acceptable ∧ .addIndicator (.rsi period) = c := by
  unfold call?
  simp [IndicatorSpec.acceptable_rsi_iff]

namespace Engine

open EngineStep (call?_addIndicator call?_addRsi)

theorem addIndicator_of_acceptable {spec : IndicatorSpec} (h : spec.Acceptable) :
    (addIndicator spec : Op (Engine ε β) _) = invoke (.addIndicator spec) := by
  unfold addIndicator
  rw [IndicatorSpec.validate_of_acceptable h]

/-- A step that replies by an operation which is one call and a function of its answer. -/
theorem reply_of_call {c : EngineCall} {op : Op (Engine ε β) (Except Error α)}
    {g : Except Error c.Answer → Except Error α} (hop : op = invoke c >>= fun a => pure (g a))
    (herror : ∀ e, g (.error e) = .error e) (hok : ∀ a, Resolves (g (.ok a))) {wrap : α → Answer}
    (hwrap : ∀ a, (wrap a).isResolution = false) :
    ∃ f, Reading f ∧ ∀ buffer, reply buffer wrap op = invoke c >>= fun a => pure (f a, buffer) := by
  refine ⟨fun a => .ofExcept wrap (g a), ⟨fun e => ?_, fun a => (hok a).ofExcept hwrap⟩,
    fun buffer => ?_⟩
  · rw [herror]
    rfl
  · unfold reply
    rw [hop, bind_assoc]
    rfl

/-- A step that makes one call is that call, and its answer is made of the answer to it. -/
theorem perform_of_call {st : EngineStep} {c : EngineCall} (h : st.call? = some c) :
    ∃ f, Reading f ∧ ∀ buffer, (perform buffer st : Op (Engine ε β) _) =
      invoke c >>= fun a => pure (f a, buffer) := by
  -- the answers that are passed on as they are
  have passes : ∀ {c : EngineCall} {wrap : c.Answer → Answer},
      (∀ a, (wrap a).isResolution = false) →
        ∃ f, Reading f ∧ ∀ buffer, reply buffer wrap (invoke c : Op (Engine ε β) _) =
          invoke c >>= fun a => pure (f a, buffer) := by
    intro c wrap hwrap
    exact reply_of_call (bind_pure _).symm (fun _ => rfl) .ok hwrap
  cases st with
  | len =>
    cases h
    exact passes fun _ => rfl
  | isEmpty =>
    cases h
    have hempty : (isEmpty : Op (Engine ε β) _) = invoke .len >>= fun a =>
        pure (a.map (· == 0)) := rfl
    exact reply_of_call hempty (fun _ => rfl) (fun _ => .ok _) fun _ => rfl
  | push bar =>
    cases h
    exact passes fun _ => rfl
  | update bar =>
    cases h
    exact passes fun _ => rfl
  | addIndicator spec =>
    obtain ⟨acceptable, rfl⟩ := call?_addIndicator.mp h
    unfold perform
    dsimp only
    rw [addIndicator_of_acceptable acceptable]
    exact passes fun _ => rfl
  | addRsi period =>
    obtain ⟨acceptable, rfl⟩ := call?_addRsi.mp h
    unfold perform addRsi
    dsimp only
    rw [addIndicator_of_acceptable acceptable]
    exact passes fun _ => rfl
  | addStrategy name text =>
    cases h
    exact passes fun _ => rfl
  | indicatorLast id =>
    cases h
    exact reply_of_call rfl (fun _ => rfl) Indicator.ofRaw_resolves fun _ => rfl
  | signalsLen =>
    cases h
    exact passes fun _ => rfl
  | raw field =>
    cases h
    exact reply_of_call rfl (fun _ => rfl) RawView.ofColumn_resolves fun _ => rfl
  | ordered field =>
    cases h
    have hview : (orderedView field : Op (Engine ε β) _) = invoke (.column field) >>= fun a =>
        pure ((a.bind RawView.ofColumn).map RawView.ordered) := by
      simp only [orderedView, rawView, bind_assoc, pure_bind]
    exact reply_of_call hview (fun _ => rfl) (fun a => (RawView.ofColumn_resolves a).map _)
      fun _ => rfl
  | list field =>
    cases h
    have hlist : (orderedList field : Op (Engine ε β) _) = invoke (.column field) >>= fun a =>
        pure (((a.bind RawView.ofColumn).map RawView.ordered).map
          (Option.map OrderedView.toList)) := by
      simp only [orderedList, orderedView, rawView, bind_assoc, pure_bind]
    exact reply_of_call hlist (fun _ => rfl)
      (fun a => ((RawView.ofColumn_resolves a).map _).map _) fun _ => rfl
  | timestampsRaw =>
    cases h
    exact reply_of_call rfl (fun _ => rfl) RawView.ofColumn_resolves fun _ => rfl
  | timestampsOrdered =>
    cases h
    have hview : (timestampOrderedView : Op (Engine ε β) _) = invoke .timestampColumn >>= fun a =>
        pure ((a.bind RawView.ofColumn).map RawView.ordered) := by
      simp only [timestampOrderedView, timestampRawView, bind_assoc, pure_bind]
    exact reply_of_call hview (fun _ => rfl) (fun a => (RawView.ofColumn_resolves a).map _)
      fun _ => rfl
  | _ => cases h

/-- An indicator that makes no call is refused before the engine is entered. -/
theorem addIndicator_refused {spec : IndicatorSpec}
    (h : (EngineStep.addIndicator spec).call? = none) :
    (addIndicator spec : Op (Engine ε β) _) =
      pure (.error (.invalidParameter (.invalidIndicator spec))) := by
  have refused : ¬ spec.Acceptable := by
    intro acceptable
    rw [call?_addIndicator.mpr ⟨acceptable, rfl⟩] at h
    cases h
  unfold addIndicator
  rw [IndicatorSpec.validate_of_not_acceptable refused]

theorem addRsi_refused {period : UInt64} (h : (EngineStep.addRsi period).call? = none) :
    (addRsi period : Op (Engine ε β) _) =
      pure (.error (.invalidParameter (.invalidIndicator (.rsi period)))) := by
  have refused : ¬ (IndicatorSpec.rsi period).Acceptable := by
    intro acceptable
    rw [call?_addRsi.mpr ⟨acceptable, rfl⟩] at h
    cases h
  unfold addRsi addIndicator
  rw [IndicatorSpec.validate_of_not_acceptable refused]

/-! ## Acting alike -/

section Alike

variable {R : Engine ε β → Engine ε β → Prop} {e e' : Engine ε β} {buffer : List Signal}

theorem reply_agree {op op' : Op (Engine ε β) (Except Error α)} (wrap : α → Answer)
    (h : Agree R (op e) (op' e')) : Agree R (reply buffer wrap op e) (reply buffer wrap op' e') :=
  h.andThen fun answer => (Answer.ofExcept wrap answer, buffer)

theorem pushCloses_agree
    (hpush : ∀ bar u v, R u v → Agree R (invoke (.pushBar bar) u) (invoke (.pushBar bar) v))
    (h : R e e') (timestamp : Int64) (closes : List Double) :
    Agree R (Session.pushCloses timestamp closes e) (Session.pushCloses timestamp closes e') := by
  induction closes generalizing timestamp e e' with
  | nil => exact ⟨rfl, h, rfl⟩
  | cons close rest ih =>
    refine .bind (hpush (.flat timestamp close) e e' h) fun first u v h₁ => ?_
    refine .bind (ih h₁ (timestamp + 1)) fun others u' v' h₂ => ?_
    cases first with
    | error error => exact ⟨rfl, h₂, rfl⟩
    | ok _ => exact ⟨rfl, h₂, rfl⟩

/-- Two wrappers that look the same act alike in a step if they do in its call, in pushing a bar, in
closing and, if the step is one, in a drain. -/
theorem perform_agree (h : R e e') {st : EngineStep} (hkind : e.kind = e'.kind)
    (hcapacity : e.capacity = e'.capacity) (hclosed : e.isClosed = e'.isClosed)
    (hcall : ∀ c, st.call? = some c → Agree R (invoke c e) (invoke c e'))
    (hpush : ∀ bar u v, R u v → Agree R (invoke (.pushBar bar) u) (invoke (.pushBar bar) v))
    (hdrain : st.drains = true → Agree R (drain e) (drain e'))
    (hclose : Agree R (close e) (close e')) :
    Agree R (perform buffer st e) (perform buffer st e') := by
  cases hst : st.call? with
  | some c =>
    obtain ⟨f, -, hf⟩ := perform_of_call (ε := ε) (β := β) hst
    rw [hf buffer]
    exact (hcall c hst).andThen fun a => (f a, buffer)
  | none =>
    -- the steps that do not come down to one call
    cases st with
    | close => exact hclose.andThen fun _ => (Answer.done, buffer)
    | isClosed =>
      refine ⟨?_, h, rfl⟩
      show (Answer.flag e.isClosed, buffer) = (Answer.flag e'.isClosed, buffer)
      rw [hclosed]
    | capacity =>
      refine ⟨?_, h, rfl⟩
      show (Answer.number e.capacity, buffer) = (Answer.number e'.capacity, buffer)
      rw [hcapacity]
    | kind =>
      refine ⟨?_, h, rfl⟩
      show (Answer.text e.kind.name, buffer) = (Answer.text e'.kind.name, buffer)
      rw [hkind]
    | describe =>
      refine ⟨?_, h, rfl⟩
      show (Answer.text e.describe, buffer) = (Answer.text e'.describe, buffer)
      unfold describe
      rw [hkind, hcapacity, hclosed]
    | pushCloses timestamp closes => exact reply_agree _ (pushCloses_agree hpush h timestamp closes)
    | addIndicator spec =>
      refine reply_agree _ ?_
      rw [addIndicator_refused hst]
      exact ⟨rfl, h, rfl⟩
    | addRsi period =>
      refine reply_agree _ ?_
      rw [addRsi_refused hst]
      exact ⟨rfl, h, rfl⟩
    | poll => exact reply_agree _ ((hdrain rfl).andThen _)
    | drain =>
      have hinto : Agree R (drainSignalsInto buffer e) (drainSignalsInto buffer e') := by
        refine .bind (hdrain rfl) fun answer u v h₁ => ?_
        cases answer with
        | error error => exact ⟨rfl, h₁, rfl⟩
        | ok batch => exact ⟨rfl, h₁, rfl⟩
      exact hinto.andThen fun answer => (Answer.drained answer.1 answer.2, answer.2)
    | _ => cases hst

end Alike

end Engine

end MarketBridge
