import MarketBridge.Proofs.Drain.Policy
import MarketBridge.Proofs.Session.Called
import MarketBridge.Proofs.Session.Paired
import MarketBridge.Proofs.Session.Through

/-!
# `Session.Policy` — one session under a strict and under a lenient bridge

The same steps are carried out on two bridges that differ in their policies only. Every wrapper of
the one session has a counterpart in the other that owns the same engine (`Engine.Under`), and the
two sessions show the same of their journals; what differs is the caller's buffer, where the strict
session has some of the signals of the lenient one (`Session.Apart`). Every step keeps it so, and
every step but the drains and a look at the buffer is answered the same (`Session.Apart.step`).
Engines made from the bridge have its policy, and all engines do as long as no step selects a
bridge of its own (`Session.Inherits.run`).
-/

namespace MarketBridge

open Outcome

variable {ε β : Type} {b : Backend ε β}

/-! ## Wrappers -/

/-- Wrappers of the same engine that differ at most in their policies. -/
structure Engine.SameButPolicy (e e' : Engine ε β) : Prop where
  link : e.link = e'.link
  kind : e.kind = e'.kind
  capacity : e.capacity = e'.capacity

/-- The strict and the lenient wrapper of the same engine, which goes through `b` if it is open. -/
structure Engine.Apart (b : Backend ε β) (e e' : Engine ε β) : Prop where
  same : Engine.SameButPolicy e e'
  strict : e.decode = .strict
  lenient : e'.decode = .lenient
  live : e.Live
  backend : ∀ b' ∈ e.backend?, b' = b

/-- The counterparts in two sessions: the same wrapper, or two that are made from the bridges. -/
inductive Engine.Under (b : Backend ε β) : Engine ε β → Engine ε β → Prop
  | same (e : Engine ε β) : Under b e e
  | apart {e e' : Engine ε β} (h : Engine.Apart b e e') : Under b e e'

namespace Engine

variable {e e' : Engine ε β} {policy : DecodePolicy}

theorem Under.sameButPolicy (h : Under b e e') : SameButPolicy e e' := by
  cases h with
  | same => exact ⟨rfl, rfl, rfl⟩
  | apart h => exact h.same

theorem Under.apart_of_policies (h : Under b e e') (hstrict : e.decode = .strict)
    (hlenient : e'.decode = .lenient) : Apart b e e' := by
  cases h with
  | same =>
    rw [hstrict] at hlenient
    cases hlenient
  | apart h => exact h

theorem Under.invoke_agree (h : Under b e e') (c : EngineCall) :
    Agree (Under b) (invoke c e) (invoke c e') := by
  cases h with
  | same => exact .refl (.same _)
  | apart h =>
    obtain ⟨⟨hlink, hkind, hcapacity⟩, hstrict, hlenient, hlive, hbackend⟩ := h
    -- the call leaves what is owned live and at its backend
    obtain ⟨backend, live⟩ := (invoke_crosses ⟨rfl, hlive⟩ c).state
    rw [← backend] at hbackend
    obtain ⟨link, kind, decode, capacity⟩ := e
    obtain ⟨link', kind', decode', capacity'⟩ := e'
    dsimp only at hlink hkind hcapacity
    subst hlink hkind hcapacity
    cases link with
    | none => exact ⟨rfl, .apart ⟨⟨rfl, rfl, rfl⟩, hstrict, hlenient, live, hbackend⟩, rfl⟩
    | some l => exact ⟨rfl, .apart ⟨⟨rfl, rfl, rfl⟩, hstrict, hlenient, live, hbackend⟩, rfl⟩

theorem Under.close_agree (h : Under b e e') : Agree (Under b) (close e) (close e') := by
  cases h with
  | same => exact .refl (.same _)
  | apart h =>
    obtain ⟨⟨hlink, hkind, hcapacity⟩, hstrict, hlenient, hlive, hbackend⟩ := h
    obtain ⟨link, kind, decode, capacity⟩ := e
    obtain ⟨link', kind', decode', capacity'⟩ := e'
    dsimp only at hlink hkind hcapacity
    subst hlink hkind hcapacity
    cases link with
    | none => exact ⟨rfl, .apart ⟨⟨rfl, rfl, rfl⟩, hstrict, hlenient, hlive, hbackend⟩, rfl⟩
    | some l => exact ⟨rfl, .apart ⟨⟨rfl, rfl, rfl⟩, hstrict, hlenient, nofun, nofun⟩, rfl⟩

theorem Under.drop_eq (h : Under b e e') : e.drop = e'.drop := by
  have hlink := h.sameButPolicy.link
  unfold drop
  rw [hlink]

/-- Fetching signals depends on no policy. -/
theorem Under.fetch_agree (h : Under b e e') : Agree (Under b) (fetch e) (fetch e') := by
  unfold fetch
  refine .bind (h.invoke_agree .signalsLen) fun answer u v huv => ?_
  cases answer with
  | error error => exact ⟨rfl, huv, rfl⟩
  | ok queued =>
    dsimp only
    by_cases bare : queued = 0
    · rw [if_pos bare]
      exact ⟨rfl, huv, rfl⟩
    · rw [if_neg bare]
      exact (huv.invoke_agree (.pollSignals queued)).andThen _

/-- What a drain appends for the one is among what it appends for the other. -/
theorem Under.appended_sublist (h : Under b e e') :
    (e.decode.appended (fetch e).answer).Sublist (e'.decode.appended (fetch e').answer) := by
  rw [h.fetch_agree.answer]
  cases h with
  | same => exact List.Sublist.refl _
  | apart h =>
    rw [h.strict, h.lenient]
    exact DecodePolicy.appended_strict_sublist _

/-- Counterparts act alike in every step but the drains. -/
theorem Under.perform_agree (h : Under b e e') {st : EngineStep} (hst : st.drains = false)
    (buffer : List Signal) : Agree (Under b) (perform buffer st e) (perform buffer st e') := by
  obtain ⟨hlink, hkind, hcapacity⟩ := h.sameButPolicy
  have hclosed : e.isClosed = e'.isClosed := congrArg Option.isNone hlink
  refine Engine.perform_agree h hkind hcapacity hclosed (fun c _ => h.invoke_agree c)
    (fun bar u v huv => huv.invoke_agree (.pushBar bar)) (fun hdrains => ?_) h.close_agree
  rw [hst] at hdrains
  cases hdrains

/-! ### Making -/

theorem create_under (b : Backend ε β) (capacity : UInt64) :
    Alike Eq (MadeAlike (Under b)) (create ⟨b, .strict⟩ capacity ())
      (create ⟨b, .lenient⟩ capacity ()) := by
  unfold create
  by_cases zero : capacity = 0
  · rw [if_pos zero, if_pos zero]
    exact .pure (.error _) rfl
  · have hbackend := b.createEngine_backend capacity
    obtain ⟨-, hlive⟩ := b.createEngine_crosses capacity
    rw [if_neg zero, if_neg zero, Op.bind_apply, Op.bind_apply]
    cases hmade : (b.createEngine capacity ()).answer with
    | error error => exact ⟨.error error, rfl, rfl⟩
    | ok l =>
      refine ⟨.ok (.apart ⟨⟨rfl, rfl, rfl⟩, rfl, rfl, ?_, ?_⟩), rfl, rfl⟩
      · rintro l' ⟨⟩
        exact hlive l hmade
      · rintro b' ⟨⟩
        exact hbackend l hmade

/-- An engine has the policy of the bridge that it was made from. -/
theorem create_decode (bridge : Bridge ε β) (capacity : UInt64) :
    ∀ e, (create bridge capacity ()).answer = .ok e → e.decode = bridge.decode := by
  unfold create
  by_cases zero : capacity = 0
  · rw [if_pos zero]
    rintro e ⟨⟩
  · rw [if_neg zero, Op.bind_apply]
    cases (bridge.backend.createEngine capacity ()).answer with
    | error error => rintro e ⟨⟩
    | ok l =>
      rintro e ⟨⟩
      rfl

theorem invoke_keeps_decode (policy : DecodePolicy) (c : EngineCall) :
    Op.Keeps (fun e => e.decode = policy) (fun _ => True) (invoke c : Op (Engine ε β) _) := by
  intro e he
  obtain ⟨link, kind, decode, capacity⟩ := e
  cases link with
  | none => exact ⟨he, fun _ _ => trivial⟩
  | some l => exact ⟨he, fun _ _ => trivial⟩

/-- No step changes the policy of an engine. -/
theorem perform_decode (he : e.decode = policy) (buffer : List Signal) (st : EngineStep) :
    (perform buffer st e).state.decode = policy := by
  have keeps : st ≠ .close → (perform buffer st e).state.decode = policy := by
    intro hst
    exact (perform_keeps (fun _ => trivial) (invoke_keeps_decode policy) buffer hst e he).1
  cases st with
  | close =>
    obtain ⟨link, kind, decode, capacity⟩ := e
    cases link with
    | none => exact he
    | some l => exact he
  | _ => exact keeps nofun

end Engine

/-! ## Steps that have nothing to do with the buffer -/

/-- Whether the step empties the signal queue of an engine. -/
def Step.drains : Step → Bool
  | .engine _ inner => inner.drains
  | _ => false

/-- Whether the step neither reads nor changes the caller's buffer. -/
def Step.ignoresBuffer : Step → Bool
  | .engine _ .drain | .buffer | .clearBuffer => false
  | _ => true

namespace Session

variable {host : Host ε β} {s t : Session ε β} {st : Step}

/-- The session with an empty buffer. -/
def unbuffered (s : Session ε β) : Session ε β :=
  { s with buffer := [] }

theorem placeEngine_buffered (slot : Nat) (op : Op Unit (Except Error (Engine ε β))) :
    (Op.lift op >>= placeEngine slot) s =
      ⟨((Op.lift op >>= placeEngine slot) s.unbuffered).answer,
        { ((Op.lift op >>= placeEngine slot) s.unbuffered).state with buffer := s.buffer },
        ((Op.lift op >>= placeEngine slot) s.unbuffered).events⟩ := by
  cases hmade : (op ()).answer with
  | error error =>
    rw [placeEngine_of_error hmade, placeEngine_of_error hmade]
    rfl
  | ok e =>
    rw [placeEngine_of_ok hmade, placeEngine_of_ok hmade]
    rfl

theorem placeBacktest_buffered (slot : Nat) (op : Op Unit (Except Error (Backtest ε β))) :
    (Op.lift op >>= placeBacktest slot) s =
      ⟨((Op.lift op >>= placeBacktest slot) s.unbuffered).answer,
        { ((Op.lift op >>= placeBacktest slot) s.unbuffered).state with buffer := s.buffer },
        ((Op.lift op >>= placeBacktest slot) s.unbuffered).events⟩ := by
  cases hmade : (op ()).answer with
  | error error =>
    rw [placeBacktest_of_error hmade, placeBacktest_of_error hmade]
    rfl
  | ok x =>
    rw [placeBacktest_of_ok hmade, placeBacktest_of_ok hmade]
    rfl

/-- Such a step comes to the same without the buffer, and leaves the buffer as it is. -/
theorem step_buffered (hst : st.ignoresBuffer = true) (s : Session ε β) :
    step st s =
      ⟨(step st s.unbuffered).answer, { (step st s.unbuffered).state with buffer := s.buffer },
        (step st s.unbuffered).events⟩ := by
  cases st with
  | newEngine slot capacity => exact placeEngine_buffered slot (Engine.create s.bridge capacity)
  | newEngineFromEnvironment slot capacity =>
    exact placeEngine_buffered slot (Engine.ofEnvironment s.host capacity)
  | dropEngine slot =>
    cases there : s.engines.get? slot with
    | none =>
      rw [step_dropEngine_of_none there, step_dropEngine_of_none (s := s.unbuffered) there]
      rfl
    | some e =>
      rw [step_dropEngine there, step_dropEngine (s := s.unbuffered) there]
      rfl
  | engine slot inner =>
    cases there : s.engines.get? slot with
    | none =>
      rw [step_engine_of_none there, step_engine_of_none (s := s.unbuffered) there]
      rfl
    | some e =>
      rw [step_engine_apply there, step_engine_apply (s := s.unbuffered) there]
      cases inner with
      | drain => cases hst
      | _ => rfl
  | newBacktest slot params => exact placeBacktest_buffered slot (Backtest.create s.bridge params)
  | newBacktestFromEnvironment slot params =>
    exact placeBacktest_buffered slot (Backtest.ofEnvironment s.host params)
  | dropBacktest slot =>
    cases there : s.backtests.get? slot with
    | none =>
      rw [step_dropBacktest_of_none there, step_dropBacktest_of_none (s := s.unbuffered) there]
      rfl
    | some x =>
      rw [step_dropBacktest there, step_dropBacktest (s := s.unbuffered) there]
      rfl
  | backtest slot inner =>
    cases there : s.backtests.get? slot with
    | none =>
      rw [step_backtest_of_none there, step_backtest_of_none (s := s.unbuffered) there]
      rfl
    | some x =>
      rw [step_backtest_apply there, step_backtest_apply (s := s.unbuffered) there]
      cases inner with
      | _ => rfl
  | buffer => cases hst
  | clearBuffer => cases hst
  | calls => rfl
  | counters => rfl

/-! ## Two sessions -/

/-- The same session on a strict and on a lenient bridge with the backend `b`. -/
structure Apart (host : Host ε β) (b : Backend ε β) (s t : Session ε β) : Prop where
  paired : s.unbuffered.Paired host ⟨b, .strict⟩ ⟨b, .lenient⟩ (Engine.Under b) Eq t.unbuffered
  buffer : s.buffer.Sublist t.buffer

theorem apart_start (host : Host ε β) (b : Backend ε β) :
    Apart host b (start host ⟨b, .strict⟩) (start host ⟨b, .lenient⟩) :=
  ⟨paired_start host _ _, .slnil⟩

theorem pairing_of_policies (b : Backend ε β) :
    Pairing ⟨b, .strict⟩ ⟨b, .lenient⟩ (Engine.Under b) Eq where
  sameEngine := .same
  sameBacktest _ := rfl
  createEngine := Engine.create_under b
  createBacktest _ := ⟨.refl (fun _ => rfl) _, rfl, rfl⟩
  dropEngine _ _ he := congrArg trace he.drop_eq
  dropBacktest _ _ hx := congrArg (fun x => trace x.drop) hx
  backtest _ _ _ hx := hx ▸ ⟨rfl, rfl, rfl⟩

namespace Apart

theorem ordered (h : Apart host b s t) : s.Ordered ∧ t.Ordered :=
  ⟨⟨h.paired.ordered.engines, h.paired.ordered.backtests⟩,
    ⟨h.paired.ordered_right.engines, h.paired.ordered_right.backtests⟩⟩

/-- Counterparts stand at the same places. -/
theorem get? (h : Apart host b s t) (slot : Nat) :
    Option.Rel (Engine.Under b) (s.engines.get? slot) (t.engines.get? slot) :=
  h.paired.engines.get? slot

theorem withBuffers (h : s.Paired host ⟨b, .strict⟩ ⟨b, .lenient⟩ (Engine.Under b) Eq t)
    {buffer buffer' : List Signal} (hbuffer : buffer.Sublist buffer') :
    Apart host b { s with buffer } { t with buffer := buffer' } :=
  ⟨h.setBuffer [], hbuffer⟩

/-- A step that has nothing to do with the buffers and is no poll is the same in both. -/
theorem step_agree (h : Apart host b s t) (hst : st.ignoresBuffer = true)
    (hdrains : st.drains = false) : Agree (Apart host b) (step st s) (step st t) := by
  have hact : s.unbuffered.ActAlike (Engine.Under b) st := by
    rintro slot inner e e' rfl - he
    exact he.perform_agree hdrains []
  obtain ⟨answer, state, shown⟩ := step_paired (pairing_of_policies b) h.paired st hact
  rw [step_buffered hst s, step_buffered hst t]
  exact ⟨answer, withBuffers state h.buffer, shown⟩

/-- Counterparts that have fetched their signals. -/
theorem fetch (h : Apart host b s t) (slot : Nat) {e e' : Engine ε β} (he : Engine.Under b e e')
    {buffer buffer' : List Signal} (hbuffer : buffer.Sublist buffer') :
    Apart host b { s with engines := s.engines.set slot e.fetch.state, buffer }
      { t with engines := t.engines.set slot e'.fetch.state, buffer := buffer' } :=
  withBuffers (h.paired.setEngine slot he.fetch_agree.state) hbuffer

end Apart

/-- A poll is a fetch and an answer by the policy. -/
theorem step_poll (hordered : s.Ordered) {slot : Nat} {e : Engine ε β}
    (there : s.engines.get? slot = some e) :
    (step (.engine slot .poll) s).answer = .ofExcept .signals (e.decode.polled e.fetch.answer) ∧
      (step (.engine slot .poll) s).state =
        { s with engines := s.engines.set slot e.fetch.state } ∧
      shown (step (.engine slot .poll) s).events = shown e.fetch.events := by
  obtain ⟨answer, state, htrace⟩ := e.pollSignals_fetches
  have hperform : e.perform s.buffer .poll =
      ⟨(.ofExcept .signals e.pollSignals.answer, s.buffer), e.pollSignals.state,
        e.pollSignals.events ++ []⟩ := rfl
  rw [step_engine hordered there, hperform, answer, state, List.append_nil]
  exact ⟨rfl, rfl, shown_eq_of_trace htrace⟩

/-- A drain into the buffer is a fetch, and an answer and what is appended by the policy. -/
theorem step_drain (hordered : s.Ordered) {slot : Nat} {e : Engine ε β}
    (there : s.engines.get? slot = some e) :
    (step (.engine slot .drain) s).answer =
        .drained (e.decode.counted e.fetch.answer)
          (s.buffer ++ e.decode.appended e.fetch.answer) ∧
      (step (.engine slot .drain) s).state =
        { s with
          engines := s.engines.set slot e.fetch.state
          buffer := s.buffer ++ e.decode.appended e.fetch.answer } ∧
      shown (step (.engine slot .drain) s).events = shown e.fetch.events := by
  obtain ⟨answer, state, htrace⟩ := e.drainSignalsInto_fetches s.buffer
  have hperform : e.perform s.buffer .drain =
      ⟨(.drained (e.drainSignalsInto s.buffer).answer.1 (e.drainSignalsInto s.buffer).answer.2,
        (e.drainSignalsInto s.buffer).answer.2), (e.drainSignalsInto s.buffer).state,
        (e.drainSignalsInto s.buffer).events ++ []⟩ := rfl
  rw [step_engine hordered there, hperform, answer, state, List.append_nil]
  exact ⟨rfl, rfl, shown_eq_of_trace htrace⟩

namespace Apart

theorem poll (h : Apart host b s t) (slot : Nat) :
    Apart host b (Session.step (.engine slot .poll) s).state
        (Session.step (.engine slot .poll) t).state ∧
      shown (Session.step (.engine slot .poll) s).events =
        shown (Session.step (.engine slot .poll) t).events := by
  have there := h.get? slot
  generalize hs : s.engines.get? slot = o, ht : t.engines.get? slot = o' at there
  cases there with
  | none =>
    rw [step_engine_of_none hs, step_engine_of_none ht]
    exact ⟨h, rfl⟩
  | some he =>
    obtain ⟨-, state, events⟩ := step_poll h.ordered.1 hs
    obtain ⟨-, state', events'⟩ := step_poll h.ordered.2 ht
    rw [state, state', events, events']
    exact ⟨h.fetch slot he h.buffer, he.fetch_agree.shown⟩

theorem drain (h : Apart host b s t) (slot : Nat) :
    Apart host b (Session.step (.engine slot .drain) s).state
        (Session.step (.engine slot .drain) t).state ∧
      shown (Session.step (.engine slot .drain) s).events =
        shown (Session.step (.engine slot .drain) t).events := by
  have there := h.get? slot
  generalize hs : s.engines.get? slot = o, ht : t.engines.get? slot = o' at there
  cases there with
  | none =>
    rw [step_engine_of_none hs, step_engine_of_none ht]
    exact ⟨h, rfl⟩
  | some he =>
    obtain ⟨-, state, events⟩ := step_drain h.ordered.1 hs
    obtain ⟨-, state', events'⟩ := step_drain h.ordered.2 ht
    rw [state, state', events, events']
    exact ⟨h.fetch slot he (h.buffer.append he.appended_sublist), he.fetch_agree.shown⟩

/-- **One step.** The sessions go on side by side, show the same, and answer the same unless the
step drains or shows the buffer. -/
theorem step (h : Apart host b s t) (st : Step) :
    Apart host b (Session.step st s).state (Session.step st t).state ∧
      shown (Session.step st s).events = shown (Session.step st t).events ∧
      (st.drains = false → st ≠ .buffer →
        (Session.step st s).answer = (Session.step st t).answer) := by
  by_cases quiet : st.ignoresBuffer = true ∧ st.drains = false
  · obtain ⟨answer, state, shown⟩ := h.step_agree quiet.1 quiet.2
    exact ⟨state, shown, fun _ _ => answer⟩
  · -- what is left are the two drains and the two steps on the buffer
    cases st with
    | engine slot inner =>
      cases inner with
      | poll =>
        obtain ⟨state, shown⟩ := h.poll slot
        exact ⟨state, shown, nofun⟩
      | drain =>
        obtain ⟨state, shown⟩ := h.drain slot
        exact ⟨state, shown, nofun⟩
      | _ => exact absurd ⟨rfl, rfl⟩ quiet
    | buffer => exact ⟨h, rfl, fun _ hne => absurd rfl hne⟩
    | clearBuffer => exact ⟨withBuffers h.paired .slnil, rfl, fun _ _ => rfl⟩
    | _ => exact absurd ⟨rfl, rfl⟩ quiet

theorem advance (h : Apart host b s t) (st : Step) :
    Apart host b (Session.advance (Session.step st) s).2
      (Session.advance (Session.step st) t).2 := by
  obtain ⟨⟨paired, buffer⟩, hshown, -⟩ := h.step st
  have hjournal : shown ((Session.step st s).state.journal ++ (Session.step st s).events) =
      shown ((Session.step st t).state.journal ++ (Session.step st t).events) := by
    have hpast : shown (Session.step st s).state.journal =
      shown (Session.step st t).state.journal := paired.journal
    rw [shown_append, shown_append, hpast, hshown]
  refine ⟨{ paired with
    ordered := ⟨paired.ordered.engines, paired.ordered.backtests⟩
    journal := hjournal }, buffer⟩

theorem run (h : Apart host b s t) (steps : List Step) :
    Apart host b (Session.run steps s).2 (Session.run steps t).2 := by
  induction steps generalizing s t with
  | nil => exact h
  | cons next rest ih => exact ih (h.advance next)

/-- Both come to the same when everything is dropped. -/
theorem closingCounters_eq (h : Apart host b s t) : s.closingCounters = t.closingCounters := by
  have hcounters := closingCounters_eq_of_paired (pairing_of_policies b) h.paired
  exact hcounters

end Apart

/-! ## Policies -/

/-- All engines of the session have the policy of its bridge. -/
def Inherits (s : Session ε β) : Prop :=
  ∀ e ∈ s.engines.toList, e.decode = s.bridge.decode

theorem inherits_start (host : Host ε β) (bridge : Bridge ε β) : (start host bridge).Inherits :=
  fun _ hmem => absurd hmem List.not_mem_nil

namespace Inherits

theorem setEngine (h : s.Inherits) (slot : Nat) {e : Engine ε β}
    (he : e.decode = s.bridge.decode) :
    ({ s with engines := s.engines.set slot e } : Session ε β).Inherits := by
  intro e' hmem
  rcases Slots.mem_toList_set hmem with rfl | there
  · exact he
  · exact h e' there

/-- Every step that does not select a bridge of its own leaves the engines with the policy. -/
theorem step (h : s.Inherits) (hordered : s.Ordered) {st : Step} (hselects : st.selects = false) :
    (Session.step st s).state.Inherits := by
  cases st with
  | newEngine slot capacity =>
    show ((Op.lift (Engine.create s.bridge capacity) >>= placeEngine slot) s).state.Inherits
    cases hmade : (Engine.create s.bridge capacity ()).answer with
    | error error =>
      rw [placeEngine_of_error hmade]
      exact h
    | ok e =>
      rw [placeEngine_of_ok hmade]
      exact h.setEngine slot (Engine.create_decode s.bridge capacity e hmade)
  | newEngineFromEnvironment slot capacity => cases hselects
  | dropEngine slot =>
    cases there : s.engines.get? slot with
    | none =>
      rw [step_dropEngine_of_none there]
      exact h
    | some e =>
      rw [step_dropEngine there]
      intro e' hmem
      exact h e' (Slots.mem_toList_erase hmem)
  | engine slot inner =>
    cases there : s.engines.get? slot with
    | none =>
      rw [step_engine_of_none there]
      exact h
    | some e =>
      have hdecode := h e (Slots.mem_toList_of_get? there)
      rw [step_engine hordered there]
      exact h.setEngine slot (Engine.perform_decode hdecode s.buffer inner)
  | newBacktest slot params =>
    show ((Op.lift (Backtest.create s.bridge params) >>= placeBacktest slot) s).state.Inherits
    cases hmade : (Backtest.create s.bridge params ()).answer with
    | error error =>
      rw [placeBacktest_of_error hmade]
      exact h
    | ok x =>
      rw [placeBacktest_of_ok hmade]
      exact h
  | newBacktestFromEnvironment slot params => cases hselects
  | dropBacktest slot =>
    cases there : s.backtests.get? slot with
    | none =>
      rw [step_dropBacktest_of_none there]
      exact h
    | some x =>
      rw [step_dropBacktest there]
      exact h
  | backtest slot inner =>
    cases there : s.backtests.get? slot with
    | none =>
      rw [step_backtest_of_none there]
      exact h
    | some x =>
      rw [step_backtest hordered there]
      exact h
  | _ => exact h

/-- **A whole run.** So do all the steps of a session. -/
theorem run (h : s.Inherits) (hordered : s.Ordered) (steps : List Step)
    (hselects : ∀ st ∈ steps, st.selects = false) : (Session.run steps s).2.Inherits := by
  induction steps generalizing s with
  | nil => exact h
  | cons next rest ih =>
    have hnext := h.step hordered (hselects next List.mem_cons_self)
    exact ih hnext (hordered.advance next) fun st hmem =>
      hselects st (List.mem_cons_of_mem next hmem)

end Inherits

/-- Under a strict and a lenient bridge the counterparts are strict and lenient. -/
theorem Apart.policies (h : Apart host b s t) (hs : s.Inherits) (ht : t.Inherits) {slot : Nat}
    {e e' : Engine ε β} (there : s.engines.get? slot = some e)
    (there' : t.engines.get? slot = some e') : e.decode = .strict ∧ e'.decode = .lenient := by
  obtain ⟨hbridge, hbridge'⟩ := h.paired.bridges
  have hstrict : s.bridge = ⟨b, .strict⟩ := hbridge
  have hlenient : t.bridge = ⟨b, .lenient⟩ := hbridge'
  refine ⟨?_, ?_⟩
  · rw [hs e (Slots.mem_toList_of_get? there), hstrict]
  · rw [ht e' (Slots.mem_toList_of_get? there'), hlenient]

end Session

end MarketBridge
