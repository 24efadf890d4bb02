import MarketBridge.Proofs.Reference.Calls
import MarketBridge.Proofs.Reference.Delivery
import MarketBridge.Proofs.Session.Policy

/-!
# `Reference.Policy` — the policy decides about reports and nothing else

On the reference engine, however it is reached, a drain takes the whole queue whatever the policy
(`fetch_of_native`). So of two runs of the same session, one on a strict and one on a lenient
bridge, the engines stay in the same states, and only the answers to the drains, and the callers'
buffers that are filled by them, tell which is which (`policies_differ_in_reports`).
-/

namespace MarketBridge

deriving instance DecidableEq for Answer

/-- Whether the call is about the signal queue. -/
def EngineCall.isAboutQueue : EngineCall → Bool
  | .signalsLen | .pollSignals _ => true
  | _ => false

namespace Reference

open Session (advance)

/-! ## Fetching from the reference engine -/

section Fetch

variable {e : MarketBridge.Engine Engine Backtest} {s : Engine} {c : EngineCall}

theorem exists_native (h : Wraps e) (hopen : e.isClosed = false) : ∃ s, e.native? = some s := by
  obtain ⟨link, kind, decode, capacity⟩ := e
  cases link with
  | none => cases hopen
  | some l =>
    have live := h.live l rfl
    cases live with
    | table b s => exact ⟨s, rfl⟩
    | inProcess m s => exact ⟨s, rfl⟩

/-- Calls about the queue need no symbol and cannot be refused. -/
theorem invoke_queue (h : Wraps e) (hs : e.native? = some s) (hc : c.isAboutQueue = true) :
    (MarketBridge.Engine.invoke c e).answer = .ok (s.answer c).1 ∧
      (MarketBridge.Engine.invoke c e).state.native? = some (s.answer c).2 := by
  obtain ⟨link, kind, decode, capacity⟩ := e
  cases link with
  | none => cases hs
  | some l =>
    have live := h.live l rfl
    have reference := h.backend l.backend rfl
    cases live with
    | table b s' =>
      cases hs
      cases reference with
      | table b site hcode hsite =>
        obtain ⟨origin, dynamic, table, native⟩ := b
        dsimp only at hcode
        subst hcode
        cases c with
        | signalsLen => exact ⟨rfl, rfl⟩
        | pollSignals slots => exact ⟨rfl, rfl⟩
        | _ => cases hc
    | inProcess m s' =>
      cases hs
      cases reference
      cases c with
      | signalsLen => exact ⟨rfl, rfl⟩
      | pollSignals slots => exact ⟨rfl, rfl⟩
      | _ => cases hc

/-- Fetching takes what a drain takes. -/
theorem fetch_of_native (h : Wraps e) (hs : e.native? = some s) :
    e.fetch.answer = .ok (s.queue.take s.drainable) ∧
      e.fetch.state.native? = some s.drained := by
  obtain ⟨hlen, hasked⟩ : (MarketBridge.Engine.invoke .signalsLen e).answer =
        .ok (UInt64.ofNat s.queue.length) ∧
      (MarketBridge.Engine.invoke .signalsLen e).state.native? = some s := invoke_queue h hs rfl
  have hwraps := (invoke_wraps h .signalsLen).1
  unfold MarketBridge.Engine.fetch
  rw [Op.bind_apply, hlen]
  dsimp only
  by_cases bare : UInt64.ofNat s.queue.length = 0
  · have hnone : s.drainable = 0 := UInt64.toNat_ofNat'.symm.trans (congrArg UInt64.toNat bare)
    rw [if_pos bare, hnone, Engine.drained_of_zero bare]
    exact ⟨rfl, hasked⟩
  · obtain ⟨hpoll, hpolled⟩ :=
      invoke_queue (c := .pollSignals (UInt64.ofNat s.queue.length)) hwraps hasked rfl
    have hfull : s.answer (.pollSignals (UInt64.ofNat s.queue.length)) = (s.fullPoll, s.drained) :=
      s.poll_full
    rw [hfull] at hpoll hpolled
    rw [if_neg bare, Op.bind_apply]
    refine ⟨?_, hpolled⟩
    have hwritten : s.fullPoll.written.length = (UInt64.ofNat s.queue.length).toNat := by
      rw [UInt64.toNat_ofNat']
      exact s.length_take_drainable
    have htrusted := Batch.trusted_of_filled hwritten rfl
    exact (congrArg (Except.map _) hpoll).trans (congrArg Except.ok htrusted)

/-- What is fetched is what is missing from the queue afterwards. -/
theorem fetch_of_open (h : Wraps e) (hopen : e.isClosed = false) :
    e.fetch.answer = .ok (takenBetween e e.fetch.state) := by
  obtain ⟨s, hs⟩ := exists_native h hopen
  obtain ⟨hanswer, hstate⟩ := fetch_of_native h hs
  have hbefore : queued e = s.queue := by
    unfold queued
    rw [hs]
    rfl
  have hafter : queued e.fetch.state = s.drained.queue := by
    unfold queued
    rw [hstate]
    rfl
  rw [takenBetween_of_queued hbefore hafter, hanswer]

end Fetch

/-! ## Two runs -/

/-- How a session `s` on a strict bridge and the same session `t` on a lenient one go through the
step `st`. -/
structure OnlyReportsDiffer (s t : Session Engine Backtest) (st : Step) : Prop where
  /-- After the step the engines at the same places are in the same states. -/
  engines : Slots.Rel MarketBridge.Engine.SameButPolicy (advance (Session.step st) s).2.engines
    (advance (Session.step st) t).2.engines
  /-- So are the backtests. -/
  backtests : (advance (Session.step st) s).2.backtests = (advance (Session.step st) t).2.backtests
  /-- The same has been freed and revalued when everything is dropped. -/
  counters : (advance (Session.step st) s).2.closingCounters =
    (advance (Session.step st) t).2.closingCounters
  /-- Unless the step drains or shows the buffer, the answers are the same. -/
  answer : st.drains = false → st ≠ .buffer →
    (Session.step st s).answer = (Session.step st t).answer
  /-- The strict caller's buffer has some of the signals of the lenient caller's, in order. -/
  buffer : (advance (Session.step st) s).2.buffer.Sublist (advance (Session.step st) t).2.buffer
  /-- A poll of an open engine takes the same signals and reports them by the policies. -/
  poll : ∀ slot e e', st = .engine slot .poll → s.engines.get? slot = some e →
    t.engines.get? slot = some e' → e.isClosed = false → e.decode = .strict →
    e'.decode = .lenient → ∃ after answer answer',
      (advance (Session.step st) s).2.engines.get? slot = some after ∧
      (Session.step st s).answer = .ofExcept .signals answer ∧
      (Session.step st t).answer = .ofExcept .signals answer' ∧
      RawSignal.PolledApart (takenBetween e after) answer answer'
  /-- So does a drain into the buffer, which appends them by the policies. -/
  drain : ∀ slot e e', st = .engine slot .drain → s.engines.get? slot = some e →
    t.engines.get? slot = some e' → e.isClosed = false → e.decode = .strict →
    e'.decode = .lenient → ∃ after answer answer' appended appended',
      (advance (Session.step st) s).2.engines.get? slot = some after ∧
      (Session.step st s).answer = .drained answer (s.buffer ++ appended) ∧
      (Session.step st t).answer = .drained answer' (t.buffer ++ appended') ∧
      (advance (Session.step st) s).2.buffer = s.buffer ++ appended ∧
      (advance (Session.step st) t).2.buffer = t.buffer ++ appended' ∧
      RawSignal.DrainedApart (takenBetween e after) answer answer' appended appended'
  /-- On a closed engine both fail in the same way, and the buffers are left as they are. -/
  closed : ∀ slot e e', s.engines.get? slot = some e → t.engines.get? slot = some e' →
    e.isClosed = true →
    (st = .engine slot .poll →
      (Session.step st s).answer = .failed (.precondition engineLabel) ∧
      (Session.step st t).answer = .failed (.precondition engineLabel)) ∧
    (st = .engine slot .drain →
      (Session.step st s).answer = .drained (.error (.precondition engineLabel)) s.buffer ∧
      (Session.step st t).answer = .drained (.error (.precondition engineLabel)) t.buffer)

section Apart

variable {host : Host Engine Backtest} {b : Backend Engine Backtest} {s t : Session Engine Backtest}
  {slot : Nat} {e e' : MarketBridge.Engine Engine Backtest}

theorem wraps_of_apart (hb : OnReference b) (h : e.Apart b e') : Wraps e := by
  refine ⟨h.live, fun b' hb' => ?_⟩
  rw [h.backend b' hb']
  exact hb

/-- Nothing is fetched from a closed engine. -/
theorem fetch_of_closed (hclosed : e.isClosed = true) :
    e.fetch = ⟨.error (.precondition engineLabel), e, []⟩ := by
  obtain ⟨link, kind, decode, capacity⟩ := e
  cases link with
  | none => rfl
  | some l => cases hclosed

theorem under_of_apart (h : s.Apart host b t) (there : s.engines.get? slot = some e)
    (there' : t.engines.get? slot = some e') : e.Under b e' := by
  have hunder := h.get? slot
  rw [there, there'] at hunder
  cases hunder with
  | some he => exact he

theorem get?_advance {st : Step}
    (h : (Session.step st s).state.engines = s.engines.set slot e) :
    (advance (Session.step st) s).2.engines.get? slot = some e := by
  show (Session.step st s).state.engines.get? slot = some e
  rw [h, Slots.get?_set, if_pos rfl]

section Counterparts

variable (hb : OnReference b) (h : s.Apart host b t) (there : s.engines.get? slot = some e)
  (there' : t.engines.get? slot = some e') (hopen : e.isClosed = false)
  (hstrict : e.decode = .strict) (hlenient : e'.decode = .lenient)
include hb h there there' hopen hstrict hlenient

/-- Counterparts fetch the same, which is what is missing from the queue afterwards. -/
theorem fetch_apart :
    e.fetch.answer = .ok (takenBetween e e.fetch.state) ∧ e'.fetch.answer = e.fetch.answer := by
  have he := under_of_apart h there there'
  have hwraps := wraps_of_apart hb (he.apart_of_policies hstrict hlenient)
  exact ⟨fetch_of_open hwraps hopen, he.fetch_agree.answer.symm⟩

/-- A poll of counterparts with different policies. -/
theorem poll_apart :
    ∃ after answer answer',
      (advance (Session.step (.engine slot .poll)) s).2.engines.get? slot = some after ∧
      (Session.step (.engine slot .poll) s).answer = .ofExcept .signals answer ∧
      (Session.step (.engine slot .poll) t).answer = .ofExcept .signals answer' ∧
      RawSignal.PolledApart (takenBetween e after) answer answer' := by
  obtain ⟨hfetch, hfetch'⟩ := fetch_apart hb h there there' hopen hstrict hlenient
  obtain ⟨hanswer, hstate, -⟩ := Session.step_poll h.ordered.1 there
  obtain ⟨hanswer', -, -⟩ := Session.step_poll h.ordered.2 there'
  rw [hstrict, hfetch] at hanswer
  rw [hlenient, hfetch', hfetch] at hanswer'
  have hafter := get?_advance (congrArg Session.engines hstate)
  exact ⟨_, _, _, hafter, hanswer, hanswer', .of_raws (e.length_fetched_lt hfetch)⟩

/-- A drain of counterparts with different policies. -/
theorem drain_apart :
    ∃ after answer answer' appended appended',
      (advance (Session.step (.engine slot .drain)) s).2.engines.get? slot = some after ∧
      (Session.step (.engine slot .drain) s).answer = .drained answer (s.buffer ++ appended) ∧
      (Session.step (.engine slot .drain) t).answer = .drained answer' (t.buffer ++ appended') ∧
      (advance (Session.step (.engine slot .drain)) s).2.buffer = s.buffer ++ appended ∧
      (advance (Session.step (.engine slot .drain)) t).2.buffer = t.buffer ++ appended' ∧
      RawSignal.DrainedApart (takenBetween e after) answer answer' appended appended' := by
  obtain ⟨hfetch, hfetch'⟩ := fetch_apart hb h there there' hopen hstrict hlenient
  obtain ⟨hanswer, hstate, -⟩ := Session.step_drain h.ordered.1 there
  obtain ⟨hanswer', hstate', -⟩ := Session.step_drain h.ordered.2 there'
  rw [hstrict, hfetch] at hanswer hstate
  rw [hlenient, hfetch', hfetch] at hanswer' hstate'
  have hafter := get?_advance (congrArg Session.engines hstate)
  have hbuffer := congrArg Session.buffer hstate
  have hbuffer' := congrArg Session.buffer hstate'
  exact ⟨_, _, _, _, _, hafter, hanswer, hanswer', hbuffer, hbuffer',
    .of_raws (e.length_fetched_lt hfetch)⟩

end Counterparts

theorem poll_closed (hordered : s.Ordered) (there : s.engines.get? slot = some e)
    (hclosed : e.isClosed = true) :
    (Session.step (.engine slot .poll) s).answer = .failed (.precondition engineLabel) := by
  obtain ⟨hanswer, -, -⟩ := Session.step_poll hordered there
  rw [fetch_of_closed hclosed] at hanswer
  exact hanswer

theorem drain_closed (hordered : s.Ordered) (there : s.engines.get? slot = some e)
    (hclosed : e.isClosed = true) :
    (Session.step (.engine slot .drain) s).answer =
      .drained (.error (.precondition engineLabel)) s.buffer := by
  obtain ⟨hanswer, -, -⟩ := Session.step_drain hordered there
  rw [fetch_of_closed hclosed] at hanswer
  have hnone : e.decode.appended (.error (.precondition engineLabel)) = [] := rfl
  rw [hnone, List.append_nil] at hanswer
  exact hanswer

/-- **One step** of two sessions that go on side by side. -/
theorem onlyReportsDiffer_of_apart (hb : OnReference b) (h : s.Apart host b t) (st : Step) :
    OnlyReportsDiffer s t st := by
  have hafter := h.advance st
  constructor
  case engines => exact hafter.paired.engines.imp fun _ _ he => he.sameButPolicy
  case backtests => exact hafter.paired.backtests.eq_of_eq
  case counters => exact hafter.closingCounters_eq
  case answer => exact (h.step st).2.2
  case buffer => exact hafter.buffer
  case poll =>
    rintro slot e e' rfl there there' hopen hstrict hlenient
    exact poll_apart hb h there there' hopen hstrict hlenient
  case drain =>
    rintro slot e e' rfl there there' hopen hstrict hlenient
    exact drain_apart hb h there there' hopen hstrict hlenient
  case closed =>
    intro slot e e' there there' hclosed
    have hlink := (under_of_apart h there there').sameButPolicy.link
    have hclosed' : e'.isClosed = true := (congrArg Option.isNone hlink).symm.trans hclosed
    refine ⟨?_, ?_⟩
    · rintro rfl
      exact ⟨poll_closed h.ordered.1 there hclosed, poll_closed h.ordered.2 there' hclosed'⟩
    · rintro rfl
      exact ⟨drain_closed h.ordered.1 there hclosed, drain_closed h.ordered.2 there' hclosed'⟩

end Apart

/-- The session after the steps, on a bridge with the given backend and policy. -/
def sessionAfter (host : Host Engine Backtest) (b : Backend Engine Backtest)
    (policy : DecodePolicy) (done : List Step) : Session Engine Backtest :=
  (Session.run done (.start host ⟨b, policy⟩)).2

/-- **Policies differ in reports only.** Whatever the host, the way to the reference engine and the
steps, a session on a strict bridge and the same session on a lenient one keep their engines in the
same states and answer every next step the same, drains and looks at the buffer aside; a drain takes
the same signals in both, and reports them by the policies. Unless a step selects a bridge of its
own, all engines have the policies of the two bridges. -/
theorem policies_differ_in_reports {b : Backend Engine Backtest} (hb : OnReference b)
    (host : Host Engine Backtest) (done : List Step) (st : Step) :
    OnlyReportsDiffer (sessionAfter host b .strict done) (sessionAfter host b .lenient done) st ∧
      ((∀ earlier ∈ done, earlier.selects = false) → ∀ slot e e',
        (sessionAfter host b .strict done).engines.get? slot = some e →
        (sessionAfter host b .lenient done).engines.get? slot = some e' →
        e.decode = .strict ∧ e'.decode = .lenient) := by
  have hapart := (Session.apart_start host b).run done
  refine ⟨onlyReportsDiffer_of_apart hb hapart st, fun hselects slot e e' there there' => ?_⟩
  have hinherits : ∀ policy, (sessionAfter host b policy done).Inherits := fun policy =>
    (Session.inherits_start host _).run (Session.ordered_start host _) done hselects
  exact hapart.policies (hinherits .strict) (hinherits .lenient) there there'

/-- Three strategies, of which one means to hold and the others emit tags that mean nothing, and a
bar that makes each of them queue a signal. -/
def mixedTagSteps : List Step :=
  [.newEngine 0 4, .engine 0 (.addStrategy "odd" "EMIT 7"),
    .engine 0 (.addStrategy "still" "EMIT 3"), .engine 0 (.addStrategy "odder" "EMIT 9"),
    .engine 0 (.push (.flat 5 1.5))]

/-- These steps behind the table of the required symbols. -/
def mixedTagSession (policy : DecodePolicy) : Session Engine Backtest :=
  sessionAfter ⟨.unset "linux", none, fun _ => none⟩ (.table (linked coreTable)) policy
    mixedTagSteps

/-- A lenient poll answers three holds, and a strict one keeps the one that is meant. -/
theorem mixedTags_differ_in_reports :
    OnReference (.table (linked coreTable)) ∧
    OnlyReportsDiffer (mixedTagSession .strict) (mixedTagSession .lenient) (.engine 0 .poll) ∧
    (Session.step (.engine 0 .poll) (mixedTagSession .lenient)).answer =
      .signals [⟨1, .hold, 5⟩, ⟨2, .hold, 5⟩, ⟨3, .hold, 5⟩] ∧
    (Session.step (.engine 0 .poll) (mixedTagSession .strict)).answer =
      .failed (.undecodedSignals [⟨2, .hold, 5⟩] 2 7) := by
  have hbridge : OnReference (.table (linked coreTable)) := .table _ .linked rfl nofun
  obtain ⟨hdiffer, -⟩ := policies_differ_in_reports hbridge ⟨.unset "linux", none, fun _ => none⟩
    mixedTagSteps (.engine 0 .poll)
  exact ⟨hbridge, hdiffer, by decide +kernel, by decide +kernel⟩

end Reference

end MarketBridge
