import MarketBridge.Proofs.Boundary
import MarketBridge.Proofs.Drain.Policy

/-!
# `Drain.Warnings` — what a drain warns of

A call that is answered leaves no log line of its own (`Engine.notices_invoke`), so whatever a drain
logs comes from the comparison of the two counts and from decoding. `Batch.Told` says what that has
to be: one warning if the counts differ, then one for each signal that a lenient policy takes for a
hold, and an error in place of the latter under a strict policy. `Engine.drains_tell_anomalies`
proves it for both ways to drain, whatever the engine answers.
-/

namespace MarketBridge

variable {ε β : Type}

/-! ## Log lines -/

/-- The log lines among `events` that are warnings. -/
def alerts (events : List Event) : List Notice :=
  (notices events).filter fun notice => notice.level = .warn

section Log

variable (xs ys : List Event)

@[simp] theorem notices_append : notices (xs ++ ys) = notices xs ++ notices ys :=
  List.filterMap_append

@[simp] theorem notices_cons_native (site : Site) (c : NativeCall) :
    notices (.native site c :: xs) = notices xs := rfl

@[simp] theorem notices_cons_log (notice : Notice) :
    notices (.log notice :: xs) = notice :: notices xs := rfl

theorem alerts_append : alerts (xs ++ ys) = alerts xs ++ alerts ys := by
  unfold alerts
  rw [notices_append, List.filter_append]

variable {xs}

theorem alerts_of_notices (h : notices xs = []) : alerts xs = [] := by
  unfold alerts
  rw [h]
  rfl

end Log

/-! ## Calls that are answered -/

theorem Backend.notices_crossing (b : Backend ε β) (c : EngineCall) :
    notices (b.crossing c) = [] := by
  unfold crossing
  generalize b.carried c = calls
  induction calls with
  | nil => rfl
  | cons call rest ih => rw [List.map_cons, notices_cons_native, ih]

theorem EngineLink.notices_call {l : EngineLink ε β} {c : EngineCall} {answer : c.Answer}
    (h : (EngineLink.call c l).answer = .ok answer) :
    notices (EngineLink.call c l).events = [] := by
  cases l with
  | table b handle =>
    unfold call
    dsimp only
    cases handle.pointer with
    | error error => rfl
    | ok s =>
      show notices (b.engineCall c s).events = []
      rw [b.engineCall_events, Backend.notices_crossing]
  | inProcess m s =>
    -- a module leaves log lines with its errors only
    have hanswer : (Failure.settle (m.engine c s).1 (m.engine c s).2).answer = .ok answer := h
    show notices (.native m.site (.engine c) ::
      (Failure.settle (m.engine c s).1 (m.engine c s).2).events) = []
    rw [notices_cons_native]
    cases hsettled : (m.engine c s).1 with
    | error failure =>
      rw [hsettled] at hanswer
      cases hanswer
    | ok a => rfl

theorem Engine.notices_invoke {e : Engine ε β} {c : EngineCall} {answer : c.Answer}
    (h : (invoke c e).answer = .ok answer) : notices (invoke c e).events = [] := by
  obtain ⟨link, kind, decode, capacity⟩ := e
  cases link with
  | none => rfl
  | some l => exact EngineLink.notices_call h

/-! ## Decoding -/

namespace DecodePolicy

theorem warns_lenient (raw : RawSignal) : lenient.warns raw = !raw.isKnown := rfl

theorem warns_strict (raw : RawSignal) : strict.warns raw = false := rfl

theorem alerts_warnings (policy : DecodePolicy) (raws : List RawSignal) :
    alerts (policy.warnings raws) = (raws.filter policy.warns).map Notice.unknownTag := by
  unfold warnings
  induction raws.filter policy.warns with
  | nil => rfl
  | cons raw rest ih =>
    rw [List.map_cons, List.map_cons, ← ih]
    rfl

/-- Something is refused exactly if the policy is strict and a tag unknown. -/
theorem refused_ne_nil_iff {policy : DecodePolicy} {raws : List RawSignal} :
    policy.refused raws ≠ [] ↔ policy = .strict ∧ ∃ raw ∈ raws, raw.isKnown = false := by
  rw [ne_eq, refused_eq_nil_iff]
  cases policy with
  | lenient => simp [accept_lenient]
  | strict => simp [accept_strict]

end DecodePolicy

namespace Batch

/-- The answer in form of a count is an error exactly if something was refused. -/
theorem count_fails_iff (b : Batch) : (∃ error, b.count = .error error) ↔ b.refused ≠ [] := by
  unfold count
  cases b.refused with
  | nil => simp
  | cons first rest => simp

/-- So is the answer in form of a list. -/
theorem signals_fails_iff (b : Batch) : (∃ error, b.signals = .error error) ↔ b.refused ≠ [] := by
  unfold signals
  cases b.refused with
  | nil => simp
  | cons first rest => simp

end Batch

/-! ## What there is to tell -/

/-- The log line warns of the signal, with everything that the signal says. -/
structure RawSignal.ReportedBy (raw : RawSignal) (notice : Notice) : Prop where
  level : notice.level = .warn
  message : notice.message = "unknown signal action tag, decoding as HOLD"
  fields : notice.fields =
    [("strategy_id", toString raw.strategy), ("tag", toString raw.tag),
      ("timestamp", toString raw.timestamp)]

namespace Batch

/-- The log line warns of a count that is not the length of the queue, with both numbers. -/
structure MismatchReportedBy (queued count : UInt64) (notice : Notice) : Prop where
  level : notice.level = .warn
  message : notice.message =
    if queued < count then "engine reported more signals than requested"
    else "signal queue shrank during drain"
  fields : notice.fields = [("queued", toString queued), ("copied", toString count)]

/-- What has to be told of a drain that polled a queue of length `queued`, was told of `count`
signals and decoded `raws`: its `alerts`, and whether it `fails`. -/
structure Told (policy : DecodePolicy) (queued count : UInt64) (raws : List RawSignal)
    (alerts : List Notice) (fails : Prop) : Prop where
  /-- The warning about the counts comes before those about tags. -/
  warned : ∃ mismatch tags, alerts = mismatch ++ tags ∧
    (count = queued → mismatch = []) ∧
    (count ≠ queued → ∃ notice, mismatch = [notice] ∧ MismatchReportedBy queued count notice) ∧
    (policy = .lenient → List.Forall₂ RawSignal.ReportedBy (raws.filter (!·.isKnown)) tags) ∧
    (policy = .strict → tags = [])
  /-- A strict policy answers by an error instead. -/
  fails_iff : fails ↔ policy = .strict ∧ ∃ raw ∈ raws, raw.isKnown = false

theorem mismatch_of_eq {queued count : UInt64} (h : count = queued) :
    mismatch queued count = [] := by
  subst h
  unfold mismatch
  rw [if_neg (UInt64.lt_irrefl count), if_neg (UInt64.lt_irrefl count)]

theorem mismatch_of_ne {queued count : UInt64} (h : count ≠ queued) :
    ∃ notice, alerts (mismatch queued count) = [notice] ∧
      MismatchReportedBy queued count notice := by
  unfold mismatch
  by_cases more : queued < count
  · rw [if_pos more]
    exact ⟨_, rfl, rfl, (if_pos more).symm, rfl⟩
  · have fewer : count < queued :=
      UInt64.lt_of_le_of_ne (UInt64.not_lt.mp more) h
    rw [if_neg more, if_pos fewer]
    exact ⟨_, rfl, rfl, (if_neg more).symm, rfl⟩

theorem forall₂_reportedBy (raws : List RawSignal) :
    List.Forall₂ RawSignal.ReportedBy raws (raws.map Notice.unknownTag) := by
  induction raws with
  | nil => exact .nil
  | cons raw rest ih => exact .cons ⟨rfl, rfl, rfl⟩ ih

/-- The log lines of a drain that polled tell what there is to tell. -/
theorem report_told (policy : DecodePolicy) (queued : UInt64) (poll : Poll) {fails : Prop}
    (hfails : fails ↔ (decoded policy queued poll).refused ≠ []) :
    Told policy queued poll.count (trusted queued poll) (alerts (report policy queued poll))
      fails := by
  refine ⟨⟨alerts (mismatch queued poll.count),
    ((trusted queued poll).filter policy.warns).map Notice.unknownTag, ?_, ?_, ?_, ?_, ?_⟩, ?_⟩
  · -- the last line, with the number of signals, is no warning
    have hlast : alerts [.log (.drained (min poll.count queued))] = [] := rfl
    unfold report
    rw [alerts_append, alerts_append, DecodePolicy.alerts_warnings, hlast, List.append_nil]
  · intro hsame
    rw [mismatch_of_eq hsame]
    rfl
  · exact mismatch_of_ne
  · rintro rfl
    have hwarns : DecodePolicy.lenient.warns = fun raw => !raw.isKnown :=
      funext DecodePolicy.warns_lenient
    rw [hwarns]
    exact forall₂_reportedBy _
  · rintro rfl
    have hnone : (trusted queued poll).filter DecodePolicy.strict.warns = [] :=
      List.filter_eq_nil_iff.mpr fun raw _ => by simp [DecodePolicy.warns_strict]
    rw [hnone]
    rfl
  · exact hfails.trans DecodePolicy.refused_ne_nil_iff

end Batch

/-! ## Drains -/

namespace Engine

variable {e : Engine ε β} {queued : UInt64} {poll : Poll}

/-- All log lines of a drain that polled come from comparing the counts and from decoding. -/
theorem alerts_of_hands (h : e.Hands queued poll) :
    alerts (drain e).events = alerts (Batch.report e.decode queued poll) := by
  have hasked : notices e.asked.events = [] := notices_invoke h.asked
  have hpolled : notices (e.polled queued).events = [] := notices_invoke h.polled
  rw [drain_of_hands h]
  dsimp only
  rw [alerts_append, alerts_append, alerts_of_notices hasked, alerts_of_notices hpolled]
  rfl

/-- The drained slots that count: the first ones, as many as are queued and reported. -/
theorem trusted_eq_take (queued : UInt64) (poll : Poll) :
    Batch.trusted queued poll =
      (Batch.buffer queued poll.written).take (min poll.count.toNat queued.toNat) := by
  unfold Batch.trusted
  rw [UInt64.toNat_min]

/-- Both ways to drain `e`, into `buffer` and into a list of their own, tell of every anomaly. -/
structure TellsAnomalies (e : Engine ε β) (buffer : List Signal) : Prop where
  /-- Nothing is logged about an empty queue. -/
  empty : e.asked.answer = .ok 0 →
    notices (drainSignalsInto buffer e).events = [] ∧ notices (pollSignals e).events = []
  /-- Otherwise the warnings and the answer tell of the counts and of the first slots, as many as
  the smaller of the two counts. -/
  told : ∀ queued poll, e.Hands queued poll → ∀ raws,
    raws = (Batch.buffer queued poll.written).take (min poll.count.toNat queued.toNat) →
    Batch.Told e.decode queued poll.count raws (alerts (drainSignalsInto buffer e).events)
      (∃ error, (drainSignalsInto buffer e).answer.1 = .error error) ∧
    Batch.Told e.decode queued poll.count raws (alerts (pollSignals e).events)
      (∃ error, (pollSignals e).answer = .error error)

/-- **No anomaly is masked silently.** Whatever the engine answers, whatever the policy and whatever
the buffer holds: a drain warns once, first, if it is told of another count than there are signals
queued; then a lenient one warns of each signal that it takes for a hold, in order and with all that
the signal says, while a strict one answers by an error if there is such a signal. About an empty
queue nothing is logged. -/
theorem drains_tell_anomalies (e : Engine ε β) (buffer : List Signal) :
    e.TellsAnomalies buffer := by
  constructor
  case empty =>
    intro h
    have hdrain := drain_of_asked_zero h
    have hasked : notices e.asked.events = [] := notices_invoke h
    rw [drainSignalsInto_of_ok buffer hdrain, pollSignals_of_drain hdrain]
    exact ⟨hasked, hasked⟩
  case told =>
    intro queued poll h raws hraws
    rw [← trusted_eq_take] at hraws
    subst hraws
    have hdrain := drain_of_hands h
    have halerts := alerts_of_hands h
    rw [hdrain] at halerts
    rw [drainSignalsInto_of_ok buffer hdrain, pollSignals_of_drain hdrain]
    dsimp only at halerts ⊢
    rw [halerts]
    constructor
    · exact Batch.report_told e.decode queued poll (Batch.count_fails_iff _)
    · exact Batch.report_told e.decode queued poll (Batch.signals_fails_iff _)

/-! ### A long count -/

/-- There is a warning that seven signals were reported and four requested, then one about the third
signal of `mixedQueue`, and no failure. -/
structure TellsLongCount (alerts : List Notice) (fails : Prop) : Prop where
  warned : ∃ mismatch unknown, alerts = [mismatch, unknown] ∧
    Batch.MismatchReportedBy 4 7 mismatch ∧ RawSignal.ReportedBy ⟨3, 9, 12⟩ unknown
  answered : ¬ fails

theorem tellsLongCount_of_told {alerts : List Notice} {fails : Prop}
    (h : Batch.Told .lenient 4 7 mixedQueue alerts fails) : TellsLongCount alerts fails := by
  obtain ⟨mismatch, tags, halerts, -, hmismatch, htags, -⟩ := h.warned
  obtain ⟨notice, rfl, hnotice⟩ := hmismatch (by decide)
  have hunknown : mixedQueue.filter (!·.isKnown) = [⟨3, 9, 12⟩] := rfl
  rw [hunknown] at htags
  obtain ⟨unknown, rest, hreported, hrest, rfl⟩ := List.forall₂_cons_left_iff.mp (htags rfl)
  obtain rfl := List.forall₂_nil_left_iff.mp hrest
  refine ⟨⟨notice, unknown, halerts, hnotice, hreported⟩, fun hfails => ?_⟩
  obtain ⟨hstrict, -⟩ := h.fails_iff.mp hfails
  cases hstrict

/-- Where seven signals are reported in place of four, a lenient drain warns of that first, then of
the unknown tag, and succeeds. -/
theorem long_count_is_told :
    (reporting .lenient 7).Hands 4 ⟨mixedQueue, 7⟩ ∧
    TellsLongCount (alerts (drainSignalsInto [] (reporting .lenient 7)).events)
      (∃ error, (drainSignalsInto [] (reporting .lenient 7)).answer.1 = .error error) ∧
    TellsLongCount (alerts (pollSignals (reporting .lenient 7)).events)
      (∃ error, (pollSignals (reporting .lenient 7)).answer = .error error) := by
  have hands := reporting_hands .lenient 7
  obtain ⟨hdrained, hpolled⟩ :=
    (drains_tell_anomalies (reporting .lenient 7) []).told 4 _ hands mixedQueue rfl
  exact ⟨hands, tellsLongCount_of_told hdrained, tellsLongCount_of_told hpolled⟩

end Engine

end MarketBridge
