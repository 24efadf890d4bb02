import MarketBridge.Proofs.Drain.Account
import MarketBridge.Proofs.Journal.Trace

/-!
# `Drain.Policy` — what the policy changes in a drain

A drain first empties the queue, which depends on no policy (`Engine.fetch`), and then decodes what
it found (`Engine.drain_decodes`). So the policy decides about the answers only. From the same raw
signals a lenient caller gets every one, the unknown tags as holds, and a strict caller gets those
of them whose tags are known, together with an error if that was not all
(`RawSignal.PolledApart.of_raws`, `RawSignal.DrainedApart.of_raws`).
-/

namespace MarketBridge

/-! ## Known tags -/

namespace RawSignal

/-- The signal with the action that its tag stands for: a one is a buy, a two a sell, and a three or
any other tag a hold. -/
def orHold (raw : RawSignal) : Signal :=
  ⟨raw.strategy, if raw.tag = 1 then .buy else if raw.tag = 2 then .sell else .hold, raw.timestamp⟩

/-- Those of the `signals` that stand at the places of known tags. -/
def withoutUnknown (raws : List RawSignal) (signals : List Signal) : List Signal :=
  ((raws.zip signals).filter fun place => place.1.isKnown).map (·.2)

theorem withoutUnknown_map (raws : List RawSignal) (f : RawSignal → Signal) :
    withoutUnknown raws (raws.map f) = (raws.filter isKnown).map f := by
  unfold withoutUnknown
  induction raws with
  | nil => rfl
  | cons raw rest ih =>
    cases known : raw.isKnown with
    | true => simp [known, ih]
    | false => simp [known, ih]

end RawSignal

namespace DecodePolicy

open RawSignal

theorem accept_lenient (raw : RawSignal) : lenient.accept raw = some raw.orHold := by
  unfold accept orHold
  by_cases buy : raw.tag = 1
  · simp [buy]
  by_cases sell : raw.tag = 2
  · simp [sell]
  · simp [buy, sell]

theorem accept_strict (raw : RawSignal) :
    strict.accept raw = if raw.isKnown then some raw.orHold else none := by
  unfold accept isKnown orHold
  by_cases buy : raw.tag = 1
  · simp [buy]
  by_cases sell : raw.tag = 2
  · simp [sell]
  by_cases hold : raw.tag = 3
  · simp [hold]
  · simp [buy, sell, hold]

theorem isNone_accept_strict (raw : RawSignal) : (strict.accept raw).isNone = !raw.isKnown := by
  rw [accept_strict]
  cases raw.isKnown with
  | true => rfl
  | false => rfl

variable (raws : List RawSignal)

theorem filterMap_accept_lenient : raws.filterMap lenient.accept = raws.map orHold := by
  have haccept : lenient.accept = fun raw => some raw.orHold := funext accept_lenient
  rw [haccept, List.filterMap_eq_map']

/-- The strict policy accepts what the lenient one does at the places of known tags. -/
theorem filterMap_accept_strict :
    raws.filterMap strict.accept = withoutUnknown raws (raws.map orHold) := by
  rw [withoutUnknown_map]
  induction raws with
  | nil => rfl
  | cons raw rest ih =>
    have haccept := accept_strict raw
    cases known : raw.isKnown with
    | true =>
      rw [known, if_pos rfl] at haccept
      rw [List.filterMap_cons_some haccept, List.filter_cons_of_pos known, List.map_cons, ih]
    | false =>
      rw [known, if_neg Bool.false_ne_true] at haccept
      have hneg : ¬ raw.isKnown = true := by simp [known]
      rw [List.filterMap_cons_none haccept, List.filter_cons_of_neg hneg, ih]

/-! ### What is made of fetched signals -/

variable (policy : DecodePolicy) (fetched : Except Error (List RawSignal))

/-- The answer to a poll that fetched these signals. -/
def polled : Except Error (List Signal) :=
  fetched.bind fun raws => (Batch.ofRaws policy raws).signals

/-- The answer to a drain into a buffer that fetched these signals. -/
def counted : Except Error UInt64 :=
  fetched.bind fun raws => (Batch.ofRaws policy raws).count

/-- What such a drain appends to the buffer. -/
def appended : List Signal :=
  match fetched with
  | .error _ => []
  | .ok raws => raws.filterMap policy.accept

/-- What a strict drain appends, a lenient one appends in the same order. -/
theorem appended_strict_sublist : (strict.appended fetched).Sublist (lenient.appended fetched) := by
  cases fetched with
  | error error => exact .slnil
  | ok raws =>
    show (raws.filterMap strict.accept).Sublist (raws.filterMap lenient.accept)
    rw [filterMap_accept_strict, withoutUnknown_map, filterMap_accept_lenient]
    exact List.filter_sublist.map orHold

end DecodePolicy

/-! ## The answers to strict and to lenient callers -/

namespace RawSignal

variable {raws : List RawSignal}

/-- The answers that a strict and a lenient poll make of the same raw signals. -/
structure PolledApart (raws : List RawSignal) (answer answer' : Except Error (List Signal)) :
    Prop where
  /-- The lenient caller gets all signals. -/
  lenient : answer' = .ok (raws.map orHold)
  /-- So does the strict one if all tags are known. -/
  known : (∀ raw ∈ raws, raw.isKnown = true) → answer = .ok (raws.map orHold)
  /-- Otherwise the error has those with known tags, the number of the others, which is not zero,
  and the first unknown tag. -/
  unknown : ∀ first, raws.find? (fun raw => !raw.isKnown) = some first →
    answer = .error (.undecodedSignals (withoutUnknown raws (raws.map orHold))
      (raws.length - (withoutUnknown raws (raws.map orHold)).length) first.tag) ∧
    (withoutUnknown raws (raws.map orHold)).length < raws.length

/-- The answers that a strict and a lenient drain make of the same raw signals, with what the two
append to the buffers of their callers. -/
structure DrainedApart (raws : List RawSignal) (answer answer' : Except Error UInt64)
    (appended appended' : List Signal) : Prop where
  /-- The lenient caller gets all signals, and their number. -/
  lenient : appended' = raws.map orHold ∧ ∃ count, answer' = .ok count ∧ count.toNat = raws.length
  /-- The strict one gets those with known tags. -/
  strict : appended = withoutUnknown raws (raws.map orHold)
  /-- The answer is the number if they are all, -/
  known : (∀ raw ∈ raws, raw.isKnown = true) → answer = answer' ∧ appended = appended'
  /-- and otherwise the first unknown tag. -/
  unknown : ∀ first, raws.find? (fun raw => !raw.isKnown) = some first →
    answer = .error (.decoding "signal action" first.tag.toUInt64)

theorem accepted_of_known (h : ∀ raw ∈ raws, raw.isKnown = true) :
    ∀ raw ∈ raws, (DecodePolicy.strict.accept raw).isSome = true := by
  intro raw hmem
  rw [DecodePolicy.accept_strict, if_pos (h raw hmem)]
  rfl

/-- If all tags are known, nothing is left out. -/
theorem withoutUnknown_of_known (h : ∀ raw ∈ raws, raw.isKnown = true) :
    withoutUnknown raws (raws.map orHold) = raws.map orHold := by
  rw [withoutUnknown_map, List.filter_eq_self.mpr h]

/-- An unknown tag leaves something out. -/
theorem length_withoutUnknown_lt {first : RawSignal}
    (h : raws.find? (fun raw => !raw.isKnown) = some first) :
    (withoutUnknown raws (raws.map orHold)).length < raws.length := by
  have hunknown : first.isKnown = false := by simpa using List.find?_some h
  rw [withoutUnknown_map, List.length_map]
  refine Nat.lt_of_le_of_ne (List.length_filter_le _ _) fun hall => ?_
  have hknown := List.length_filter_eq_length_iff.mp hall first (List.mem_of_find?_eq_some h)
  rw [hunknown] at hknown
  cases hknown

theorem accepted_lenient (raw : RawSignal) :
    (DecodePolicy.lenient.accept raw).isSome = true := by
  rw [DecodePolicy.accept_lenient]
  rfl

variable (hcount : raws.length < UInt64.size)
include hcount

theorem PolledApart.of_raws :
    PolledApart raws (DecodePolicy.strict.polled (.ok raws))
      (DecodePolicy.lenient.polled (.ok raws)) := by
  have strict := Batch.ofRaws_reports .strict hcount
  have lenient := Batch.ofRaws_reports .lenient hcount
  refine ⟨?_, fun hknown => ?_, fun first hfirst => ?_⟩
  · have hsignals := lenient.signals_eq fun raw _ => raw.accepted_lenient
    rwa [DecodePolicy.filterMap_accept_lenient] at hsignals
  · have hsignals := strict.signals_eq (accepted_of_known hknown)
    rwa [DecodePolicy.filterMap_accept_strict, withoutUnknown_of_known hknown] at hsignals
  · have hrefused :
        raws.find? (fun raw => (DecodePolicy.strict.accept raw).isNone) = some first := by
      simpa only [DecodePolicy.isNone_accept_strict] using hfirst
    obtain ⟨-, hsignals⟩ := strict.refused first hrefused
    rw [DecodePolicy.filterMap_accept_strict] at hsignals
    exact ⟨hsignals, length_withoutUnknown_lt hfirst⟩

theorem DrainedApart.of_raws :
    DrainedApart raws (DecodePolicy.strict.counted (.ok raws))
      (DecodePolicy.lenient.counted (.ok raws)) (DecodePolicy.strict.appended (.ok raws))
      (DecodePolicy.lenient.appended (.ok raws)) := by
  have strict := Batch.ofRaws_reports .strict hcount
  have lenient := Batch.ofRaws_reports .lenient hcount
  obtain ⟨count, hlenient⟩ := lenient.count_iff.mpr fun raw _ => raw.accepted_lenient
  have hall := lenient.count_eq count hlenient
  have happended : DecodePolicy.strict.appended (.ok raws) =
      withoutUnknown raws (raws.map orHold) := DecodePolicy.filterMap_accept_strict raws
  have happended' : DecodePolicy.lenient.appended (.ok raws) = raws.map orHold :=
    DecodePolicy.filterMap_accept_lenient raws
  refine ⟨⟨happended', count, hlenient, hall⟩, happended, fun hknown => ?_, fun first hfirst => ?_⟩
  · obtain ⟨count', hstrict⟩ := strict.count_iff.mpr (accepted_of_known hknown)
    have hsame : count' = count :=
      UInt64.toNat_inj.mp ((strict.count_eq count' hstrict).trans hall.symm)
    rw [hsame] at hstrict
    refine ⟨hstrict.trans hlenient.symm, ?_⟩
    rw [happended, happended', withoutUnknown_of_known hknown]
  · have hrefused :
        raws.find? (fun raw => (DecodePolicy.strict.accept raw).isNone) = some first := by
      simpa only [DecodePolicy.isNone_accept_strict] using hfirst
    exact (strict.refused first hrefused).1

end RawSignal

/-! ## Emptying the queue -/

namespace Engine

variable {ε β : Type}

/-- Empties the queue and hands over the raw signals that are trusted. -/
def fetch : Op (Engine ε β) (Except Error (List RawSignal)) := do
  match ← invoke .signalsLen with
  | .error e => return .error e
  | .ok queued =>
    if queued = 0 then return .ok []
    else
      let answer ← invoke (.pollSignals queued)
      return answer.map (Batch.trusted queued)

/-- A drain is a fetch whose signals are decoded, log lines aside. -/
structure Decodes (o : Outcome (Engine ε β) (Except Error Batch))
    (fetched : Outcome (Engine ε β) (Except Error (List RawSignal))) (policy : DecodePolicy) :
    Prop where
  answer : o.answer = fetched.answer.map (Batch.ofRaws policy)
  state : o.state = fetched.state
  trace : trace o.events = MarketBridge.trace fetched.events

theorem trace_report (policy : DecodePolicy) (queued : UInt64) (poll : Poll) :
    trace (Batch.report policy queued poll) = [] := by
  have hmismatch : trace (Batch.mismatch queued poll.count) = [] := by
    unfold Batch.mismatch
    by_cases more : queued < poll.count
    · simp [more]
    · by_cases fewer : poll.count < queued <;> simp [more, fewer]
  unfold Batch.report DecodePolicy.warnings
  simp [hmismatch]

/-- A drain fetches and decodes. -/
theorem drain_decodes (e : Engine ε β) : Decodes (drain e) (fetch e) e.decode := by
  unfold fetch
  rw [Op.bind_apply]
  cases hlen : e.asked.answer with
  | error error =>
    rw [drain_of_asked_error hlen, invoke_of_asked hlen]
    exact ⟨rfl, rfl, by simp⟩
  | ok queued =>
    rw [invoke_of_asked hlen]
    dsimp only
    by_cases bare : queued = 0
    · subst bare
      rw [drain_of_asked_zero hlen, if_pos rfl]
      exact ⟨rfl, rfl, by simp⟩
    · rw [if_neg bare, Op.bind_apply]
      cases hpoll : (e.polled queued).answer with
      | error error =>
        rw [drain_of_polled_error hlen bare hpoll, invoke_of_polled hpoll]
        exact ⟨rfl, rfl, by simp⟩
      | ok poll =>
        rw [drain_of_hands ⟨hlen, bare, hpoll⟩, invoke_of_polled hpoll, Batch.decoded_eq_ofRaws]
        refine ⟨rfl, rfl, ?_⟩
        simp [trace_report]

/-- A poll fetches, and the policy decides about its answer only. -/
theorem pollSignals_fetches (e : Engine ε β) :
    (pollSignals e).answer = e.decode.polled (fetch e).answer ∧
      (pollSignals e).state = (fetch e).state ∧
      trace (pollSignals e).events = trace (fetch e).events := by
  obtain ⟨answer, state, htrace⟩ := drain_decodes e
  have hpoll : pollSignals e = ⟨(drain e).answer.bind Batch.signals, (drain e).state,
      (drain e).events⟩ := pollSignals_of_drain rfl
  rw [hpoll]
  refine ⟨?_, state, htrace⟩
  dsimp only
  rw [answer]
  cases (fetch e).answer with
  | error error => rfl
  | ok raws => rfl

/-- A drain into a buffer fetches, and the policy decides about its answer and about what is
appended. -/
theorem drainSignalsInto_fetches (e : Engine ε β) (buffer : List Signal) :
    (drainSignalsInto buffer e).answer =
        (e.decode.counted (fetch e).answer, buffer ++ e.decode.appended (fetch e).answer) ∧
      (drainSignalsInto buffer e).state = (fetch e).state ∧
      trace (drainSignalsInto buffer e).events = trace (fetch e).events := by
  obtain ⟨answer, state, htrace⟩ := drain_decodes e
  have hdrain : drain e = ⟨(drain e).answer, (drain e).state, (drain e).events⟩ := rfl
  cases hfetch : (fetch e).answer with
  | error error =>
    rw [answer, hfetch] at hdrain
    rw [drainSignalsInto_of_error buffer hdrain]
    refine ⟨?_, state, htrace⟩
    exact congrArg (Prod.mk _) (List.append_nil buffer).symm
  | ok raws =>
    rw [answer, hfetch] at hdrain
    rw [drainSignalsInto_of_ok buffer hdrain]
    exact ⟨rfl, state, htrace⟩

/-- No more signals are fetched than a word can count. -/
theorem length_fetched_lt {e : Engine ε β} {raws : List RawSignal}
    (h : (fetch e).answer = .ok raws) : raws.length < UInt64.size := by
  unfold fetch at h
  rw [Op.bind_apply] at h
  cases hlen : e.asked.answer with
  | error error =>
    rw [invoke_of_asked hlen] at h
    cases h
  | ok queued =>
    rw [invoke_of_asked hlen] at h
    dsimp only at h
    by_cases bare : queued = 0
    · rw [if_pos bare] at h
      cases h
      exact Nat.zero_lt_succ _
    · rw [if_neg bare, Op.bind_apply] at h
      cases hpoll : (e.polled queued).answer with
      | error error =>
        rw [invoke_of_polled hpoll] at h
        cases h
      | ok poll =>
        rw [invoke_of_polled hpoll] at h
        cases h
        exact Batch.length_trusted_lt queued poll

end Engine

end MarketBridge
