import Mathlib.Data.List.Basic
import MarketBridge.Engine
import MarketBridge.Proofs.Drain
import MarketBridge.Script

/-!
# `Drain.Account` — a drain accounts for every slot, whatever the engine answers

The engine says how many signals are queued and is then polled into that many slots; the slots that
count are the first ones, as many as it says it has filled and there are. Of these each is accepted
or refused (`DecodePolicy.length_accept_add_refused`), and both ways to drain report the same two
parts (`Batch.decoded_reports`): all accepted signals are handed over, and the first refused tag is
the error. `Engine.drains_account_for_every_slot` says so for an engine of any kind, together with
what comes of an empty queue and of errors.
-/

namespace MarketBridge

/-! ## Accepted and refused signals -/

namespace DecodePolicy

variable (policy : DecodePolicy) (raws : List RawSignal)

/-- Every signal is accepted or refused. -/
theorem length_accept_add_refused :
    (raws.filterMap policy.accept).length + (policy.refused raws).length = raws.length := by
  induction raws with
  | nil => rfl
  | cons raw rest ih =>
    cases accepted : policy.accept raw with
    | some signal =>
      rw [List.filterMap_cons_some accepted, refused_cons_of_some accepted, List.length_cons,
        List.length_cons]
      omega
    | none =>
      rw [List.filterMap_cons_none accepted, refused_cons_of_none accepted, List.length_cons,
        List.length_cons]
      omega

theorem length_refused :
    (policy.refused raws).length = raws.length - (raws.filterMap policy.accept).length := by
  have htotal := policy.length_accept_add_refused raws
  omega

variable {policy raws}

theorem refused_eq_nil_iff :
    policy.refused raws = [] ↔ ∀ raw ∈ raws, (policy.accept raw).isSome = true := by
  unfold refused
  rw [List.map_eq_nil_iff, List.filter_eq_nil_iff]
  simp [Option.isSome_iff_ne_none]

/-- The first refused tag is that of the first signal that is not accepted. -/
theorem refused_of_find? {raw : RawSignal}
    (h : raws.find? (fun raw => (policy.accept raw).isNone) = some raw) :
    ∃ rest, policy.refused raws = raw.tag :: rest := by
  have hhead : (policy.refused raws).head? = some raw.tag := by
    unfold refused
    rw [List.head?_map, List.head?_filter, h]
    rfl
  exact List.head?_eq_some_iff.mp hhead

end DecodePolicy

/-! ## Slots -/

namespace Batch

theorem length_buffer (slots : UInt64) (written : List RawSignal) :
    (buffer slots written).length = slots.toNat := by
  unfold buffer
  rw [List.length_take, List.length_append, List.length_replicate]
  omega

/-- What an engine writes to all the slots is what they hold. -/
theorem buffer_of_filled {slots : UInt64} {written : List RawSignal}
    (h : written.length = slots.toNat) : buffer slots written = written :=
  List.take_left' h

/-- As many slots are trusted as there are signals copied. -/
theorem length_trusted (queued : UInt64) (poll : Poll) :
    (trusted queued poll).length = (min poll.count queued).toNat := by
  unfold trusted
  rw [List.length_take, length_buffer, UInt64.toNat_min]
  omega

/-- What a drain trusts depends on no slot beyond the signals copied. -/
theorem trusted_congr {queued : UInt64} {poll poll' : Poll} (hcount : poll'.count = poll.count)
    (hslots : ∀ i < (min poll.count queued).toNat,
      (buffer queued poll'.written)[i]? = (buffer queued poll.written)[i]?) :
    trusted queued poll' = trusted queued poll := by
  unfold trusted
  rw [hcount]
  refine List.ext_getElem? fun i => ?_
  by_cases hi : i < (min poll.count queued).toNat
  · rw [List.getElem?_take_of_lt hi, List.getElem?_take_of_lt hi, hslots i hi]
  · have hbeyond := Nat.not_lt.mp hi
    rw [List.getElem?_take_eq_none hbeyond, List.getElem?_take_eq_none hbeyond]

/-! ## Reports -/

/-- The answers of both ways to drain, `count` into a buffer and `signals` into a list of their own,
report the fate of the raw signals. -/
structure Reports (policy : DecodePolicy) (raws : List RawSignal) (count : Except Error UInt64)
    (signals : Except Error (List Signal)) : Prop where
  /-- The count is the answer exactly if every signal was accepted. -/
  count_iff : (∃ copied, count = .ok copied) ↔ ∀ raw ∈ raws, (policy.accept raw).isSome = true
  /-- It counts all of them. -/
  count_eq : ∀ copied, count = .ok copied → copied.toNat = raws.length
  /-- Then the list is the answer too. -/
  signals_eq : (∀ raw ∈ raws, (policy.accept raw).isSome = true) →
    signals = .ok (raws.filterMap policy.accept)
  /-- Otherwise both errors name the first refused tag, and the second one carries what was
  accepted and the number of the others. -/
  refused : ∀ raw, raws.find? (fun raw => (policy.accept raw).isNone) = some raw →
    count = .error (.decoding "signal action" raw.tag.toUInt64) ∧
    signals = .error (.undecodedSignals (raws.filterMap policy.accept)
      (raws.length - (raws.filterMap policy.accept).length) raw.tag)

/-- What becomes of raw signals that are all decoded. -/
def ofRaws (policy : DecodePolicy) (raws : List RawSignal) : Batch :=
  ⟨raws.filterMap policy.accept, policy.refused raws, UInt64.ofNat raws.length⟩

/-- A drain decodes all the slots that it trusts. -/
theorem decoded_eq_ofRaws (policy : DecodePolicy) (queued : UInt64) (poll : Poll) :
    decoded policy queued poll = ofRaws policy (trusted queued poll) := by
  unfold decoded ofRaws
  rw [length_trusted, UInt64.ofNat_toNat]

/-- No more slots are trusted than a word can count. -/
theorem length_trusted_lt (queued : UInt64) (poll : Poll) :
    (trusted queued poll).length < UInt64.size := by
  rw [length_trusted]
  exact UInt64.toNat_lt_size _

/-- What becomes of raw signals is reported in both ways. -/
theorem ofRaws_reports (policy : DecodePolicy) {raws : List RawSignal}
    (hcount : raws.length < UInt64.size) :
    Reports policy raws (ofRaws policy raws).count (ofRaws policy raws).signals := by
  unfold count signals ofRaws
  dsimp only
  refine ⟨⟨fun h => ?_, fun h => ?_⟩, fun copied h => ?_, fun h => ?_, fun raw hraw => ?_⟩
  · refine DecodePolicy.refused_eq_nil_iff.mp ?_
    cases hrefused : policy.refused raws with
    | nil => rfl
    | cons first rest =>
      rw [hrefused] at h
      obtain ⟨_, h⟩ := h
      cases h
  · rw [DecodePolicy.refused_eq_nil_iff.mpr h]
    exact ⟨_, rfl⟩
  · cases hrefused : policy.refused raws with
    | nil =>
      rw [hrefused] at h
      cases h
      exact UInt64.toNat_ofNat_of_lt' hcount
    | cons first rest =>
      rw [hrefused] at h
      cases h
  · rw [DecodePolicy.refused_eq_nil_iff.mpr h]
  · obtain ⟨rest, hrefused⟩ := DecodePolicy.refused_of_find? hraw
    have hrejected := policy.length_refused raws
    rw [← hrejected, hrefused]
    exact ⟨rfl, rfl⟩

/-- What a drain makes of the answer to its poll is reported in both ways. -/
theorem decoded_reports (policy : DecodePolicy) (queued : UInt64) (poll : Poll) :
    Reports policy (trusted queued poll) (decoded policy queued poll).count
      (decoded policy queued poll).signals := by
  rw [decoded_eq_ofRaws]
  exact ofRaws_reports policy (length_trusted_lt queued poll)

/-! ## Errors of the engine -/

section Drain

variable {σ : Type} {call : (c : EngineCall) → Op σ (Except Error c.Answer)} {s s' s'' : σ}
  {first second : List Event} {error : Error}

/-- An engine that does not tell the length of its queue is not polled. -/
theorem drain_of_length_error (policy : DecodePolicy)
    (hlen : call .signalsLen s = ⟨.error error, s', first⟩) :
    drain call policy s = ⟨.error error, s', first⟩ := by
  unfold drain
  rw [Op.bind_apply, hlen]
  exact congrArg (Outcome.mk _ s') (List.append_nil first)

/-- The error of a poll is passed on. -/
theorem drain_of_poll_error (policy : DecodePolicy) {queued : UInt64}
    (hlen : call .signalsLen s = ⟨.ok queued, s', first⟩) (hsome : queued ≠ 0)
    (hpoll : call (.pollSignals queued) s' = ⟨.error error, s'', second⟩) :
    drain call policy s = ⟨.error error, s'', first ++ second⟩ := by
  unfold drain
  rw [Op.bind_apply, hlen]
  dsimp only
  rw [if_neg hsome, Op.bind_apply, hpoll]
  exact congrArg (fun events => Outcome.mk _ s'' (first ++ events)) (List.append_nil second)

end Drain

end Batch

/-! ## Wrappers -/

namespace Engine

variable {ε β : Type} {e e' : Engine ε β} {events : List Event}

/-- A drain into a list hands over what the drain comes to. -/
theorem pollSignals_of_drain {answer : Except Error Batch} (h : drain e = ⟨answer, e', events⟩) :
    pollSignals e = ⟨answer.bind Batch.signals, e', events⟩ := by
  unfold pollSignals
  rw [Op.bind_pure_comp_op, Op.map_apply, h]

/-- A drain that fails leaves the buffer as it is. -/
theorem drainSignalsInto_of_error {error : Error} (buffer : List Signal)
    (h : drain e = ⟨.error error, e', events⟩) :
    drainSignalsInto buffer e = ⟨(.error error, buffer), e', events⟩ := by
  unfold drainSignalsInto
  rw [Op.bind_apply, h]
  exact congrArg (Outcome.mk _ e') (List.append_nil events)

/-- Any other drain appends the accepted signals. -/
theorem drainSignalsInto_of_ok {batch : Batch} (buffer : List Signal)
    (h : drain e = ⟨.ok batch, e', events⟩) :
    drainSignalsInto buffer e = ⟨(batch.count, buffer ++ batch.accepted), e', events⟩ := by
  unfold drainSignalsInto
  rw [Op.bind_apply, h]
  exact congrArg (Outcome.mk _ e') (List.append_nil events)

/-! ## What the engine answers -/

/-- The engine as it is asked for the length of its queue. -/
def asked (e : Engine ε β) : Outcome (Engine ε β) (Except Error UInt64) :=
  invoke .signalsLen e

/-- The engine as it is polled after that, into `queued` slots. -/
def polled (e : Engine ε β) (queued : UInt64) : Outcome (Engine ε β) (Except Error Poll) :=
  invoke (.pollSignals queued) e.asked.state

/-- The engine tells of queued signals and is polled for them. -/
structure Hands (e : Engine ε β) (queued : UInt64) (poll : Poll) : Prop where
  asked : e.asked.answer = .ok queued
  some : queued ≠ 0
  polled : (e.polled queued).answer = .ok poll

section Answers

variable {queued : UInt64} {poll : Poll} {error : Error}

theorem invoke_of_asked {answer : Except Error UInt64} (h : e.asked.answer = answer) :
    invoke .signalsLen e = ⟨answer, e.asked.state, e.asked.events⟩ :=
  congrArg (Outcome.mk · e.asked.state e.asked.events) h

theorem invoke_of_polled {answer : Except Error Poll} (h : (e.polled queued).answer = answer) :
    invoke (.pollSignals queued) e.asked.state =
      ⟨answer, (e.polled queued).state, (e.polled queued).events⟩ :=
  congrArg (Outcome.mk · (e.polled queued).state (e.polled queued).events) h

theorem drain_of_asked_error (h : e.asked.answer = .error error) :
    drain e = ⟨.error error, e.asked.state, e.asked.events⟩ :=
  Batch.drain_of_length_error e.decode (invoke_of_asked h)

theorem drain_of_asked_zero (h : e.asked.answer = .ok 0) :
    drain e = ⟨.ok .empty, e.asked.state, e.asked.events⟩ :=
  Batch.drain_of_empty e.decode (invoke_of_asked h)

theorem drain_of_polled_error (h : e.asked.answer = .ok queued) (hsome : queued ≠ 0)
    (hfailed : (e.polled queued).answer = .error error) :
    drain e = ⟨.error error, (e.polled queued).state,
      e.asked.events ++ (e.polled queued).events⟩ :=
  Batch.drain_of_poll_error e.decode (invoke_of_asked h) hsome (invoke_of_polled hfailed)

theorem drain_of_hands (h : e.Hands queued poll) :
    drain e = ⟨.ok (Batch.decoded e.decode queued poll), (e.polled queued).state,
      e.asked.events ++ ((e.polled queued).events ++ Batch.report e.decode queued poll)⟩ :=
  Batch.drain_of_poll e.decode (invoke_of_asked h.asked) h.some (invoke_of_polled h.polled)

end Answers

/-! ## The account -/

/-- Both ways to drain `e`, into `buffer` and into a list of their own, account for every slot. -/
structure AccountsForSlots (e : Engine ε β) (buffer : List Signal) : Prop where
  /-- An error in place of the length is passed on, without a poll. -/
  lengthFails : ∀ error, e.asked.answer = .error error →
    drainSignalsInto buffer e = ⟨(.error error, buffer), e.asked.state, e.asked.events⟩ ∧
    pollSignals e = ⟨.error error, e.asked.state, e.asked.events⟩
  /-- An empty queue is not polled. -/
  empty : e.asked.answer = .ok 0 →
    drainSignalsInto buffer e = ⟨(.ok 0, buffer), e.asked.state, e.asked.events⟩ ∧
    pollSignals e = ⟨.ok [], e.asked.state, e.asked.events⟩
  /-- An error of the poll is passed on. -/
  pollFails : ∀ queued error, e.asked.answer = .ok queued → queued ≠ 0 →
    (e.polled queued).answer = .error error →
    drainSignalsInto buffer e = ⟨(.error error, buffer), (e.polled queued).state,
      e.asked.events ++ (e.polled queued).events⟩ ∧
    pollSignals e = ⟨.error error, (e.polled queued).state,
      e.asked.events ++ (e.polled queued).events⟩
  /-- Otherwise what is accepted of the trusted slots is handed over, and the answers report the
  fate of all of them. -/
  drains : ∀ queued poll, e.Hands queued poll → ∃ count signals,
    Batch.Reports e.decode (Batch.trusted queued poll) count signals ∧
    drainSignalsInto buffer e =
      ⟨(count, buffer ++ (Batch.trusted queued poll).filterMap e.decode.accept),
        (e.polled queued).state,
        e.asked.events ++ ((e.polled queued).events ++ Batch.report e.decode queued poll)⟩ ∧
    pollSignals e = ⟨signals, (e.polled queued).state,
      e.asked.events ++ ((e.polled queued).events ++ Batch.report e.decode queued poll)⟩
  /-- The trusted slots are the first ones, as many as the smaller of the two counts. -/
  trusted : ∀ queued poll,
    (Batch.trusted queued poll).length = min poll.count.toNat queued.toNat ∧
    ∀ i < min poll.count.toNat queued.toNat,
      (Batch.trusted queued poll)[i]? = (Batch.buffer queued poll.written)[i]?
  /-- An engine that writes to all the slots is trusted with just what it wrote. -/
  contents : ∀ queued (slots : List RawSignal), slots.length = queued.toNat →
    Batch.buffer queued slots = slots
  /-- An engine that differs in other slots only is drained alike. -/
  beyond : ∀ {ε' β' : Type} (e' : Engine ε' β') (queued : UInt64) (poll poll' : Poll),
    e'.decode = e.decode → e.Hands queued poll → e'.Hands queued poll' →
    poll'.count = poll.count →
    (∀ i < min poll.count.toNat queued.toNat,
      (Batch.buffer queued poll'.written)[i]? = (Batch.buffer queued poll.written)[i]?) →
    (drainSignalsInto buffer e').answer = (drainSignalsInto buffer e).answer ∧
    (pollSignals e').answer = (pollSignals e).answer

/-- **A drain accounts for every slot.** Whatever the engine answers, whatever the policy and
whatever the buffer holds: signals are handed over in order from the first slots, as many as are
queued and reported, each of these slots is accepted or counted as refused, and nothing depends on
the other slots; an empty queue is not polled, and an error of the engine is passed on with the
buffer as it was. -/
theorem drains_account_for_every_slot (e : Engine ε β) (buffer : List Signal) :
    e.AccountsForSlots buffer := by
  constructor
  case lengthFails =>
    intro error h
    have hdrain := drain_of_asked_error h
    exact ⟨drainSignalsInto_of_error buffer hdrain, pollSignals_of_drain hdrain⟩
  case empty =>
    intro h
    have hdrain := drain_of_asked_zero h
    refine ⟨?_, pollSignals_of_drain hdrain⟩
    rw [drainSignalsInto_of_ok buffer hdrain]
    exact congrArg (fun after => Outcome.mk (_, after) _ _) (List.append_nil buffer)
  case pollFails =>
    intro queued error h hsome hfailed
    have hdrain := drain_of_polled_error h hsome hfailed
    exact ⟨drainSignalsInto_of_error buffer hdrain, pollSignals_of_drain hdrain⟩
  case drains =>
    intro queued poll h
    have hdrain := drain_of_hands h
    exact ⟨_, _, Batch.decoded_reports e.decode queued poll, drainSignalsInto_of_ok buffer hdrain,
      pollSignals_of_drain hdrain⟩
  case trusted =>
    intro queued poll
    rw [← UInt64.toNat_min]
    refine ⟨Batch.length_trusted queued poll, fun i hi => ?_⟩
    exact List.getElem?_take_of_lt hi
  case contents =>
    intro queued slots h
    exact Batch.buffer_of_filled h
  case beyond =>
    intro ε' β' e' queued poll poll' hdecode h h' hcount hslots
    rw [← UInt64.toNat_min] at hslots
    have hbatch : Batch.decoded e'.decode queued poll' = Batch.decoded e.decode queued poll := by
      unfold Batch.decoded
      rw [hdecode, hcount, Batch.trusted_congr hcount hslots]
    have hdrain := drain_of_hands h
    have hdrain' := drain_of_hands h'
    rw [hbatch] at hdrain'
    rw [drainSignalsInto_of_ok buffer hdrain, drainSignalsInto_of_ok buffer hdrain',
      pollSignals_of_drain hdrain, pollSignals_of_drain hdrain']
    exact ⟨rfl, rfl⟩

/-! ### A short count -/

/-- Four signals, the third of which has an unknown tag. -/
def mixedQueue : List RawSignal :=
  [⟨1, 1, 10⟩, ⟨2, 2, 11⟩, ⟨3, 9, 12⟩, ⟨4, 3, 13⟩]

/-- A wrapper around an engine that holds these signals, hands over all four and reports `count`. -/
def reporting (policy : DecodePolicy) (count : UInt64) : Engine Script Script :=
  let script : Script := { Script.plain with queue := mixedQueue, polls := [⟨4, count⟩] }
  ⟨some (.inProcess script.engineModule script), .inProcess, policy, 4⟩

theorem reporting_hands (policy : DecodePolicy) (count : UInt64) :
    (reporting policy count).Hands 4 ⟨mixedQueue, count⟩ :=
  ⟨rfl, by decide, rfl⟩

/-- Where three of the four signals are reported, a strict drain hands over two, refuses the third
and leaves out the fourth. -/
theorem short_count_is_accounted_for :
    (reporting .strict 3).Hands 4 ⟨mixedQueue, 3⟩ ∧
    (drainSignalsInto [⟨7, .hold, 5⟩] (reporting .strict 3)).answer =
      (.error (.decoding "signal action" 9),
        [⟨7, .hold, 5⟩, ⟨1, .buy, 10⟩, ⟨2, .sell, 11⟩]) ∧
    (pollSignals (reporting .strict 3)).answer =
      .error (.undecodedSignals [⟨1, .buy, 10⟩, ⟨2, .sell, 11⟩] 1 9) := by
  have hands := reporting_hands .strict 3
  have accounts := drains_account_for_every_slot (reporting .strict 3) [⟨7, .hold, 5⟩]
  obtain ⟨count, signals, hreports, hdrain, hpoll⟩ := accounts.drains 4 _ hands
  obtain ⟨hcount, hsignals⟩ := hreports.refused ⟨3, 9, 12⟩ rfl
  rw [hdrain, hpoll, hcount, hsignals]
  exact ⟨hands, rfl, rfl⟩

end Engine

end MarketBridge
