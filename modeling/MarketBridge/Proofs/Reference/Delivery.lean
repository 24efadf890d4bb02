import MarketBridge.Proofs.Drain
import MarketBridge.Proofs.Reference.Emission

/-!
# `Reference.Delivery` — every signal is delivered once and in order

A caller pushes and updates bars, registers strategies and drains the queue, either into a list of
its own or onto the end of its buffer. `Reception` follows such a session: what the drains took out
of the queue, and what they handed to the caller. The two are matched with what the engine emitted:
taken and still queued signals together are the emitted ones, and what was handed over is what the
policy accepts of the taken ones (`signals_are_delivered_once`).
-/

namespace MarketBridge.Reference

/-! ## One drain -/

/-- How many signals a drain takes. A queue length is a word, so this is all of them. -/
def Engine.drainable (s : Engine) : Nat :=
  s.queue.length % UInt64.size

/-- The engine without the signals that a drain takes. -/
def Engine.drained (s : Engine) : Engine :=
  { s with queue := s.queue.drop s.drainable }

/-- The answer to a poll for the whole queue. -/
def Engine.fullPoll (s : Engine) : Poll :=
  ⟨s.queue.take s.drainable, UInt64.ofNat s.queue.length⟩

namespace Engine

theorem length_take_drainable (s : Engine) : (s.queue.take s.drainable).length = s.drainable := by
  rw [List.length_take]
  exact Nat.min_eq_left (Nat.mod_le _ _)

/-- Polling for as many signals as are queued. -/
theorem poll_full (s : Engine) :
    s.poll (UInt64.ofNat s.queue.length) = (s.fullPoll, s.drained) := by
  have hslots : (UInt64.ofNat s.queue.length).toNat = s.drainable := UInt64.toNat_ofNat'
  have hcount : UInt64.ofNat s.drainable = UInt64.ofNat s.queue.length := by
    rw [← hslots, UInt64.ofNat_toNat]
  unfold poll
  dsimp only
  rw [hslots, length_take_drainable, hcount]
  rfl

/-- A queue whose length is the word zero has nothing to drain. -/
theorem drained_of_zero {s : Engine} (h : UInt64.ofNat s.queue.length = 0) : s.drained = s := by
  have hnone : s.drainable = 0 := UInt64.toNat_ofNat'.symm.trans (congrArg UInt64.toNat h)
  unfold drained
  rw [hnone, List.drop_zero]

theorem drainable_drained (s : Engine) : s.drained.drainable = 0 := by
  unfold drained drainable
  rw [List.length_drop]
  exact Nat.mod_eq_zero_of_dvd (Nat.dvd_sub_mod _)

theorem ofNat_length_drained (s : Engine) : UInt64.ofNat s.drained.queue.length = 0 :=
  UInt64.toNat_inj.mp (UInt64.toNat_ofNat'.trans s.drainable_drained)

end Engine

/-- What a drain takes out of the queue, as the policy decodes it. -/
def Engine.batch (s : Engine) (decode : DecodePolicy) : Batch :=
  ⟨(s.queue.take s.drainable).filterMap decode.accept, decode.refused (s.queue.take s.drainable),
    UInt64.ofNat s.queue.length⟩

section Drain

variable (kind : BackendKind) (decode : DecodePolicy) (capacity : UInt64) (s : Engine)

theorem signalsLen_opened :
    MarketBridge.Engine.invoke .signalsLen (opened kind decode capacity s) =
      ⟨.ok (UInt64.ofNat s.queue.length), opened kind decode capacity s,
        [.native .linked (.engine .signalsLen)]⟩ :=
  invoke_opened kind decode capacity s (c := .signalsLen) rfl

theorem pollSignals_opened :
    MarketBridge.Engine.invoke (.pollSignals (UInt64.ofNat s.queue.length))
        (opened kind decode capacity s) =
      ⟨.ok s.fullPoll, opened kind decode capacity s.drained,
        [.native .linked (.engine (.pollSignals (UInt64.ofNat s.queue.length)))]⟩ := by
  have hanswer : s.answer (.pollSignals (UInt64.ofNat s.queue.length)) = (s.fullPoll, s.drained) :=
    s.poll_full
  rw [invoke_opened kind decode capacity s rfl, hanswer]

/-- A drain takes the whole queue and decodes it. -/
theorem drain_opened : (opened kind decode capacity s).drain.answer = .ok (s.batch decode) ∧
    (opened kind decode capacity s).drain.state = opened kind decode capacity s.drained := by
  have hlen := signalsLen_opened kind decode capacity s
  show (Batch.drain MarketBridge.Engine.invoke decode (opened kind decode capacity s)).answer = _ ∧
    (Batch.drain MarketBridge.Engine.invoke decode (opened kind decode capacity s)).state = _
  by_cases bare : UInt64.ofNat s.queue.length = 0
  · -- nothing is polled, and there was nothing to take
    have hnone : s.drainable = 0 :=
      UInt64.toNat_ofNat'.symm.trans (congrArg UInt64.toNat bare)
    rw [bare] at hlen
    rw [Batch.drain_of_empty decode hlen, Engine.drained_of_zero bare]
    refine ⟨?_, rfl⟩
    unfold Engine.batch
    rw [hnone, bare]
    rfl
  · -- the poll fills all its slots, so all of them are trusted
    have hpoll := pollSignals_opened kind decode capacity s
    rw [Batch.drain_of_poll decode hlen bare hpoll]
    refine ⟨?_, rfl⟩
    have hwritten : s.fullPoll.written.length = (UInt64.ofNat s.queue.length).toNat := by
      rw [UInt64.toNat_ofNat']
      exact s.length_take_drainable
    exact congrArg Except.ok (Batch.decoded_of_filled decode hwritten rfl)

end Drain

/-! ## Sessions -/

/-- A step of a session on one engine. -/
inductive DeliveryStep
  | change (change : BarChange)
  | addStrategy (name text : String)
  | poll
  | drain

/-- Whether the step empties the queue. -/
def DeliveryStep.empties : DeliveryStep → Bool
  | poll | drain => true
  | _ => false

/-- What the signals of a session depend on, after one more step. -/
def Emission.follow (x : Emission) : DeliveryStep → Emission
  | .change change => x.change change
  | .addStrategy _ text => x.addStrategy text
  | .poll | .drain => x

/-- The signals that an engine emits in the course of the steps. -/
def emitted (steps : List DeliveryStep) : List RawSignal :=
  (steps.foldl Emission.follow .none).emitted

/-- The raw signals that are queued behind a wrapper. -/
def queued (e : MarketBridge.Engine Engine Backtest) : List RawSignal :=
  e.native?.elim [] (·.queue)

/-- The signals that an operation took off the front of the queue. -/
def takenBetween (before after : MarketBridge.Engine Engine Backtest) : List RawSignal :=
  (queued before).take ((queued before).length - (queued after).length)

/-- The signals that the answer to a poll hands over, those that come with an error included. -/
def handedOver : Except Error (List Signal) → List Signal
  | .ok signals => signals
  | .error (.undecodedSignals recovered _ _) => recovered
  | .error _ => []

/-- A session as its caller sees it: the engine, the buffer, and all that was taken out of the
queue and handed over up to now. -/
structure Reception where
  engine : MarketBridge.Engine Engine Backtest
  buffer : List Signal
  taken : List RawSignal
  handed : List Signal

/-- Carries out a step. -/
def DeliveryStep.apply (r : Reception) : DeliveryStep → Reception
  | change c => { r with engine := (c.op r.engine).state }
  | addStrategy name text => { r with engine := (r.engine.addStrategy name text).state }
  | poll =>
    let o := r.engine.pollSignals
    { r with
      engine := o.state
      taken := r.taken ++ takenBetween r.engine o.state
      handed := r.handed ++ handedOver o.answer }
  | drain =>
    let o := r.engine.drainSignalsInto r.buffer
    { engine := o.state
      buffer := o.answer.2
      taken := r.taken ++ takenBetween r.engine o.state
      handed := r.handed ++ o.answer.2.drop r.buffer.length }

/-- Carries out steps one after another. -/
def DeliveryStep.run (steps : List DeliveryStep) (r : Reception) : Reception :=
  steps.foldl apply r

/-- Every emitted signal is taken or still queued, and what the policy accepts of the taken ones is
what was handed over, all in order. -/
structure Accounted (decode : DecodePolicy) (r : Reception) (emitted : List RawSignal) : Prop where
  taken : r.taken ++ queued r.engine = emitted
  handed : r.handed = r.taken.filterMap decode.accept
  signalsLen : r.engine.signalsLen.answer = .ok (UInt64.ofNat (queued r.engine).length)

/-- `r'` comes from `r` by a step after which nothing is queued and nothing is left to hand over.
The queue is empty if its length was one that a word can state. -/
structure Emptied (r r' : Reception) : Prop where
  signalsLen : r'.engine.signalsLen.answer = .ok 0
  queue : (queued r.engine).length < UInt64.size → queued r'.engine = []
  buffer : r.buffer <+: r'.buffer
  again : ∀ step : DeliveryStep, step.empties = true → step.apply r' = r'

/-! ## The steps of an open engine -/

/-- What a drain takes is what is missing from the queue after it. -/
theorem takenBetween_of_queued {s : Engine} {before after : MarketBridge.Engine Engine Backtest}
    (hbefore : queued before = s.queue) (hafter : queued after = s.drained.queue) :
    takenBetween before after = s.queue.take s.drainable := by
  have hle : s.drainable ≤ s.queue.length := Nat.mod_le _ _
  unfold takenBetween
  rw [hbefore, hafter, Engine.drained, List.length_drop]
  congr 1
  omega

section Step

variable (kind : BackendKind) (decode : DecodePolicy) (capacity : UInt64) (s : Engine)

@[simp] theorem queued_opened : queued (opened kind decode capacity s) = s.queue := by
  cases kind with
  | inProcess => rfl
  | dylib => rfl

theorem takenBetween_opened :
    takenBetween (opened kind decode capacity s) (opened kind decode capacity s.drained) =
      s.queue.take s.drainable :=
  takenBetween_of_queued (queued_opened kind decode capacity s)
    (queued_opened kind decode capacity s.drained)

/-- All accepted signals are handed over, also with an error. -/
theorem handedOver_signals (batch : Batch) : handedOver batch.signals = batch.accepted := by
  unfold Batch.signals
  cases batch.refused with
  | nil => rfl
  | cons first rest => rfl

variable (buffer : List Signal) (taken : List RawSignal) (handed : List Signal)

theorem poll_apply :
    DeliveryStep.poll.apply ⟨opened kind decode capacity s, buffer, taken, handed⟩ =
      ⟨opened kind decode capacity s.drained, buffer, taken ++ s.queue.take s.drainable,
        handed ++ (s.queue.take s.drainable).filterMap decode.accept⟩ := by
  obtain ⟨hanswer, hstate⟩ := drain_opened kind decode capacity s
  have hpolled : (opened kind decode capacity s).pollSignals.answer = (s.batch decode).signals :=
    congrArg (Except.bind · Batch.signals) hanswer
  have hleft : (opened kind decode capacity s).pollSignals.state =
      opened kind decode capacity s.drained := hstate
  unfold DeliveryStep.apply
  dsimp only
  rw [hpolled, hleft, takenBetween_opened, handedOver_signals]
  rfl

theorem drain_apply :
    DeliveryStep.drain.apply ⟨opened kind decode capacity s, buffer, taken, handed⟩ =
      ⟨opened kind decode capacity s.drained,
        buffer ++ (s.queue.take s.drainable).filterMap decode.accept,
        taken ++ s.queue.take s.drainable,
        handed ++ (s.queue.take s.drainable).filterMap decode.accept⟩ := by
  obtain ⟨hanswer, hstate⟩ := drain_opened kind decode capacity s
  have hdrained : ((opened kind decode capacity s).drainSignalsInto buffer).answer =
      ((s.batch decode).count, buffer ++ (s.batch decode).accepted) := by
    unfold MarketBridge.Engine.drainSignalsInto
    rw [Op.bind_apply, hanswer]
    rfl
  have hleft : ((opened kind decode capacity s).drainSignalsInto buffer).state =
      opened kind decode capacity s.drained := by
    unfold MarketBridge.Engine.drainSignalsInto
    rw [Op.bind_apply, hanswer]
    exact hstate
  unfold DeliveryStep.apply
  dsimp only
  rw [hdrained, hleft, takenBetween_opened, List.drop_left]
  rfl

end Step

/-! ## Whole sessions -/

/-- The session is on an open engine that emits what it should, and all that was taken was handed
over. -/
def Follows (kind : BackendKind) (decode : DecodePolicy) (capacity : UInt64) (r : Reception)
    (x : Emission) : Prop :=
  ∃ s history, r.engine = opened kind decode capacity s ∧
    s.Emits capacity.toNat history r.taken x ∧ r.handed = r.taken.filterMap decode.accept

section Session

variable {kind : BackendKind} {decode : DecodePolicy} {capacity : UInt64} {r : Reception}
  {x : Emission}

/-- Every step keeps the account. -/
theorem Follows.step (h : Follows kind decode capacity r x) (step : DeliveryStep) :
    Follows kind decode capacity (step.apply r) (x.follow step) := by
  obtain ⟨engine, buffer, taken, handed⟩ := r
  obtain ⟨s, history, hengine, hemits, hhanded⟩ := h
  dsimp only at hengine hemits hhanded
  subst hengine
  cases step with
  | change c =>
    exact ⟨_, _, (BarChange.op_opened kind decode capacity s c).2, hemits.change c, hhanded⟩
  | addStrategy name text =>
    exact ⟨_, history, invoke_opened_state kind decode capacity s (.addStrategy name text),
      hemits.addStrategy text, hhanded⟩
  | poll =>
    rw [poll_apply]
    refine ⟨s.drained, history, rfl, hemits.take s.drainable, ?_⟩
    rw [hhanded, List.filterMap_append]
  | drain =>
    rw [drain_apply]
    refine ⟨s.drained, history, rfl, hemits.take s.drainable, ?_⟩
    rw [hhanded, List.filterMap_append]

theorem Follows.run (h : Follows kind decode capacity r x) (steps : List DeliveryStep) :
    Follows kind decode capacity (DeliveryStep.run steps r) (steps.foldl Emission.follow x) := by
  induction steps generalizing r x with
  | nil => exact h
  | cons step rest ih => exact ih (h.step step)

theorem Follows.accounted (h : Follows kind decode capacity r x) :
    Accounted decode r x.emitted := by
  obtain ⟨s, history, hengine, hemits, hhanded⟩ := h
  have hqueued : queued r.engine = s.queue := by rw [hengine, queued_opened]
  refine ⟨?_, hhanded, ?_⟩
  · rw [hqueued]
    exact hemits.account
  · rw [hqueued, hengine]
    exact congrArg Outcome.answer (signalsLen_opened kind decode capacity s)

/-- A drain that has nothing to take changes nothing. -/
theorem apply_of_drainable_zero {s : Engine} (h : s.drained = s) (hnone : s.drainable = 0)
    (hengine : r.engine = opened kind decode capacity s) {step : DeliveryStep}
    (hstep : step.empties = true) : step.apply r = r := by
  obtain ⟨engine, buffer, taken, handed⟩ := r
  dsimp only at hengine
  subst hengine
  cases step with
  | change _ => cases hstep
  | addStrategy _ _ => cases hstep
  | poll =>
    rw [poll_apply, h, hnone]
    simp
  | drain =>
    rw [drain_apply, h, hnone]
    simp

theorem apply_of_empties {s : Engine} (hengine : r.engine = opened kind decode capacity s)
    {step : DeliveryStep} (hstep : step.empties = true) :
    (step.apply r).engine = opened kind decode capacity s.drained ∧
      r.buffer <+: (step.apply r).buffer := by
  obtain ⟨engine, buffer, taken, handed⟩ := r
  dsimp only at hengine
  subst hengine
  cases step with
  | change _ => cases hstep
  | addStrategy _ _ => cases hstep
  | poll =>
    rw [poll_apply]
    exact ⟨rfl, List.prefix_rfl⟩
  | drain =>
    rw [drain_apply]
    exact ⟨rfl, List.prefix_append _ _⟩

theorem Follows.emptied (h : Follows kind decode capacity r x) {step : DeliveryStep}
    (hstep : step.empties = true) : Emptied r (step.apply r) := by
  obtain ⟨s, history, hengine, hemits, hhanded⟩ := h
  obtain ⟨hafter, hbuffer⟩ := apply_of_empties hengine hstep
  have hlen := signalsLen_opened kind decode capacity s.drained
  rw [s.ofNat_length_drained] at hlen
  refine ⟨?_, fun hword => ?_, hbuffer, fun again hagain => ?_⟩
  · rw [hafter]
    exact congrArg Outcome.answer hlen
  · rw [hengine, queued_opened] at hword
    rw [hafter, queued_opened, Engine.drained, Engine.drainable, Nat.mod_eq_of_lt hword]
    exact List.drop_length
  · exact apply_of_drainable_zero (Engine.drained_of_zero s.ofNat_length_drained)
      s.drainable_drained hafter hagain

end Session

/-- **Every signal is delivered once and in order.** Whatever the kind of boundary, the policy and
the capacity that the engine accepts, after any steps the signals taken by drains and those still
queued are the emitted ones, and the signals handed over are those that the policy accepts of the
taken ones; right after a drain nothing is queued, and draining again changes nothing. -/
theorem signals_are_delivered_once (kind : BackendKind) (decode : DecodePolicy)
    (capacity : UInt64) (haccepted : (Engine.new? capacity).isSome = true) :
    ∃ e, (MarketBridge.Engine.create ⟨backend kind, decode⟩ capacity ()).answer = .ok e ∧
      ∀ (buffer : List Signal) (steps : List DeliveryStep),
        Accounted decode (DeliveryStep.run steps ⟨e, buffer, [], []⟩) (emitted steps) ∧
        ∀ step : DeliveryStep, step.empties = true →
          Emptied (DeliveryStep.run steps ⟨e, buffer, [], []⟩)
            (step.apply (DeliveryStep.run steps ⟨e, buffer, [], []⟩)) := by
  obtain ⟨s, hnew⟩ := Option.isSome_iff_exists.mp haccepted
  refine ⟨opened kind decode capacity s, create_opened kind decode hnew, fun buffer steps => ?_⟩
  have hstart : Follows kind decode capacity ⟨opened kind decode capacity s, buffer, [], []⟩
      .none := ⟨s, [], rfl, Engine.emits_new hnew, rfl⟩
  have hrun := hstart.run steps
  exact ⟨hrun.accounted, fun step hstep => hrun.emptied hstep⟩

/-- A drain that leaves nothing queued has handed over what the policy accepts of all that was
emitted. -/
theorem Accounted.handed_of_emptied {decode : DecodePolicy} {r r' : Reception}
    {emitted : List RawSignal} (h : Accounted decode r emitted) (h' : Accounted decode r' emitted)
    (hemptied : Emptied r r') (hword : emitted.length < UInt64.size) :
    r'.handed = emitted.filterMap decode.accept := by
  have hlength := congrArg List.length h.taken
  rw [List.length_append] at hlength
  have hnone := hemptied.queue (by omega)
  have htaken := h'.taken
  rw [hnone, List.append_nil] at htaken
  rw [h'.handed, htaken]

/-- Strategies with the tags of a buy and of a sell and between them one that no action has; a poll
after the first bar, and a third known tag before the bar is replaced. -/
def taggedSteps : List DeliveryStep :=
  [.addStrategy "long" "EMIT 1", .addStrategy "odd" "EMIT 7", .addStrategy "short" "EMIT 2",
    .change (.push (.flat 1 2.0)), .poll, .addStrategy "idle" "EMIT 3",
    .change (.update (.flat 2 3.0))]

/-- What is emitted in the course of them. -/
def taggedSignals : List RawSignal :=
  [⟨1, 1, 1⟩, ⟨2, 7, 1⟩, ⟨3, 2, 1⟩, ⟨1, 1, 2⟩, ⟨2, 7, 2⟩, ⟨3, 2, 2⟩, ⟨4, 3, 2⟩]

/-- An engine that delivers as it should has handed over the accepted ones of them after a last
drain. -/
theorem handed_of_tagged {decode : DecodePolicy} {e : MarketBridge.Engine Engine Backtest}
    (h : ∀ steps, Accounted decode (DeliveryStep.run steps ⟨e, [], [], []⟩) (emitted steps) ∧
      ∀ step : DeliveryStep, step.empties = true →
        Emptied (DeliveryStep.run steps ⟨e, [], [], []⟩)
          (step.apply (DeliveryStep.run steps ⟨e, [], [], []⟩))) :
    Accounted decode (DeliveryStep.run taggedSteps ⟨e, [], [], []⟩) taggedSignals ∧
      (DeliveryStep.run (taggedSteps ++ [.drain]) ⟨e, [], [], []⟩).handed =
        taggedSignals.filterMap decode.accept := by
  have hbefore : emitted taggedSteps = taggedSignals := by decide +kernel
  have hafter : emitted (taggedSteps ++ [.drain]) = taggedSignals := by decide +kernel
  have hword : taggedSignals.length < UInt64.size := by decide
  obtain ⟨hmid, hemptied⟩ := h taggedSteps
  obtain ⟨hend, -⟩ := h (taggedSteps ++ [.drain])
  rw [hbefore] at hmid
  rw [hafter] at hend
  exact ⟨hmid, hmid.handed_of_emptied hend (hemptied .drain rfl) hword⟩

/-- After a last drain a strict caller got the buys, the sells and the hold; a lenient one, behind
the other boundary, got holds in place of the unknown tags besides. -/
theorem unknown_tags_are_taken :
    (∃ e, (MarketBridge.Engine.create ⟨backend .inProcess, .strict⟩ 3 ()).answer = .ok e ∧
      Accounted .strict (DeliveryStep.run taggedSteps ⟨e, [], [], []⟩) taggedSignals ∧
      (DeliveryStep.run (taggedSteps ++ [.drain]) ⟨e, [], [], []⟩).handed =
        [⟨1, .buy, 1⟩, ⟨3, .sell, 1⟩, ⟨1, .buy, 2⟩, ⟨3, .sell, 2⟩, ⟨4, .hold, 2⟩]) ∧
    ∃ e, (MarketBridge.Engine.create ⟨backend .dylib, .lenient⟩ 3 ()).answer = .ok e ∧
      Accounted .lenient (DeliveryStep.run taggedSteps ⟨e, [], [], []⟩) taggedSignals ∧
      (DeliveryStep.run (taggedSteps ++ [.drain]) ⟨e, [], [], []⟩).handed =
        [⟨1, .buy, 1⟩, ⟨2, .hold, 1⟩, ⟨3, .sell, 1⟩, ⟨1, .buy, 2⟩, ⟨2, .hold, 2⟩, ⟨3, .sell, 2⟩,
          ⟨4, .hold, 2⟩] := by
  constructor
  · obtain ⟨e, hcreate, hrun⟩ := signals_are_delivered_once .inProcess .strict 3 rfl
    obtain ⟨haccount, hhanded⟩ := handed_of_tagged (hrun [])
    exact ⟨e, hcreate, haccount, hhanded.trans (by decide)⟩
  · obtain ⟨e, hcreate, hrun⟩ := signals_are_delivered_once .dylib .lenient 3 rfl
    obtain ⟨haccount, hhanded⟩ := handed_of_tagged (hrun [])
    exact ⟨e, hcreate, haccount, hhanded.trans (by decide)⟩

end MarketBridge.Reference
