import MarketBridge.Drain

/-!
# `Drain` — every polled slot is accepted or refused

`DecodePolicy.accept` says what becomes of a raw signal without regard to log lines. Decoding a
batch accepts exactly those signals, in order, refuses the tags of the others, and warns of the
unknown tags that a lenient policy takes for a hold (`Batch.decodeAll_apply`); a drain does so to
the slots it trusts (`Batch.ofPoll_apply`, `Batch.drain_of_poll`).
-/

namespace MarketBridge

/-- Whether the tag is one of those that stand for an action. -/
def RawSignal.isKnown (raw : RawSignal) : Bool :=
  raw.tag == 1 || raw.tag == 2 || raw.tag == 3

/-- What becomes of a raw signal: a one is a buy, a two a sell and a three a hold, and with any
other tag it is a hold or nothing, as the policy has it. -/
def DecodePolicy.accept (policy : DecodePolicy) (raw : RawSignal) : Option Signal :=
  if raw.tag = 1 then some ⟨raw.strategy, .buy, raw.timestamp⟩
  else if raw.tag = 2 then some ⟨raw.strategy, .sell, raw.timestamp⟩
  else if raw.tag = 3 then some ⟨raw.strategy, .hold, raw.timestamp⟩
  else
    match policy with
    | .strict => none
    | .lenient => some ⟨raw.strategy, .hold, raw.timestamp⟩

/-- Whether decoding the signal leaves a warning. -/
def DecodePolicy.warns (policy : DecodePolicy) (raw : RawSignal) : Bool :=
  policy = .lenient && !raw.isKnown

/-- The tags of the signals that are not accepted. -/
def DecodePolicy.refused (policy : DecodePolicy) (raws : List RawSignal) : List UInt8 :=
  (raws.filter fun raw => (policy.accept raw).isNone).map (·.tag)

/-- The warnings that decoding the signals leaves. -/
def DecodePolicy.warnings (policy : DecodePolicy) (raws : List RawSignal) : List Event :=
  (raws.filter policy.warns).map fun raw => .log (.unknownTag raw)

variable {σ : Type}

/-- Decoding one signal accepts it or refuses its tag, and does not touch the state. -/
theorem RawSignal.decode_apply (policy : DecodePolicy) (raw : RawSignal) (s : σ) :
    raw.decode policy s =
      ⟨(policy.accept raw).elim (.error (.decoding "signal action" raw.tag.toUInt64)) .ok, s,
        policy.warnings [raw]⟩ := by
  unfold RawSignal.decode Action.ofTag? DecodePolicy.accept DecodePolicy.warnings DecodePolicy.warns
    RawSignal.isKnown
  by_cases buy : raw.tag = 1
  · simp [buy]
  by_cases sell : raw.tag = 2
  · simp [sell]
  by_cases hold : raw.tag = 3
  · simp [hold]
  cases policy with
  | strict => simp [buy, sell, hold]
  | lenient => simp [buy, sell, hold, Op.log, Op.emit]

theorem DecodePolicy.warnings_cons (policy : DecodePolicy) (raw : RawSignal)
    (rest : List RawSignal) :
    policy.warnings (raw :: rest) = policy.warnings [raw] ++ policy.warnings rest := by
  unfold warnings
  rw [← List.map_append, ← List.filter_append]
  rfl

theorem DecodePolicy.refused_cons_of_some {policy : DecodePolicy} {raw : RawSignal}
    {signal : Signal} (h : policy.accept raw = some signal) (rest : List RawSignal) :
    policy.refused (raw :: rest) = policy.refused rest := by
  unfold refused
  rw [List.filter_cons_of_neg (by simp [h])]

theorem DecodePolicy.refused_cons_of_none {policy : DecodePolicy} {raw : RawSignal}
    (h : policy.accept raw = none) (rest : List RawSignal) :
    policy.refused (raw :: rest) = raw.tag :: policy.refused rest := by
  unfold refused
  rw [List.filter_cons_of_pos (by simp [h]), List.map_cons]

namespace Batch

/-- Decoding a batch accepts what the policy accepts and refuses the rest, both in order. -/
theorem decodeAll_apply (policy : DecodePolicy) (raws : List RawSignal) (s : σ) :
    decodeAll policy raws s =
      ⟨(raws.filterMap policy.accept, policy.refused raws), s, policy.warnings raws⟩ := by
  induction raws with
  | nil => rfl
  | cons raw rest ih =>
    rw [decodeAll, Op.bind_apply, raw.decode_apply, policy.warnings_cons raw rest]
    -- the first signal goes to one of the two lists, its warning before all others
    cases accepted : policy.accept raw with
    | some signal =>
      dsimp only [Option.elim]
      rw [Op.map_apply, ih, List.filterMap_cons_some accepted,
        DecodePolicy.refused_cons_of_some accepted]
    | none =>
      dsimp only [Option.elim]
      rw [Op.map_apply, ih, List.filterMap_cons_none accepted,
        DecodePolicy.refused_cons_of_none accepted]

/-- The warning about a count that is not the length of the queue. -/
def mismatch (queued copied : UInt64) : List Event :=
  if queued < copied then [.log (.overReported queued copied)]
  else if copied < queued then [.log (.underReported queued copied)]
  else []

theorem logMismatch_apply (queued copied : UInt64) (s : σ) :
    logMismatch queued copied s = ⟨(), s, mismatch queued copied⟩ := by
  unfold logMismatch mismatch
  by_cases more : queued < copied
  · rw [if_pos more, if_pos more]
    rfl
  · rw [if_neg more, if_neg more]
    by_cases fewer : copied < queued
    · rw [if_pos fewer, if_pos fewer]
      rfl
    · rw [if_neg fewer, if_neg fewer]
      rfl

/-- The slots that a drain trusts: as many as the queue holds and the engine has filled. -/
def trusted (queued : UInt64) (poll : Poll) : List RawSignal :=
  (buffer queued poll.written).take (min poll.count queued).toNat

/-- What a drain makes of the answer to its poll. -/
def decoded (policy : DecodePolicy) (queued : UInt64) (poll : Poll) : Batch :=
  ⟨(trusted queued poll).filterMap policy.accept, policy.refused (trusted queued poll),
    min poll.count queued⟩

/-- An engine that fills all the slots and reports as many is trusted with what it wrote. -/
theorem trusted_of_filled {queued : UInt64} {poll : Poll}
    (hwritten : poll.written.length = queued.toNat) (hcount : poll.count = queued) :
    trusted queued poll = poll.written := by
  have hmin : min poll.count queued = queued := by
    rw [hcount]
    exact if_pos (UInt64.le_refl queued)
  unfold trusted buffer
  rw [hmin, List.take_take, Nat.min_self, List.take_left' hwritten]

theorem decoded_of_filled (policy : DecodePolicy) {queued : UInt64} {poll : Poll}
    (hwritten : poll.written.length = queued.toNat) (hcount : poll.count = queued) :
    decoded policy queued poll =
      ⟨poll.written.filterMap policy.accept, policy.refused poll.written, queued⟩ := by
  have hmin : min poll.count queued = queued := by
    rw [hcount]
    exact if_pos (UInt64.le_refl queued)
  unfold decoded
  rw [trusted_of_filled hwritten hcount, hmin]

/-- The log lines of a drain that polled. -/
def report (policy : DecodePolicy) (queued : UInt64) (poll : Poll) : List Event :=
  mismatch queued poll.count ++
    (policy.warnings (trusted queued poll) ++ [.log (.drained (min poll.count queued))])

theorem ofPoll_apply (policy : DecodePolicy) (queued : UInt64) (poll : Poll) (s : σ) :
    ofPoll policy queued poll s =
      ⟨decoded policy queued poll, s, report policy queued poll⟩ := by
  unfold ofPoll
  rw [Op.bind_apply, logMismatch_apply]
  dsimp only
  rw [Op.bind_apply, decodeAll_apply]
  rfl

/-! ## Draining -/

section Drain

variable {call : (c : EngineCall) → Op σ (Except Error c.Answer)} {s s' s'' : σ}
  {first second : List Event}

/-- An empty queue is not polled. -/
theorem drain_of_empty (policy : DecodePolicy)
    (hlen : call .signalsLen s = ⟨.ok (0 : UInt64), s', first⟩) :
    drain call policy s = ⟨.ok empty, s', first⟩ := by
  unfold drain
  rw [Op.bind_apply, hlen]
  exact congrArg (Outcome.mk _ s') (List.append_nil first)

/-- Any other queue is polled once, into as many slots as it holds signals. -/
theorem drain_of_poll (policy : DecodePolicy) {queued : UInt64} {poll : Poll}
    (hlen : call .signalsLen s = ⟨.ok queued, s', first⟩) (hsome : queued ≠ 0)
    (hpoll : call (.pollSignals queued) s' = ⟨.ok poll, s'', second⟩) :
    drain call policy s = ⟨.ok (decoded policy queued poll), s'',
      first ++ (second ++ report policy queued poll)⟩ := by
  unfold drain
  rw [Op.bind_apply, hlen]
  dsimp only
  rw [if_neg hsome, Op.bind_apply, hpoll]
  dsimp only
  rw [Op.bind_apply, ofPoll_apply]
  exact congrArg (fun events => Outcome.mk _ s'' (first ++ (second ++ events)))
    (List.append_nil _)

end Drain

end Batch

end MarketBridge
