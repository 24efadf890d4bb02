import MarketBridge.Proofs.Reference.Calls
import MarketBridge.Proofs.Session.Thinned

/-!
# `Reference.Untouched` — steps that read or fail leave a wrapper as it was

On wrappers around the reference engine a step that only reads, and a step that fails, leaves the
wrapper, the signal buffer and what is shown of the journal as they were (`perform_leaves`,
`performBacktest_leaves`). The exception is a drain that meets a tag without meaning: it reports an
error for signals that it has taken. Constructors have nothing to show at all (`engineCreate_shown`,
`backtestCreate_shown`).
-/

namespace MarketBridge

open Outcome

/-! ## Reading and failing -/

/-- Whether the step only reads the wrapper. -/
def EngineStep.isRead : EngineStep → Bool
  | .isClosed | .capacity | .kind | .describe => true
  | .len | .isEmpty | .indicatorLast _ | .signalsLen => true
  | .raw _ | .ordered _ | .list _ | .timestampsRaw | .timestampsOrdered => true
  | _ => false

/-- Whether the step only reads the wrapper. -/
def BacktestStep.isRead : BacktestStep → Bool
  | .isClosed | .kind | .describe | .params | .result _ => true
  | _ => false

/-- Whether the step only reads. -/
def Step.isRead : Step → Bool
  | .engine _ st => st.isRead
  | .backtest _ st => st.isRead
  | .buffer | .counters => true
  | _ => false

/-- Whether the answer is an error, other than that a drain met a tag without meaning. -/
def Answer.isFailure : Answer → Bool
  | .failed (.undecodedSignals _ _ _) => false
  | .failed _ => true
  | .drained (.error (.decoding _ _)) _ => false
  | .drained (.error _) _ => true
  | _ => false

/-- An answer that wraps what cannot be a failure is one only if it wraps an error. -/
theorem Answer.error_of_isFailure {α : Type} {wrap : α → Answer}
    (hwrap : ∀ a, (wrap a).isFailure = false) {x : Except Error α}
    (h : (Answer.ofExcept wrap x).isFailure = true) : ∃ e, x = .error e := by
  cases x with
  | ok a => exact absurd ((hwrap a).symm.trans h) Bool.false_ne_true
  | error e => exact ⟨e, rfl⟩

/-! ## Steps on wrappers -/

/-- The step left the wrapper and the buffer as they were and has nothing to show. -/
structure Outcome.Leaves {σ : Type} (e : σ) (buffer : List Signal)
    (o : Outcome σ (Answer × List Signal)) : Prop where
  traceless : Traceless e o
  buffer : o.answer.2 = buffer

namespace Reference

section Engines

variable {e : MarketBridge.Engine Engine Backtest} {buffer : List Signal}

theorem reply_leaves {α : Type} {op : Op (MarketBridge.Engine Engine Backtest) (Except Error α)}
    (wrap : α → Answer) (h : Traceless e (op e)) :
    Leaves e buffer (MarketBridge.Engine.reply buffer wrap op e) :=
  ⟨h.andThen fun answer => (Answer.ofExcept wrap answer, buffer), rfl⟩

/-- A reply that fails leaves the wrapper if the operation does when it ends in an error. -/
theorem failed_reply_leaves {α : Type}
    {op : Op (MarketBridge.Engine Engine Backtest) (Except Error α)} {wrap : α → Answer}
    (hwrap : ∀ a, (wrap a).isFailure = false)
    (h : (∃ error, (op e).answer = .error error) → Traceless e (op e))
    (hfailed : (MarketBridge.Engine.reply buffer wrap op e).answer.1.isFailure = true) :
    Leaves e buffer (MarketBridge.Engine.reply buffer wrap op e) :=
  reply_leaves wrap (h (Answer.error_of_isFailure hwrap hfailed))

/-- A step that reads leaves the wrapper. -/
theorem read_leaves (h : Wraps e) {st : EngineStep} (hst : st.isRead = true) :
    Leaves e buffer (e.perform buffer st) := by
  have reads : ∀ c : EngineCall, c.isRead = true →
      Traceless e (MarketBridge.Engine.invoke c e) := by
    intro c hc
    exact invoke_traceless h (.inl hc)
  cases st with
  | isClosed => exact ⟨⟨rfl, rfl⟩, rfl⟩
  | capacity => exact ⟨⟨rfl, rfl⟩, rfl⟩
  | kind => exact ⟨⟨rfl, rfl⟩, rfl⟩
  | describe => exact ⟨⟨rfl, rfl⟩, rfl⟩
  | len => exact reply_leaves _ (reads .len rfl)
  | isEmpty => exact reply_leaves _ ((reads .len rfl).andThen _)
  | indicatorLast id => exact reply_leaves _ ((reads (.indicatorLast id) rfl).andThen _)
  | signalsLen => exact reply_leaves _ (reads .signalsLen rfl)
  | raw field => exact reply_leaves _ ((reads (.column field) rfl).andThen _)
  | ordered field => exact reply_leaves _ (((reads (.column field) rfl).andThen _).andThen _)
  | list field =>
    exact reply_leaves _ ((((reads (.column field) rfl).andThen _).andThen _).andThen _)
  | timestampsRaw => exact reply_leaves _ ((reads .timestampColumn rfl).andThen _)
  | timestampsOrdered => exact reply_leaves _ (((reads .timestampColumn rfl).andThen _).andThen _)
  | _ => cases hst

theorem addIndicator_traceless (h : Wraps e) {spec : IndicatorSpec}
    (hids : spec.Acceptable →
      ∀ s, e.native? = some s → s.HasIdsFor (e.crossing (.addIndicator spec)))
    (hfailed : ∃ error, (MarketBridge.Engine.addIndicator spec e).answer = .error error) :
    Traceless e (MarketBridge.Engine.addIndicator spec e) := by
  unfold MarketBridge.Engine.addIndicator at hfailed ⊢
  by_cases hspec : spec.Acceptable
  · rw [IndicatorSpec.validate_of_acceptable hspec] at hfailed ⊢
    exact invoke_traceless h (.inr ⟨hfailed, hids hspec⟩)
  · rw [IndicatorSpec.validate_of_not_acceptable hspec]
    exact .pure _

/-- Pushing to an open engine does not fail, however many bars. -/
theorem pushCloses_ok (h : Wraps e) (hopen : e.isClosed = false) (timestamp : Int64)
    (closes : List Double) : (Session.pushCloses timestamp closes e).answer = .ok () := by
  induction closes generalizing e timestamp with
  | nil => rfl
  | cons close rest ih =>
    have hpushed : ∃ a, (MarketBridge.Engine.pushBar (.flat timestamp close) e).answer = .ok a :=
      invoke_ok h hopen (c := .pushBar (.flat timestamp close)) rfl
    obtain ⟨wraps, closed⟩ := invoke_wraps h (.pushBar (.flat timestamp close))
    obtain ⟨_, hpushed⟩ := hpushed
    have hrest := ih wraps (closed.trans hopen) (timestamp + 1)
    unfold Session.pushCloses
    rw [Op.bind_apply]
    dsimp only
    rw [hpushed]
    exact hrest

/-- A drain of an open engine comes to a batch. -/
theorem drain_ok (h : Wraps e) (hopen : e.isClosed = false) :
    ∃ batch, (MarketBridge.Engine.drain e).answer = .ok batch := by
  have hlen : ∃ queued, (MarketBridge.Engine.invoke .signalsLen e).answer = .ok queued :=
    invoke_ok h hopen rfl
  obtain ⟨wraps, closed⟩ := invoke_wraps h .signalsLen
  obtain ⟨queued, hlen⟩ := hlen
  show ∃ batch, (Batch.drain MarketBridge.Engine.invoke e.decode e).answer = .ok batch
  unfold Batch.drain
  rw [Op.bind_apply, hlen]
  dsimp only
  by_cases bare : queued = 0
  · rw [if_pos bare]
    exact ⟨_, rfl⟩
  · have hpoll : ∃ poll, (MarketBridge.Engine.invoke (.pollSignals queued)
        (MarketBridge.Engine.invoke .signalsLen e).state).answer = .ok poll :=
      invoke_ok wraps (closed.trans hopen) rfl
    obtain ⟨poll, hpoll⟩ := hpoll
    rw [if_neg bare, Op.bind_apply, hpoll]
    exact ⟨_, rfl⟩

/-- Nothing gets through to a closed wrapper. -/
theorem closed_leaves (hclosed : e.isClosed = true) (st : EngineStep) :
    Leaves e buffer (e.perform buffer st) := by
  obtain ⟨link, kind, decode, capacity⟩ := e
  obtain rfl : link = none := Option.isNone_iff_eq_none.mp hclosed
  have pushed : ∀ timestamp closes,
      Traceless (⟨none, kind, decode, capacity⟩ : MarketBridge.Engine Engine Backtest)
        (Session.pushCloses timestamp closes ⟨none, kind, decode, capacity⟩) := by
    intro timestamp closes
    induction closes generalizing timestamp with
    | nil => exact .pure _
    | cons close rest ih => exact .bind ⟨rfl, rfl⟩ (.bind (ih (timestamp + 1)) (.pure _))
  have added : ∀ spec,
      Traceless (⟨none, kind, decode, capacity⟩ : MarketBridge.Engine Engine Backtest)
        (MarketBridge.Engine.addIndicator spec ⟨none, kind, decode, capacity⟩) := by
    intro spec
    unfold MarketBridge.Engine.addIndicator
    cases spec.validate with
    | error error => exact .pure _
    | ok _ => exact ⟨rfl, rfl⟩
  cases st with
  | pushCloses timestamp closes => exact reply_leaves _ (pushed timestamp closes)
  | addIndicator spec => exact reply_leaves _ (added spec)
  | addRsi period => exact reply_leaves _ (added (.rsi period))
  | _ => exact ⟨⟨rfl, rfl⟩, rfl⟩

/-- A step that fails leaves the wrapper, unless it has run out of ids. -/
theorem failed_leaves (h : Wraps e) {st : EngineStep}
    (hids : ∀ s, e.native? = some s → s.HasIdsFor (e.prescribed st))
    (hfailed : (e.perform buffer st).answer.1.isFailure = true) :
    Leaves e buffer (e.perform buffer st) := by
  cases hclosed : e.isClosed with
  | true => exact closed_leaves hclosed st
  | false =>
    have calls : ∀ c : EngineCall, (∀ s, e.native? = some s → s.HasIdsFor (e.crossing c)) →
        (∃ error, (MarketBridge.Engine.invoke c e).answer = .error error) →
          Traceless e (MarketBridge.Engine.invoke c e) := by
      intro c ids failed
      exact invoke_traceless h (.inr ⟨failed, ids⟩)
    cases st with
    | close => cases hfailed
    | push bar =>
      have failed := calls (.pushBar bar) hids
      exact failed_reply_leaves (fun _ => rfl) failed hfailed
    | update bar =>
      have failed := calls (.updateLastBar bar) hids
      exact failed_reply_leaves (fun _ => rfl) failed hfailed
    | pushCloses timestamp closes =>
      obtain ⟨error, hpushed⟩ := Answer.error_of_isFailure (fun _ => rfl) hfailed
      rw [pushCloses_ok h hclosed] at hpushed
      cases hpushed
    | addIndicator spec =>
      refine failed_reply_leaves (fun _ => rfl) (addIndicator_traceless h fun hspec => ?_) hfailed
      rwa [MarketBridge.Engine.prescribed_addIndicator hspec] at hids
    | addRsi period =>
      refine failed_reply_leaves (fun _ => rfl) (addIndicator_traceless h fun hspec => ?_) hfailed
      rwa [MarketBridge.Engine.prescribed_addRsi hspec] at hids
    | addStrategy name text =>
      have failed := calls (.addStrategy name text) hids
      exact failed_reply_leaves (fun _ => rfl) failed hfailed
    | poll =>
      -- an open engine is drained, and refused tags are not the kind of failure that counts
      obtain ⟨batch, hdrained⟩ := drain_ok h hclosed
      have hanswer : (e.perform buffer .poll).answer.1 = .ofExcept .signals batch.signals := by
        show Answer.ofExcept .signals ((MarketBridge.Engine.drain e).answer.bind _) = _
        rw [hdrained]
        rfl
      rw [hanswer] at hfailed
      unfold Batch.signals at hfailed
      cases hrefused : batch.refused with
      | nil =>
        rw [hrefused] at hfailed
        cases hfailed
      | cons first rest =>
        rw [hrefused] at hfailed
        cases hfailed
    | drain =>
      obtain ⟨batch, hdrained⟩ := drain_ok h hclosed
      have hanswer : (e.perform buffer .drain).answer.1 =
          .drained batch.count (buffer ++ batch.accepted) := by
        show Answer.drained (MarketBridge.Engine.drainSignalsInto buffer e).answer.1
          (MarketBridge.Engine.drainSignalsInto buffer e).answer.2 = _
        unfold MarketBridge.Engine.drainSignalsInto
        rw [Op.bind_apply, hdrained]
        rfl
      rw [hanswer] at hfailed
      unfold Batch.count at hfailed
      cases hrefused : batch.refused with
      | nil =>
        rw [hrefused] at hfailed
        cases hfailed
      | cons first rest =>
        rw [hrefused] at hfailed
        cases hfailed
    | _ => exact read_leaves h rfl

/-- A step that reads leaves the wrapper, and so does one that fails, unless it has run out of
ids. -/
theorem perform_leaves (h : Wraps e) {st : EngineStep}
    (hst : st.isRead = true ∨ (e.perform buffer st).answer.1.isFailure = true ∧
      ∀ s, e.native? = some s → s.HasIdsFor (e.prescribed st)) :
    Leaves e buffer (e.perform buffer st) := by
  rcases hst with read | ⟨failed, ids⟩
  · exact read_leaves h read
  · exact failed_leaves h ids failed

end Engines

/-! ## Steps on backtests -/

section Backtests

variable {x : MarketBridge.Backtest Engine Backtest}

/-- Calls to a backtest of the reference engine do not fail. -/
theorem invokeBacktest_ok (hlive : x.Live) (hx : ∀ b ∈ x.backend?, OnReference b)
    (hopen : x.isClosed = false) (c : BacktestCall) :
    ∃ a, (MarketBridge.Backtest.invoke c x).answer = .ok a := by
  obtain ⟨link, kind, params⟩ := x
  cases link with
  | none => cases hopen
  | some l =>
    have live := hlive l rfl
    have hl := hx l.backend rfl
    cases live with
    | table b s => exact ⟨_, rfl⟩
    | inProcess m s =>
      cases hl with
      | inProcess => exact ⟨_, rfl⟩

/-- Asking for the standing at a price leaves the backtest. -/
theorem result_traceless (hlive : x.Live) (hx : ∀ b ∈ x.backend?, OnReference b) (price : Double) :
    Traceless x (MarketBridge.Backtest.invoke (.result price) x) := by
  obtain ⟨link, kind, params⟩ := x
  cases link with
  | none => exact ⟨rfl, rfl⟩
  | some l =>
    have live := hlive l rfl
    have hl := hx l.backend rfl
    cases live with
    | table b s =>
      cases hl with
      | table b site hcode hsite =>
        obtain ⟨origin, dynamic, table, native⟩ := b
        dsimp only at hcode
        subst hcode
        refine ⟨rfl, shown_eq_nil fun event hmem => ?_⟩
        obtain rfl := List.mem_singleton.mp hmem
        exact not_isShown hsite rfl
    | inProcess m s =>
      cases hl with
      | inProcess => exact ⟨rfl, rfl⟩

/-- A step that reads or fails leaves the backtest. -/
theorem performBacktest_leaves (hlive : x.Live) (hx : ∀ b ∈ x.backend?, OnReference b)
    {st : BacktestStep} (hst : st.isRead = true ∨ (x.perform st).answer.isFailure = true) :
    Traceless x (x.perform st) := by
  -- a call that fails found the wrapper closed
  have calls : ∀ c : BacktestCall,
      (∃ error, (MarketBridge.Backtest.invoke c x).answer = .error error) →
        Traceless x (MarketBridge.Backtest.invoke c x) := by
    intro c failed
    obtain ⟨error, failed⟩ := failed
    cases hclosed : x.isClosed with
    | true =>
      obtain ⟨link, kind, params⟩ := x
      obtain rfl : link = none := Option.isNone_iff_eq_none.mp hclosed
      exact ⟨rfl, rfl⟩
    | false =>
      obtain ⟨a, answered⟩ := invokeBacktest_ok hlive hx hclosed c
      rw [answered] at failed
      cases failed
  cases st with
  | close =>
    rcases hst with read | failed
    · cases read
    · cases failed
  | isClosed => exact ⟨rfl, rfl⟩
  | kind => exact ⟨rfl, rfl⟩
  | describe => exact ⟨rfl, rfl⟩
  | params => exact ⟨rfl, rfl⟩
  | applySignal text price margin =>
    rcases hst with read | failed
    · cases read
    · have happly := Answer.error_of_isFailure (fun _ => rfl) failed
      refine .andThen (Answer.ofExcept fun _ => .done) ?_
      unfold MarketBridge.Backtest.applySignal at happly ⊢
      cases hparse : Action.parse text with
      | error error => exact .pure _
      | ok action =>
        rw [hparse] at happly
        exact calls (.applySignal action.tag price margin) happly
  | apply action price margin =>
    rcases hst with read | failed
    · cases read
    · have happly := Answer.error_of_isFailure (fun _ => rfl) failed
      exact (calls (.applySignal action.tag price margin) happly).andThen _
  | onPrice price =>
    rcases hst with read | failed
    · cases read
    · have hvalued := Answer.error_of_isFailure (fun _ => rfl) failed
      exact (calls (.onPrice price) hvalued).andThen _
  | result price => exact ((result_traceless hlive hx price).andThen _).andThen _

end Backtests

/-! ## Constructors -/

theorem createEngine_shown {b : Backend Engine Backtest} (h : OnReference b) (capacity : UInt64) :
    shown (b.createEngine capacity ()).events = [] := by
  cases h with
  | table b site hcode hsite =>
    have hrun : b.code.site ≠ .scripted := by rwa [hcode]
    have hnew : (Event.native b.code.site (.engineNew capacity)).isShown = false :=
      not_isShown hrun rfl
    rw [Backend.createEngine_table]
    cases b.code.newEngine capacity with
    | none => exact shown_eq_nil (List.forall_mem_singleton.mpr hnew)
    | some s =>
      exact shown_eq_nil (List.forall_mem_cons.mpr ⟨hnew, List.forall_mem_singleton.mpr rfl⟩)
  | inProcess =>
    rw [Backend.createEngine_inProcess]
    cases engineModule.newEngine capacity with
    | none => rfl
    | some s => rfl

theorem createBacktest_shown {b : Backend Engine Backtest} (h : OnReference b)
    (params : BacktestParams) : shown (b.createBacktest params ()).events = [] := by
  cases h with
  | table b site hcode hsite =>
    have hrun : b.code.site ≠ .scripted := by rwa [hcode]
    have hnew : (Event.native b.code.site (.backtestNew params)).isShown = false :=
      not_isShown hrun rfl
    rw [Backend.createBacktest_table]
    cases b.code.newBacktest params with
    | none => exact shown_eq_nil (List.forall_mem_singleton.mpr hnew)
    | some s =>
      exact shown_eq_nil (List.forall_mem_cons.mpr ⟨hnew, List.forall_mem_singleton.mpr rfl⟩)
  | inProcess =>
    rw [Backend.createBacktest_inProcess]
    cases engineModule.newBacktest params with
    | none => rfl
    | some s => rfl

variable {bridge : Bridge Engine Backtest}

/-- Making an engine is not shown. -/
theorem engineCreate_shown (h : OnReference bridge.backend) (capacity : UInt64) :
    shown (MarketBridge.Engine.create bridge capacity ()).events = [] := by
  have hmade := createEngine_shown h capacity
  unfold MarketBridge.Engine.create
  by_cases zero : capacity = 0
  · rw [if_pos zero]
    rfl
  · rw [if_neg zero, Op.bind_apply]
    dsimp only
    rw [shown_append, hmade]
    cases (bridge.backend.createEngine capacity ()).answer with
    | error error => rfl
    | ok l => rfl

/-- Making a backtest is not shown. -/
theorem backtestCreate_shown (h : OnReference bridge.backend) (params : BacktestParams) :
    shown (MarketBridge.Backtest.create bridge params ()).events = [] := by
  have hmade := createBacktest_shown h params
  unfold MarketBridge.Backtest.create
  cases params.validate with
  | error error => rfl
  | ok _ =>
    dsimp only
    rw [Op.bind_apply]
    dsimp only
    rw [shown_append, hmade]
    cases (bridge.backend.createBacktest params ()).answer with
    | error error => rfl
    | ok l => rfl

/-- Finding the bridge of the environment is not shown. -/
theorem bridgeOfEnvironment_shown (host : Host Engine Backtest) :
    shown (Bridge.ofEnvironment host ()).events = [] := by
  obtain ⟨-, silent⟩ := Bridge.ofEnvironment_keeps (I := fun _ => True)
    (p := fun event => event.isShown = false) (fun _ => rfl) host () trivial
  exact shown_eq_nil silent

theorem engineOfEnvironment_shown {host : Host Engine Backtest} (h : host.Offers OnReference)
    (capacity : UInt64) :
    shown (MarketBridge.Engine.ofEnvironment host capacity ()).events = [] := by
  unfold MarketBridge.Engine.ofEnvironment
  rw [Op.bind_apply]
  dsimp only
  rw [shown_append, bridgeOfEnvironment_shown]
  cases hfound : (Bridge.ofEnvironment host ()).answer with
  | error error => rfl
  | ok bridge => exact engineCreate_shown (h bridge hfound) capacity

theorem backtestOfEnvironment_shown {host : Host Engine Backtest} (h : host.Offers OnReference)
    (params : BacktestParams) :
    shown (MarketBridge.Backtest.ofEnvironment host params ()).events = [] := by
  unfold MarketBridge.Backtest.ofEnvironment
  rw [Op.bind_apply]
  dsimp only
  rw [shown_append, bridgeOfEnvironment_shown]
  cases hfound : (Bridge.ofEnvironment host ()).answer with
  | error error => rfl
  | ok bridge => exact backtestCreate_shown (h bridge hfound) params

end Reference

end MarketBridge
