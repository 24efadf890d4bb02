import MarketBridge.Proofs.Reference.Untouched
import MarketBridge.Proofs.Session.Called

/-!
# `Reference.Thinned` — failed calls and reads leave no trace

In a session over the reference engine a step that reads or fails leaves the whole session as it
was, and nothing to show (`deleted_traceless`). So it can be deleted without a change to what any
other step comes to (`failed_calls_leave_no_trace`). There is one exception. The ids of indicators
have thirty-two bits, and when they run out the table takes the id zero for a refusal although the
engine has the indicator, so that the ids after it tell whether the step was carried out
(`exhausted_ids_leave_a_trace`).
-/

namespace MarketBridge

open Outcome

namespace Session

/-- The step reads, or it fails. -/
def ReadsOrFails {ε β : Type} (s : Session ε β) (st : Step) : Prop :=
  st.isRead = true ∨ (step st s).answer.isFailure = true

instance {ε β : Type} (s : Session ε β) (st : Step) : Decidable (s.ReadsOrFails st) :=
  inferInstanceAs (Decidable (_ ∨ _))

/-- If the step makes a registration cross to an engine, the engine has an id other than zero for
it. -/
def HasIdFor (s : Session Reference.Engine Reference.Backtest) : Step → Prop
  | .engine slot st => ∀ e ∈ s.engines.get? slot, ∀ native ∈ e.native?,
    native.HasIdsFor (e.prescribed st)
  | _ => True

instance (s : Session Reference.Engine Reference.Backtest) : DecidablePred s.HasIdFor
  | .engine slot st => inferInstanceAs (Decidable (∀ e ∈ s.engines.get? slot,
    ∀ native ∈ e.native?, native.HasIdsFor (e.prescribed st)))
  | .newEngine _ _ | .newEngineFromEnvironment _ _ | .dropEngine _ => .isTrue trivial
  | .newBacktest _ _ | .newBacktestFromEnvironment _ _ | .dropBacktest _ => .isTrue trivial
  | .backtest _ _ | .buffer | .clearBuffer | .calls | .counters => .isTrue trivial

end Session

namespace Reference

variable {s t : Session Engine Backtest} {j : List Event}

/-! ## One step -/

theorem placeEngine_traceless {slot : Nat}
    {op : Op Unit (Except Error (MarketBridge.Engine Engine Backtest))}
    (hshown : shown (op ()).events = [])
    (hfailed : ((Op.lift op >>= Session.placeEngine slot) s).answer.isFailure = true) :
    Traceless s ((Op.lift op >>= Session.placeEngine slot) s) := by
  cases hmade : (op ()).answer with
  | error error =>
    rw [Session.placeEngine_of_error hmade]
    exact ⟨rfl, hshown⟩
  | ok e =>
    rw [Session.placeEngine_of_ok hmade] at hfailed
    cases hfailed

theorem placeBacktest_traceless {slot : Nat}
    {op : Op Unit (Except Error (MarketBridge.Backtest Engine Backtest))}
    (hshown : shown (op ()).events = [])
    (hfailed : ((Op.lift op >>= Session.placeBacktest slot) s).answer.isFailure = true) :
    Traceless s ((Op.lift op >>= Session.placeBacktest slot) s) := by
  cases hmade : (op ()).answer with
  | error error =>
    rw [Session.placeBacktest_of_error hmade]
    exact ⟨rfl, hshown⟩
  | ok x =>
    rw [Session.placeBacktest_of_ok hmade] at hfailed
    cases hfailed

theorem engine_traceless (hlive : s.Live j) (hordered : s.Ordered)
    (hthrough : s.Through OnReference) {slot : Nat} {inner : EngineStep}
    (h : s.ReadsOrFails (.engine slot inner)) (hids : s.HasIdFor (.engine slot inner)) :
    Traceless s (Session.step (.engine slot inner) s) := by
  cases there : s.engines.get? slot with
  | none =>
    rw [Session.step_engine_of_none there]
    exact ⟨rfl, rfl⟩
  | some e =>
    have hmem := Slots.mem_toList_of_get? there
    have hwraps : Wraps e := ⟨hlive.engines e hmem, hthrough.engines e hmem⟩
    unfold Session.ReadsOrFails at h
    rw [Session.step_engine hordered there] at h ⊢
    have hst : inner.isRead = true ∨ (e.perform s.buffer inner).answer.1.isFailure = true ∧
        ∀ native, e.native? = some native → native.HasIdsFor (e.prescribed inner) :=
      h.imp_right fun failed => ⟨failed, hids e there⟩
    obtain ⟨⟨state, events⟩, buffer⟩ := perform_leaves hwraps hst
    refine ⟨?_, events⟩
    dsimp only
    rw [state, buffer, hordered.engines.set_of_get? there]

theorem backtest_traceless (hlive : s.Live j) (hordered : s.Ordered)
    (hthrough : s.Through OnReference) {slot : Nat} {inner : BacktestStep}
    (h : s.ReadsOrFails (.backtest slot inner)) :
    Traceless s (Session.step (.backtest slot inner) s) := by
  cases there : s.backtests.get? slot with
  | none =>
    rw [Session.step_backtest_of_none there]
    exact ⟨rfl, rfl⟩
  | some x =>
    have hmem := Slots.mem_toList_of_get? there
    unfold Session.ReadsOrFails at h
    rw [Session.step_backtest hordered there] at h ⊢
    obtain ⟨state, events⟩ := performBacktest_leaves (hlive.backtests x hmem)
      (hthrough.backtests x hmem) h
    refine ⟨?_, events⟩
    dsimp only
    rw [state, hordered.backtests.set_of_get? there]

/-- A step that reads or fails leaves the session as it was and has nothing to show. -/
theorem deleted_traceless (hlive : s.Live j) (hordered : s.Ordered)
    (hthrough : s.Through OnReference) {st : Step}
    (hoffers : st.selects = true → s.host.Offers OnReference) (h : s.ReadsOrFails st)
    (hids : s.HasIdFor st) : Traceless s (Session.step st s) := by
  -- a step that does not read must have failed
  have failed : st.isRead = false → (Session.step st s).answer.isFailure = true := by
    intro hread
    rcases h with read | failed
    · exact absurd (hread.symm.trans read) Bool.false_ne_true
    · exact failed
  cases st with
  | newEngine slot capacity =>
    exact placeEngine_traceless (engineCreate_shown hthrough.bridge capacity) (failed rfl)
  | newEngineFromEnvironment slot capacity =>
    exact placeEngine_traceless (engineOfEnvironment_shown (hoffers rfl) capacity) (failed rfl)
  | dropEngine slot =>
    have hanswer := failed rfl
    cases there : s.engines.get? slot with
    | none =>
      rw [Session.step_dropEngine_of_none there] at hanswer
      cases hanswer
    | some e =>
      rw [Session.step_dropEngine there] at hanswer
      cases hanswer
  | engine slot inner => exact engine_traceless hlive hordered hthrough h hids
  | newBacktest slot params =>
    exact placeBacktest_traceless (backtestCreate_shown hthrough.bridge params) (failed rfl)
  | newBacktestFromEnvironment slot params =>
    exact placeBacktest_traceless (backtestOfEnvironment_shown (hoffers rfl) params) (failed rfl)
  | dropBacktest slot =>
    have hanswer := failed rfl
    cases there : s.backtests.get? slot with
    | none =>
      rw [Session.step_dropBacktest_of_none there] at hanswer
      cases hanswer
    | some x =>
      rw [Session.step_dropBacktest there] at hanswer
      cases hanswer
  | backtest slot inner => exact backtest_traceless hlive hordered hthrough h
  | buffer => exact ⟨rfl, rfl⟩
  | clearBuffer => cases failed rfl
  | calls => cases failed rfl
  | counters => exact ⟨rfl, rfl⟩

/-! ## Two runs -/

/-- Two sessions over the reference engine that differ at most in what is not shown. -/
structure Same (host : Host Engine Backtest) (bridge : Bridge Engine Backtest)
    (s t : Session Engine Backtest) : Prop where
  paired : s.Paired host bridge bridge Eq Eq t
  live : s.Live s.journal
  through : s.Through OnReference

variable {host : Host Engine Backtest} {bridge : Bridge Engine Backtest}

theorem same_start (hbridge : OnReference bridge.backend) :
    Same host bridge (.start host bridge) (.start host bridge) :=
  ⟨Session.paired_start host bridge bridge, Session.live_start host bridge,
    Session.through_start host hbridge⟩

/-- Equal wrappers act alike. -/
theorem pairing_self (bridge : Bridge Engine Backtest) : Pairing bridge bridge Eq Eq where
  sameEngine _ := rfl
  sameBacktest _ := rfl
  createEngine _ := ⟨.refl (fun _ => rfl) _, rfl, rfl⟩
  createBacktest _ := ⟨.refl (fun _ => rfl) _, rfl, rfl⟩
  dropEngine := by
    rintro e _ rfl
    rfl
  dropBacktest := by
    rintro x _ rfl
    rfl
  backtest := by
    rintro st x _ rfl
    exact ⟨rfl, rfl, rfl⟩

/-- A step leaves the first of the two live and on the reference engine. -/
theorem Same.advance (h : Same host bridge s t) {st : Step}
    (hoffers : st.selects = true → host.Offers OnReference) {t' : Session Engine Backtest}
    (hpaired : (Session.advance (Session.step st) s).2.Paired host bridge bridge Eq Eq t') :
    Same host bridge (Session.advance (Session.step st) s).2 t' := by
  obtain ⟨live, -⟩ := Session.advance_crosses (Session.step_crosses h.live st)
  have hoffers' : st.selects = true → s.host.Offers OnReference := by
    rwa [h.paired.hosts.1]
  obtain ⟨bridges, engines, backtests⟩ := h.through.step h.live h.paired.ordered st hoffers'
  exact ⟨hpaired, live, bridges, engines, backtests⟩

/-- A step that both carry out comes to the same. -/
theorem Same.keep (h : Same host bridge s t) {st : Step}
    (hoffers : st.selects = true → host.Offers OnReference) :
    Session.report st s = Session.report st t ∧
      Same host bridge (Session.advance (Session.step st) s).2
        (Session.advance (Session.step st) t).2 := by
  -- both have the very same wrappers, and do the very same to them
  have hact : s.ActAlike Eq st := by
    rintro slot inner e _ - - rfl
    exact .refl rfl
  have hstep := Session.step_paired (pairing_self bridge) h.paired st hact
  exact ⟨Session.report_eq_of_paired hstep, h.advance hoffers (Session.advance_paired hstep)⟩

/-- A step that only the first carries out is not noticed, if it reads or fails. -/
theorem Same.delete (h : Same host bridge s t) {st : Step}
    (hoffers : st.selects = true → host.Offers OnReference) (hst : s.ReadsOrFails st)
    (hids : s.HasIdFor st) : Same host bridge (Session.advance (Session.step st) s).2 t := by
  have hoffers' : st.selects = true → s.host.Offers OnReference := by
    rwa [h.paired.hosts.1]
  obtain ⟨state, events⟩ := deleted_traceless h.live h.paired.ordered h.through hoffers' hst hids
  -- all that the step can have added to the session is in its journal, and not shown
  have hafter : (Session.advance (Session.step st) s).2 =
      { s with journal := s.journal ++ (Session.step st s).events } := by
    unfold Session.advance
    dsimp only
    rw [state]
  have hjournal : shown (s.journal ++ (Session.step st s).events) = shown t.journal := by
    rw [shown_append, events, List.append_nil, h.paired.journal]
  refine h.advance hoffers ?_
  rw [hafter]
  exact { h.paired with
    ordered := ⟨h.paired.ordered.engines, h.paired.ordered.backtests⟩
    journal := hjournal }

/-- **Failed calls and reads leave no trace.** In a session over the reference engine, reached
through a table or as the module, let some steps be marked for deletion, each of them a read or one
that fails, and none a registration for which the engine is out of ids. Whether they are carried out
makes no difference to the other steps: each gives the same answer, leaves the same signal buffer
and the same counters, and so does the end of the session, when all that is open is freed. Drains
that meet a tag without meaning are not failures here, since they take the signals that they
report. -/
theorem failed_calls_leave_no_trace (hbridge : OnReference bridge.backend)
    (plan : List (Step × Bool))
    (hoffers : ∀ next ∈ plan, next.1.selects = true → host.Offers OnReference)
    (hdeleted : ∀ done st, done ++ [(st, false)] <+: plan →
      (Session.run (allSteps done) (.start host bridge)).2.ReadsOrFails st)
    (hids : ∀ done st, done ++ [(st, false)] <+: plan →
      (Session.run (allSteps done) (.start host bridge)).2.HasIdFor st) :
    Session.keptReports plan (.start host bridge) =
        Session.reports (keptSteps plan) (.start host bridge) ∧
      (Session.run (allSteps plan) (.start host bridge)).2.closingCounters =
        (Session.run (keptSteps plan) (.start host bridge)).2.closingCounters := by
  have hkeep : ∀ s t st, Same host bridge s t →
      (st.selects = true → host.Offers OnReference) →
        Session.report st s = Session.report st t ∧
          Same host bridge (Session.advance (Session.step st) s).2
            (Session.advance (Session.step st) t).2 :=
    fun _ _ _ h offers => h.keep offers
  have hdelete : ∀ s t st, Same host bridge s t →
      ((st.selects = true → host.Offers OnReference) ∧ s.ReadsOrFails st ∧ s.HasIdFor st) →
        Same host bridge (Session.advance (Session.step st) s).2 t :=
    fun _ _ _ h ⟨offers, deleted, ids⟩ => h.delete offers deleted ids
  have hplan : ∀ done st kept, done ++ [(st, kept)] <+: plan →
      st.selects = true → host.Offers OnReference := by
    intro done st kept hdone
    exact hoffers (st, kept) (hdone.subset (List.mem_append_right done (List.mem_singleton_self _)))
  obtain ⟨hreports, hsame⟩ := Session.thinned hkeep hdelete plan (same_start hbridge)
    fun done st kept hdone => by
      refine ⟨fun _ => hplan done st kept hdone, fun hkept => ⟨hplan done st kept hdone, ?_⟩⟩
      rw [hkept] at hdone
      exact ⟨hdeleted done st hdone, hids done st hdone⟩
  exact ⟨hreports, Session.closingCounters_eq_of_paired (pairing_self bridge) hsame.paired⟩

/-- Reads and all sorts of failures: an argument that is not valid, a symbol that the library lacks,
a strategy that the engine refuses, a closed engine, and an engine that cannot be made. Between them
an engine whose signal has no meaning is drained. -/
def failingPlan : List (Step × Bool) :=
  [(.newEngine 0 2, true), (.engine 0 (.addRsi 0), false),
    (.engine 0 (.addIndicator (.sma 3)), false), (.engine 0 (.addStrategy "none" "BUY"), false),
    (.engine 0 (.addStrategy "odd" "EMIT 7"), true),
    (.engine 0 (.pushCloses 5 [1.5, 2.5]), true), (.engine 0 .signalsLen, false),
    (.engine 0 .drain, true), (.newEngineFromEnvironment 1 0, false),
    (.newEngineFromEnvironment 1 4, true), (.engine 0 .close, true), (.engine 0 .poll, false),
    (.newEngine 0 0, false), (.engine 1 .len, true)]

/-- A session on a library without the optional symbols, in an environment that leads to the
module. -/
def failingStart : Session Engine Backtest :=
  .start ⟨.unset "linux", some engineModule, fun _ => none⟩ ⟨.table (linked coreTable), .strict⟩

theorem failingPlan_leaves_no_trace :
    OnReference (.table (linked coreTable)) ∧
    (Host.mk (.unset "linux") (some engineModule) fun _ => none).Offers OnReference ∧
    (∀ done st, done ++ [(st, false)] <+: failingPlan →
      (Session.run (allSteps done) failingStart).2.ReadsOrFails st) ∧
    (∀ done st, done ++ [(st, false)] <+: failingPlan →
      (Session.run (allSteps done) failingStart).2.HasIdFor st) ∧
    Session.keptReports failingPlan failingStart =
      Session.reports (keptSteps failingPlan) failingStart := by
  have hbridge : OnReference (.table (linked coreTable)) := .table _ .linked rfl nofun
  have hoffers :
      (Host.mk (.unset "linux") (some engineModule) fun _ => none).Offers OnReference := by
    rintro bridge ⟨⟩
    exact .inProcess
  have hmarked : ∀ done ∈ failingPlan.inits, ∀ last ∈ done.getLast?, last.2 = false →
      (Session.run (allSteps done.dropLast) failingStart).2.ReadsOrFails last.1 ∧
        (Session.run (allSteps done.dropLast) failingStart).2.HasIdFor last.1 := by decide +kernel
  have hplan : ∀ done st, done ++ [(st, false)] <+: failingPlan →
      (Session.run (allSteps done) failingStart).2.ReadsOrFails st ∧
        (Session.run (allSteps done) failingStart).2.HasIdFor st := by
    intro done st hdone
    have hst := hmarked _ ((List.mem_inits _ _).mpr hdone) (st, false) (by simp) rfl
    rwa [List.dropLast_concat] at hst
  have hdeleted := fun done st hdone => (hplan done st hdone).1
  have hids := fun done st hdone => (hplan done st hdone).2
  have hreports := (failed_calls_leave_no_trace hbridge failingPlan (fun _ _ _ => hoffers)
    hdeleted hids).1
  exact ⟨hbridge, hoffers, hdeleted, hids, hreports⟩

/-! ## When the ids run out -/

/-- Registers an indicator with the engine at place zero. -/
def registering : Step :=
  .engine 0 (.addRsi 1)

/-- The session has at place zero an engine behind the table of all symbols, with so many
indicators. -/
structure Registered (n : Nat) (s : Session Engine Backtest) : Prop where
  ordered : s.Ordered
  engine : ∃ decode native,
    s.engines.get? 0 = some (opened .dylib decode 1 native) ∧ native.measures.length = n

section Exhausted

variable {n : Nat}

/-- The engine gives out the number of its indicators as an id, and the table takes zero for a
refusal; either way there is one indicator more. -/
theorem addRsi_opened (decode : DecodePolicy) (native : Engine) :
    (MarketBridge.Engine.addRsi 1 (opened .dylib decode 1 native)).answer =
        TableBackend.accepted (UInt32.ofNat (native.measures.length + 1))
          (.rejectedIndicator (.rsi 1)) ∧
      ∃ native', (MarketBridge.Engine.addRsi 1 (opened .dylib decode 1 native)).state =
          opened .dylib decode 1 native' ∧
        native'.measures.length = native.measures.length + 1 := by
  have hspec : (IndicatorSpec.rsi 1).Acceptable :=
    (IndicatorSpec.acceptable_rsi_iff 1).mpr (by decide)
  have hadd : (MarketBridge.Engine.addRsi 1 : Op (MarketBridge.Engine Engine Backtest) _) =
      MarketBridge.Engine.invoke (.addIndicator (.rsi 1)) :=
    MarketBridge.Engine.addIndicator_of_acceptable hspec
  have hmeasures : (native.answer (.addIndicator (.rsi 1))).2.measures.length =
      native.measures.length + 1 := by
    show (native.measures ++ [_]).length = _
    rw [List.length_append, List.length_singleton]
  have hid : (native.answer (.addIndicator (.rsi 1))).1 =
      UInt32.ofNat (native.measures.length + 1) := by
    rw [← hmeasures]
    rfl
  rw [hadd]
  refine ⟨?_, _, invoke_opened_state .dylib decode 1 native _, hmeasures⟩
  rw [← hid]
  show ((linked fullTable).engineCall (.addIndicator (.rsi 1)) native).answer = _
  rw [TableBackend.engineCall, needing_linked]
  rfl

theorem Registered.step (h : Registered n s) :
    (Session.step registering s).answer = .ofExcept (fun id => .number id.toUInt64)
        (TableBackend.accepted (UInt32.ofNat (n + 1)) (.rejectedIndicator (.rsi 1))) ∧
      Registered (n + 1) (Session.advance (Session.step registering) s).2 := by
  obtain ⟨decode, native, there, rfl⟩ := h.engine
  obtain ⟨hanswer, native', hstate, hlength⟩ := addRsi_opened decode native
  have hordered := h.ordered.advance registering
  have hstep := Session.step_engine h.ordered there (.addRsi 1)
  refine ⟨?_, hordered, decode, native', ?_, hlength⟩
  · unfold registering
    rw [hstep, ← hanswer]
    rfl
  · unfold registering Session.advance
    rw [hstep]
    show (s.engines.set 0 (MarketBridge.Engine.addRsi 1 _).state).get? 0 = _
    rw [Slots.get?_set, if_pos rfl, hstate]

theorem Registered.run {m : Nat} (h : Registered m s) (n : Nat) :
    Registered (m + n) (Session.run (List.replicate n registering) s).2 := by
  induction n generalizing m s with
  | zero => exact h
  | succ n ih =>
    have hrest := ih h.step.2
    rw [Nat.add_right_comm] at hrest
    exact hrest

theorem registered_new (host : Host Engine Backtest) (decode : DecodePolicy) :
    Registered 0 (Session.advance (Session.step (.newEngine 0 1))
      (.start host ⟨.table (linked fullTable), decode⟩)).2 := by
  refine ⟨(Session.ordered_start host _).advance _, decode, (Engine.new? 1).get rfl, ?_, rfl⟩
  have hcreate : (MarketBridge.Engine.create ⟨backend .dylib, decode⟩ 1 ()).answer =
      .ok (opened .dylib decode 1 ((Engine.new? 1).get rfl)) := create_opened .dylib decode rfl
  have hplaced : (Session.step (.newEngine 0 1)
      (.start host ⟨.table (linked fullTable), decode⟩)).state.engines = Slots.set _ 0 _ :=
    congrArg (·.state.engines) (Session.placeEngine_of_ok hcreate)
  unfold Session.advance
  rw [hplaced, Slots.get?_set, if_pos rfl]

/-- Makes an engine and registers `n` indicators with it, then one that is deleted, and another. -/
def registeringPlan (n : Nat) : List (Step × Bool) :=
  (.newEngine 0 1 :: List.replicate n registering).map (·, true) ++
    [(registering, false), (registering, true)]

/-- None of these steps selects a bridge. -/
theorem selects_of_mem_registeringPlan {next : Step × Bool} (h : next ∈ registeringPlan n) :
    next.1.selects = false := by
  unfold registeringPlan at h
  rcases List.mem_append.mp h with before | last
  · obtain ⟨st, hst, rfl⟩ := List.mem_map.mp before
    rcases List.mem_cons.mp hst with rfl | repeated
    · rfl
    · rw [List.eq_of_mem_replicate repeated]
      rfl
  · rcases List.mem_cons.mp last with rfl | last
    · rfl
    · rw [List.mem_singleton.mp last]
      rfl

/-- A registration that fails because the ids have run out leaves a trace: without it the next one
fails, and with it the next one succeeds. -/
theorem registering_leaves_a_trace (host : Host Engine Backtest) (decode : DecodePolicy)
    (hn : (n + 1) % UInt32.size = 0) :
    (∀ done st, done ++ [(st, false)] <+: registeringPlan n →
      (Session.run (allSteps done)
        (.start host ⟨.table (linked fullTable), decode⟩)).2.ReadsOrFails st) ∧
    Session.keptReports (registeringPlan n) (.start host ⟨.table (linked fullTable), decode⟩) ≠
      Session.reports (keptSteps (registeringPlan n))
        (.start host ⟨.table (linked fullTable), decode⟩) := by
  generalize hstart : Session.start host ⟨.table (linked fullTable), decode⟩ = start
  have hregistered : Registered n
      (Session.run (.newEngine 0 1 :: List.replicate n registering) start).2 := by
    have hrun := (registered_new host decode).run n
    rwa [hstart, Nat.zero_add] at hrun
  obtain ⟨hfailed, hafter⟩ := hregistered.step
  obtain ⟨hanswer, -⟩ := hafter.step
  have hzero : UInt32.ofNat (n + 1) = 0 := by
    rw [← UInt32.toNat_inj, UInt32.toNat_ofNat', hn]
    rfl
  have hone : UInt32.ofNat (n + 1 + 1) = 1 := by
    rw [UInt32.ofNat_add, hzero]
    rfl
  rw [hzero] at hfailed
  rw [hone] at hanswer
  unfold registeringPlan
  constructor
  · intro done st hdone
    obtain ⟨rfl, rfl⟩ := eq_of_deleted hdone
    rw [allSteps_kept]
    refine .inr ?_
    rw [hfailed]
    rfl
  · intro hreports
    rw [Session.keptReports_append, keptSteps_append, Session.reports_append,
      List.append_cancel_left_eq] at hreports
    -- the last report is all that is left on either side
    have hlast := congrArg Report.answer (List.cons.inj hreports).1
    cases hanswer.symm.trans (hlast.trans hfailed)

end Exhausted

/-- With all indicators but one that thirty-two bits can count, the next one fails and is there all
the same: the one after it succeeds, and would fail if the failed one had been left out. -/
theorem exhausted_ids_leave_a_trace :
    OnReference (.table (linked fullTable)) ∧
    (∀ next ∈ registeringPlan (UInt32.size - 1), next.1.selects = false) ∧
    (∀ done st, done ++ [(st, false)] <+: registeringPlan (UInt32.size - 1) →
      (Session.run (allSteps done) (.start ⟨.unset "linux", none, fun _ => none⟩
        ⟨.table (linked fullTable), .strict⟩)).2.ReadsOrFails st) ∧
    Session.keptReports (registeringPlan (UInt32.size - 1))
        (.start ⟨.unset "linux", none, fun _ => none⟩ ⟨.table (linked fullTable), .strict⟩) ≠
      Session.reports (keptSteps (registeringPlan (UInt32.size - 1)))
        (.start ⟨.unset "linux", none, fun _ => none⟩ ⟨.table (linked fullTable), .strict⟩) := by
  have hsize : (UInt32.size - 1 + 1) % UInt32.size = 0 := by decide
  exact ⟨.table _ .linked rfl nofun, fun _ hnext => selects_of_mem_registeringPlan hnext,
    registering_leaves_a_trace _ .strict hsize⟩

end Reference

end MarketBridge
