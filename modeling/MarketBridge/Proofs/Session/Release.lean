import MarketBridge.Proofs.Session.Owned

/-!
# `Session.Release` — every native resource is freed exactly once

What is made comes in, what is closed, dropped or replaced goes out, and nothing else changes what
the wrappers of a session own (`Session.step_settles`). Over a whole session the resources that were
freed and those that are still owned are therefore just those that were made
(`Session.Live.settles`), and when everything has been dropped all of them have been freed
(`Session.natives_are_freed_once`).
-/

namespace MarketBridge

variable {ε β : Type}

/-! ## Steps -/

namespace Session

variable {s : Session ε β} {j : List Event}

/-- The outcome freed just `released`; that and what is owned then make up what was owned before
and what was `made`. -/
structure Settles (s : Session ε β) (released made : List Allocation)
    (o : Outcome (Session ε β) Answer) : Prop where
  freed : freed o.events = released
  balance : (released ++ o.state.owned).Perm (s.owned ++ made)

/-- What changes the session in neither its engines nor its backtests, and frees nothing. -/
theorem Settles.still {o : Outcome (Session ε β) Answer} (hfreed : MarketBridge.freed o.events = [])
    (howned : o.state.owned = s.owned) : Settles s [] [] o := by
  refine ⟨hfreed, ?_⟩
  rw [List.nil_append, List.append_nil, howned]

/-- A balance of engines is a balance of all that is owned. -/
theorem perm_of_engines {out into before after backtests : List Allocation}
    (h : (out ++ after).Perm (before ++ into)) :
    (out ++ (after ++ backtests)).Perm ((before ++ backtests) ++ into) := by
  have hall := h.append_right backtests
  rw [List.append_assoc, List.append_assoc] at hall
  rw [List.append_assoc]
  exact hall.trans (List.perm_append_comm.append_left before)

/-- A balance of backtests is a balance of all that is owned. -/
theorem perm_of_backtests {out into before after engines : List Allocation}
    (h : (out ++ after).Perm (before ++ into)) :
    (out ++ (engines ++ after)).Perm ((engines ++ before) ++ into) := by
  have hall := h.append_left engines
  rw [List.append_assoc]
  refine List.Perm.trans ?_ hall
  rw [← List.append_assoc, ← List.append_assoc]
  exact List.perm_append_comm.append_right after

theorem ownedByEngine_of_get? {slot : Nat} {e : Engine ε β} (he : s.engines.get? slot = some e) :
    s.ownedByEngine slot = e.owned := by
  unfold ownedByEngine
  rw [he]
  exact List.append_nil e.owned

theorem ownedByBacktest_of_get? {slot : Nat} {b : Backtest ε β}
    (hb : s.backtests.get? slot = some b) : s.ownedByBacktest slot = b.owned := by
  unfold ownedByBacktest
  rw [hb]
  exact List.append_nil b.owned

theorem ownedByEngine_of_none {slot : Nat} (h : s.engines.get? slot = none) :
    s.ownedByEngine slot = [] := by
  unfold ownedByEngine
  rw [h]
  rfl

theorem ownedByBacktest_of_none {slot : Nat} (h : s.backtests.get? slot = none) :
    s.ownedByBacktest slot = [] := by
  unfold ownedByBacktest
  rw [h]
  rfl

/-- Setting the place of an engine takes in what the new one owns and gives up what stood there. -/
theorem Ordered.perm_setEngine (h : s.Ordered) (slot : Nat) (e : Engine ε β) :
    (s.ownedByEngine slot ++ (s.engines.set slot e).toList.flatMap Engine.owned).Perm
      (s.engines.toList.flatMap Engine.owned ++ e.owned) := by
  have hplaces := (h.engines.perm_set slot e).flatMap_right Engine.owned
  rwa [List.flatMap_append, List.flatMap_append, List.flatMap_singleton] at hplaces

theorem Ordered.perm_setBacktest (h : s.Ordered) (slot : Nat) (b : Backtest ε β) :
    (s.ownedByBacktest slot ++ (s.backtests.set slot b).toList.flatMap Backtest.owned).Perm
      (s.backtests.toList.flatMap Backtest.owned ++ b.owned) := by
  have hplaces := (h.backtests.perm_set slot b).flatMap_right Backtest.owned
  rwa [List.flatMap_append, List.flatMap_append, List.flatMap_singleton] at hplaces

theorem placeEngine_settles (hlive : Live j s) (h : s.Ordered) (slot : Nat)
    {op : Op Unit (Except Error (Engine ε β))} {made : List Allocation}
    (hbuilds : Builds Engine.owned made (op ())) :
    Settles s (if made = [] then [] else s.ownedByEngine slot) made
      ((Op.lift op >>= placeEngine slot) s) := by
  cases hanswer : (op ()).answer with
  | error error =>
    rw [placeEngine_of_error hanswer, hbuilds.error error hanswer, if_pos rfl]
    exact .still hbuilds.freed rfl
  | ok e =>
    obtain ⟨nonempty, howned⟩ := hbuilds.ok e hanswer
    rw [placeEngine_of_ok hanswer, if_neg nonempty, ← howned]
    refine ⟨?_, perm_of_engines (h.perm_setEngine slot e)⟩
    -- what stood at the place is freed, if anything did
    rw [freed_append, hbuilds.freed, List.nil_append]
    cases there : s.engines.get? slot with
    | none => exact (ownedByEngine_of_none there).symm
    | some old =>
      rw [ownedByEngine_of_get? there]
      exact Engine.freed_drop (hlive.engines old (Slots.mem_toList_of_get? there))

theorem placeBacktest_settles (hlive : Live j s) (h : s.Ordered) (slot : Nat)
    {op : Op Unit (Except Error (Backtest ε β))} {made : List Allocation}
    (hbuilds : Builds Backtest.owned made (op ())) :
    Settles s (if made = [] then [] else s.ownedByBacktest slot) made
      ((Op.lift op >>= placeBacktest slot) s) := by
  cases hanswer : (op ()).answer with
  | error error =>
    rw [placeBacktest_of_error hanswer, hbuilds.error error hanswer, if_pos rfl]
    exact .still hbuilds.freed rfl
  | ok b =>
    obtain ⟨nonempty, howned⟩ := hbuilds.ok b hanswer
    rw [placeBacktest_of_ok hanswer, if_neg nonempty, ← howned]
    refine ⟨?_, perm_of_backtests (h.perm_setBacktest slot b)⟩
    -- what stood at the place is freed, if anything did
    rw [freed_append, hbuilds.freed, List.nil_append]
    cases there : s.backtests.get? slot with
    | none => exact (ownedByBacktest_of_none there).symm
    | some old =>
      rw [ownedByBacktest_of_get? there]
      exact Backtest.freed_drop (hlive.backtests old (Slots.mem_toList_of_get? there))

/-- Closing gives up what the wrapper owns, and every other step on it leaves things as they are. -/
theorem engine_settles (hlive : Live j s) (h : s.Ordered) {slot : Nat} {e : Engine ε β}
    (he : s.engines.get? slot = some e) (st : EngineStep) :
    Settles s (s.released (.engine slot st)) [] (step (.engine slot st) s) := by
  have live := hlive.engines e (Slots.mem_toList_of_get? he)
  have hplaces := h.perm_setEngine slot (e.perform s.buffer st).state
  have keeps : st ≠ .close → Settles s [] [] (step (.engine slot st) s) := by
    intro hst
    obtain ⟨hfreed, howned⟩ := Engine.perform_frees_nothing live s.buffer hst
    rw [step_engine h he]
    refine ⟨hfreed, perm_of_engines ?_⟩
    rw [ownedByEngine_of_get? he, howned] at hplaces
    rw [List.nil_append, List.append_nil]
    -- what the wrapper owns stands on both sides
    exact (List.perm_append_left_iff e.owned).mp (hplaces.trans List.perm_append_comm)
  cases st with
  | close =>
    rw [step_engine h he]
    refine ⟨?_, perm_of_engines ?_⟩
    · show freed ((e.close).events ++ []) = s.ownedByEngine slot
      rw [List.append_nil, Engine.freed_close live, ownedByEngine_of_get? he]
    · have hgone : (e.perform s.buffer .close).state.owned = [] := e.owned_close
      rwa [hgone] at hplaces
  | _ => exact keeps (by rintro ⟨⟩)

/-- Closing gives up what the wrapper owns, and every other step on it leaves things as they are. -/
theorem backtest_settles (hlive : Live j s) (h : s.Ordered) {slot : Nat} {b : Backtest ε β}
    (hb : s.backtests.get? slot = some b) (st : BacktestStep) :
    Settles s (s.released (.backtest slot st)) [] (step (.backtest slot st) s) := by
  have live := hlive.backtests b (Slots.mem_toList_of_get? hb)
  have hplaces := h.perm_setBacktest slot (b.perform st).state
  have keeps : st ≠ .close → Settles s [] [] (step (.backtest slot st) s) := by
    intro hst
    obtain ⟨hfreed, howned⟩ := Backtest.perform_frees_nothing live hst
    rw [step_backtest h hb]
    refine ⟨hfreed, perm_of_backtests ?_⟩
    rw [ownedByBacktest_of_get? hb, howned] at hplaces
    rw [List.nil_append, List.append_nil]
    -- what the wrapper owns stands on both sides
    exact (List.perm_append_left_iff b.owned).mp (hplaces.trans List.perm_append_comm)
  cases st with
  | close =>
    rw [step_backtest h hb]
    refine ⟨?_, perm_of_backtests ?_⟩
    · show freed ((b.close).events ++ []) = s.ownedByBacktest slot
      rw [List.append_nil, Backtest.freed_close live, ownedByBacktest_of_get? hb]
    · have hgone : (b.perform .close).state.owned = [] := b.owned_close
      rwa [hgone] at hplaces
  | _ => exact keeps (by rintro ⟨⟩)

theorem dropEngine_settles (hlive : Live j s) (h : s.Ordered) (slot : Nat) :
    Settles s (s.ownedByEngine slot) [] (step (.dropEngine slot) s) := by
  cases there : s.engines.get? slot with
  | none =>
    rw [step_dropEngine_of_none there, ownedByEngine_of_none there]
    exact .still rfl rfl
  | some e =>
    rw [step_dropEngine there]
    refine ⟨?_, perm_of_engines ?_⟩
    · rw [ownedByEngine_of_get? there]
      exact Engine.freed_drop (hlive.engines e (Slots.mem_toList_of_get? there))
    · have hplaces := (h.engines.perm_erase slot).flatMap_right Engine.owned
      rw [List.flatMap_append] at hplaces
      rw [List.append_nil]
      exact hplaces

theorem dropBacktest_settles (hlive : Live j s) (h : s.Ordered) (slot : Nat) :
    Settles s (s.ownedByBacktest slot) [] (step (.dropBacktest slot) s) := by
  cases there : s.backtests.get? slot with
  | none =>
    rw [step_dropBacktest_of_none there, ownedByBacktest_of_none there]
    exact .still rfl rfl
  | some b =>
    rw [step_dropBacktest there]
    refine ⟨?_, perm_of_backtests ?_⟩
    · rw [ownedByBacktest_of_get? there]
      exact Backtest.freed_drop (hlive.backtests b (Slots.mem_toList_of_get? there))
    · have hplaces := (h.backtests.perm_erase slot).flatMap_right Backtest.owned
      rw [List.flatMap_append] at hplaces
      rw [List.append_nil]
      exact hplaces

/-- **One step.** It frees what it should, and what it frees and what is owned after it make up
what was owned before it and what it made. -/
theorem step_settles (hlive : Live j s) (h : s.Ordered) (st : Step) :
    Settles s (s.released st) (s.made st) (step st s) := by
  cases st with
  | newEngine slot capacity =>
    exact placeEngine_settles hlive h slot (Engine.create_builds s.bridge capacity)
  | newEngineFromEnvironment slot capacity =>
    exact placeEngine_settles hlive h slot (s.engineOfEnvironment_builds slot capacity)
  | dropEngine slot => exact dropEngine_settles hlive h slot
  | engine slot st =>
    cases there : s.engines.get? slot with
    | none =>
      have hnone : s.released (.engine slot st) = [] := by
        cases st with
        | close => exact ownedByEngine_of_none there
        | _ => rfl
      rw [step_engine_of_none there, hnone]
      exact .still rfl rfl
    | some e => exact engine_settles hlive h there st
  | newBacktest slot params =>
    exact placeBacktest_settles hlive h slot (Backtest.create_builds s.bridge params)
  | newBacktestFromEnvironment slot params =>
    exact placeBacktest_settles hlive h slot (s.backtestOfEnvironment_builds slot params)
  | dropBacktest slot => exact dropBacktest_settles hlive h slot
  | backtest slot st =>
    cases there : s.backtests.get? slot with
    | none =>
      have hnone : s.released (.backtest slot st) = [] := by
        cases st with
        | close => exact ownedByBacktest_of_none there
        | _ => rfl
      rw [step_backtest_of_none there, hnone]
      exact .still rfl rfl
    | some b => exact backtest_settles hlive h there st
  | buffer => exact .still rfl rfl
  | clearBuffer => exact .still rfl rfl
  | calls => exact .still rfl rfl
  | counters => exact .still rfl rfl

/-! ### Constructors in a session -/

/-- A constructor either fails, and then makes and frees nothing, or it is done and has made
something. -/
def FailsOrBuilds (s : Session ε β) (st : Step) : Prop :=
  (∃ error, (step st s).answer = .failed error ∧ s.made st = [] ∧ s.released st = []) ∨
    ((step st s).answer = .done ∧ s.made st ≠ [])

theorem placeEngine_answer (slot : Nat) {op : Op Unit (Except Error (Engine ε β))}
    {made : List Allocation} (h : Builds Engine.owned made (op ())) :
    (∃ error, ((Op.lift op >>= placeEngine slot) s).answer = .failed error ∧ made = []) ∨
      ((Op.lift op >>= placeEngine slot) s).answer = .done ∧ made ≠ [] := by
  cases hanswer : (op ()).answer with
  | error error =>
    rw [placeEngine_of_error hanswer]
    exact .inl ⟨error, rfl, h.error error hanswer⟩
  | ok e =>
    rw [placeEngine_of_ok hanswer]
    exact .inr ⟨rfl, (h.ok e hanswer).1⟩

theorem placeBacktest_answer (slot : Nat) {op : Op Unit (Except Error (Backtest ε β))}
    {made : List Allocation} (h : Builds Backtest.owned made (op ())) :
    (∃ error, ((Op.lift op >>= placeBacktest slot) s).answer = .failed error ∧ made = []) ∨
      ((Op.lift op >>= placeBacktest slot) s).answer = .done ∧ made ≠ [] := by
  cases hanswer : (op ()).answer with
  | error error =>
    rw [placeBacktest_of_error hanswer]
    exact .inl ⟨error, rfl, h.error error hanswer⟩
  | ok b =>
    rw [placeBacktest_of_ok hanswer]
    exact .inr ⟨rfl, (h.ok b hanswer).1⟩

end Session

/-- Whether the step makes a wrapper. -/
def Step.constructs : Step → Bool
  | .newEngine _ _ | .newEngineFromEnvironment _ _ => true
  | .newBacktest _ _ | .newBacktestFromEnvironment _ _ => true
  | _ => false

namespace Session

variable {s : Session ε β} {j : List Event}

theorem failsOrBuilds (s : Session ε β) {st : Step} (h : st.constructs = true) :
    s.FailsOrBuilds st := by
  cases st with
  | newEngine slot capacity =>
    have answered := placeEngine_answer (s := s) slot (Engine.create_builds s.bridge capacity)
    exact answered.imp_left fun ⟨error, failed, bare⟩ => ⟨error, failed, bare, if_pos bare⟩
  | newEngineFromEnvironment slot capacity =>
    have answered := placeEngine_answer (s := s) slot (s.engineOfEnvironment_builds slot capacity)
    exact answered.imp_left fun ⟨error, failed, bare⟩ => ⟨error, failed, bare, if_pos bare⟩
  | newBacktest slot params =>
    have answered := placeBacktest_answer (s := s) slot (Backtest.create_builds s.bridge params)
    exact answered.imp_left fun ⟨error, failed, bare⟩ => ⟨error, failed, bare, if_pos bare⟩
  | newBacktestFromEnvironment slot params =>
    have answered := placeBacktest_answer (s := s) slot (s.backtestOfEnvironment_builds slot params)
    exact answered.imp_left fun ⟨error, failed, bare⟩ => ⟨error, failed, bare, if_pos bare⟩
  | _ => exact absurd h Bool.false_ne_true

/-! ## Whole sessions -/

/-- A run of live wrappers in order stays one, and over the run what was freed and what is owned
still make up what was freed or owned before and what was made. -/
theorem Live.settles (hlive : Live s.journal s) (h : s.Ordered) (steps : List Step) :
    Live (run steps s).2.journal (run steps s).2 ∧
      (freed (run steps s).2.journal ++ (run steps s).2.owned).Perm
        ((freed s.journal ++ s.owned) ++ madeRun steps s) := by
  induction steps generalizing s with
  | nil => exact ⟨hlive, (List.append_nil _).symm ▸ .refl _⟩
  | cons next rest ih =>
    have hstep := step_settles hlive h next
    obtain ⟨live, -⟩ := advance_crosses (step_crosses hlive next)
    obtain ⟨hlast, hperm⟩ := ih live (h.advance next)
    refine ⟨hlast, hperm.trans ?_⟩
    -- the account of the first step, with what was freed before it on the left
    have hjournal : freed (advance (step next) s).2.journal =
        freed s.journal ++ s.released next := by
      show freed ((step next s).state.journal ++ (step next s).events) = _
      rw [freed_append, hstep.freed, (step_crosses hlive next).state.journal]
    have howned : (advance (step next) s).2.owned = (step next s).state.owned := rfl
    rw [hjournal, howned, madeRun, ← List.append_assoc]
    refine List.Perm.append_right _ ?_
    rw [List.append_assoc, List.append_assoc]
    exact hstep.balance.append_left _

theorem freed_flatMap {α : Type} {f : α → List Event} {owned : α → List Allocation} {xs : List α}
    (h : ∀ x ∈ xs, freed (f x) = owned x) : freed (xs.flatMap f) = xs.flatMap owned := by
  induction xs with
  | nil => rfl
  | cons x rest ih =>
    rw [List.flatMap_cons, List.flatMap_cons, freed_append, h x List.mem_cons_self,
      ih fun y hy => h y (List.mem_cons_of_mem x hy)]

/-- Dropping everything frees what is owned. -/
theorem freed_finish (h : Live j s) : freed (finish s).events = s.owned := by
  show freed (s.engines.toList.flatMap Engine.drop ++
    s.backtests.toList.flatMap Backtest.drop) = s.owned
  rw [freed_append, freed_flatMap fun e hmem => Engine.freed_drop (h.engines e hmem),
    freed_flatMap fun b hmem => Backtest.freed_drop (h.backtests b hmem)]
  rfl

/-- What it means that a session frees every native resource exactly once. `balance` and `ended`
hold of each kind of resource at each site, `counters` says where a session shows them. -/
structure FreesOnce (steps : List Step) (first : Session ε β) : Prop where
  balance : ∀ a, (freed (run steps first).2.journal).count a + (run steps first).2.owned.count a =
    (madeRun steps first).count a
  ended : ∀ a, (freed (advance finish (run steps first).2).2.journal).count a =
    (madeRun steps first).count a
  counters : ∀ journal : List Event,
    (Counters.ofEvents journal).engineFrees = (freed journal).count (.engine .linked) ∧
      (Counters.ofEvents journal).backtestFrees = (freed journal).count (.backtest .linked)
  step : ∀ next, freed (Session.step next (run steps first).2).events =
    (run steps first).2.released next
  constructor : ∀ next, next.constructs = true → (run steps first).2.FailsOrBuilds next
  closedEngine : ∀ slot e, (run steps first).2.engines.get? slot = some e → e.isClosed = true →
    (run steps first).2.released (.engine slot .close) = [] ∧
      (run steps first).2.released (.dropEngine slot) = []
  closedBacktest : ∀ slot b, (run steps first).2.backtests.get? slot = some b →
    b.isClosed = true → (run steps first).2.released (.backtest slot .close) = [] ∧
      (run steps first).2.released (.dropBacktest slot) = []

/-- **Every native resource is freed exactly once.** Whatever the host, the engine code behind the
bridge and the steps: what was freed and what open wrappers own are together what was made, a
constructor that fails and a wrapper that is closed free nothing, and when everything has been
dropped all that was made has been freed. -/
theorem natives_are_freed_once (host : Host ε β) (bridge : Bridge ε β) (steps : List Step) :
    FreesOnce steps (start host bridge) := by
  have hstart : Live (start host bridge).journal (start host bridge) := live_start host bridge
  have hfirst := ordered_start host bridge
  obtain ⟨live, hperm⟩ := hstart.settles hfirst steps
  have hordered : (run steps (start host bridge)).2.Ordered := hfirst.run steps
  have hmade : (freed (run steps (start host bridge)).2.journal ++
      (run steps (start host bridge)).2.owned).Perm (madeRun steps (start host bridge)) := hperm
  constructor
  case balance =>
    intro a
    rw [← List.count_append]
    exact hmade.count_eq a
  case ended =>
    intro a
    have hfinished : freed (advance finish (run steps (start host bridge)).2).2.journal =
        freed (run steps (start host bridge)).2.journal ++
          (run steps (start host bridge)).2.owned := by
      show freed ((run steps (start host bridge)).2.journal ++ _) = _
      rw [freed_append, freed_finish live]
    rw [hfinished]
    exact hmade.count_eq a
  case counters =>
    intro journal
    exact ⟨Counters.engineFrees_ofEvents journal, Counters.backtestFrees_ofEvents journal⟩
  case step =>
    intro next
    exact (step_settles live hordered next).freed
  case constructor =>
    intro next hnext
    exact failsOrBuilds _ hnext
  case closedEngine =>
    intro slot e there closed
    have hnone := Engine.owned_of_closed closed
    rw [← ownedByEngine_of_get? there] at hnone
    exact ⟨hnone, hnone⟩
  case closedBacktest =>
    intro slot b there closed
    have hnone := Backtest.owned_of_closed closed
    rw [← ownedByBacktest_of_get? there] at hnone
    exact ⟨hnone, hnone⟩

end Session

end MarketBridge
