import MarketBridge.Proofs.Session.Lacking

/-!
# `Session.Extended` — the same code behind a table with more symbols

A table *extends* another if it leads to the same code and has at least the same symbols
(`TableBackend.Extends`). The one call that is carried out differently by the two is the question
for the length, which a library without the symbol answers from its close column; both answer the
same if that column states the length. So wrappers of the same engine through the two tables act
alike in all steps but those that need a symbol which the smaller one lacks
(`Engine.Extended.perform_agree`), and so do sessions (`Session.Extended.run`).
-/

namespace MarketBridge

open Outcome

variable {ε β : Type}

/-! ## Tables -/

/-- The close column tells the length of the engine. -/
def NativeCode.StatesLength (code : NativeCode ε β) : Prop :=
  ∀ s, (code.engine (.column .close) s).1.len = (code.engine .len s).1 ∧
    (code.engine (.column .close) s).2 = (code.engine .len s).2

/-- The second table leads to the same code as the first and has all of its symbols. -/
structure TableBackend.Extends (b b' : TableBackend ε β) : Prop where
  code : b.code = b'.code
  has : ∀ y, b.table.has y = true → b'.table.has y = true
  length : b.code.StatesLength
  site : b.code.site ≠ .scripted

namespace TableBackend

variable {b b' : TableBackend ε β}

/-- The length is the same with and without the symbol for it. -/
theorem engineCall_len (h : b.code.StatesLength) (s : ε) :
    (b.engineCall .len s).answer = .ok (b.code.engine .len s).1 ∧
      (b.engineCall .len s).state = (b.code.engine .len s).2 := by
  unfold engineCall
  dsimp only
  by_cases has : b.table.has .len = true
  · rw [if_pos has]
    exact ⟨rfl, rfl⟩
  · -- without the symbol the close column is asked, which states the same length
    obtain ⟨hlen, hstate⟩ := h s
    rw [if_neg has]
    exact ⟨congrArg Except.ok hlen, hstate⟩

theorem Extends.len_agree (h : b.Extends b') (s : ε) :
    Agree Eq (b.engineCall .len s) (b'.engineCall .len s) := by
  obtain ⟨answer, state⟩ := engineCall_len h.length s
  have hlength := h.length
  have hsite := h.site
  rw [h.code] at answer state hlength hsite
  obtain ⟨answer', state'⟩ := engineCall_len hlength s
  refine ⟨answer.trans answer'.symm, state.trans state'.symm, ?_⟩
  rw [shown_engineCall h.site, shown_engineCall hsite]

/-- A call that the smaller table supports is the same call through both. -/
theorem Extends.engineCall_eq (h : b.Extends b') {c : EngineCall} (hc : c ≠ .len)
    (hsupports : c.symbol?.all b.table.has = true) (s : ε) :
    b.engineCall c s = b'.engineCall c s := by
  have hsupports' : c.symbol?.all b'.table.has = true := by
    cases hy : c.symbol? with
    | none => rfl
    | some y =>
      rw [hy] at hsupports
      exact h.has y hsupports
  -- both let the call through
  have hneeding : ∀ op : Op ε (Except Error c.Answer),
      b.needing c.symbol? op = b'.needing c.symbol? op := by
    intro op
    rw [needing_of_all hsupports, needing_of_all hsupports']
  unfold engineCall
  rw [h.code]
  cases c with
  | len => exact absurd rfl hc
  | addIndicator spec =>
    rw [EngineCall.symbol?_addIndicator] at hneeding
    exact congrFun (hneeding _) s
  | column field =>
    rw [EngineCall.symbol?_column] at hneeding
    exact congrFun (hneeding _) s
  | timestampColumn => exact congrFun (hneeding _) s
  | _ => rfl

end TableBackend

/-! ## Links -/

/-- Links to the same engine: the same link, or one through each table. -/
inductive EngineLink.Extended (b b' : TableBackend ε β) :
    EngineLink ε β → EngineLink ε β → Prop
  | same (l : EngineLink ε β) : Extended b b' l l
  | across (s : ε) : Extended b b' (b.engineLink s) (b'.engineLink s)

/-- Links to the same backtest. -/
inductive BacktestLink.Extended (b b' : TableBackend ε β) :
    BacktestLink ε β → BacktestLink ε β → Prop
  | same (l : BacktestLink ε β) : Extended b b' l l
  | across (s : β) : Extended b b' (b.backtestLink s) (b'.backtestLink s)

variable {b b' : TableBackend ε β}

theorem EngineLink.Extended.call_alike (h : b.Extends b') {l l' : EngineLink ε β}
    (hl : Extended b b' l l') {c : EngineCall} (hc : c ≠ .len)
    (hsupports : ∀ t, l.backend = .table t → c.symbol?.all t.table.has = true) :
    Alike (Extended b b') Eq (EngineLink.call c l) (EngineLink.call c l') := by
  cases hl with
  | same l => exact ⟨rfl, .same _, rfl⟩
  | across s =>
    rw [call_engineLink, call_engineLink, h.engineCall_eq hc (hsupports b rfl)]
    exact ⟨rfl, .across _, rfl⟩

theorem EngineLink.Extended.len_agree (h : b.Extends b') {l l' : EngineLink ε β}
    (hl : Extended b b' l l') :
    Agree (Extended b b') (EngineLink.call .len l) (EngineLink.call .len l') := by
  cases hl with
  | same l => exact .refl (.same _)
  | across s =>
    obtain ⟨answer, state, shown⟩ := h.len_agree s
    rw [call_engineLink, call_engineLink]
    refine ⟨answer, ?_, shown⟩
    dsimp only
    rw [state]
    exact .across _

theorem BacktestLink.Extended.call_alike (h : b.Extends b') {l l' : BacktestLink ε β}
    (hl : Extended b b' l l') (c : BacktestCall) :
    Alike (Extended b b') Eq (BacktestLink.call c l) (BacktestLink.call c l') := by
  cases hl with
  | same l => exact ⟨rfl, .same _, rfl⟩
  | across s =>
    have hcall : b.backtestCall c s = b'.backtestCall c s := by
      unfold TableBackend.backtestCall
      rw [h.code]
    rw [call_backtestLink, call_backtestLink, hcall]
    exact ⟨rfl, .across _, rfl⟩

theorem EngineLink.Extended.drop_eq (h : b.Extends b') {l l' : EngineLink ε β}
    (hl : Extended b b' l l') : l.drop = l'.drop := by
  cases hl with
  | same l => rfl
  | across s =>
    show [Event.native b.code.site .engineFree, .log _] = [.native b'.code.site .engineFree, .log _]
    rw [h.code]

theorem BacktestLink.Extended.drop_eq (h : b.Extends b') {l l' : BacktestLink ε β}
    (hl : Extended b b' l l') : l.drop = l'.drop := by
  cases hl with
  | same l => rfl
  | across s =>
    show [Event.native b.code.site .backtestFree, .log _] =
      [.native b'.code.site .backtestFree, .log _]
    rw [h.code]

/-! ## Wrappers -/

/-- Wrappers of the same engine that differ at most in the table that their calls go through. -/
structure Engine.Extended (b b' : TableBackend ε β) (e e' : Engine ε β) : Prop where
  link : Option.Rel (EngineLink.Extended b b') e.link e'.link
  kind : e.kind = e'.kind
  decode : e.decode = e'.decode
  capacity : e.capacity = e'.capacity

namespace Engine

variable {e e' : Engine ε β} {st : EngineStep}

theorem Extended.refl (e : Engine ε β) : Extended b b' e e := by
  refine ⟨?_, rfl, rfl, rfl⟩
  cases e.link with
  | none => exact .none
  | some l => exact .some (.same l)

theorem Extended.isClosed_eq (he : Extended b b' e e') : e.isClosed = e'.isClosed := by
  obtain ⟨link, kind, decode, capacity⟩ := e
  obtain ⟨link', kind', decode', capacity'⟩ := e'
  obtain ⟨hlink, -, -, -⟩ := he
  cases hlink with
  | none => rfl
  | some _ => rfl

theorem Extended.invoke_alike (h : b.Extends b') (he : Extended b b' e e') {c : EngineCall}
    (hc : c ≠ .len) (hsupports : e.Supports c) :
    Alike (Extended b b') Eq (invoke c e) (invoke c e') := by
  obtain ⟨link, kind, decode, capacity⟩ := e
  obtain ⟨link', kind', decode', capacity'⟩ := e'
  obtain ⟨hlink, hkind, hdecode, hcapacity⟩ := he
  cases hlink with
  | none => exact ⟨rfl, ⟨.none, hkind, hdecode, hcapacity⟩, rfl⟩
  | some hl =>
    obtain ⟨answer, state, trace⟩ :=
      hl.call_alike h hc fun t ht => hsupports t (congrArg some ht)
    exact ⟨answer, ⟨.some state, hkind, hdecode, hcapacity⟩, trace⟩

theorem Extended.len_agree (h : b.Extends b') (he : Extended b b' e e') :
    Agree (Extended b b') (invoke .len e) (invoke .len e') := by
  obtain ⟨link, kind, decode, capacity⟩ := e
  obtain ⟨link', kind', decode', capacity'⟩ := e'
  obtain ⟨hlink, hkind, hdecode, hcapacity⟩ := he
  cases hlink with
  | none => exact ⟨rfl, ⟨.none, hkind, hdecode, hcapacity⟩, rfl⟩
  | some hl =>
    obtain ⟨answer, state, shown⟩ := hl.len_agree h
    exact ⟨answer, ⟨.some state, hkind, hdecode, hcapacity⟩, shown⟩

theorem Extended.drain_alike (h : b.Extends b') (he : Extended b b' e e') :
    Alike (Extended b b') Eq (drain e) (drain e') := by
  show Alike (Extended b b') Eq (Batch.drain invoke e.decode e) (Batch.drain invoke e'.decode e')
  rw [← he.decode]
  exact Batch.drain_alike e.decode
    (fun _ _ hu => hu.invoke_alike h nofun (supports_of_none rfl))
    (fun _ _ _ hu => hu.invoke_alike h nofun (supports_of_none rfl)) he

theorem Extended.drop_eq (h : b.Extends b') (he : Extended b b' e e') : e.drop = e'.drop := by
  obtain ⟨link, kind, decode, capacity⟩ := e
  obtain ⟨link', kind', decode', capacity'⟩ := e'
  obtain ⟨hlink, -, -, -⟩ := he
  cases hlink with
  | none => rfl
  | some hl => exact hl.drop_eq h

theorem Extended.close_agree (h : b.Extends b') (he : Extended b b' e e') :
    Agree (Extended b b') (close e) (close e') := by
  obtain ⟨link, kind, decode, capacity⟩ := e
  obtain ⟨link', kind', decode', capacity'⟩ := e'
  obtain ⟨hlink, hkind, hdecode, hcapacity⟩ := he
  cases hlink with
  | none => exact ⟨rfl, ⟨.none, hkind, hdecode, hcapacity⟩, rfl⟩
  | @some l l' hl =>
    refine ⟨rfl, ⟨.none, hkind, hdecode, hcapacity⟩, ?_⟩
    show shown (l.drop ++ _) = shown (l'.drop ++ _)
    rw [shown_append, shown_append, hl.drop_eq h]
    rfl

/-- Wrappers that differ in their tables act alike in a step that lacks no symbol. -/
theorem Extended.perform_agree (h : b.Extends b') (he : Extended b b' e e')
    (hlacks : e.lacks st = none) (buffer : List Signal) :
    Agree (Extended b b') (perform buffer st e) (perform buffer st e') := by
  have hcall : ∀ c, st.call? = some c →
      Agree (Extended b b') (invoke c e) (invoke c e') := by
    intro c hc
    -- asking for the length is the one call that leaves another trace
    by_cases hlen : c = .len
    · subst hlen
      exact he.len_agree h
    · exact .of_alike (he.invoke_alike h hlen (supports_of_lacks hlacks hc))
  have hpush : ∀ bar u v, Extended b b' u v →
      Agree (Extended b b') (invoke (.pushBar bar) u) (invoke (.pushBar bar) v) := by
    intro bar u v hu
    exact .of_alike (hu.invoke_alike h nofun (supports_of_none rfl))
  exact Engine.perform_agree he he.kind he.capacity he.isClosed_eq hcall hpush
    (fun _ => .of_alike (he.drain_alike h)) (he.close_agree h)

end Engine

/-- Wrappers of the same backtest that differ at most in the table that their calls go through. -/
structure Backtest.Extended (b b' : TableBackend ε β) (x x' : Backtest ε β) : Prop where
  link : Option.Rel (BacktestLink.Extended b b') x.link x'.link
  kind : x.kind = x'.kind
  params : x.params = x'.params

namespace Backtest

variable {x x' : Backtest ε β}

theorem Extended.refl (x : Backtest ε β) : Extended b b' x x := by
  refine ⟨?_, rfl, rfl⟩
  cases x.link with
  | none => exact .none
  | some l => exact .some (.same l)

theorem Extended.isClosed_eq (hx : Extended b b' x x') : x.isClosed = x'.isClosed := by
  obtain ⟨link, kind, params⟩ := x
  obtain ⟨link', kind', params'⟩ := x'
  obtain ⟨hlink, -, -⟩ := hx
  cases hlink with
  | none => rfl
  | some _ => rfl

theorem Extended.invoke_alike (h : b.Extends b') (hx : Extended b b' x x') (c : BacktestCall) :
    Alike (Extended b b') Eq (invoke c x) (invoke c x') := by
  obtain ⟨link, kind, params⟩ := x
  obtain ⟨link', kind', params'⟩ := x'
  obtain ⟨hlink, hkind, hparams⟩ := hx
  cases hlink with
  | none => exact ⟨rfl, ⟨.none, hkind, hparams⟩, rfl⟩
  | some hl =>
    obtain ⟨answer, state, trace⟩ := hl.call_alike h c
    exact ⟨answer, ⟨.some state, hkind, hparams⟩, trace⟩

theorem Extended.drop_eq (h : b.Extends b') (hx : Extended b b' x x') : x.drop = x'.drop := by
  obtain ⟨link, kind, params⟩ := x
  obtain ⟨link', kind', params'⟩ := x'
  obtain ⟨hlink, -, -⟩ := hx
  cases hlink with
  | none => rfl
  | some hl => exact hl.drop_eq h

theorem Extended.close_alike (h : b.Extends b') (hx : Extended b b' x x') :
    Alike (Extended b b') Eq (close x) (close x') := by
  obtain ⟨link, kind, params⟩ := x
  obtain ⟨link', kind', params'⟩ := x'
  obtain ⟨hlink, hkind, hparams⟩ := hx
  cases hlink with
  | none => exact ⟨rfl, ⟨.none, hkind, hparams⟩, rfl⟩
  | @some l l' hl =>
    refine ⟨rfl, ⟨.none, hkind, hparams⟩, ?_⟩
    show trace (l.drop ++ _) = trace (l'.drop ++ _)
    rw [trace_append, trace_append, hl.drop_eq h]
    rfl

/-- Backtests that differ in their tables act alike in every step. -/
theorem Extended.perform_alike (h : b.Extends b') (hx : Extended b b' x x') (st : BacktestStep) :
    Alike (Extended b b') Eq (perform st x) (perform st x') := by
  have calls := hx.invoke_alike h
  cases st with
  | close => exact (hx.close_alike h).andThen _
  | isClosed => exact ⟨congrArg Answer.flag hx.isClosed_eq, hx, rfl⟩
  | kind => exact ⟨congrArg (fun kind : BackendKind => Answer.text kind.name) hx.kind, hx, rfl⟩
  | describe =>
    refine ⟨?_, hx, rfl⟩
    show Answer.text x.describe = Answer.text x'.describe
    unfold describe
    rw [hx.kind, hx.params, hx.isClosed_eq]
  | params => exact ⟨congrArg Answer.params hx.params, hx, rfl⟩
  | applySignal text price margin =>
    refine .andThen (Answer.ofExcept fun _ => .done) ?_
    unfold applySignal
    cases Action.parse text with
    | error error => exact .pure rfl hx
    | ok action => exact calls (.applySignal action.tag price margin)
  | apply action price margin => exact (calls (.applySignal action.tag price margin)).andThen _
  | onPrice price => exact (calls (.onPrice price)).andThen _
  | result price => exact ((calls (.result price)).andThen _).andThen _

end Backtest

/-! ## Making -/

theorem Engine.create_extended (h : b.Extends b') (decode : DecodePolicy) (capacity : UInt64) :
    Alike Eq (MadeAlike (Engine.Extended b b')) (create ⟨.table b, decode⟩ capacity ())
      (create ⟨.table b', decode⟩ capacity ()) := by
  unfold create
  by_cases zero : capacity = 0
  · rw [if_pos zero, if_pos zero]
    exact .pure (.error _) rfl
  · have hmade : Alike Eq (MadeAlike (EngineLink.Extended b b'))
        (Backend.createEngine capacity (.table b) ())
        (Backend.createEngine capacity (.table b') ()) := by
      rw [Backend.createEngine_table, Backend.createEngine_table, ← h.code]
      cases b.code.newEngine capacity with
      | none => exact ⟨.error _, rfl, rfl⟩
      | some s => exact ⟨.ok (.across s), rfl, rfl⟩
    rw [if_neg zero, if_neg zero]
    refine .bind hmade ?_
    rintro made made' u _ hmade rfl
    cases hmade with
    | error e => exact .pure (.error e) rfl
    | ok hl => exact .bind (.log rfl) fun _ _ _ _ _ hu => .pure (.ok ⟨.some hl, rfl, rfl, rfl⟩) hu

theorem Backtest.create_extended (h : b.Extends b') (decode : DecodePolicy)
    (params : BacktestParams) :
    Alike Eq (MadeAlike (Backtest.Extended b b')) (create ⟨.table b, decode⟩ params ())
      (create ⟨.table b', decode⟩ params ()) := by
  unfold create
  cases params.validate with
  | error e => exact .pure (.error e) rfl
  | ok _ =>
    have hmade : Alike Eq (MadeAlike (BacktestLink.Extended b b'))
        (Backend.createBacktest params (.table b) ())
        (Backend.createBacktest params (.table b') ()) := by
      rw [Backend.createBacktest_table, Backend.createBacktest_table, ← h.code]
      cases b.code.newBacktest params with
      | none => exact ⟨.error _, rfl, rfl⟩
      | some s => exact ⟨.ok (.across s), rfl, rfl⟩
    refine .bind hmade ?_
    rintro made made' u _ hmade rfl
    cases hmade with
    | error e => exact .pure (.error e) rfl
    | ok hl => exact .bind (.log rfl) fun _ _ _ _ _ hu => .pure (.ok ⟨.some hl, rfl, rfl⟩) hu

/-! ## Sessions -/

theorem pairing_of_extends (h : b.Extends b') (decode : DecodePolicy) :
    Pairing ⟨.table b, decode⟩ ⟨.table b', decode⟩ (Engine.Extended b b')
      (Backtest.Extended b b') where
  sameEngine := Engine.Extended.refl
  sameBacktest := Backtest.Extended.refl
  createEngine := Engine.create_extended h decode
  createBacktest := Backtest.create_extended h decode
  dropEngine _ _ he := congrArg trace (he.drop_eq h)
  dropBacktest _ _ hx := congrArg trace (hx.drop_eq h)
  backtest st _ _ hx := hx.perform_alike h st

namespace Session

/-- The same session through both tables, up to what is not shown. -/
structure Extended (host : Host ε β) (b b' : TableBackend ε β) (decode : DecodePolicy)
    (s t : Session ε β) : Prop where
  paired : s.Paired host ⟨.table b, decode⟩ ⟨.table b', decode⟩ (Engine.Extended b b')
    (Backtest.Extended b b') t
  live : s.Live s.journal

variable {host : Host ε β} {decode : DecodePolicy} {s t : Session ε β}

theorem extended_start (host : Host ε β) (b b' : TableBackend ε β) (decode : DecodePolicy) :
    Extended host b b' decode (start host ⟨.table b, decode⟩) (start host ⟨.table b', decode⟩) :=
  ⟨paired_start host _ _, live_start host _⟩

/-- A step that lacks nothing comes to the same in both. -/
theorem Extended.keep (hb : b.Extends b') (h : Extended host b b' decode s t) {st : Step}
    (hlacks : s.lacks st = none) :
    report st s = report st t ∧
      Extended host b b' decode (advance (step st) s).2 (advance (step st) t).2 := by
  have hact : s.ActAlike (Engine.Extended b b') st := by
    rintro slot inner e e' rfl there he
    have hnone : (s.engines.get? slot).bind (fun e => e.lacks inner) = none := hlacks
    rw [there, Option.bind_some] at hnone
    exact he.perform_agree hb hnone s.buffer
  have hstep := step_paired (pairing_of_extends hb decode) h.paired st hact
  obtain ⟨live, -⟩ := advance_crosses (step_crosses h.live st)
  exact ⟨report_eq_of_paired hstep, advance_paired hstep, live⟩

/-- A step that lacks a symbol can be left out where there are more symbols. -/
theorem Extended.skip (h : Extended host b b' decode s t) {st : Step} {y : OptionalSymbol}
    (hlacks : s.lacks st = some y) : Extended host b b' decode (advance (step st) s).2 t := by
  have hsame : (advance (step st) s).2 = s := by
    unfold advance
    rw [step_of_lacks h.live h.paired.ordered hlacks]
    dsimp only
    rw [List.append_nil]
  rw [hsame]
  exact h

/-- **A whole run.** The steps that lack no symbol come to the same in a session through the larger
table in which the others are left out. -/
theorem reports_extended (hb : b.Extends b') (steps : List Step)
    (h : Extended host b b' decode s t) :
    keptReports (supported steps s) s = reports (keptSteps (supported steps s)) t ∧
      (run steps s).2.closingCounters =
        (run (keptSteps (supported steps s)) t).2.closingCounters := by
  have hkeep : ∀ s t st, Extended host b b' decode s t → s.lacks st = none →
      report st s = report st t ∧
        Extended host b b' decode (advance (step st) s).2 (advance (step st) t).2 :=
    fun _ _ _ h hlacks => h.keep hb hlacks
  have hskip : ∀ s t st, Extended host b b' decode s t → (s.lacks st).isNone = false →
      Extended host b b' decode (advance (step st) s).2 t := by
    intro s t st h hlacks
    cases hy : s.lacks st with
    | none => simp [hy] at hlacks
    | some y => exact h.skip hy
  obtain ⟨hreports, hlast⟩ := thinned hkeep hskip (supported steps s) h fun done st kept hdone => by
    have hmark := supported_marks steps s done st kept hdone
    refine ⟨fun hkept => ?_, fun hkept => ?_⟩
    · exact Option.isNone_iff_eq_none.mp (hmark.symm.trans hkept)
    · exact hmark.symm.trans hkept
  rw [allSteps_supported] at hlast
  exact ⟨hreports, closingCounters_eq_of_paired (pairing_of_extends hb decode) hlast.paired⟩

end Session

end MarketBridge
