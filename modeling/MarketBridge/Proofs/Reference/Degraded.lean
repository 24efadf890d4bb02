import MarketBridge.Proofs.Loading
import MarketBridge.Proofs.Reference.Binding
import MarketBridge.Proofs.Session.Extended

/-!
# `Reference.Degraded` — the reference engine without some optional symbols

The table of all symbols extends the table without some of them (`extends_without`), since the close
column of the reference engine tells its length. So a session on the smaller table degrades only
where it must (`sessions_degrade_where_they_must`): the steps that need an omitted symbol on an open
engine fail by that symbol, and all others come to what they come to with all symbols.
-/

namespace MarketBridge.Reference

/-- A session `s` on a table without the `omitted` symbols, next to a session `t` with all of
them. -/
structure Degrades (omitted : List OptionalSymbol) (steps : List Step)
    (s t : Session Engine Backtest) : Prop where
  /-- A step that needs a symbol which the library behind its engine lacks fails by the name under
  which that symbol is exported, changes nothing and leaves no event. -/
  fails : ∀ done st y, done ++ [st] <+: steps → (Session.run done s).2.lacks st = some y →
    ∃ name, (name, y) ∈ OptionalSymbol.exports ∧ Session.step st (Session.run done s).2 =
      ⟨.failed (.libraryResolution none (.missingSymbol name)), (Session.run done s).2, []⟩
  /-- The other steps come to what they come to with all symbols, where those steps are left out. -/
  reports : Session.keptReports (Session.supported steps s) s =
    Session.reports (keptSteps (Session.supported steps s)) t
  /-- And at the end as much has been freed. -/
  counters : (Session.run steps s).2.closingCounters =
    (Session.run (keptSteps (Session.supported steps s)) t).2.closingCounters
  /-- Unless the environment leads to other libraries, the symbols that are lacking are those of the
  omitted ones that a step needs on an open engine. -/
  lacks : (∀ st ∈ steps, st.selects = false) → ∀ done st, done ++ [st] <+: steps →
    (Session.run done s).2.lacks st = ((Session.run done s).2.needs st).filter (· ∈ omitted)
  /-- Then no other step fails to resolve anything. -/
  resolves : (∀ st ∈ steps, st.selects = false) → ∀ done st, done ++ [st] <+: steps →
    (Session.run done s).2.lacks st = none →
      (Session.step st (Session.run done s).2).answer.isResolution = false

/-! ## The table without some symbols -/

theorem fullTable_without_has (omitted : List OptionalSymbol) (y : OptionalSymbol) :
    (fullTable.without omitted).has y = !(decide (y ∈ omitted)) := by
  have hfull := fullTable_has y
  unfold SymbolTable.has SymbolTable.without at *
  by_cases hmem : y ∈ omitted
  · simp [hmem]
  · simp [hmem, hfull]

/-- The close column of the reference engine tells its length. -/
theorem code_statesLength (site : Site) : (code site).StatesLength := by
  intro s
  exact ⟨rfl, rfl⟩

theorem extends_without (omitted : List OptionalSymbol) :
    (linked (fullTable.without omitted)).Extends (linked fullTable) where
  code := rfl
  has y _ := fullTable_has y
  length := code_statesLength .linked
  site := nofun

/-! ## Sessions -/

/-- Unless a step selects another bridge, everything goes through the table of the session. -/
theorem through_table (host : Host Engine Backtest) {b : TableBackend Engine Backtest}
    (decode : DecodePolicy) {steps done : List Step} {st : Step}
    (hselects : ∀ st ∈ steps, st.selects = false) (hdone : done ++ [st] <+: steps) :
    (Session.run done (.start host ⟨.table b, decode⟩)).2.Through (· = .table b) ∧
      st.selects = false := by
  have hbefore : ∀ st ∈ done, st.selects = false := by
    intro st' hmem
    exact hselects st' (hdone.subset (List.mem_append_left [st] hmem))
  have hstart : (Session.start host ⟨.table b, decode⟩).Through (· = .table b) :=
    Session.through_start host rfl
  refine ⟨hstart.run (Session.live_start host _) (Session.ordered_start host _) done hbefore, ?_⟩
  exact hselects st (hdone.subset (List.mem_append_right done (List.mem_singleton_self st)))

/-- **A library that lacks optional symbols degrades only where it must.** Whatever symbols are
omitted, and in every session: a step that needs one of them on an open engine fails by the name of
that symbol and changes nothing, and every other step comes to the same as in the session with all
symbols in which those steps are left out. Among these are asking for the length, which is then read
off the close column, relative strength indices, views of closes, drains, and all steps on
backtests. -/
theorem sessions_degrade_where_they_must (host : Host Engine Backtest) (decode : DecodePolicy)
    (omitted : List OptionalSymbol) (steps : List Step) :
    Degrades omitted steps (.start host ⟨.table (linked (fullTable.without omitted)), decode⟩)
      (.start host ⟨.table (linked fullTable), decode⟩) := by
  have hlive : ∀ done, ∃ j, Session.Live j (Session.run done (Session.start host
      ⟨.table (linked (fullTable.without omitted)), decode⟩)).2 := by
    intro done
    exact ⟨_, (Session.run_crosses (Session.live_start host _) done).1⟩
  have hordered : ∀ done, (Session.run done (Session.start host
      ⟨.table (linked (fullTable.without omitted)), decode⟩)).2.Ordered := by
    intro done
    exact (Session.ordered_start host _).run done
  obtain ⟨reports, counters⟩ := Session.reports_extended (extends_without omitted) steps
    (Session.extended_start host _ _ decode)
  constructor
  case fails =>
    intro done st y _ hlacks
    obtain ⟨j, live⟩ := hlive done
    exact ⟨y.name, OptionalSymbol.mem_exports_iff.mpr rfl,
      Session.step_of_lacks live (hordered done) hlacks⟩
  case reports => exact reports
  case counters => exact counters
  case lacks =>
    intro hselects done st hdone
    obtain ⟨hthrough, -⟩ := through_table host decode hselects hdone
    rw [Session.lacks_eq_filter hthrough]
    -- what is not in the table without the omitted symbols is just what is omitted
    have hhas : (fun y => !(linked (fullTable.without omitted)).table.has y) =
        fun y => decide (y ∈ omitted) := by
      funext y
      exact (congrArg (!·) (fullTable_without_has omitted y)).trans (Bool.not_not _)
    rw [hhas]
  case resolves =>
    intro hselects done st hdone hlacks
    obtain ⟨⟨bridge, engines, backtests⟩, hst⟩ := through_table host decode hselects hdone
    obtain ⟨j, live⟩ := hlive done
    refine Session.step_resolves live (hordered done) ⟨⟨_, bridge⟩, ?_, ?_⟩ hlacks hst
    · intro e hmem b hb
      exact ⟨_, engines e hmem b hb⟩
    · intro x hmem b hb
      exact ⟨_, backtests x hmem b hb⟩

end MarketBridge.Reference
