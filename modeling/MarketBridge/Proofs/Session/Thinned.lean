import MarketBridge.Proofs.Session.Paired

/-!
# `Session.Thinned` — a session with some of its steps left out

A plan marks the steps of a session that are kept. `Session.thinned` compares the run of all steps
with the run of the kept ones: if a relation between the two survives every kept step, with the same
report, and is not broken by a step that only the first one carries out, then every kept step is
reported the same in both.
-/

namespace MarketBridge

variable {ε β : Type}

/-! ## Reports -/

/-- What a step comes to: its answer, then the signal buffer and the counters after it. -/
structure Report where
  answer : Answer
  buffer : List Signal
  counters : Counters

namespace Session

/-- What a step comes to in the session. -/
def report (st : Step) (s : Session ε β) : Report :=
  ⟨(step st s).answer, (advance (step st) s).2.buffer, .ofEvents (advance (step st) s).2.journal⟩

/-- What each step in turn comes to. -/
def reports : List Step → Session ε β → List Report
  | [], _ => []
  | next :: rest, s => report next s :: reports rest (advance (step next) s).2

variable {host : Host ε β} {bridge bridge' : Bridge ε β} {RE : Engine ε β → Engine ε β → Prop}
  {RB : Backtest ε β → Backtest ε β → Prop} {s t : Session ε β}

theorem report_eq_of_paired {st : Step}
    (h : Outcome.Agree (Paired host bridge bridge' RE RB) (step st s) (step st t)) :
    report st s = report st t := by
  have hafter := advance_paired h
  unfold report
  rw [h.answer, hafter.buffer, Counters.ofEvents_eq_of_shown hafter.journal]

end Session

/-! ## Plans -/

/-- All steps of a plan. -/
def allSteps (plan : List (Step × Bool)) : List Step :=
  plan.map Prod.fst

/-- The steps of a plan that are kept. -/
def keptSteps (plan : List (Step × Bool)) : List Step :=
  (plan.filter Prod.snd).map Prod.fst

theorem allSteps_kept (kept : List Step) : allSteps (kept.map (·, true)) = kept := by
  induction kept with
  | nil => rfl
  | cons next rest ih => exact congrArg (next :: ·) ih

theorem keptSteps_append (kept : List Step) (rest : List (Step × Bool)) :
    keptSteps (kept.map (·, true) ++ rest) = kept ++ keptSteps rest := by
  induction kept with
  | nil => rfl
  | cons next others ih => exact congrArg (next :: ·) ih

/-- In a plan that deletes one step before the last, the deleted step is that one. -/
theorem eq_of_deleted {kept : List Step} {only last st : Step} {done : List (Step × Bool)}
    (h : done ++ [(st, false)] <+: kept.map (·, true) ++ [(only, false), (last, true)]) :
    done = kept.map (·, true) ∧ st = only := by
  induction kept generalizing done with
  | nil =>
    cases done with
    | nil =>
      obtain ⟨hfirst, -⟩ := List.cons_prefix_cons.mp h
      cases hfirst
      exact ⟨rfl, rfl⟩
    | cons first others =>
      obtain ⟨-, hothers⟩ := List.cons_prefix_cons.mp h
      cases others with
      | nil =>
        obtain ⟨hlast, -⟩ := List.cons_prefix_cons.mp hothers
        cases hlast
      | cons second more =>
        obtain ⟨-, hmore⟩ := List.cons_prefix_cons.mp hothers
        exact absurd (List.prefix_nil.mp hmore) (List.append_ne_nil_of_right_ne_nil _ nofun)
  | cons next rest ih =>
    cases done with
    | nil =>
      obtain ⟨hfirst, -⟩ := List.cons_prefix_cons.mp h
      cases hfirst
    | cons first others =>
      obtain ⟨hfirst, hothers⟩ := List.cons_prefix_cons.mp h
      obtain ⟨hdone, hst⟩ := ih hothers
      exact ⟨by rw [hfirst, hdone, List.map_cons], hst⟩

namespace Session

/-- What the kept steps come to when all steps are carried out. -/
def keptReports : List (Step × Bool) → Session ε β → List Report
  | [], _ => []
  | (st, true) :: rest, s => report st s :: keptReports rest (advance (step st) s).2
  | (st, false) :: rest, s => keptReports rest (advance (step st) s).2

theorem reports_append (first second : List Step) (s : Session ε β) :
    reports (first ++ second) s = reports first s ++ reports second (run first s).2 := by
  induction first generalizing s with
  | nil => rfl
  | cons next rest ih => exact congrArg (report next s :: ·) (ih _)

/-- Where all steps are kept, the reports are those of the steps. -/
theorem keptReports_append (kept : List Step) (rest : List (Step × Bool)) (s : Session ε β) :
    keptReports (kept.map (·, true) ++ rest) s =
      reports kept s ++ keptReports rest (run kept s).2 := by
  induction kept generalizing s with
  | nil => rfl
  | cons next others ih => exact congrArg (report next s :: ·) (ih _)

/-- **Thinning.** `Kept` and `Deleted` say when a step may be kept and when it may be deleted. A
relation that survives both makes no kept step tell whether the others were carried out. -/
theorem thinned {R : Session ε β → Session ε β → Prop} {Kept Deleted : Session ε β → Step → Prop}
    (hkept : ∀ s t st, R s t → Kept s st →
      report st s = report st t ∧ R (advance (step st) s).2 (advance (step st) t).2)
    (hdeleted : ∀ s t st, R s t → Deleted s st → R (advance (step st) s).2 t)
    (plan : List (Step × Bool)) {s t : Session ε β} (h : R s t)
    (hplan : ∀ done st kept, done ++ [(st, kept)] <+: plan →
      (kept = true → Kept (run (allSteps done) s).2 st) ∧
        (kept = false → Deleted (run (allSteps done) s).2 st)) :
    keptReports plan s = reports (keptSteps plan) t ∧
      R (run (allSteps plan) s).2 (run (keptSteps plan) t).2 := by
  induction plan generalizing s t with
  | nil => exact ⟨rfl, h⟩
  | cons next rest ih =>
    obtain ⟨st, kept⟩ := next
    have hnext := hplan [] st kept ⟨rest, rfl⟩
    -- the plan of the rest, read in the session that the first step leads to
    have hrest : ∀ done st' kept', done ++ [(st', kept')] <+: rest →
        (kept' = true → Kept (run (allSteps done) (advance (step st) s).2).2 st') ∧
          (kept' = false → Deleted (run (allSteps done) (advance (step st) s).2).2 st') := by
      intro done st' kept' hdone
      exact hplan ((st, kept) :: done) st' kept' (List.cons_prefix_cons.mpr ⟨rfl, hdone⟩)
    cases kept with
    | true =>
      obtain ⟨hreport, hafter⟩ := hkept s t st h (hnext.1 rfl)
      obtain ⟨hreports, hlast⟩ := ih hafter hrest
      refine ⟨?_, hlast⟩
      show report st s :: keptReports rest (advance (step st) s).2 =
        report st t :: reports (keptSteps rest) (advance (step st) t).2
      rw [hreport, hreports]
    | false => exact ih (hdeleted s t st h (hnext.2 rfl)) hrest

end Session

end MarketBridge
