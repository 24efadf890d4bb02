import Mathlib.Data.List.Infix
import MarketBridge.Proofs.Session.Agreement
import MarketBridge.Reference.Code

/-!
# `Reference.Binding` — the reference engine behind its table and as a module

The full table lets every call through (`needing_linked`), and the module refuses a strategy with
the error that the table makes of the id zero (`settle_accepted`). So the two mirror each other
(`mirrors`) as long as no engine runs out of indicator ids, and a session shows the same on both
(`bindings_show_the_same`).
-/

namespace MarketBridge.Reference

open Outcome

theorem fullTable_has (symbol : OptionalSymbol) : fullTable.has symbol = true := by
  cases symbol <;> decide

/-- What the reference engine needs for its next indicator id not to be zero. -/
def Engine.HasRoom (e : Engine) : Prop :=
  e.measures.length < UInt32.size - 1

instance (e : Engine) : Decidable e.HasRoom :=
  inferInstanceAs (Decidable (e.measures.length < UInt32.size - 1))

/-- The id of the next indicator is not zero. -/
theorem Engine.addMeasure_ne_zero {e : Engine} (h : e.HasRoom) (measure : Measure) :
    (e.addMeasure measure).1 ≠ 0 := by
  unfold HasRoom at h
  intro zero
  have hnat := congrArg UInt32.toNat zero
  simp only [addMeasure, List.length_append, List.length_singleton, UInt32.toNat_ofNat'] at hnat
  have hzero : (0 : UInt32).toNat = 0 := rfl
  have hsize : UInt32.size = 4294967296 := rfl
  omega

/-- A full table lets every operation through. -/
theorem needing_linked {σ α : Type} (symbol : Option OptionalSymbol)
    (op : Op σ (Except Error α)) : (linked fullTable).needing symbol op = op := by
  cases symbol with
  | none => rfl
  | some s => exact if_pos (fullTable_has s)

/-- Refusing an id through the table or inside the module makes no difference. -/
theorem settle_accepted (id : UInt32) (fault : ParameterFault) (e : Engine) :
    Failure.settle ((TableBackend.accepted id fault).mapError .ofError) e =
      ⟨TableBackend.accepted id fault, e, []⟩ := by
  unfold TableBackend.accepted
  by_cases zero : id = 0
  · rw [if_pos zero]
    rfl
  · rw [if_neg zero]
    rfl

/-- The module answers a strategy as the table does. -/
theorem callEngine_addStrategy (name text : String) (s : Engine) :
    engineModule.callEngine (.addStrategy name text) s =
      ⟨TableBackend.accepted (s.addStrategy text).1 (.rejectedStrategy name),
        (s.addStrategy text).2, [.native .linked (.engine (.addStrategy name text))]⟩ := by
  have settled := settle_accepted (s.addStrategy text).1 (.rejectedStrategy name)
    (s.addStrategy text).2
  exact congrArg (fun o : Outcome Engine (Except Error UInt32) => Outcome.mk o.answer o.state
    (.native .linked (.engine (.addStrategy name text)) :: o.events)) settled

/-- The table of all symbols and the module lead to the same reference engine. -/
theorem mirrors : Mirrors (linked fullTable) engineModule Engine.HasRoom where
  site := rfl
  newEngine := rfl
  newBacktest := rfl
  backtest _ _ := rfl
  engine c s hroom := by
    cases c with
    | addIndicator spec =>
      -- the table takes an id of zero for a refusal, so this is where room is needed
      have hid := Engine.addMeasure_ne_zero (hroom rfl) (.ofSpec spec)
      rw [TableBackend.engineCall, needing_linked]
      show Outcome.mk (TableBackend.accepted (s.addMeasure (.ofSpec spec)).1 _) _ _ = _
      rw [TableBackend.accepted, if_neg hid]
      rfl
    | addStrategy name text =>
      rw [callEngine_addStrategy]
      rfl
    | len =>
      rw [TableBackend.engineCall]
      exact congrFun (if_pos (fullTable_has .len)) s
    | column field =>
      rw [TableBackend.engineCall, needing_linked]
      rfl
    | timestampColumn =>
      rw [TableBackend.engineCall, needing_linked]
      rfl
    | _ => rfl

/-- **The table and the module are observably the same.** Whatever the policy and whatever the
steps, a session on the reference engine behind its full table and one on the reference engine as a
module show the same after every step, and the same counters once everything is dropped. Before no
step may an engine be about to give out the id zero. -/
theorem bindings_show_the_same (host : Host Engine Backtest) (decode : DecodePolicy)
    (steps : List Step)
    (hroom : ∀ done next, done ++ [next] <+: steps →
      (Session.run done (Session.start host ⟨.table (linked fullTable), decode⟩)).2.EachNative
        Engine.HasRoom) :
    Session.sights steps (Session.start host ⟨.table (linked fullTable), decode⟩) =
        Session.sights steps (Session.start host ⟨.inProcess engineModule, decode⟩) ∧
      (Session.run steps
          (Session.start host ⟨.table (linked fullTable), decode⟩)).2.closingCounters =
        (Session.run steps
          (Session.start host ⟨.inProcess engineModule, decode⟩)).2.closingCounters := by
  obtain ⟨sights, twin⟩ := Session.sights_eq_of_twin mirrors steps
    (Session.twin_start (linked fullTable) engineModule host decode) hroom
  exact ⟨sights, Session.closingCounters_eq_of_twin mirrors twin⟩

/-- Indicators, a strategy with a tag that no action has, a full ring, a drain, the name of the
backend, and parameters that the engine refuses. -/
def mixedSteps : List Step :=
  [.newEngine 0 1, .engine 0 (.addRsi 3), .engine 0 (.addStrategy "odd" "EMIT 7"),
    .engine 0 (.pushCloses 5 [1.5, 2.5]), .engine 0 .drain, .engine 0 .describe,
    .newBacktest 1 ⟨1000.0, 10.0, 1.0, 0.0, 0.0, 2.0⟩, .dropEngine 0]

theorem mixedSteps_show_the_same :
    (∀ done next, done ++ [next] <+: mixedSteps →
      (Session.run done (Session.start ⟨.unset "linux", none, fun _ => none⟩
        ⟨.table (linked fullTable), .strict⟩)).2.EachNative Engine.HasRoom) ∧
    Session.sights mixedSteps (Session.start ⟨.unset "linux", none, fun _ => none⟩
        ⟨.table (linked fullTable), .strict⟩) =
      Session.sights mixedSteps (Session.start ⟨.unset "linux", none, fun _ => none⟩
        ⟨.inProcess engineModule, .strict⟩) := by
  have hroom : ∀ done ∈ mixedSteps.inits,
      (Session.run done (Session.start ⟨.unset "linux", none, fun _ => none⟩
        ⟨.table (linked fullTable), .strict⟩)).2.EachNative Engine.HasRoom := by decide +kernel
  have hdone := fun done next (h : done ++ [next] <+: mixedSteps) =>
    hroom done ((List.mem_inits _ _).mpr ((List.prefix_append done [next]).trans h))
  exact ⟨hdone, (bindings_show_the_same _ _ _ hdone).1⟩

end MarketBridge.Reference
