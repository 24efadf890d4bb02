import MarketBridge.Proofs.Journal.Crossing
import MarketBridge.Proofs.Boundary

/-!
# `Selector` — selecting a backend makes no native call

A module is asked whether it refuses, and a library is loaded and its symbols are looked up; neither
enters engine code. So all that a selection leaves in the journal is log lines
(`Bridge.ofEnvironment_silent`).
-/

namespace MarketBridge

open Outcome

variable {ε β : Type}

/-- The operation makes no native call. -/
def Outcome.Silent {σ α : Type} (o : Outcome σ α) : Prop :=
  Crosses (fun _ => True) [] o

namespace Outcome.Silent

variable {σ α γ : Type} {s : σ}

theorem pure (a : α) : Silent ((Pure.pure a : Op σ α) s) := Crosses.pure trivial

theorem log (n : Notice) : Silent (Op.log n s) := Crosses.log trivial

theorem bind {x : Op σ α} {f : α → Op σ γ} (first : Silent (x s))
    (second : ∀ a u, Silent (f a u)) : Silent ((x >>= f) s) := by
  have hboth : Crosses (fun _ => True) ([] ++ []) ((x >>= f) s) :=
    Crosses.bind first fun _ => second _ _
  exact hboth

end Outcome.Silent

theorem TableBackend.load_silent (host : Host ε β) (path : Path) :
    Silent (TableBackend.load host path ()) := by
  unfold load
  refine .bind (.log _) fun _ _ => ?_
  cases host.library path with
  | none => exact .pure _
  | some library =>
    dsimp only
    cases SymbolTable.resolve library.symbol with
    | error fault => exact .pure _
    | ok table => exact .pure _

namespace Selector

theorem inProcess_silent (s : Selector ε β) (host : Host ε β) : Silent (s.inProcess host ()) := by
  unfold inProcess
  cases s.offered <|> host.registered with
  | none => exact .pure _
  | some m =>
    refine .bind ⟨Failure.crossings_settle m.probe (), trivial⟩ fun answer _ => ?_
    cases answer with
    | error e => exact .pure _
    | ok _ => exact .pure _

theorem fallback_silent (s : Selector ε β) (host : Host ε β) : Silent (s.fallback host ()) := by
  unfold fallback
  refine .bind ?_ fun _ _ => .pure _
  unfold dylib
  cases s.config.libraryPath host.environment with
  | error e => exact .pure _
  | ok path => exact TableBackend.load_silent host path

theorem backend_silent (s : Selector ε β) (host : Host ε β) : Silent (s.backend host ()) := by
  unfold backend
  cases s.config.backend with
  | inProcess => exact .bind (s.inProcess_silent host) fun _ _ => .pure _
  | dylib => exact s.fallback_silent host
  | auto =>
    refine .bind (s.inProcess_silent host) fun answer _ => ?_
    cases answer with
    | ok m => exact .pure _
    | error e => exact .bind (.log _) fun _ _ => s.fallback_silent host

end Selector

/-- Finding the bridge that the environment describes makes no native call. -/
theorem Bridge.ofEnvironment_silent (host : Host ε β) : Silent (Bridge.ofEnvironment host ()) := by
  unfold ofEnvironment
  cases Selector.ofEnvironment host with
  | error e => exact .pure _
  | ok s =>
    refine .bind (s.backend_silent host) fun answer _ => ?_
    cases answer with
    | error e => exact .pure _
    | ok backend => exact .bind (.log _) fun _ _ => .pure _

end MarketBridge
