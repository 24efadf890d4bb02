import MarketBridge.Proofs.Session.Slots
import MarketBridge.Session.Run

/-!
# `Session.Native` — the native state behind a wrapper

A wrapper owns at most one native engine or backtest. `native?` reads its state out of the wrapper,
whichever way the calls travel; there is none once it has been freed.
-/

namespace MarketBridge

variable {ε β : Type}

/-- The state of the engine at the other end of the link. -/
def EngineLink.native? : EngineLink ε β → Option ε
  | .table _ handle => handle.target
  | .inProcess _ s => some s

/-- The state of the engine that is owned, if it is open. -/
def Engine.native? (e : Engine ε β) : Option ε :=
  e.link.bind EngineLink.native?

/-- Every open engine of the session passes the test. -/
def Session.EachNative (P : ε → Prop) (s : Session ε β) : Prop :=
  ∀ e ∈ s.engines.toList, ∀ native ∈ e.native?.toList, P native

instance Session.decidableEachNative (P : ε → Prop) [DecidablePred P] (s : Session ε β) :
    Decidable (s.EachNative P) :=
  inferInstanceAs (Decidable (∀ e ∈ s.engines.toList, ∀ native ∈ e.native?.toList, P native))

theorem Session.EachNative.at {P : ε → Prop} {s : Session ε β} (h : s.EachNative P) {slot : Nat}
    {e : Engine ε β} (he : s.engines.get? slot = some e) {native : ε}
    (hn : e.native? = some native) : P native :=
  h e (Slots.mem_toList_of_get? he) native (by simp [hn])

end MarketBridge
