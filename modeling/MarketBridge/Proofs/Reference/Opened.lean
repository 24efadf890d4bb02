import MarketBridge.Engine
import MarketBridge.Proofs.Reference.Binding

/-!
# `Reference.Opened` — an open wrapper around a reference engine

Behind the table of all symbols and as a module, the reference engine is created and answers in the
same way, so what is proved of an open wrapper is proved of `opened`, which has the kind of boundary
as a parameter. A call reaches the state inside and nothing else (`invoke_opened_state`); unless its
answer is an id, it comes back as the engine gave it (`invoke_opened`).
-/

namespace MarketBridge

/-- Whether the answer of the call is an id, which may be refused on the way back. -/
def EngineCall.answersId : EngineCall → Bool
  | .addIndicator _ | .addStrategy _ _ => true
  | _ => false

theorem EngineCall.isRegistration_of_answersId {c : EngineCall} (h : c.answersId = false) :
    c.isRegistration = false := by
  cases c with
  | addIndicator _ => cases h
  | _ => rfl

namespace Reference

/-- The reference engine behind a boundary: the table of all symbols, or the module. -/
def backend : BackendKind → Backend Engine Backtest
  | .dylib => .table (linked fullTable)
  | .inProcess => .inProcess engineModule

/-- The link across that boundary to an engine. -/
def link : BackendKind → Engine → EngineLink Engine Backtest
  | .dylib, s => (linked fullTable).engineLink s
  | .inProcess, s => .inProcess engineModule s

/-- The open wrapper around an engine. -/
def opened (kind : BackendKind) (decode : DecodePolicy) (capacity : UInt64) (s : Engine) :
    MarketBridge.Engine Engine Backtest :=
  ⟨some (link kind s), kind, decode, capacity⟩

variable {capacity : UInt64} {s : Engine}

theorem Engine.new?_ne_zero (h : Engine.new? capacity = some s) : capacity ≠ 0 := by
  rintro rfl
  cases h

theorem createEngine_backend (kind : BackendKind) (h : Engine.new? capacity = some s) :
    (Backend.createEngine capacity (backend kind) ()).answer = .ok (link kind s) := by
  cases kind with
  | dylib =>
    have hnew : (linked fullTable).code.newEngine capacity = some s := h
    show (Backend.createEngine capacity (.table (linked fullTable)) ()).answer = _
    rw [Backend.createEngine_table, hnew]
    rfl
  | inProcess =>
    have hnew : engineModule.newEngine capacity = some s := h
    show (Backend.createEngine capacity (.inProcess engineModule) ()).answer = _
    rw [Backend.createEngine_inProcess, hnew]
    rfl

/-- Creating an engine opens the one that the constructor returns. -/
theorem create_opened (kind : BackendKind) (decode : DecodePolicy)
    (h : Engine.new? capacity = some s) :
    (MarketBridge.Engine.create ⟨backend kind, decode⟩ capacity ()).answer =
      .ok (opened kind decode capacity s) := by
  have hlink := createEngine_backend kind h
  unfold MarketBridge.Engine.create
  rw [if_neg (Engine.new?_ne_zero h), Op.bind_apply, hlink]
  cases kind <;> rfl

/-! ## Calls -/

theorem callEngine_module {c : EngineCall} (hc : c.answersId = false) :
    engineModule.callEngine c s =
      ⟨.ok (s.answer c).1, (s.answer c).2, [.native .linked (.engine c)]⟩ := by
  cases c with
  | addIndicator _ => cases hc
  | addStrategy _ _ => cases hc
  | _ => rfl

theorem callEngine_module_state (c : EngineCall) :
    (engineModule.callEngine c s).state = (s.answer c).2 := by
  cases c with
  | addStrategy name text =>
    rw [callEngine_addStrategy]
    rfl
  | _ => rfl

theorem engineCall_table {c : EngineCall} (hc : c.isRegistration = false) :
    (linked fullTable).engineCall c s = engineModule.callEngine c s :=
  mirrors.engine c s fun hreg => absurd (hc.symm.trans hreg) Bool.false_ne_true

theorem engineCall_table_state (c : EngineCall) :
    ((linked fullTable).engineCall c s).state = (s.answer c).2 := by
  cases c with
  | addIndicator spec =>
    rw [TableBackend.engineCall, needing_linked]
    rfl
  | _ =>
    rw [engineCall_table rfl]
    exact callEngine_module_state _

theorem call_link (kind : BackendKind) (s : Engine) {c : EngineCall} (hc : c.answersId = false) :
    EngineLink.call c (link kind s) =
      ⟨.ok (s.answer c).1, link kind (s.answer c).2, [.native .linked (.engine c)]⟩ := by
  have hmodule := callEngine_module (s := s) hc
  cases kind with
  | inProcess =>
    show EngineLink.call c (.inProcess engineModule s) = _
    rw [EngineLink.call_inProcess, hmodule]
    rfl
  | dylib =>
    have htable := engineCall_table (s := s) (EngineCall.isRegistration_of_answersId hc)
    show EngineLink.call c ((linked fullTable).engineLink s) = _
    rw [EngineLink.call_engineLink, htable, hmodule]
    rfl

theorem call_link_state (kind : BackendKind) (s : Engine) (c : EngineCall) :
    (EngineLink.call c (link kind s)).state = link kind (s.answer c).2 := by
  cases kind with
  | inProcess => exact congrArg (EngineLink.inProcess engineModule) (callEngine_module_state c)
  | dylib => exact congrArg (linked fullTable).engineLink (engineCall_table_state c)

variable (kind : BackendKind) (decode : DecodePolicy) (capacity : UInt64) (s : Engine)

/-- A call that is not answered by an id reaches the engine and brings back what it says. -/
theorem invoke_opened {c : EngineCall} (hc : c.answersId = false) :
    MarketBridge.Engine.invoke c (opened kind decode capacity s) =
      ⟨.ok (s.answer c).1, opened kind decode capacity (s.answer c).2,
        [.native .linked (.engine c)]⟩ := by
  have hcall := call_link kind s hc
  unfold MarketBridge.Engine.invoke opened
  dsimp only
  rw [hcall]

/-- Every call leaves the wrapper around the state that the engine goes to. -/
theorem invoke_opened_state (c : EngineCall) :
    (MarketBridge.Engine.invoke c (opened kind decode capacity s)).state =
      opened kind decode capacity (s.answer c).2 := by
  have hstate := call_link_state kind s c
  unfold MarketBridge.Engine.invoke opened
  dsimp only
  rw [hstate]

end Reference

end MarketBridge
