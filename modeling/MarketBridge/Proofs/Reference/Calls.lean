import MarketBridge.Proofs.Journal.Shown
import MarketBridge.Proofs.Reference.Opened
import MarketBridge.Proofs.Session.Through

/-!
# `Reference.Calls` — what calls to the reference engine leave behind

However the reference engine is reached, through a table with or without the optional symbols or as
a module, a call has one of three outcomes (`Reply`): it is answered, it is refused and the engine
is as before, or an id of zero was taken for a refusal. Only calls that need a symbol or are
answered by an id can fail, and calls that read leave the engine as it is. So on an open wrapper
around the reference engine a call that reads or fails is traceless (`invoke_traceless`), the last
outcome aside.
-/

namespace MarketBridge

open Outcome

/-! ## Kinds of calls -/

/-- Whether the call only reads. -/
def EngineCall.isRead : EngineCall → Bool
  | .indicatorLast _ | .len | .signalsLen | .column _ | .timestampColumn => true
  | _ => false

/-- The engine call that the event is, if it is one. -/
def Event.engineCall? : Event → Option EngineCall
  | .native _ (.engine c) => some c
  | _ => none

theorem Backend.filterMap_crossing {ε β : Type} (b : Backend ε β) (c : EngineCall) :
    (b.crossing c).filterMap Event.engineCall? = b.carried c := by
  unfold crossing
  rw [List.filterMap_map]
  exact List.filterMap_some

/-- Whether the call can fail: it needs a symbol, or its answer is an id. -/
def EngineCall.mayFail (c : EngineCall) : Bool :=
  c.answersId || c.symbol?.isSome

namespace Reference

/-- The number of indicators if the call registers one, and of strategies if it registers one of
those, which takes a text with rules. -/
def Engine.registered? (s : Engine) : EngineCall → Option Nat
  | .addIndicator _ => some s.measures.length
  | .addStrategy _ text => (parseRules? text).map fun _ => s.strategies.length
  | _ => none

/-- The engine has an id other than zero for what the call registers: ids count what is registered,
in thirty-two bits. -/
def Engine.HasIdFor (s : Engine) (c : EngineCall) : Prop :=
  ∀ n ∈ s.registered? c, (n + 1) % UInt32.size ≠ 0

instance (s : Engine) (c : EngineCall) : Decidable (s.HasIdFor c) :=
  inferInstanceAs (Decidable (∀ n ∈ s.registered? c, (n + 1) % UInt32.size ≠ 0))

/-- The engine has such an id for each registration among the events. -/
def Engine.HasIdsFor (s : Engine) (events : List Event) : Prop :=
  ∀ c ∈ events.filterMap Event.engineCall?, s.HasIdFor c

instance (s : Engine) (events : List Event) : Decidable (s.HasIdsFor events) :=
  inferInstanceAs (Decidable (∀ c ∈ events.filterMap Event.engineCall?, s.HasIdFor c))

/-- A call that registers nothing needs no id. -/
theorem Engine.hasIdFor_of_answersId {c : EngineCall} (h : c.answersId = false) (s : Engine) :
    s.HasIdFor c := by
  cases c with
  | addIndicator _ => cases h
  | addStrategy _ _ => cases h
  | _ => exact nofun

theorem Engine.answer_of_isRead {c : EngineCall} (h : c.isRead = true) (s : Engine) :
    (s.answer c).2 = s := by
  cases c with
  | addIndicator _ => cases h
  | addStrategy _ _ => cases h
  | pushBar _ => cases h
  | updateLastBar _ => cases h
  | pollSignals _ => cases h
  | _ => rfl

/-! ## Replies -/

/-- What comes of a call to an engine in state `s`: the answer, and the state after it. -/
inductive Reply (s : Engine) (c : EngineCall) : Except Error c.Answer → Engine → Prop
  | ok (a : c.Answer) : Reply s c (.ok a) (s.answer c).2
  | refused (e : Error) (hc : c.mayFail = true) : Reply s c (.error e) s
  | zero (e : Error) (hc : c.answersId = true) (hids : ¬ s.HasIdFor c) :
      Reply s c (.error e) (s.answer c).2

namespace Reply

variable {s s' : Engine} {c : EngineCall} {answer : Except Error c.Answer}

/-- A call that reads leaves the engine as it is, and one that fails does unless it has run out of
ids. -/
theorem state (h : Reply s c answer s')
    (hc : c.isRead = true ∨ (∃ e, answer = .error e) ∧ s.HasIdFor c) :
    s' = s := by
  cases h with
  | ok a =>
    rcases hc with read | ⟨⟨e, failed⟩, -⟩
    · exact Engine.answer_of_isRead read s
    · cases failed
  | refused e _ => rfl
  | zero e _ hids =>
    rcases hc with read | ⟨-, ids⟩
    · exact Engine.answer_of_isRead read s
    · exact absurd ids hids

theorem exists_ok (h : Reply s c answer s') (hc : c.mayFail = false) : ∃ a, answer = .ok a := by
  cases h with
  | ok a => exact ⟨a, rfl⟩
  | refused e hmay => exact absurd (hc.symm.trans hmay) Bool.false_ne_true
  | zero e hid _ =>
    have hmay : c.mayFail = true := by
      unfold EngineCall.mayFail
      rw [hid, Bool.true_or]
    exact absurd (hc.symm.trans hmay) Bool.false_ne_true

end Reply

theorem addMeasure_reply (s : Engine) (spec : IndicatorSpec) (fault : ParameterFault) :
    Reply s (.addIndicator spec) (TableBackend.accepted (s.addMeasure (.ofSpec spec)).1 fault)
      (s.answer (.addIndicator spec)).2 := by
  unfold TableBackend.accepted
  by_cases zero : (s.addMeasure (.ofSpec spec)).1 = 0
  · rw [if_pos zero]
    refine .zero _ rfl fun hids => hids s.measures.length rfl ?_
    have hlength : (s.measures ++ [Measure.ofSpec spec]).length = s.measures.length + 1 :=
      List.length_append
    rw [← hlength, ← UInt32.toNat_ofNat']
    exact congrArg UInt32.toNat zero
  · rw [if_neg zero]
    exact .ok _

/-- A text that is no strategy is refused by the id zero, and leaves the engine as it is. -/
theorem addStrategy_reply (s : Engine) (name text : String) (fault : ParameterFault) :
    Reply s (.addStrategy name text) (TableBackend.accepted (s.addStrategy text).1 fault)
      (s.addStrategy text).2 := by
  unfold TableBackend.accepted
  by_cases zero : (s.addStrategy text).1 = 0
  · rw [if_pos zero]
    -- zero says that the text is no strategy, unless the ids have run out
    cases hparse : parseRules? text with
    | none =>
      have hsame : (s.addStrategy text).2 = s := by
        unfold Engine.addStrategy
        rw [hparse]
      rw [hsame]
      exact .refused _ rfl
    | some rules =>
      have hregistered : s.registered? (.addStrategy name text) = some s.strategies.length := by
        show (parseRules? text).map _ = _
        rw [hparse]
        rfl
      refine .zero _ rfl fun hids => hids s.strategies.length hregistered ?_
      unfold Engine.addStrategy at zero
      rw [hparse] at zero
      rw [← UInt32.toNat_ofNat', UInt32.ofNat_add]
      exact congrArg UInt32.toNat zero
  · rw [if_neg zero]
    exact .ok _

/-- A call that a table lets through if it has the symbol. -/
theorem needing_reply {b : TableBackend Engine Backtest} {s : Engine} {c : EngineCall}
    {symbol : Option OptionalSymbol} (hsymbol : c.symbol? = symbol)
    {op : Op Engine (Except Error c.Answer)} (h : Reply s c (op s).answer (op s).state) :
    Reply s c (b.needing symbol op s).answer (b.needing symbol op s).state := by
  cases symbol with
  | none => exact h
  | some y =>
    by_cases has : b.table.has y = true
    · rw [TableBackend.needing_of_has has]
      exact h
    · rw [TableBackend.needing_of_lacks has]
      refine .refused _ ?_
      unfold EngineCall.mayFail
      rw [hsymbol, Option.isSome_some, Bool.or_true]

theorem engineCall_reply {b : TableBackend Engine Backtest} {site : Site} (hb : b.code = code site)
    (c : EngineCall) (s : Engine) :
    Reply s c (b.engineCall c s).answer (b.engineCall c s).state := by
  obtain ⟨origin, dynamic, table, native⟩ := b
  dsimp only at hb
  subst hb
  cases c with
  | addIndicator spec =>
    exact needing_reply (EngineCall.symbol?_addIndicator spec) (addMeasure_reply s spec _)
  | addStrategy name text => exact addStrategy_reply s name text _
  | len =>
    unfold TableBackend.engineCall
    dsimp only
    by_cases has : table.has .len = true
    · rw [if_pos has]
      exact .ok _
    · rw [if_neg has]
      exact .ok _
  | column field => exact needing_reply (EngineCall.symbol?_column field) (.ok _)
  | timestampColumn => exact needing_reply (c := .timestampColumn) rfl (.ok _)
  | _ => exact .ok _

theorem callEngine_reply (c : EngineCall) (s : Engine) :
    Reply s c (engineModule.callEngine c s).answer (engineModule.callEngine c s).state := by
  cases c with
  | addStrategy name text =>
    rw [callEngine_addStrategy]
    exact addStrategy_reply s name text _
  | _ => exact .ok _

/-! ## Links -/

/-- The backend leads to the reference engine, through some table or as the module. -/
inductive OnReference : Backend Engine Backtest → Prop
  | table (b : TableBackend Engine Backtest) (site : Site) (hcode : b.code = code site)
      (hsite : site ≠ .scripted) : OnReference (.table b)
  | inProcess : OnReference (.inProcess engineModule)

/-- A call through the link leads to a reply, and to the link to the state after it. -/
theorem call_reply {l : EngineLink Engine Backtest} (h : l.Live) (hl : OnReference l.backend)
    (c : EngineCall) :
    ∃ s s', l.native? = some s ∧ Reply s c (EngineLink.call c l).answer s' ∧
      (s' = s → (EngineLink.call c l).state = l) := by
  cases h with
  | table b s =>
    cases hl with
    | table b site hcode hsite =>
      refine ⟨s, (b.engineCall c s).state, rfl, engineCall_reply hcode c s, fun hs => ?_⟩
      rw [EngineLink.call_engineLink]
      exact congrArg b.engineLink hs
  | inProcess m s =>
    cases hl with
    | inProcess =>
      refine ⟨s, (engineModule.callEngine c s).state, rfl, callEngine_reply c s, fun hs => ?_⟩
      rw [EngineLink.call_inProcess]
      exact congrArg (EngineLink.inProcess engineModule) hs

/-- Engine calls are not shown. -/
theorem call_shown {l : EngineLink Engine Backtest} (h : l.Live) (hl : OnReference l.backend)
    (c : EngineCall) : shown (EngineLink.call c l).events = [] := by
  cases h with
  | table b s =>
    cases hl with
    | table b site hcode hsite =>
      have hrun : b.code.site ≠ .scripted := by rwa [hcode]
      exact TableBackend.shown_engineCall hrun c s
  | inProcess m s =>
    cases hl with
    | inProcess =>
      rw [EngineLink.call_inProcess]
      cases c with
      | addStrategy name text =>
        rw [callEngine_addStrategy]
        rfl
      | _ => rfl

/-! ## Wrappers -/

/-- The wrapper is closed or around a reference engine. -/
structure Wraps (e : MarketBridge.Engine Engine Backtest) : Prop where
  live : e.Live
  backend : ∀ b ∈ e.backend?, OnReference b

variable {e : MarketBridge.Engine Engine Backtest} {c : EngineCall}

/-- A call that reads is traceless, and so is one that fails, unless it crosses to an engine that
has run out of ids. -/
theorem invoke_traceless (h : Wraps e)
    (hc : c.isRead = true ∨
      (∃ error, (MarketBridge.Engine.invoke c e).answer = .error error) ∧
        ∀ s, e.native? = some s → s.HasIdsFor (e.crossing c)) :
    Traceless e (MarketBridge.Engine.invoke c e) := by
  obtain ⟨link, kind, decode, capacity⟩ := e
  cases link with
  | none => exact ⟨rfl, rfl⟩
  | some l =>
    obtain ⟨s, s', native, reply, same⟩ := call_reply (h.live l rfl) (h.backend l.backend rfl) c
    have hstate : (EngineLink.call c l).state = l := by
      rcases hc with read | ⟨failed, ids⟩
      · exact same (reply.state (.inl read))
      · cases registers : c.answersId with
        | false =>
          exact same (reply.state (.inr ⟨failed, s.hasIdFor_of_answersId registers⟩))
        | true =>
          have hlen : c ≠ .len := by
            rintro rfl
            cases registers
          rcases EngineLink.carried_or_state (h.live l rfl) hlen with carried | kept
          · rw [← l.backend.filterMap_crossing] at carried
            exact same (reply.state (.inr ⟨failed, ids s native c carried⟩))
          · exact kept
    refine ⟨?_, call_shown (h.live l rfl) (h.backend l.backend rfl) c⟩
    show MarketBridge.Engine.mk (some (EngineLink.call c l).state) kind decode capacity = _
    rw [hstate]

/-- A call that cannot fail is answered, as long as the wrapper is open. -/
theorem invoke_ok (h : Wraps e) (hopen : e.isClosed = false) (hc : c.mayFail = false) :
    ∃ a, (MarketBridge.Engine.invoke c e).answer = .ok a := by
  obtain ⟨link, kind, decode, capacity⟩ := e
  cases link with
  | none => cases hopen
  | some l =>
    obtain ⟨s, s', -, reply, -⟩ := call_reply (h.live l rfl) (h.backend l.backend rfl) c
    exact reply.exists_ok hc

/-- A call leaves the wrapper open and around a reference engine. -/
theorem invoke_wraps (h : Wraps e) (c : EngineCall) :
    Wraps (MarketBridge.Engine.invoke c e).state ∧
      (MarketBridge.Engine.invoke c e).state.isClosed = e.isClosed := by
  obtain ⟨backend, live⟩ := (MarketBridge.Engine.invoke_crosses ⟨rfl, h.live⟩ c).state
  refine ⟨⟨live, ?_⟩, ?_⟩
  · rw [backend]
    exact h.backend
  · obtain ⟨link, kind, decode, capacity⟩ := e
    cases link with
    | none => rfl
    | some l => rfl

end Reference

end MarketBridge
