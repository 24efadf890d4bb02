import MarketBridge.Proofs.Session.Called
import MarketBridge.Reference.Code
import MarketBridge.Script

/-!
# `Registration` — the ids that engines give out

Indicators and strategies are registered under ids, and zero is how an engine says that it refuses.
Behind a table a zero is taken for that (`register_table`); behind a module, which can also fail in
words of its own, it is passed on like any other answer (`register_inProcess`). So an open wrapper
never tells the id zero behind a table, and behind a module it does whenever the module answers by
it (`zero_passes_modules_only`).
-/

namespace MarketBridge

variable {ε β : Type}

/-! ## What is registered -/

/-- Something that an engine registers under an id. -/
inductive Registration
  | indicator (spec : IndicatorSpec)
  | rsi (period : UInt64)
  | strategy (name text : String)
  deriving DecidableEq

namespace Registration

/-- The wrapper has nothing against it. What a strategy says is for the engine to judge. -/
def Acceptable : Registration → Prop
  | indicator spec => spec.Acceptable
  | rsi period => period ≠ 0
  | strategy _ _ => True

/-- The optional symbol without which a library cannot be asked for it. -/
def symbol? : Registration → Option OptionalSymbol
  | indicator spec => (EngineCall.addIndicator spec).symbol?
  | rsi _ | strategy _ _ => none

/-- What is reported when the engine refuses it. -/
def fault : Registration → ParameterFault
  | indicator spec => .rejectedIndicator spec
  | rsi period => .rejectedIndicator (.rsi period)
  | strategy name _ => .rejectedStrategy name

end Registration

/-- Registers something with the engine; answers its id. -/
def Engine.register : Registration → Op (Engine ε β) (Except Error UInt32)
  | .indicator spec => addIndicator spec
  | .rsi period => addRsi period
  | .strategy name text => addStrategy name text

/-! ## What engines answer -/

/-- The id that the code of a library gives. -/
def NativeCode.idFor (code : NativeCode ε β) (s : ε) : Registration → UInt32
  | .indicator spec => (code.engine (.addIndicator spec) s).1
  | .rsi period => (code.engine (.addIndicator (.rsi period)) s).1
  | .strategy name text => (code.engine (.addStrategy name text) s).1

/-- The id that a module gives, or its failure. -/
def EngineModule.idFor (m : EngineModule ε β) (s : ε) : Registration → Except Failure UInt32
  | .indicator spec => (m.engine (.addIndicator spec) s).1
  | .rsi period => (m.engine (.addIndicator (.rsi period)) s).1
  | .strategy name text => (m.engine (.addStrategy name text) s).1

/-- The engine behind the link is asked for the registration and answers by the id. -/
inductive EngineLink.Gives : EngineLink ε β → Registration → UInt32 → Prop
  | table (b : TableBackend ε β) (s : ε) (r : Registration)
      (has : r.symbol?.all b.table.has = true) : Gives (b.engineLink s) r (b.code.idFor s r)
  | inProcess (m : EngineModule ε β) (s : ε) (r : Registration) (id : UInt32)
      (answered : m.idFor s r = .ok id) : Gives (.inProcess m s) r id

/-! ## What wrappers make of it -/

namespace Engine

variable {r : Registration} (kind : BackendKind) (decode : DecodePolicy) (capacity : UInt64)

/-- A library that has the symbol is asked, and its id is checked. -/
theorem register_table (b : TableBackend ε β) (s : ε) (hr : r.Acceptable)
    (has : r.symbol?.all b.table.has = true) :
    (register r ⟨some (b.engineLink s), kind, decode, capacity⟩).answer =
      TableBackend.accepted (b.code.idFor s r) r.fault := by
  have hneeding : ∀ spec : IndicatorSpec, spec.symbol?.all b.table.has = true →
      (b.engineCall (.addIndicator spec) s).answer =
        TableBackend.accepted (b.code.engine (.addIndicator spec) s).1
          (.rejectedIndicator spec) := by
    intro spec hspec
    rw [TableBackend.engineCall, TableBackend.needing_of_all hspec]
    rfl
  cases r with
  | indicator spec =>
    unfold register
    dsimp only
    rw [addIndicator_of_acceptable hr]
    exact hneeding spec (EngineCall.symbol?_addIndicator spec ▸ has)
  | rsi period =>
    unfold register addRsi
    dsimp only
    rw [addIndicator_of_acceptable ((IndicatorSpec.acceptable_rsi_iff period).mpr hr)]
    exact hneeding (.rsi period) rfl
  | strategy name text => rfl

/-- A library that lacks the symbol is not asked. -/
theorem register_lacking (b : TableBackend ε β) (s : ε) (hr : r.Acceptable)
    (hlacks : r.symbol?.all b.table.has = false) :
    ∃ y, (register r ⟨some (b.engineLink s), kind, decode, capacity⟩).answer =
      .error (TableBackend.missing y) := by
  cases r with
  | indicator spec =>
    obtain ⟨y, hy, hnot⟩ : ∃ y, spec.symbol? = some y ∧ ¬ b.table.has y = true := by
      cases hsymbol : spec.symbol? with
      | none =>
        rw [Registration.symbol?, EngineCall.symbol?_addIndicator, hsymbol] at hlacks
        cases hlacks
      | some y =>
        rw [Registration.symbol?, EngineCall.symbol?_addIndicator, hsymbol] at hlacks
        exact ⟨y, rfl, Bool.eq_false_iff.mp hlacks⟩
    refine ⟨y, ?_⟩
    have hcall : (b.engineCall (.addIndicator spec) s).answer =
        .error (TableBackend.missing y) := by
      rw [TableBackend.engineCall, hy, TableBackend.needing_of_lacks hnot]
      rfl
    unfold register
    dsimp only
    rw [addIndicator_of_acceptable hr]
    exact hcall
  | rsi period => cases hlacks
  | strategy name text => cases hlacks

/-- What a module answers is passed on. -/
theorem register_inProcess (m : EngineModule ε β) (s : ε) (hr : r.Acceptable) :
    (register r ⟨some (.inProcess m s), kind, decode, capacity⟩).answer =
      (m.idFor s r).mapError Failure.error := by
  have hpassed : ∀ (answer : Except Failure UInt32) (s : ε),
      (Failure.settle answer s).answer = answer.mapError Failure.error := by
    intro answer s
    cases answer with
    | ok id => rfl
    | error failure => rfl
  cases r with
  | indicator spec =>
    unfold register
    dsimp only
    rw [addIndicator_of_acceptable hr]
    exact hpassed _ _
  | rsi period =>
    unfold register addRsi
    dsimp only
    rw [addIndicator_of_acceptable ((IndicatorSpec.acceptable_rsi_iff period).mpr hr)]
    exact hpassed _ _
  | strategy name text => exact hpassed _ _

end Engine

/-! ## The id zero -/

/-- Zero is no id: it is not told as one, and where the engine answers by it an argument is reported
to be at fault. -/
structure ZeroRefused (l : EngineLink ε β) (r : Registration) (told : Except Error UInt32) :
    Prop where
  nonzero : ∀ id, told = .ok id → id ≠ 0
  refused : l.Gives r 0 → ∃ fault, told = .error (.invalidParameter fault)

/-- What an open wrapper tells of a registration. -/
structure RegistrationLaw (l : EngineLink ε β) (r : Registration) (told : Except Error UInt32) :
    Prop where
  /-- Behind a table the id of the engine is told unless it is zero. -/
  checked : ∀ id, l.backend.kind = .dylib → l.Gives r id →
    told = if id = 0 then .error (.invalidParameter r.fault) else .ok id
  /-- Behind a module it is told whatever it is. -/
  passed : ∀ id, l.backend.kind = .inProcess → l.Gives r id → told = .ok id
  /-- No id is told that the engine has not given. -/
  given : ∀ id, told = .ok id → l.Gives r id
  /-- Zero is refused except where a module answers by it. -/
  zero : ZeroRefused l r told ↔ ¬ (l.backend.kind = .inProcess ∧ l.Gives r 0)

theorem TableBackend.gives_iff {b : TableBackend ε β} {s : ε} {r : Registration} {id : UInt32} :
    (b.engineLink s).Gives r id ↔ r.symbol?.all b.table.has = true ∧ b.code.idFor s r = id := by
  constructor
  · intro h
    cases h with
    | table b s r has => exact ⟨has, rfl⟩
  · rintro ⟨has, rfl⟩
    exact .table b s r has

theorem EngineModule.gives_iff {m : EngineModule ε β} {s : ε} {r : Registration} {id : UInt32} :
    (EngineLink.inProcess m s).Gives r id ↔ m.idFor s r = .ok id := by
  constructor
  · intro h
    cases h with
    | inProcess m s r id answered => exact answered
  · exact .inProcess m s r id

theorem TableBackend.accepted_eq_ok_iff {given id : UInt32} {fault : ParameterFault} :
    accepted given fault = .ok id ↔ id ≠ 0 ∧ given = id := by
  unfold accepted
  by_cases hzero : given = 0
  · subst hzero
    simp [eq_comm]
  · simp only [if_neg hzero, Except.ok.injEq]
    constructor
    · rintro rfl
      exact ⟨hzero, rfl⟩
    · exact fun h => h.2

theorem mapError_eq_ok_iff {α φ ψ : Type} {f : φ → ψ} {x : Except φ α} {a : α} :
    x.mapError f = .ok a ↔ x = .ok a := by
  cases x with
  | ok b => simp [Except.mapError]
  | error e => simp [Except.mapError]

namespace RegistrationLaw

variable {r : Registration}

/-- An engine that gives no id, and an error. -/
theorem of_silent {l : EngineLink ε β} (hnever : ∀ id, ¬ l.Gives r id) (e : Error) :
    RegistrationLaw l r (.error e) where
  checked id _ hid := absurd hid (hnever id)
  passed id _ hid := absurd hid (hnever id)
  given := by
    rintro id ⟨⟩
  zero := by
    refine iff_of_true ⟨?_, fun hzero => absurd hzero (hnever 0)⟩ fun h => hnever 0 h.2
    rintro id ⟨⟩

/-- The id that a table gives, once it has been checked. -/
theorem of_table (b : TableBackend ε β) (s : ε) (has : r.symbol?.all b.table.has = true) :
    RegistrationLaw (b.engineLink s) r (TableBackend.accepted (b.code.idFor s r) r.fault) where
  checked id _ hid := by
    obtain ⟨-, rfl⟩ := TableBackend.gives_iff.mp hid
    rfl
  passed id hkind := by
    cases hkind
  given id htold := by
    refine TableBackend.gives_iff.mpr ⟨has, ?_⟩
    exact (TableBackend.accepted_eq_ok_iff.mp htold).2
  zero := by
    have hkind : (b.engineLink s : EngineLink ε β).backend.kind ≠ .inProcess := by
      intro h
      cases h
    refine iff_of_true ⟨?_, ?_⟩ fun h => hkind h.1
    · intro id htold
      obtain ⟨hne, rfl⟩ := TableBackend.accepted_eq_ok_iff.mp htold
      exact hne
    · intro hzero
      rw [(TableBackend.gives_iff.mp hzero).2]
      exact ⟨r.fault, rfl⟩

/-- What a module answers, as it is. -/
theorem of_module (m : EngineModule ε β) (s : ε) :
    RegistrationLaw (.inProcess m s) r ((m.idFor s r).mapError Failure.error) where
  checked id hkind := by
    cases hkind
  passed id _ hid := by
    rw [EngineModule.gives_iff.mp hid]
    rfl
  given id htold := EngineModule.gives_iff.mpr (mapError_eq_ok_iff.mp htold)
  zero := by
    constructor
    · rintro hzero ⟨-, hgives⟩
      have htold : (m.idFor s r).mapError Failure.error = .ok 0 := by
        rw [EngineModule.gives_iff.mp hgives]
        rfl
      exact hzero.nonzero 0 htold rfl
    · intro hnot
      refine ⟨?_, fun hgives => absurd ⟨rfl, hgives⟩ hnot⟩
      rintro id htold rfl
      exact hnot ⟨rfl, EngineModule.gives_iff.mpr (mapError_eq_ok_iff.mp htold)⟩

end RegistrationLaw

/-- **Zero passes modules only.** Whatever engine an open wrapper holds, and whatever that engine
answers to a registration that the wrapper has nothing against, the wrapper tells an id that it was
given, and refuses zero unless a module answers by it. -/
theorem Engine.zero_passes_modules_only {l : EngineLink ε β} (hlive : l.Live) {r : Registration}
    (hr : r.Acceptable) (kind : BackendKind) (decode : DecodePolicy) (capacity : UInt64) :
    RegistrationLaw l r (register r ⟨some l, kind, decode, capacity⟩).answer := by
  cases hlive with
  | table b s =>
    have hdylib : (b.engineLink s).backend.kind ≠ .inProcess := by
      intro h
      cases h
    by_cases has : r.symbol?.all b.table.has = true
    · rw [register_table kind decode capacity b s hr has]
      exact .of_table b s has
    · obtain ⟨y, hy⟩ := register_lacking kind decode capacity b s hr (Bool.eq_false_iff.mpr has)
      rw [hy]
      have hnever : ∀ id, ¬ (b.engineLink s).Gives r id :=
        fun id hid => has (TableBackend.gives_iff.mp hid).1
      exact .of_silent hnever _
  | inProcess m s =>
    rw [register_inProcess kind decode capacity m s hr]
    exact .of_module m s

/-! ## Engines that answer by zero -/

namespace Script

/-- An engine that answers its first registration by zero. -/
def zeroFirst : Script :=
  { plain with ids := [0] }

/-- A library of such engines that has the required symbols only. -/
def zeroLibrary : TableBackend Script Script where
  origin := "scripted"
  dynamic := false
  table := Reference.coreTable
  code := zeroFirst.code

theorem zeroFirst_idFor (r : Registration) : zeroFirst.engineModule.idFor zeroFirst r = .ok 0 := by
  cases r with
  | indicator spec => rfl
  | rsi period => rfl
  | strategy name text => rfl

end Script

/-- Behind a table the zero is the refusal of a relative strength index. -/
theorem zero_of_library_is_refused :
    (Script.zeroLibrary.engineLink Script.zeroFirst).Live ∧ (Registration.rsi 14).Acceptable ∧
      (Engine.register (.rsi 14)
        ⟨some (Script.zeroLibrary.engineLink Script.zeroFirst), .dylib, .strict, 4⟩).answer =
          .error (.invalidParameter (.rejectedIndicator (.rsi 14))) := by
  have hlive : (Script.zeroLibrary.engineLink Script.zeroFirst).Live := .table _ _
  have hr : (Registration.rsi 14).Acceptable := by
    show (14 : UInt64) ≠ 0
    decide
  have hgives : (Script.zeroLibrary.engineLink Script.zeroFirst).Gives (.rsi 14) 0 :=
    .table _ _ _ rfl
  have hlaw := Engine.zero_passes_modules_only hlive hr .dylib .strict 4
  exact ⟨hlive, hr, hlaw.checked 0 rfl hgives⟩

namespace Script

/-- A wrapper around such an engine inside the program. -/
def zeroInside : Engine Script Script :=
  ⟨some (.inProcess zeroFirst.engineModule zeroFirst), .inProcess, .strict, 4⟩

/-- The module answers the registration by zero, and the wrapper tells the zero as an id. -/
structure TellsZero (r : Registration) : Prop where
  acceptable : r.Acceptable
  gives : (EngineLink.inProcess zeroFirst.engineModule zeroFirst).Gives r 0
  told : (Engine.register r zeroInside).answer = .ok 0
  unrefused : ¬ ZeroRefused (.inProcess zeroFirst.engineModule zeroFirst) r
    (Engine.register r zeroInside).answer

theorem tellsZero {r : Registration} (hr : r.Acceptable) : TellsZero r := by
  have htold := Engine.register_inProcess .inProcess .strict 4 zeroFirst.engineModule zeroFirst hr
  rw [zeroFirst_idFor r] at htold
  refine ⟨hr, .inProcess _ _ _ _ (zeroFirst_idFor r), htold, fun hzero => ?_⟩
  exact hzero.nonzero 0 htold rfl

end Script

/-- Behind a module the zero is told as the id of a relative strength index, of an average and of a
strategy. -/
theorem zero_of_module_is_told :
    Script.TellsZero (.rsi 14) ∧ Script.TellsZero (.indicator (.sma 3)) ∧
      Script.TellsZero (.strategy "cross" "buy") := by
  have hrsi : (Registration.rsi 14).Acceptable := by
    show (14 : UInt64) ≠ 0
    decide
  have hsma : (Registration.indicator (.sma 3)).Acceptable :=
    (IndicatorSpec.isValid_iff (.sma 3)).mp rfl
  exact ⟨Script.tellsZero hrsi, Script.tellsZero hsma, Script.tellsZero trivial⟩

end MarketBridge
