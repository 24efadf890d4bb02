import MarketBridge.Selector

/-!
# `Selector.Precedence` — which backend is selected, and whose error is reported

The module that was registered first is the one that stays (`Host.registerAll_apply`). A selection
that wants a module goes by the offered one, else by the registered one, and tries no library
(`InProcessLaw`); one that wants a library goes by the first path that is given and looks at no
module (`DylibLaw`); with no preference the second is done just when the first fails (`AutoLaw`).
`Selector.selection_obeys_precedence` says so of all three after any registrations.
-/

namespace MarketBridge

variable {ε β : Type}

/-! ## Registering -/

/-- Registers modules one after another; answers what each registration answers. -/
def Host.registerAll : List (EngineModule ε β) → Op (Host ε β) (List Bool)
  | [] => return []
  | m :: rest => do
    let first ← Host.register m
    let others ← registerAll rest
    return first :: others

/-- After a module has been registered every further one is turned away. -/
theorem Host.registerAll_of_registered {m : EngineModule ε β} (host : Host ε β)
    (h : host.registered = some m) (modules : List (EngineModule ε β)) :
    (registerAll modules host).answer = modules.map (fun _ => false) ∧
      (registerAll modules host).state = host := by
  induction modules with
  | nil => exact ⟨rfl, rfl⟩
  | cons next rest ih =>
    have hregister : (register next host).answer = false ∧ (register next host).state = host := by
      obtain ⟨environment, registered, library⟩ := host
      subst h
      exact ⟨rfl, rfl⟩
    obtain ⟨answer, state⟩ := hregister
    obtain ⟨answers, states⟩ := ih
    constructor
    · show (register next host).answer :: (registerAll rest (register next host).state).answer = _
      rw [answer, state, answers]
      rfl
    · show (registerAll rest (register next host).state).state = host
      rw [state, states]

/-- Of the modules registered with a fresh program only the first stays, and only its registration
is answered by yes. -/
theorem Host.registerAll_apply (environment : Environment) (library : Path → Option (Library ε β))
    (modules : List (EngineModule ε β)) :
    (registerAll modules ⟨environment, none, library⟩).answer =
        (List.range modules.length).map (· == 0) ∧
      (registerAll modules ⟨environment, none, library⟩).state =
        ⟨environment, modules.head?, library⟩ := by
  cases modules with
  | nil => exact ⟨rfl, rfl⟩
  | cons first rest =>
    obtain ⟨answers, state⟩ :=
      registerAll_of_registered ⟨environment, some first, library⟩ rfl rest
    refine ⟨?_, state⟩
    show true :: (registerAll rest ⟨environment, some first, library⟩).answer = _
    rw [answers, List.length_cons, List.range_succ_eq_map, List.map_cons, List.map_map]
    have hlater : (fun i : Nat => i == 0) ∘ Nat.succ = fun _ => false := by
      funext i
      exact beq_false_of_ne (Nat.succ_ne_zero i)
    rw [hlater, List.map_const', List.map_const', List.length_range]
    rfl

/-! ## What should be selected -/

/-- The module to go by: the offered one, and the registered one only if none is offered. -/
def candidate? (offered registered : Option (EngineModule ε β)) : Option (EngineModule ε β) :=
  match offered with
  | some m => some m
  | none => registered

/-- The path to go by: of the configured one and the one in the library variable the first that is
not empty, else the name of the library on the platform. -/
def wantedPath (config : Config) (environment : Environment) : Except Error Path :=
  match ([config.libPath, environment.library].filterMap id).find? fun p => !p.isEmpty with
  | some path => .ok path
  | none => (libraryNameFor environment.platform).map Path.ofText

/-- The libraries that can be loaded, by path. -/
abbrev Shelf (ε β : Type) : Type :=
  Path → Option (Library ε β)

/-- What a selection comes to, depending on the libraries that can be loaded. -/
abbrev Selection (ε β : Type) : Type :=
  Shelf ε β → Outcome Unit (Except Error (Bridge ε β))

/-- What a selection among modules comes to. Whatever can be loaded makes no difference to it. -/
structure InProcessLaw (candidate : Option (EngineModule ε β)) (decode : DecodePolicy)
    (o : Selection ε β) : Prop where
  absent : ∀ shelf, candidate = none →
    (o shelf).answer = .error (.libraryResolution none .noModule)
  refused : ∀ shelf m failure, candidate = some m → m.probe = .error failure →
    (o shelf).answer = .error failure.error
  selected : ∀ shelf m, candidate = some m → m.probe = .ok () →
    (o shelf).answer = .ok ⟨.inProcess m, decode⟩
  untried : ∀ shelf shelf', o shelf = o shelf'

/-- What a selection of a library comes to. No path but the wanted one makes a difference to it, and
every error of loading reports that path. -/
structure DylibLaw (wanted : Except Error Path) (decode : DecodePolicy) (o : Selection ε β) :
    Prop where
  nowhere : ∀ shelf error, wanted = .error error → (o shelf).answer = .error error
  unloadable : ∀ shelf path, wanted = .ok path → shelf path = none →
    (o shelf).answer = .error (.libraryResolution (some path) .unloadable)
  incomplete : ∀ shelf path library fault, wanted = .ok path → shelf path = some library →
    SymbolTable.resolve library.symbol = .error fault →
    (o shelf).answer = .error (.libraryResolution (some path) fault)
  loaded : ∀ shelf path library table, wanted = .ok path → shelf path = some library →
    SymbolTable.resolve library.symbol = .ok table →
    (o shelf).answer = .ok ⟨.table ⟨path.shown, true, table, library.code⟩, decode⟩
  untried : ∀ shelf shelf', (∀ path, wanted = .ok path → shelf path = shelf' path) →
    o shelf = o shelf'

/-- What a selection with no preference comes to, by what the two preferences come to. Where the
module is usable, whatever can be loaded makes no difference. -/
structure AutoLaw (inProcess dylib o : Selection ε β) : Prop where
  kept : ∀ shelf bridge, (inProcess shelf).answer = .ok bridge →
    ∀ shelf', o shelf' = inProcess shelf
  fallen : ∀ shelf error, (inProcess shelf).answer = .error error →
    (o shelf).answer = (dylib shelf).answer

/-! ## What is selected -/

theorem Config.libraryPath_eq (config : Config) (environment : Environment) :
    config.libraryPath environment = wantedPath config environment := by
  obtain ⟨configured, backend, decode⟩ := config
  obtain ⟨platform, inherited, backend', decode'⟩ := environment
  unfold libraryPath Environment.resolveLibraryPath Environment.libraryPath? wantedPath
  -- each of the two paths is unset, empty or given
  rcases configured with _ | configured
  · rcases inherited with _ | inherited
    · rfl
    · cases hempty : inherited.isEmpty <;> simp [Option.filter, hempty]
  · cases hgiven : configured.isEmpty with
    | false => simp [Option.filter, hgiven]
    | true =>
      rcases inherited with _ | inherited
      · simp [Option.filter, hgiven]
      · cases hempty : inherited.isEmpty <;> simp [Option.filter, hgiven, hempty]

namespace Selector

variable (s : Selector ε β) (host : Host ε β)

/-- A selection is answered by the backend that is found, with the policy of the configuration. -/
theorem select_answer :
    (s.select host ()).answer =
      (s.backend host ()).answer.map fun backend => ⟨backend, s.config.decode⟩ := by
  unfold select
  rw [Op.bind_apply]
  cases (s.backend host ()).answer with
  | error e => rfl
  | ok backend => rfl

theorem inProcess_answer :
    (s.inProcess host ()).answer =
      match candidate? s.offered host.registered with
      | none => .error (.libraryResolution none .noModule)
      | some m =>
        match m.probe with
        | .error failure => .error failure.error
        | .ok () => .ok m := by
  have hcandidate : (s.offered <|> host.registered) = candidate? s.offered host.registered := by
    cases s.offered <;> rfl
  unfold inProcess
  rw [hcandidate]
  cases candidate? s.offered host.registered with
  | none => rfl
  | some m =>
    dsimp only
    rw [Op.bind_apply]
    unfold EngineModule.consult
    cases m.probe with
    | error failure => rfl
    | ok _ => rfl

theorem dylib_answer :
    (s.dylib host ()).answer =
      match wantedPath s.config host.environment with
      | .error e => .error e
      | .ok path =>
        match host.library path with
        | none => .error (.libraryResolution (some path) .unloadable)
        | some library =>
          match SymbolTable.resolve library.symbol with
          | .error fault => .error (.libraryResolution (some path) fault)
          | .ok table => .ok ⟨path.shown, true, table, library.code⟩ := by
  unfold dylib
  rw [Config.libraryPath_eq]
  cases wantedPath s.config host.environment with
  | error e => rfl
  | ok path =>
    dsimp only
    unfold TableBackend.load
    rw [Op.bind_apply]
    cases host.library path with
    | none => rfl
    | some library =>
      dsimp only
      cases SymbolTable.resolve library.symbol with
      | error fault => rfl
      | ok table => rfl

variable (environment : Environment) (registered : Option (EngineModule ε β))

/-- Only the wanted path is looked up among the libraries. -/
theorem dylib_of_shelf {shelf shelf' : Shelf ε β}
    (h : ∀ path, wantedPath s.config environment = .ok path → shelf path = shelf' path) :
    s.dylib ⟨environment, registered, shelf⟩ = s.dylib ⟨environment, registered, shelf'⟩ := by
  unfold dylib
  rw [Config.libraryPath_eq]
  dsimp only
  cases hwanted : wantedPath s.config environment with
  | error e => rfl
  | ok path =>
    dsimp only
    unfold TableBackend.load
    dsimp only
    rw [h path hwanted]

variable (config : Config) (offered : Option (EngineModule ε β))

/-- The selection under a preference, all else being as given. -/
def under (preference : BackendPreference) : Selection ε β := fun shelf =>
  (Selector.mk { config with backend := preference } offered).select
    ⟨environment, registered, shelf⟩ ()

theorem under_inProcess_answer (shelf : Shelf ε β) :
    (under environment registered config offered .inProcess shelf).answer =
      ((Selector.mk config offered).inProcess ⟨environment, registered, shelf⟩ ()).answer.map
        fun m => ⟨.inProcess m, config.decode⟩ := by
  unfold under
  rw [select_answer]
  show Except.map _ (Except.map _ ((Selector.mk config offered).inProcess _ ()).answer) = _
  cases ((Selector.mk config offered).inProcess ⟨environment, registered, shelf⟩ ()).answer <;> rfl

theorem under_dylib_answer (shelf : Shelf ε β) :
    (under environment registered config offered .dylib shelf).answer =
      ((Selector.mk config offered).dylib ⟨environment, registered, shelf⟩ ()).answer.map
        fun b => ⟨.table b, config.decode⟩ := by
  unfold under
  rw [select_answer]
  show Except.map _ (Except.map _ ((Selector.mk config offered).dylib _ ()).answer) = _
  cases ((Selector.mk config offered).dylib ⟨environment, registered, shelf⟩ ()).answer <;> rfl

theorem inProcessLaw :
    InProcessLaw (candidate? offered registered) config.decode
      (under environment registered config offered .inProcess) where
  absent := by
    intro shelf hnone
    rw [under_inProcess_answer, inProcess_answer, hnone]
    rfl
  refused := by
    intro shelf m failure hsome hprobe
    rw [under_inProcess_answer, inProcess_answer, hsome]
    dsimp only
    rw [hprobe]
    rfl
  selected := by
    intro shelf m hsome hprobe
    rw [under_inProcess_answer, inProcess_answer, hsome]
    dsimp only
    rw [hprobe]
    rfl
  untried := fun _ _ => rfl

theorem dylibLaw :
    DylibLaw (wantedPath config environment) config.decode
      (under environment registered config offered .dylib) where
  nowhere := by
    intro shelf error hwanted
    rw [under_dylib_answer, dylib_answer, hwanted]
    rfl
  unloadable := by
    intro shelf path hwanted hnone
    rw [under_dylib_answer, dylib_answer, hwanted]
    dsimp only
    rw [hnone]
    rfl
  incomplete := by
    intro shelf path library fault hwanted hsome hfault
    rw [under_dylib_answer, dylib_answer, hwanted]
    dsimp only
    rw [hsome]
    dsimp only
    rw [hfault]
    rfl
  loaded := by
    intro shelf path library table hwanted hsome htable
    rw [under_dylib_answer, dylib_answer, hwanted]
    dsimp only
    rw [hsome]
    dsimp only
    rw [htable]
    rfl
  untried := by
    intro shelf shelf' hsame
    have hdylib := dylib_of_shelf (Selector.mk { config with backend := .dylib } offered)
      environment registered hsame
    unfold under select backend fallback
    dsimp only
    rw [hdylib]

/-- With no preference a usable module is selected as if it had been preferred. -/
theorem under_auto_of_ok {shelf : Shelf ε β} {m : EngineModule ε β}
    (h : ((Selector.mk config offered).inProcess ⟨environment, registered, shelf⟩ ()).answer =
      .ok m) :
    under environment registered config offered .auto shelf =
      under environment registered config offered .inProcess shelf := by
  have hauto : ((Selector.mk { config with backend := .auto } offered).inProcess
      ⟨environment, registered, shelf⟩ ()).answer = .ok m := h
  have hpreferred : ((Selector.mk { config with backend := .inProcess } offered).inProcess
      ⟨environment, registered, shelf⟩ ()).answer = .ok m := h
  have hbackend : (Selector.mk { config with backend := .auto } offered).backend
        ⟨environment, registered, shelf⟩ () =
      (Selector.mk { config with backend := .inProcess } offered).backend
        ⟨environment, registered, shelf⟩ () := by
    unfold backend
    dsimp only
    rw [Op.bind_apply, Op.bind_apply, hauto, hpreferred]
    rfl
  unfold under select
  rw [Op.bind_apply, Op.bind_apply, hbackend]

/-- With no preference the library is selected where there is no usable module. -/
theorem under_auto_of_error {shelf : Shelf ε β} {e : Error}
    (h : ((Selector.mk config offered).inProcess ⟨environment, registered, shelf⟩ ()).answer =
      .error e) :
    (under environment registered config offered .auto shelf).answer =
      (under environment registered config offered .dylib shelf).answer := by
  have hauto : ((Selector.mk { config with backend := .auto } offered).inProcess
      ⟨environment, registered, shelf⟩ ()).answer = .error e := h
  have hbackend : ((Selector.mk { config with backend := .auto } offered).backend
        ⟨environment, registered, shelf⟩ ()).answer =
      ((Selector.mk { config with backend := .dylib } offered).backend
        ⟨environment, registered, shelf⟩ ()).answer := by
    unfold backend
    dsimp only
    rw [Op.bind_apply, hauto]
    rfl
  unfold under
  rw [select_answer, select_answer, hbackend]

theorem autoLaw :
    AutoLaw (under environment registered config offered .inProcess)
      (under environment registered config offered .dylib)
      (under environment registered config offered .auto) where
  kept := by
    intro shelf bridge hkept shelf'
    rw [under_inProcess_answer] at hkept
    -- whether the module is usable does not depend on the libraries
    cases hfound : ((Selector.mk config offered).inProcess
        ⟨environment, registered, shelf⟩ ()).answer with
    | error e =>
      rw [hfound] at hkept
      cases hkept
    | ok m => exact under_auto_of_ok environment registered config offered hfound
  fallen := by
    intro shelf error hfailed
    rw [under_inProcess_answer] at hfailed
    cases hfound : ((Selector.mk config offered).inProcess
        ⟨environment, registered, shelf⟩ ()).answer with
    | error e => exact under_auto_of_error environment registered config offered hfound
    | ok m =>
      rw [hfound] at hfailed
      cases hfailed

/-- The selection under a preference in a program that registered `modules` before. -/
def selectAfter (environment : Environment) (modules : List (EngineModule ε β)) (config : Config)
    (offered : Option (EngineModule ε β)) (preference : BackendPreference) : Selection ε β :=
  fun shelf =>
    (Selector.mk { config with backend := preference } offered).select
      (Host.registerAll modules ⟨environment, none, shelf⟩).state ()

theorem selectAfter_eq (modules : List (EngineModule ε β)) (preference : BackendPreference) :
    selectAfter environment modules config offered preference =
      under environment modules.head? config offered preference := by
  funext shelf
  unfold selectAfter under
  rw [(Host.registerAll_apply environment shelf modules).2]

/-- **Selecting a backend obeys its precedence.** After any registrations, in any environment and
for any configuration and any offered module: the first module registered is the registered one, and
the outcome of a selection follows the law of its preference, with the offered module, else the
registered one, as the candidate. -/
theorem selection_obeys_precedence (modules : List (EngineModule ε β)) :
    (∀ shelf : Shelf ε β,
      (Host.registerAll modules ⟨environment, none, shelf⟩).answer =
          (List.range modules.length).map (· == 0) ∧
        (Host.registerAll modules ⟨environment, none, shelf⟩).state =
          ⟨environment, modules.head?, shelf⟩) ∧
      InProcessLaw (candidate? offered modules.head?) config.decode
        (selectAfter environment modules config offered .inProcess) ∧
      DylibLaw (wantedPath config environment) config.decode
        (selectAfter environment modules config offered .dylib) ∧
      AutoLaw (selectAfter environment modules config offered .inProcess)
        (selectAfter environment modules config offered .dylib)
        (selectAfter environment modules config offered .auto) := by
  rw [selectAfter_eq, selectAfter_eq, selectAfter_eq]
  refine ⟨?_, ?_, ?_, ?_⟩
  · intro shelf
    exact Host.registerAll_apply environment shelf modules
  · exact inProcessLaw environment modules.head? config offered
  · exact dylibLaw environment modules.head? config offered
  · exact autoLaw environment modules.head? config offered

end Selector

end MarketBridge
