import Mathlib.Data.List.TakeWhile
import MarketBridge.Config

/-!
# `Environment` — what settings in the environment are taken for

The value of a variable is a string of bytes. Read as text, without the white space around it and in
small letters, it spells a name (`spells_iff`): that of a choice, which is made, the empty one, by
which the default stays, or another, which is refused (`Setting.read_of_not_refused`,
`Setting.read_of_misnames`). A value that is no text at all is garbled. It is not refused but taken
for unset (`Setting.read_of_garbled`), and so the one setting that is lost
(`Config.only_garbled_settings_are_lost`).
-/

namespace MarketBridge

/-! ## Trimming -/

namespace Text

/-- What `cs` is without the white space around it. -/
structure Core (cs core : List Char) : Prop where
  within : ∃ before after, cs = before ++ (core ++ after) ∧
    (∀ c ∈ before, isBlank c = true) ∧ ∀ c ∈ after, isBlank c = true
  first : ∀ c ∈ core.head?, isBlank c = false
  last : ∀ c ∈ core.getLast?, isBlank c = false

variable {cs core : List Char}

/-- Dropping blanks drops those before a list that starts with another character. -/
theorem dropWhile_blank_append {before : List Char} (hbefore : ∀ c ∈ before, isBlank c = true)
    (hfirst : ∀ c ∈ cs.head?, isBlank c = false) : (before ++ cs).dropWhile isBlank = cs := by
  rw [List.dropWhile_append_of_pos hbefore]
  cases cs with
  | nil => rfl
  | cons c cs =>
    have hc : isBlank c = false := hfirst c rfl
    rw [List.dropWhile_cons_of_neg (Bool.eq_false_iff.mp hc)]

/-- What is left begins with a character that is not blank. -/
theorem head_dropWhile_blank (cs : List Char) :
    ∀ c ∈ (cs.dropWhile isBlank).head?, isBlank c = false := by
  intro c hc
  have hnot := List.head?_dropWhile_not isBlank cs
  rw [Option.mem_def.mp hc] at hnot
  exact hnot

theorem takeWhile_blank (cs : List Char) : ∀ c ∈ cs.takeWhile isBlank, isBlank c = true :=
  fun _ hc => List.mem_takeWhile_imp hc

theorem core_trim (cs : List Char) : Core cs (trim cs) := by
  have hfront := List.takeWhile_append_dropWhile (p := isBlank) (l := cs)
  have hhead := head_dropWhile_blank cs
  unfold trim
  generalize cs.dropWhile isBlank = front at hfront hhead ⊢
  have hback := List.takeWhile_append_dropWhile (p := isBlank) (l := front.reverse)
  have hlast := head_dropWhile_blank front.reverse
  have hdropped := takeWhile_blank front.reverse
  generalize front.reverse.takeWhile isBlank = dropped,
    front.reverse.dropWhile isBlank = kept at hback hlast hdropped ⊢
  have hsplit : front = kept.reverse ++ dropped.reverse := by
    rw [← List.reverse_append, hback, List.reverse_reverse]
  refine ⟨⟨_, dropped.reverse, ?_, takeWhile_blank cs, ?_⟩, ?_, ?_⟩
  · rw [← hsplit]
    exact hfront.symm
  · intro c hc
    exact hdropped c (List.mem_reverse.mp hc)
  · -- the first character of what is kept is that of the front
    intro c hc
    refine hhead c ?_
    rw [hsplit, List.head?_append, Option.mem_def.mp hc]
    rfl
  · rw [List.getLast?_reverse]
    exact hlast

/-- Trimming gives what is left without the white space around it, and nothing else is that. -/
theorem trim_eq_iff : trim cs = core ↔ Core cs core := by
  constructor
  · rintro rfl
    exact core_trim cs
  · rintro ⟨⟨before, after, rfl, hbefore, hafter⟩, hfirst, hlast⟩
    unfold trim
    cases core with
    | nil =>
      have hblank : ∀ c ∈ before ++ ([] ++ after), isBlank c = true := by
        intro c hc
        rw [List.nil_append] at hc
        exact (List.mem_append.mp hc).elim (hbefore c) (hafter c)
      rw [List.dropWhile_eq_nil_iff.mpr hblank]
      rfl
    | cons c core =>
      have hback : ∀ d ∈ after.reverse, isBlank d = true :=
        fun d hd => hafter d (List.mem_reverse.mp hd)
      have hend : ∀ d ∈ (c :: core).reverse.head?, isBlank d = false := by
        rw [List.head?_reverse]
        exact hlast
      have hstart : ∀ d ∈ (c :: core ++ after).head?, isBlank d = false := hfirst
      rw [dropWhile_blank_append hbefore hstart, List.reverse_append,
        dropWhile_blank_append hback hend, List.reverse_reverse]

end Text

/-! ## What a value says -/

/-- Without the white space around it and in small letters, the text is the name. -/
def Spells (text name : String) : Prop :=
  ∃ core, Text.Core text.toList core ∧ name.toList = Text.lowerAscii core

theorem spells_iff {text name : String} : Spells text name ↔ normalized text = name := by
  unfold normalized
  constructor
  · rintro ⟨core, hcore, hname⟩
    rw [Text.trim_eq_iff.mpr hcore, ← hname]
    exact String.ofList_toList
  · rintro rfl
    exact ⟨_, Text.core_trim _, String.toList_ofList⟩

/-- The value is set and is no text. -/
def Garbled (value : Option Path) : Prop :=
  ∃ p, value = some p ∧ p.text? = none

/-- A setting that is read from the environment: the names of its choices, the choice that is made
without it, and what is reported of a name that is none. -/
structure Setting (α : Type) where
  choices : List (String × α)
  default : α
  refusal : String → ParameterFault

namespace Setting

/-- Which backend to use. -/
def backend : Setting BackendPreference where
  choices :=
    [("auto", .auto), ("in-process", .inProcess), ("in_process", .inProcess),
      ("inprocess", .inProcess), ("dylib", .dylib), ("abi", .dylib)]
  default := .auto
  refusal := .unknownBackend

/-- How strictly to decode. -/
def decode : Setting DecodePolicy where
  choices := [("strict", .strict), ("lenient", .lenient)]
  default := .strict
  refusal := .unknownPolicy

variable {α : Type} {s : Setting α} {value : Option Path} {name : String}

/-- The value makes the choice. -/
inductive Chooses (s : Setting α) : Option Path → α → Prop
  | unset : Chooses s none s.default
  | garbled (p : Path) (h : p.text? = none) : Chooses s (some p) s.default
  | blank (p : Path) (text : String) (h : p.text? = some text) (spelled : Spells text "") :
    Chooses s (some p) s.default
  | named (p : Path) (text name : String) (a : α) (h : p.text? = some text)
    (spelled : Spells text name) (choice : (name, a) ∈ s.choices) : Chooses s (some p) a

/-- The value is a text that spells a name, but neither the empty one nor that of a choice. -/
structure Misnames (s : Setting α) (value : Option Path) (name : String) : Prop where
  spelled : ∃ p text, value = some p ∧ p.text? = some text ∧ Spells text name
  nonempty : name ≠ ""
  unknown : ∀ a, (name, a) ∉ s.choices

/-- The value spells a name that is none. -/
def Refused (s : Setting α) (value : Option Path) : Prop :=
  ∃ name, s.Misnames value name

/-- The value is set to something that says nothing, be it a text or not. -/
def Unrecognised (s : Setting α) (value : Option Path) : Prop :=
  s.Refused value ∨ Garbled value

/-- The choice that a text makes. -/
def parse (s : Setting α) (text : String) : Except Error α :=
  match (("", s.default) :: s.choices).lookup (normalized text) with
  | some a => .ok a
  | none => .error (.invalidParameter (s.refusal (normalized text)))

/-- The choice that a value makes. -/
def read (s : Setting α) (value : Option Path) : Except Error α :=
  Config.readSetting value s.default s.parse

theorem backend_parse : backend.parse = BackendPreference.parse := by
  funext text
  have hnames : ("", backend.default) :: backend.choices = BackendPreference.spellings := rfl
  unfold parse BackendPreference.parse
  rw [hnames]
  cases BackendPreference.spellings.lookup (normalized text) with
  | some preference => rfl
  | none => rfl

theorem decode_parse : decode.parse = DecodePolicy.parse := by
  funext text
  have hnames : ("", decode.default) :: decode.choices = DecodePolicy.spellings := rfl
  unfold parse DecodePolicy.parse
  rw [hnames]
  cases DecodePolicy.spellings.lookup (normalized text) with
  | some policy => rfl
  | none => rfl

theorem not_refused_of_garbled (h : Garbled value) : ¬ s.Refused value := by
  rintro ⟨name, ⟨p, text, rfl, htext, -⟩, -, -⟩
  obtain ⟨q, hq, hnone⟩ := h
  cases hq
  rw [hnone] at htext
  cases htext

/-- A garbled value is taken for unset. -/
theorem read_of_garbled (h : Garbled value) : s.read value = .ok s.default := by
  obtain ⟨p, rfl, htext⟩ := h
  unfold read Config.readSetting
  rw [Option.bind_some, htext]

/-- A name that is none is refused under that name. -/
theorem read_of_misnames (h : s.Misnames value name) :
    s.read value = .error (.invalidParameter (s.refusal name)) := by
  obtain ⟨⟨p, text, rfl, htext, hspelled⟩, hne, hunknown⟩ := h
  have hlookup : (("", s.default) :: s.choices).lookup name = none := by
    rw [List.lookup_eq_none_iff]
    rintro ⟨other, a⟩ hmem
    rw [bne_iff_ne]
    rintro rfl
    rcases List.mem_cons.mp hmem with hempty | hchoice
    · exact hne (congrArg Prod.fst hempty)
    · exact hunknown a hchoice
  unfold read Config.readSetting parse
  rw [Option.bind_some, htext]
  dsimp only
  rw [spells_iff.mp hspelled, hlookup]

/-- Every other value makes a choice. -/
theorem read_of_not_refused (h : ¬ s.Refused value) :
    ∃ a, s.read value = .ok a ∧ s.Chooses value a := by
  cases value with
  | none => exact ⟨s.default, rfl, .unset⟩
  | some p =>
    cases htext : p.text? with
    | none => exact ⟨s.default, read_of_garbled ⟨p, rfl, htext⟩, .garbled p htext⟩
    | some text =>
      have hspelled : Spells text (normalized text) := spells_iff.mpr rfl
      unfold read Config.readSetting parse
      rw [Option.bind_some, htext]
      dsimp only
      cases hlookup : (("", s.default) :: s.choices).lookup (normalized text) with
      | some a =>
        -- the name that is found may be the empty one, which is no choice but leaves the default
        refine ⟨a, rfl, ?_⟩
        obtain ⟨before, after, hsplit, -⟩ := List.lookup_eq_some_iff.mp hlookup
        have hmem : (normalized text, a) ∈ ("", s.default) :: s.choices := by
          rw [hsplit]
          exact List.mem_append_right before List.mem_cons_self
        rcases List.mem_cons.mp hmem with hempty | hchoice
        · obtain ⟨hname, rfl⟩ := Prod.mk.inj hempty
          rw [hname] at hspelled
          exact .blank p text htext hspelled
        · exact .named p text _ a htext hspelled hchoice
      | none =>
        refine absurd ⟨normalized text, ⟨p, text, rfl, htext, hspelled⟩, ?_, ?_⟩ h
        · rintro hempty
          rw [hempty] at hlookup
          cases hlookup
        · intro a hchoice
          have hnone := List.lookup_eq_none_iff.mp hlookup (normalized text, a)
            (List.mem_cons_of_mem _ hchoice)
          exact bne_iff_ne.mp hnone rfl

end Setting

/-! ## What is reported -/

/-- The variable that the fault is about. -/
def ParameterFault.variable? : ParameterFault → Option String
  | unknownBackend _ => some backendVariable
  | unknownPolicy _ => some decodeVariable
  | _ => none

/-- A fault that is about a variable begins with its name. -/
theorem ParameterFault.message_of_variable {fault : ParameterFault} {label : String}
    (h : fault.variable? = some label) : ∃ rest, fault.message = label ++ rest := by
  cases fault with
  | unknownBackend name =>
    cases h
    refine ⟨": unknown backend `" ++ name ++ "`", ?_⟩
    show "HQUANT_BACKEND: unknown backend `" ++ name ++ "`" = _
    rw [← String.append_assoc, ← String.append_assoc]
    rfl
  | unknownPolicy name =>
    cases h
    refine ⟨": unknown decode policy `" ++ name ++ "`", ?_⟩
    show "HQUANT_DECODE: unknown decode policy `" ++ name ++ "`" = _
    rw [← String.append_assoc, ← String.append_assoc]
    rfl
  | _ => cases h

/-! ## What the environment describes -/

namespace Config

variable {env : Environment} {config : Config} {result : Except Error Config}
  {backendRefused decodeRefused : Prop}

/-- The configuration is what the variables say. -/
structure Describes (env : Environment) (config : Config) : Prop where
  backend : Setting.backend.Chooses env.backend config.backend
  decode : Setting.decode.Chooses env.decode config.decode
  library : ∀ p, config.libPath = some p ↔ env.library = some p ∧ p.toBytes ≠ []
  path : config.libraryPath env = env.resolveLibraryPath none

/-- The environment is read with an error about the backend if that is refused, else with one about
the decoding policy if that is refused, and else without. -/
structure ReadLaw (env : Environment) (backendRefused decodeRefused : Prop)
    (result : Except Error Config) : Prop where
  backendFirst : backendRefused → ∃ fault, result = .error (.invalidParameter fault) ∧
    fault.variable? = some backendVariable
  decodeNext : ¬ backendRefused → decodeRefused →
    ∃ fault, result = .error (.invalidParameter fault) ∧ fault.variable? = some decodeVariable
  otherwise : ¬ backendRefused → ¬ decodeRefused → ∃ config, result = .ok config ∧
    Describes env config

/-- So it fails exactly if one of them is refused. -/
theorem ReadLaw.error_iff (h : ReadLaw env backendRefused decodeRefused result) :
    (∃ fault, result = .error (.invalidParameter fault)) ↔ backendRefused ∨ decodeRefused := by
  constructor
  · rintro ⟨fault, hfault⟩
    by_contra hnone
    rw [not_or] at hnone
    obtain ⟨config, hconfig, -⟩ := h.otherwise hnone.1 hnone.2
    rw [hfault] at hconfig
    cases hconfig
  · intro hrefused
    by_cases hbackend : backendRefused
    · obtain ⟨fault, hfault, -⟩ := h.backendFirst hbackend
      exact ⟨fault, hfault⟩
    · obtain ⟨fault, hfault, -⟩ := h.decodeNext hbackend (hrefused.resolve_left hbackend)
      exact ⟨fault, hfault⟩

theorem ofEnvironment_eq (env : Environment) :
    ofEnvironment env = (Setting.backend.read env.backend).bind fun backend =>
      (Setting.decode.read env.decode).bind fun decode =>
        .ok ⟨env.libraryPath?, backend, decode⟩ := by
  unfold Setting.read
  rw [Setting.backend_parse, Setting.decode_parse]
  rfl

/-- The path of the library is the value of its variable, byte for byte, unless that has none. -/
theorem libraryPath?_eq_some_iff {p : Path} :
    env.libraryPath? = some p ↔ env.library = some p ∧ p.toBytes ≠ [] := by
  have hbytes : (!p.isEmpty) = true ↔ p.toBytes ≠ [] := by
    have hsize : p.bytes.size = p.toBytes.length := rfl
    unfold Path.isEmpty
    rw [hsize, Bool.not_eq_true', beq_eq_false_iff_ne, ne_eq, List.length_eq_zero_iff]
  unfold Environment.libraryPath?
  rw [Option.filter_eq_some_iff, hbytes]

/-- A path that has been found in the environment is found there again. -/
theorem libraryPath_of_environment (backend : BackendPreference) (decode : DecodePolicy) :
    libraryPath ⟨env.libraryPath?, backend, decode⟩ env = env.resolveLibraryPath none := by
  unfold libraryPath Environment.resolveLibraryPath
  have hkept : env.libraryPath?.filter (fun p => !p.isEmpty) = env.libraryPath? := by
    unfold Environment.libraryPath?
    rw [Option.filter_filter]
    simp
  dsimp only
  rw [hkept]
  cases env.libraryPath? with
  | none => rfl
  | some p => rfl

/-- The variables are read in their order, and only a name that is none is refused. -/
theorem readLaw_of_refused (env : Environment) :
    ReadLaw env (Setting.backend.Refused env.backend) (Setting.decode.Refused env.decode)
      (ofEnvironment env) where
  backendFirst := by
    rintro ⟨name, hname⟩
    rw [ofEnvironment_eq, Setting.read_of_misnames hname]
    exact ⟨_, rfl, rfl⟩
  decodeNext := by
    rintro hbackend ⟨name, hname⟩
    obtain ⟨backend, hread, -⟩ := Setting.read_of_not_refused hbackend
    rw [ofEnvironment_eq, hread, Setting.read_of_misnames hname]
    exact ⟨_, rfl, rfl⟩
  otherwise := by
    intro hbackend hdecode
    obtain ⟨backend, hreadBackend, hchosenBackend⟩ := Setting.read_of_not_refused hbackend
    obtain ⟨decode, hreadDecode, hchosenDecode⟩ := Setting.read_of_not_refused hdecode
    rw [ofEnvironment_eq, hreadBackend, hreadDecode]
    refine ⟨_, rfl, hchosenBackend, hchosenDecode, ?_, ?_⟩
    · intro p
      exact libraryPath?_eq_some_iff
    · exact libraryPath_of_environment backend decode

/-- The names that are refused are reported as they are spelled. -/
structure Reports (env : Environment) (result : Except Error Config) : Prop where
  backend : ∀ name, Setting.backend.Misnames env.backend name →
    result = .error (.invalidParameter (.unknownBackend name))
  decode : ∀ name, ¬ Setting.backend.Refused env.backend → Setting.decode.Misnames env.decode name →
    result = .error (.invalidParameter (.unknownPolicy name))

theorem ofEnvironment_reports (env : Environment) : Reports env (ofEnvironment env) where
  backend name hname := by
    rw [ofEnvironment_eq, Setting.read_of_misnames hname]
    rfl
  decode name hbackend hname := by
    obtain ⟨backend, hread, -⟩ := Setting.read_of_not_refused hbackend
    rw [ofEnvironment_eq, hread, Setting.read_of_misnames hname]
    rfl

/-- A garbled value of the environment goes unreported: that of the backend, or that of the policy
where the backend is not refused. -/
def Loses (env : Environment) : Prop :=
  Garbled env.backend ∨ ¬ Setting.backend.Refused env.backend ∧ Garbled env.decode

/-- Where nothing is lost, nothing that should be refused is let pass. -/
theorem readLaw_of_not_loses (h : ¬ Loses env) :
    ReadLaw env (Setting.backend.Unrecognised env.backend)
      (Setting.decode.Unrecognised env.decode) (ofEnvironment env) := by
  have hlaw := readLaw_of_refused env
  obtain ⟨hbackend, hdecode⟩ := not_or.mp h
  have hsame : Setting.backend.Unrecognised env.backend ↔ Setting.backend.Refused env.backend :=
    or_iff_left hbackend
  refine ⟨fun hrefused => hlaw.backendFirst (hsame.mp hrefused), fun hnot hrefused => ?_,
    fun hnot hfine => ?_⟩
  · have hnone : ¬ Setting.backend.Refused env.backend := mt hsame.mpr hnot
    have htext : ¬ Garbled env.decode := fun hgarbled => hdecode ⟨hnone, hgarbled⟩
    exact hlaw.decodeNext hnone (hrefused.resolve_right htext)
  · exact hlaw.otherwise (mt hsame.mpr hnot) (mt .inl hfine)

/-- Where something is lost, nothing is reported of it. -/
theorem not_readLaw_of_loses (h : Loses env) :
    ¬ ReadLaw env (Setting.backend.Unrecognised env.backend)
      (Setting.decode.Unrecognised env.decode) (ofEnvironment env) := by
  have hlaw := readLaw_of_refused env
  intro hclaimed
  by_cases hgarbled : Garbled env.backend
  · -- what is reported, if anything, is about the policy
    have hnone := Setting.not_refused_of_garbled (s := Setting.backend) hgarbled
    obtain ⟨fault, hfault, habout⟩ := hclaimed.backendFirst (.inr hgarbled)
    by_cases hdecode : Setting.decode.Refused env.decode
    · obtain ⟨fault', hfault', habout'⟩ := hlaw.decodeNext hnone hdecode
      rw [hfault] at hfault'
      cases hfault'
      rw [habout] at habout'
      exact absurd habout' (by decide)
    · obtain ⟨config, hconfig, -⟩ := hlaw.otherwise hnone hdecode
      rw [hfault] at hconfig
      cases hconfig
  · obtain ⟨hnone, hdecode⟩ := h.resolve_left hgarbled
    have hbackend : ¬ Setting.backend.Unrecognised env.backend := not_or.mpr ⟨hnone, hgarbled⟩
    obtain ⟨fault, hfault, -⟩ := hclaimed.decodeNext hbackend (.inr hdecode)
    obtain ⟨config, hconfig, -⟩ := hlaw.otherwise hnone (Setting.not_refused_of_garbled hdecode)
    rw [hfault] at hconfig
    cases hconfig

/-- **Only garbled settings are lost.** Of every environment, whatever bytes its variables hold, the
names that are none are refused, the backend first, and all other texts and the path of the library
are taken as they are; so no setting that says nothing is let pass unless it is garbled. -/
theorem only_garbled_settings_are_lost (env : Environment) :
    ReadLaw env (Setting.backend.Refused env.backend) (Setting.decode.Refused env.decode)
        (ofEnvironment env) ∧
      Reports env (ofEnvironment env) ∧
      (ReadLaw env (Setting.backend.Unrecognised env.backend)
        (Setting.decode.Unrecognised env.decode) (ofEnvironment env) ↔ ¬ Loses env) :=
  ⟨readLaw_of_refused env, ofEnvironment_reports env,
    ⟨fun hlaw hloses => not_readLaw_of_loses hloses hlaw, readLaw_of_not_loses⟩⟩

/-- An environment whose backend variable holds the one byte `FF`, with which no text begins. -/
def garbledEnvironment : Environment :=
  { Environment.unset "linux" with backend := some (.ofBytes [0xFF]) }

/-- The garbled backend is taken for unset. -/
theorem garbled_backend_is_lost :
    Setting.backend.Unrecognised garbledEnvironment.backend ∧
      ofEnvironment garbledEnvironment = .ok .default ∧
      ¬ ReadLaw garbledEnvironment (Setting.backend.Unrecognised garbledEnvironment.backend)
        (Setting.decode.Unrecognised garbledEnvironment.decode)
        (ofEnvironment garbledEnvironment) := by
  have htext : (Path.ofBytes [0xFF]).text? = none := by
    decide +kernel
  have hgarbled : Garbled garbledEnvironment.backend := ⟨_, rfl, htext⟩
  have hread : ofEnvironment garbledEnvironment = .ok .default := by
    rw [ofEnvironment_eq, Setting.read_of_garbled hgarbled]
    rfl
  exact ⟨.inr hgarbled, hread, not_readLaw_of_loses (.inl hgarbled)⟩

end Config

end MarketBridge
