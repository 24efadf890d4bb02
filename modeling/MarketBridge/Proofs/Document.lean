import MarketBridge.Document.Read
import MarketBridge.Document.Write
import MarketBridge.Proofs.Spelling

/-!
# `Document` — what is written is read back

The document of a value is read as that value. Whole numbers and names always are
(`Document.toInt64_integer`, `Document.toWord_ofWord`, `Document.choiceNamed_of_mem`). A float is if
it is finite; otherwise its document is `null`, which no reader of floats takes
(`FieldForm.fits_ofFloat_iff`). A structure is read from a mapping if every entry fits the field it
is for (`Parts.Fits`) and the entries say what the value is, which is `SaidBy` for each type; if one
entry does not fit, nothing is read (`Parts.ofEntries_of_not_fits`). Together: bars, backtest
parameters and indicator specifications are read back exactly if their floats are finite, and
signals, actions and fields always (`documents_read_back`).
-/

namespace MarketBridge

/-- What a reader answers that takes `a` if `P` holds, and refuses to answer otherwise. -/
theorem read_iff {α : Type} {P : Prop} {answer : Except Misfit α} {a : α}
    (taken : P → answer = .ok a) (refused : ¬ P → ∃ m, answer = .error m) :
    answer = .ok a ↔ P := by
  constructor
  · intro h
    by_contra hP
    obtain ⟨m, hm⟩ := refused hP
    rw [hm] at h
    cases h
  · exact taken

namespace Document

/-! ## Plain values -/

theorem toFloat_ofFloat {x : Double} (finite : x.isFinite = true) :
    (ofFloat x).toFloat = .ok x := by
  rw [ofFloat, if_pos finite]
  rfl

/-- No float is read from the document of one that is not finite. -/
theorem toFloat_ofFloat_of_not_finite {x : Double} (infinite : ¬ x.isFinite = true) :
    (ofFloat x).toFloat = .error (.wrongType .null "f64") := by
  rw [ofFloat, if_neg infinite]
  rfl

theorem toWhole_integer {low high n : Int} (hlow : low ≤ n) (hhigh : n < high)
    (expected : String) : (integer n).toWhole low high expected = .ok n :=
  if_pos ⟨hlow, hhigh⟩

theorem toInt64_integer (n : Int64) : (integer n.toInt).toInt64 = .ok n := by
  have hlow := n.minValue_le_toInt
  have hhigh : n.toInt < Int64.maxValue.toInt + 1 := n.toInt_lt
  rw [toInt64, toWhole_integer hlow hhigh]
  exact congrArg Except.ok n.ofInt_toInt

theorem toWord_ofWord (n : UInt64) : (ofWord n).toWord = .ok n := by
  have hhigh : (n.toNat : Int) < UInt64.size := Int.ofNat_lt.mpr n.toNat_lt
  rw [ofWord, toWord, toWhole_integer (Int.natCast_nonneg _) hhigh]
  exact congrArg Except.ok UInt64.ofNat_toNat

theorem toWord32_integer (n : UInt32) : (integer n.toNat).toWord32 = .ok n := by
  have hhigh : (n.toNat : Int) < UInt32.size := Int.ofNat_lt.mpr n.toNat_lt
  rw [toWord32, toWhole_integer (Int.natCast_nonneg _) hhigh]
  exact congrArg Except.ok UInt32.ofNat_toNat

/-! ## Choices -/

/-- A choice is found under its name if no other has that name. -/
theorem choiceNamed_of_mem {α : Type} {name : α → String} (hname : Function.Injective name)
    {all : List α} {a : α} (h : a ∈ all) :
    choiceNamed (all.map fun b => (name b, b)) (name a) = .ok a := by
  have hlookup : (all.map fun b => (name b, b)).lookup (name a) = some a := by
    induction all with
    | nil => cases h
    | cons b rest ih =>
      rw [List.map_cons, List.lookup_cons]
      by_cases same : a = b
      · simp [same]
      · have hne : (name a == name b) = false := beq_false_of_ne fun h => same (hname h)
        simp [hne, ih (List.mem_of_ne_of_mem same h)]
  rw [choiceNamed, hlookup]

/-! ## Entries -/

/-- The entries of a mapping. -/
def entries : Document → List (String × Document)
  | mapping entries => entries
  | _ => []

/-- The mapping without the entry of a key. -/
def without (key : String) : Document → Document
  | mapping entries => mapping (entries.filter fun entry => entry.1 ≠ key)
  | other => other

end Document

/-! ## Structures -/

namespace FieldForm

variable {α : Type} {name : String} {read : Document → Except Misfit α} {d : Document}

/-- The document fits the field. -/
def Fits (f : FieldForm) (d : Document) : Prop :=
  f.misfit? d = none

@[simp] theorem of_name : (FieldForm.of name read).name = name := rfl

theorem fits_of_read {a : α} (h : read d = .ok a) : (FieldForm.of name read).Fits d := by
  simp [Fits, FieldForm.of, h]

theorem not_fits_of_read {m : Misfit} (h : read d = .error m) :
    ¬ (FieldForm.of name read).Fits d := by
  simp [Fits, FieldForm.of, h]

@[simp] theorem fits_integer (n : Int64) :
    (FieldForm.of name Document.toInt64).Fits (.integer n.toInt) :=
  fits_of_read (Document.toInt64_integer n)

@[simp] theorem fits_ofWord (n : UInt64) :
    (FieldForm.of name Document.toWord).Fits (.ofWord n) :=
  fits_of_read (Document.toWord_ofWord n)

/-- Just the finite floats have documents that fit. -/
@[simp] theorem fits_ofFloat_iff (x : Double) :
    (FieldForm.of name Document.toFloat).Fits (.ofFloat x) ↔ x.isFinite = true := by
  constructor
  · intro h
    by_contra infinite
    exact not_fits_of_read (Document.toFloat_ofFloat_of_not_finite infinite) h
  · intro finite
    exact fits_of_read (Document.toFloat_ofFloat finite)

end FieldForm

namespace Parts

variable {fields : List FieldForm} {entries : List (String × Document)}

/-- Every entry of one of the fields fits it. -/
def Fits (fields : List FieldForm) (entries : List (String × Document)) : Prop :=
  ∀ entry ∈ entries, ∀ f ∈ fields.find? fun f => f.name = entry.1, f.Fits entry.2

theorem misfit?_eq_none_iff : misfit? fields entries = none ↔ Fits fields entries := by
  simp [misfit?, Fits, FieldForm.Fits]

theorem ofEntries_of_fits (h : Fits fields entries) :
    ofEntries fields entries = .ok ⟨entries, .missing⟩ := by
  rw [ofEntries, misfit?_eq_none_iff.mpr h]

theorem ofEntries_of_not_fits (h : ¬ Fits fields entries) :
    ∃ m, ofEntries fields entries = .error m := by
  rw [← misfit?_eq_none_iff] at h
  obtain ⟨m, hm⟩ := Option.ne_none_iff_exists'.mp h
  exact ⟨m, by rw [ofEntries, hm]⟩

section Get

variable {α : Type} {p : Parts} {name : String} {read : Document → Except Misfit α}
  {d : Document} {a : α}

theorem get_of_lookup (hd : p.entries.lookup name = some d) (h : read d = .ok a) :
    p.get name read = .ok a := by
  rw [get, hd]
  exact h

theorem getD_of_lookup (hd : p.entries.lookup name = some d) (h : read d = .ok a) (fallback : α) :
    p.getD name read fallback = .ok a := by
  rw [getD, hd]
  exact h

theorem getD_of_lookup_none (hd : p.entries.lookup name = none) (fallback : α) :
    p.getD name read fallback = .ok fallback := by
  rw [getD, hd]

end Get

end Parts

/-! ## Bars -/

namespace Bar

variable {b : Bar} {d : Document} {p : Parts}

/-- All prices and volumes are finite. -/
def IsFinite (b : Bar) : Prop :=
  ∀ f, (b.get f).isFinite = true

/-- The parts say what the bar is. -/
structure SaidBy (b : Bar) (p : Parts) : Prop where
  timestamp : p.get "timestamp" Document.toInt64 = .ok b.timestamp
  float : ∀ f ≠ .buyVolume, p.get f.name Document.toFloat = .ok (b.get f)
  buyVolume : p.getD "buy_volume" Document.toFloat 0.0 = .ok b.buyVolume

theorem ofDocument_of_saidBy (hparts : Parts.ofDocument "struct Bar" fieldForms d = .ok p)
    (h : b.SaidBy p) : Bar.ofDocument d = .ok b := by
  have hopening := h.float .opening (by decide)
  have hhigh := h.float .high (by decide)
  have hlow := h.float .low (by decide)
  have hclose := h.float .close (by decide)
  have hvolume := h.float .volume (by decide)
  simp only [Field.name, get] at hopening hhigh hlow hclose hvolume
  simp only [ofDocument, hparts, h.timestamp, hopening, hhigh, hlow, hclose, hvolume, h.buyVolume,
    bind, Except.bind]
  rfl

theorem ofDocument_of_not_fits {entries : List (String × Document)}
    (h : ¬ Parts.Fits fieldForms entries) : ∃ m, Bar.ofDocument (.mapping entries) = .error m := by
  obtain ⟨m, hm⟩ := Parts.ofEntries_of_not_fits h
  have hparts : Parts.ofDocument "struct Bar" fieldForms (.mapping entries) = .error m := hm
  exact ⟨m, by rw [ofDocument, hparts]; rfl⟩

theorem fits_toDocument_iff (b : Bar) :
    Parts.Fits fieldForms b.toDocument.entries ↔ b.IsFinite := by
  have hentries : Parts.Fits fieldForms b.toDocument.entries ↔
      b.buyVolume.isFinite ∧ b.close.isFinite ∧ b.high.isFinite ∧ b.low.isFinite ∧
        b.opening.isFinite ∧ b.volume.isFinite := by
    simp [Parts.Fits, fieldForms, toDocument, Document.entries, Field.all, Field.name]
  rw [hentries]
  constructor
  · rintro ⟨hbuyVolume, hclose, hhigh, hlow, hopening, hvolume⟩ f
    cases f <;> assumption
  · intro h
    exact ⟨h .buyVolume, h .close, h .high, h .low, h .opening, h .volume⟩

/-- The float in the document of a bar is found under the name of its field. -/
theorem lookup_toDocument (b : Bar) (f : Field) :
    b.toDocument.entries.lookup f.name = some (.ofFloat (b.get f)) := by
  cases f <;> rfl

theorem saidBy_toDocument (finite : b.IsFinite) : b.SaidBy ⟨b.toDocument.entries, .missing⟩ where
  timestamp := Parts.get_of_lookup rfl (Document.toInt64_integer b.timestamp)
  float f _ := Parts.get_of_lookup (b.lookup_toDocument f) (Document.toFloat_ofFloat (finite f))
  buyVolume :=
    Parts.getD_of_lookup (b.lookup_toDocument .buyVolume)
      (Document.toFloat_ofFloat (finite .buyVolume)) 0.0

theorem ofDocument_toDocument_iff (b : Bar) :
    Bar.ofDocument b.toDocument = .ok b ↔ b.IsFinite := by
  refine read_iff (fun finite => ?_) fun infinite => ?_
  · exact ofDocument_of_saidBy (Parts.ofEntries_of_fits ((fits_toDocument_iff b).mpr finite))
      (saidBy_toDocument finite)
  · exact ofDocument_of_not_fits fun fits => infinite ((fits_toDocument_iff b).mp fits)

/-! ### Without the buy volume -/

/-- The buy volume that was taken out does not matter. -/
theorem fits_without_iff (b : Bar) :
    Parts.Fits fieldForms (b.toDocument.without "buy_volume").entries ↔
      ∀ f ≠ .buyVolume, (b.get f).isFinite = true := by
  have hentries : Parts.Fits fieldForms (b.toDocument.without "buy_volume").entries ↔
      b.close.isFinite ∧ b.high.isFinite ∧ b.low.isFinite ∧ b.opening.isFinite ∧
        b.volume.isFinite := by
    simp [Parts.Fits, fieldForms, toDocument, Document.without, Document.entries, Field.all,
      Field.name]
  rw [hentries]
  constructor
  · rintro ⟨hclose, hhigh, hlow, hopening, hvolume⟩ f hf
    cases f with
    | buyVolume => exact absurd rfl hf
    | _ => assumption
  · intro h
    exact ⟨h .close (by decide), h .high (by decide), h .low (by decide), h .opening (by decide),
      h .volume (by decide)⟩

theorem lookup_without (b : Bar) {f : Field} (hf : f ≠ .buyVolume) :
    (b.toDocument.without "buy_volume").entries.lookup f.name = some (.ofFloat (b.get f)) := by
  cases f with
  | buyVolume => exact absurd rfl hf
  | _ => rfl

theorem saidBy_without (finite : ∀ f ≠ .buyVolume, (b.get f).isFinite = true) :
    SaidBy { b with buyVolume := 0.0 }
      ⟨(b.toDocument.without "buy_volume").entries, .missing⟩ where
  timestamp := Parts.get_of_lookup rfl (Document.toInt64_integer b.timestamp)
  float f hf := by
    have hsame : Bar.get { b with buyVolume := 0.0 } f = b.get f := by
      cases f with
      | buyVolume => exact absurd rfl hf
      | _ => rfl
    rw [hsame]
    exact Parts.get_of_lookup (b.lookup_without hf) (Document.toFloat_ofFloat (finite f hf))
  buyVolume := Parts.getD_of_lookup_none rfl 0.0

theorem ofDocument_without_iff (b : Bar) :
    Bar.ofDocument (b.toDocument.without "buy_volume") = .ok { b with buyVolume := 0.0 } ↔
      ∀ f ≠ .buyVolume, (b.get f).isFinite = true := by
  refine read_iff (fun finite => ?_) fun infinite => ?_
  · exact ofDocument_of_saidBy (Parts.ofEntries_of_fits ((fits_without_iff b).mpr finite))
      (saidBy_without finite)
  · exact ofDocument_of_not_fits fun fits => infinite ((fits_without_iff b).mp fits)

end Bar

/-! ## Backtest parameters -/

namespace BacktestParams

variable {params : BacktestParams} {d : Document} {p : Parts}

/-- All six values are finite. -/
def IsFinite (params : BacktestParams) : Prop :=
  ∀ entry ∈ params.named, entry.2.isFinite = true

/-- The parts say what the parameters are. -/
def SaidBy (params : BacktestParams) (p : Parts) : Prop :=
  ∀ name x, (name, x) ∈ params.named → p.get name Document.toFloat = .ok x

theorem ofDocument_of_saidBy
    (hparts : Parts.ofDocument "struct BacktestParams" fieldForms d = .ok p)
    (h : params.SaidBy p) : BacktestParams.ofDocument d = .ok params := by
  have hmargin := h "initial_margin" params.initialMargin (by simp [named])
  have hleverage := h "leverage" params.leverage (by simp [named])
  have hsize := h "contract_size" params.contractSize (by simp [named])
  have hmaker := h "maker_fee_rate" params.makerFeeRate (by simp [named])
  have htaker := h "taker_fee_rate" params.takerFeeRate (by simp [named])
  have hrate := h "maintenance_margin_rate" params.maintenanceMarginRate (by simp [named])
  simp only [ofDocument, hparts, hmargin, hleverage, hsize, hmaker, htaker, hrate, bind,
    Except.bind]
  rfl

theorem ofDocument_of_not_fits {entries : List (String × Document)}
    (h : ¬ Parts.Fits fieldForms entries) :
    ∃ m, BacktestParams.ofDocument (.mapping entries) = .error m := by
  obtain ⟨m, hm⟩ := Parts.ofEntries_of_not_fits h
  have hparts : Parts.ofDocument "struct BacktestParams" fieldForms (.mapping entries) =
      .error m := hm
  exact ⟨m, by rw [ofDocument, hparts]; rfl⟩

theorem fits_toDocument_iff (params : BacktestParams) :
    Parts.Fits fieldForms params.toDocument.entries ↔ params.IsFinite := by
  have hentries : Parts.Fits fieldForms params.toDocument.entries ↔
      params.contractSize.isFinite ∧ params.initialMargin.isFinite ∧ params.leverage.isFinite ∧
        params.maintenanceMarginRate.isFinite ∧ params.makerFeeRate.isFinite ∧
          params.takerFeeRate.isFinite := by
    simp [Parts.Fits, fieldForms, toDocument, Document.entries]
  rw [hentries]
  constructor
  · rintro ⟨hsize, hmargin, hleverage, hrate, hmaker, htaker⟩
    simp [IsFinite, named, hsize, hmargin, hleverage, hrate, hmaker, htaker]
  · intro h
    simp only [IsFinite, named, List.forall_mem_cons] at h
    obtain ⟨hmargin, hleverage, hsize, hmaker, htaker, hrate, -⟩ := h
    exact ⟨hsize, hmargin, hleverage, hrate, hmaker, htaker⟩

/-- Each value is found in the document under its name. -/
theorem lookup_toDocument {name : String} {x : Double} (h : (name, x) ∈ params.named) :
    params.toDocument.entries.lookup name = some (.ofFloat x) := by
  simp only [named, List.mem_cons, Prod.mk.injEq, List.not_mem_nil, or_false] at h
  rcases h with ⟨rfl, rfl⟩ | ⟨rfl, rfl⟩ | ⟨rfl, rfl⟩ | ⟨rfl, rfl⟩ | ⟨rfl, rfl⟩ | ⟨rfl, rfl⟩ <;> rfl

theorem saidBy_toDocument (finite : params.IsFinite) :
    params.SaidBy ⟨params.toDocument.entries, .missing⟩ := by
  intro name x h
  exact Parts.get_of_lookup (p := ⟨params.toDocument.entries, .missing⟩) (lookup_toDocument h)
    (Document.toFloat_ofFloat (finite (name, x) h))

theorem ofDocument_toDocument_iff (params : BacktestParams) :
    BacktestParams.ofDocument params.toDocument = .ok params ↔ params.IsFinite := by
  refine read_iff (fun finite => ?_) fun infinite => ?_
  · exact ofDocument_of_saidBy
      (Parts.ofEntries_of_fits ((fits_toDocument_iff params).mpr finite)) (saidBy_toDocument finite)
  · exact ofDocument_of_not_fits fun fits => infinite ((fits_toDocument_iff params).mp fits)

end BacktestParams

/-! ## Names and signals -/

theorem Field.name_injective : Function.Injective Field.name := by
  intro f f' h
  cases f <;> cases f' <;> simp [name] at h ⊢

theorem Field.ofDocument_toDocument (f : Field) : Field.ofDocument f.toDocument = .ok f :=
  Document.choiceNamed_of_mem Field.name_injective f.mem_all

theorem Action.ofDocument_toDocument (a : Action) : Action.ofDocument a.toDocument = .ok a := by
  have hall : a ∈ all := by
    cases a <;> decide
  exact Document.choiceNamed_of_mem (fun _ _ h => name_injective h) hall

namespace Signal

variable {s : Signal} {d : Document} {p : Parts}

/-- The parts say what the signal is. -/
structure SaidBy (s : Signal) (p : Parts) : Prop where
  strategy : p.get "strategy_id" Document.toWord32 = .ok s.strategy
  action : p.get "action" Action.ofDocument = .ok s.action
  timestamp : p.get "timestamp" Document.toInt64 = .ok s.timestamp

theorem ofDocument_of_saidBy (hparts : Parts.ofDocument "struct Signal" fieldForms d = .ok p)
    (h : s.SaidBy p) : Signal.ofDocument d = .ok s := by
  simp only [ofDocument, hparts, h.strategy, h.action, h.timestamp, bind, Except.bind]
  rfl

theorem fits_toDocument (s : Signal) : Parts.Fits fieldForms s.toDocument.entries := by
  simp [Parts.Fits, fieldForms, toDocument, Document.entries,
    FieldForm.fits_of_read s.action.ofDocument_toDocument,
    FieldForm.fits_of_read (Document.toWord32_integer s.strategy)]

theorem saidBy_toDocument (s : Signal) : s.SaidBy ⟨s.toDocument.entries, .missing⟩ where
  strategy := Parts.get_of_lookup rfl (Document.toWord32_integer s.strategy)
  action := Parts.get_of_lookup rfl s.action.ofDocument_toDocument
  timestamp := Parts.get_of_lookup rfl (Document.toInt64_integer s.timestamp)

theorem ofDocument_toDocument (s : Signal) : Signal.ofDocument s.toDocument = .ok s :=
  ofDocument_of_saidBy (Parts.ofEntries_of_fits s.fits_toDocument) s.saidBy_toDocument

end Signal

/-! ## Indicator specifications -/

namespace IndicatorSpec

variable {spec : IndicatorSpec} {d : Document} {p : Parts}

/-- The width of the band is finite, if the indicator has one. -/
def IsFinite (spec : IndicatorSpec) : Prop :=
  ∀ k ∈ spec.width?, k.isFinite = true

/-- The family of the indicator. -/
def family : IndicatorSpec → Family
  | rsi _ => .rsi
  | sma _ => .sma
  | ema _ => .ema
  | stdDev _ => .stdDev
  | boll _ _ => .boll
  | macd _ _ _ => .macd

/-- The parts say what the indicator is, apart from its family. -/
def SaidBy (p : Parts) : IndicatorSpec → Prop
  | rsi period | sma period | ema period | stdDev period =>
    p.get "period" Document.toWord = .ok period
  | boll period k =>
    p.get "period" Document.toWord = .ok period ∧ p.get "k" Document.toFloat = .ok k
  | macd fast slow signal =>
    p.get "fast" Document.toWord = .ok fast ∧ p.get "slow" Document.toWord = .ok slow ∧
      p.get "signal" Document.toWord = .ok signal

theorem ofDocument_of_saidBy (hparts : familyAndParts d = .ok (spec.family, p))
    (h : spec.SaidBy p) : IndicatorSpec.ofDocument d = .ok spec := by
  cases spec
  case rsi | sma | ema | stdDev =>
    simp only [SaidBy] at h
    simp only [ofDocument, hparts, family, h, bind, Except.bind]
    rfl
  case boll =>
    obtain ⟨hperiod, hk⟩ := h
    simp only [ofDocument, hparts, family, hperiod, hk, bind, Except.bind]
    rfl
  case macd =>
    obtain ⟨hfast, hslow, hsignal⟩ := h
    simp only [ofDocument, hparts, family, hfast, hslow, hsignal, bind, Except.bind]
    rfl

theorem fits_toDocument_iff (spec : IndicatorSpec) :
    Parts.Fits spec.family.fieldForms spec.toDocument.entries ↔ spec.IsFinite := by
  cases spec <;>
    simp [Parts.Fits, family, Family.fieldForms, toDocument, Document.entries, IsFinite, width?]

theorem saidBy_toDocument (finite : spec.IsFinite) :
    spec.SaidBy ⟨spec.toDocument.entries, .missing⟩ := by
  cases spec
  case rsi period | sma period | ema period | stdDev period =>
    exact Parts.get_of_lookup rfl (Document.toWord_ofWord period)
  case boll period k =>
    exact ⟨Parts.get_of_lookup rfl (Document.toWord_ofWord period),
      Parts.get_of_lookup rfl (Document.toFloat_ofFloat (finite k rfl))⟩
  case macd fast slow signal =>
    exact ⟨Parts.get_of_lookup rfl (Document.toWord_ofWord fast),
      Parts.get_of_lookup rfl (Document.toWord_ofWord slow),
      Parts.get_of_lookup rfl (Document.toWord_ofWord signal)⟩

theorem familyAndParts_of_type {entries : List (String × Document)} {tag : Document}
    {family : Family} (htype : entries.lookup "type" = some tag)
    (hfamily : Family.ofDocument tag = .ok family) :
    familyAndParts (.mapping entries) =
      Parts.ofEntries family.fieldForms entries >>= fun parts => .ok (family, parts) := by
  simp only [familyAndParts, htype, hfamily, bind, Except.bind]
  rfl

/-- The family is found by its name, wherever that stands among the entries. -/
theorem familyAndParts_toDocument (spec : IndicatorSpec) :
    familyAndParts spec.toDocument =
      Parts.ofEntries spec.family.fieldForms spec.toDocument.entries >>= fun parts =>
        .ok (spec.family, parts) := by
  have hmapping : spec.toDocument = .mapping spec.toDocument.entries := by
    cases spec <;> rfl
  have htype : ∃ tag, spec.toDocument.entries.lookup "type" = some tag ∧
      Family.ofDocument tag = .ok spec.family := by
    cases spec <;> exact ⟨_, rfl, rfl⟩
  obtain ⟨tag, htag, hfamily⟩ := htype
  exact (congrArg familyAndParts hmapping).trans (familyAndParts_of_type htag hfamily)

theorem ofDocument_toDocument_iff (spec : IndicatorSpec) :
    IndicatorSpec.ofDocument spec.toDocument = .ok spec ↔ spec.IsFinite := by
  refine read_iff (fun finite => ?_) fun infinite => ?_
  · have hparts := Parts.ofEntries_of_fits ((fits_toDocument_iff spec).mpr finite)
    refine ofDocument_of_saidBy ?_ (saidBy_toDocument finite)
    rw [familyAndParts_toDocument, hparts]
    rfl
  · obtain ⟨m, hm⟩ := Parts.ofEntries_of_not_fits fun fits =>
      infinite ((fits_toDocument_iff spec).mp fits)
    exact ⟨m, by rw [ofDocument, familyAndParts_toDocument, hm]; rfl⟩

end IndicatorSpec

/-! ## All values -/

/-- **What is written is read back.** The documents of bars, backtest parameters and indicator
specifications are read as the very values that they were made from, exactly if the floats in these
are finite; the documents of signals, actions and fields always are. A bar whose buy volume is taken
out of its document is read with a buy volume of `0`. -/
theorem documents_read_back :
    (∀ b : Bar, Bar.ofDocument b.toDocument = .ok b ↔ b.IsFinite) ∧
      (∀ b : Bar,
        Bar.ofDocument (b.toDocument.without "buy_volume") = .ok { b with buyVolume := 0.0 } ↔
          ∀ f ≠ .buyVolume, (b.get f).isFinite = true) ∧
      (∀ params : BacktestParams,
        BacktestParams.ofDocument params.toDocument = .ok params ↔ params.IsFinite) ∧
      (∀ spec : IndicatorSpec,
        IndicatorSpec.ofDocument spec.toDocument = .ok spec ↔ spec.IsFinite) ∧
      (∀ s : Signal, Signal.ofDocument s.toDocument = .ok s) ∧
      (∀ a : Action, Action.ofDocument a.toDocument = .ok a) ∧
      ∀ f : Field, Field.ofDocument f.toDocument = .ok f :=
  ⟨Bar.ofDocument_toDocument_iff, Bar.ofDocument_without_iff,
    BacktestParams.ofDocument_toDocument_iff, IndicatorSpec.ofDocument_toDocument_iff,
    Signal.ofDocument_toDocument, Action.ofDocument_toDocument, Field.ofDocument_toDocument⟩

/-- A bar at the ends of the ranges: the first timestamp, the negative zero, the largest finite
float and the smallest positive one. -/
def Bar.extreme : Bar :=
  { timestamp := Int64.minValue, opening := -0.0, high := ⟨0x7fefffffffffffff⟩,
    low := ⟨1⟩, close := 0.0, volume := -0.0, buyVolume := ⟨1⟩ }

theorem Bar.extreme_isFinite : Bar.extreme.IsFinite := by
  intro f
  cases f <;> decide

/-- Values at the ends of their ranges are read back, and a volume that is infinite is not. -/
theorem extreme_values_read_back :
    Bar.ofDocument Bar.extreme.toDocument = .ok Bar.extreme ∧
      Bar.ofDocument (Bar.extreme.toDocument.without "buy_volume") =
        .ok { Bar.extreme with buyVolume := 0.0 } ∧
      Bar.ofDocument { Bar.extreme with volume := 1.0 / 0.0 }.toDocument ≠
        .ok { Bar.extreme with volume := 1.0 / 0.0 } ∧
      IndicatorSpec.ofDocument (IndicatorSpec.boll (-1) (-0.0)).toDocument =
        .ok (.boll (-1) (-0.0)) := by
  obtain ⟨bars, barsWithout, -, specs, -⟩ := documents_read_back
  have hspec : (IndicatorSpec.boll (-1) (-0.0)).IsFinite := by
    intro k hk
    obtain rfl : -0.0 = k := Option.some.inj hk
    decide
  refine ⟨(bars _).mpr Bar.extreme_isFinite,
    (barsWithout _).mpr fun f _ => Bar.extreme_isFinite f, ?_, (specs _).mpr hspec⟩
  intro h
  exact absurd ((bars _).mp h .volume) (by decide)

end MarketBridge
