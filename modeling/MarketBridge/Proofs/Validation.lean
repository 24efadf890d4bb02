import Mathlib.Data.List.Forall2
import MarketBridge.Validation

/-!
# `Validation` — which arguments are let through

The checks made before the engine is touched, as conditions on the arguments: `isValid_iff` for
indicators, `fault?_eq_none_iff` for the parameters of a backtest, and `parse_eq` for the names of
actions. The checks of a backtest stop at the first fault; whether there is one does not
depend on their order. The names of the actions are listed in `Action.lexicon`, each with the byte
that stands for it.
-/

namespace MarketBridge

/-! ## Indicators -/

namespace IndicatorSpec

/-- The periods of the indicator. -/
def periods : IndicatorSpec → List UInt64
  | rsi period | sma period | ema period | stdDev period | boll period _ => [period]
  | macd fast slow signal => [fast, slow, signal]

/-- The width of the band, if the indicator has one. -/
def width? : IndicatorSpec → Option Double
  | boll _ k => some k
  | _ => none

/-- No period is zero, and a band is finite. -/
def Acceptable (spec : IndicatorSpec) : Prop :=
  (∀ period ∈ spec.periods, period ≠ 0) ∧ ∀ k ∈ spec.width?, k.isFinite = true

theorem isValid_iff (spec : IndicatorSpec) : spec.isValid = true ↔ spec.Acceptable := by
  have hpos : ∀ n : UInt64, 0 < n ↔ n ≠ 0 := fun n => UInt64.pos_iff_ne_zero
  unfold isValid Acceptable
  cases spec with
  | boll period k => simp [periods, width?, hpos]
  | macd fast slow signal => simp [periods, width?, hpos, and_assoc]
  | _ => simp [periods, width?, hpos]

instance (spec : IndicatorSpec) : Decidable spec.Acceptable :=
  decidable_of_iff _ spec.isValid_iff

theorem acceptable_rsi_iff (period : UInt64) : (rsi period).Acceptable ↔ period ≠ 0 := by
  simp [Acceptable, periods, width?]

theorem validate_of_acceptable {spec : IndicatorSpec} (h : spec.Acceptable) :
    spec.validate = .ok () :=
  if_pos ((isValid_iff spec).mpr h)

theorem validate_of_not_acceptable {spec : IndicatorSpec} (h : ¬ spec.Acceptable) :
    spec.validate = .error (.invalidParameter (.invalidIndicator spec)) :=
  if_neg fun valid => h ((isValid_iff spec).mp valid)

end IndicatorSpec

/-! ## Backtest parameters -/

namespace BacktestParams

/-- All six values are finite, the margin and the contract size are positive, the leverage is at
least one, and no rate is negative. -/
def Acceptable (p : BacktestParams) : Prop :=
  (p.initialMargin.isFinite ∧ p.leverage.isFinite ∧ p.contractSize.isFinite ∧
      p.makerFeeRate.isFinite ∧ p.takerFeeRate.isFinite ∧ p.maintenanceMarginRate.isFinite) ∧
    ¬ p.initialMargin ≤ 0.0 ∧ ¬ p.leverage < 1.0 ∧ ¬ p.contractSize ≤ 0.0 ∧
    ¬ p.makerFeeRate < 0.0 ∧ ¬ p.takerFeeRate < 0.0 ∧ ¬ p.maintenanceMarginRate < 0.0

instance (p : BacktestParams) : Decidable p.Acceptable :=
  inferInstanceAs (Decidable (_ ∧ _))

theorem find_infinite_eq_none_iff (p : BacktestParams) :
    (p.named.find? fun (_, v) => !v.isFinite) = none ↔
      p.initialMargin.isFinite ∧ p.leverage.isFinite ∧ p.contractSize.isFinite ∧
        p.makerFeeRate.isFinite ∧ p.takerFeeRate.isFinite ∧ p.maintenanceMarginRate.isFinite := by
  rw [List.find?_eq_none]
  simp [named]

theorem find_negative_eq_none_iff (p : BacktestParams) :
    (p.namedRates.find? fun (_, v) => v < 0.0) = none ↔
      ¬ p.makerFeeRate < 0.0 ∧ ¬ p.takerFeeRate < 0.0 ∧ ¬ p.maintenanceMarginRate < 0.0 := by
  rw [List.find?_eq_none]
  simp [namedRates, named]

/-- No fault is found in just the acceptable parameters. -/
theorem fault?_eq_none_iff (p : BacktestParams) : p.fault? = none ↔ p.Acceptable := by
  have hfinite := p.find_infinite_eq_none_iff
  have hrates := p.find_negative_eq_none_iff
  unfold fault? Acceptable
  rw [← hfinite, ← hrates]
  cases p.named.find? fun (_, v) => !v.isFinite with
  | some e => simp
  | none =>
    by_cases hmargin : p.initialMargin ≤ 0.0
    · simp [hmargin]
    by_cases hleverage : p.leverage < 1.0
    · simp [hmargin, hleverage]
    by_cases hcontract : p.contractSize ≤ 0.0
    · simp [hmargin, hleverage, hcontract]
    simp [hmargin, hleverage, hcontract]

theorem validate_of_acceptable {p : BacktestParams} (h : p.Acceptable) : p.validate = .ok () := by
  unfold validate
  rw [(fault?_eq_none_iff p).mpr h]

theorem validate_of_not_acceptable {p : BacktestParams} (h : ¬ p.Acceptable) :
    ∃ e, p.validate = .error e := by
  unfold validate
  cases hfault : p.fault? with
  | none => exact absurd ((fault?_eq_none_iff p).mp hfault) h
  | some fault => exact ⟨_, rfl⟩

end BacktestParams

/-! ## Names of actions -/

section Letters

variable {c : Char}

theorem capital_range_iff : ('A'.val ≤ c.val ∧ c.val ≤ 'Z'.val) ↔ 65 ≤ c.toNat ∧ c.toNat ≤ 90 := by
  rw [UInt32.le_iff_toNat_le, UInt32.le_iff_toNat_le]
  rfl

theorem small_range_iff : ('a'.val ≤ c.val ∧ c.val ≤ 'z'.val) ↔ 97 ≤ c.toNat ∧ c.toNat ≤ 122 := by
  rw [UInt32.le_iff_toNat_le, UInt32.le_iff_toNat_le]
  rfl

theorem toNat_toLower (h : 65 ≤ c.toNat ∧ c.toNat ≤ 90) : c.toLower.toNat = c.toNat + 32 := by
  have hvalue : c.toLower.val = c.val + 32 := by
    unfold Char.toLower
    rw [dif_pos (capital_range_iff.mpr h)]
    rfl
  show c.toLower.val.toNat = c.val.toNat + 32
  rw [hvalue, UInt32.toNat_add]
  exact Nat.mod_eq_of_lt (show c.toNat + 32 < UInt32.size by unfold UInt32.size; omega)

theorem toNat_toUpper (h : 97 ≤ c.toNat ∧ c.toNat ≤ 122) : c.toUpper.toNat + 32 = c.toNat := by
  -- the distance from small to capital letters is a negative one, and wraps around
  have hvalue : c.toUpper.val = c.val + 4294967264 := by
    unfold Char.toUpper
    rw [dif_pos (small_range_iff.mpr h)]
    rfl
  show c.toUpper.val.toNat + 32 = c.toNat
  rw [hvalue, UInt32.toNat_add]
  show (c.toNat + 4294967264) % 4294967296 + 32 = c.toNat
  omega

theorem toUpper_of_not_small (h : ¬ (97 ≤ c.toNat ∧ c.toNat ≤ 122)) : c.toUpper = c := by
  unfold Char.toUpper
  rw [dif_neg (mt small_range_iff.mp h)]

/-- A character becomes a capital letter if it is that letter or its small form. -/
theorem toUpper_eq_iff {letter : Char} (h : 65 ≤ letter.toNat ∧ letter.toNat ≤ 90) (c : Char) :
    c.toUpper = letter ↔ c = letter ∨ c = letter.toLower := by
  have hlower := toNat_toLower h
  by_cases small : 97 ≤ c.toNat ∧ c.toNat ≤ 122
  · have hcapital := toNat_toUpper small
    rw [← Char.toNat_inj, ← Char.toNat_inj, ← Char.toNat_inj]
    omega
  · rw [toUpper_of_not_small small, ← Char.toNat_inj, ← Char.toNat_inj]
    omega

/-- Letters and characters agree one by one, up to the case of the characters. -/
theorem eq_upperAscii_iff {letters : List Char}
    (h : ∀ l ∈ letters, 65 ≤ l.toNat ∧ l.toNat ≤ 90) (cs : List Char) :
    letters = Text.upperAscii cs ↔
      List.Forall₂ (fun letter c => c = letter ∨ c = letter.toLower) letters cs := by
  unfold Text.upperAscii
  induction letters generalizing cs with
  | nil =>
    cases cs with
    | nil => simp
    | cons c cs => simp
  | cons letter letters ih =>
    rw [List.forall_mem_cons] at h
    cases cs with
    | nil => simp
    | cons c cs =>
      rw [List.map_cons, List.cons_eq_cons, List.forall₂_cons, ih h.2, ← toUpper_eq_iff h.1]
      exact and_congr_left' eq_comm

end Letters

/-! ## Texts that differ in case only -/

namespace Text

/-- The character is one of the letters from A to Z. -/
def Capital (c : Char) : Prop :=
  'A'.toNat ≤ c.toNat ∧ c.toNat ≤ 'Z'.toNat

/-- The characters are the same, or the capital and the small form of a letter from A to Z. -/
def SameLetter (c d : Char) : Prop :=
  c = d ∨ (Capital c ∧ d.toNat = c.toNat + 32) ∨ (Capital d ∧ c.toNat = d.toNat + 32)

/-- The texts are of one length, and agree character by character up to the case of letters. -/
def SameButForCase (s t : String) : Prop :=
  List.Forall₂ SameLetter s.toList t.toList

instance (c : Char) : Decidable (Capital c) :=
  inferInstanceAs (Decidable (_ ∧ _))

instance (c d : Char) : Decidable (SameLetter c d) :=
  inferInstanceAs (Decidable (_ ∨ _ ∨ _))

instance (s t : String) : Decidable (SameButForCase s t) :=
  inferInstanceAs (Decidable (List.Forall₂ _ _ _))

/-- A capital letter agrees with itself and with its small form, and with nothing else. -/
theorem Capital.sameLetter_iff {letter : Char} (h : Capital letter) (c : Char) :
    SameLetter letter c ↔ c = letter ∨ c = letter.toLower := by
  have hlower : letter.toLower.toNat = letter.toNat + 32 := toNat_toLower h
  unfold SameLetter
  rw [← Char.toNat_inj (c := c) (d := letter.toLower), hlower]
  constructor
  · rintro (rfl | ⟨-, small⟩ | ⟨capital, small⟩)
    · exact Or.inl rfl
    · exact Or.inr small
    · -- two capital letters are less than that far apart
      have hletter : letter.toNat ≤ 90 := h.2
      have hc : 65 ≤ c.toNat := capital.1
      omega
  · rintro (rfl | small)
    · exact Or.inl rfl
    · exact Or.inr (Or.inl ⟨h, small⟩)

theorem forall₂_sameLetter_iff {letters : List Char} (h : ∀ l ∈ letters, Capital l)
    (cs : List Char) :
    List.Forall₂ SameLetter letters cs ↔
      List.Forall₂ (fun letter c => c = letter ∨ c = letter.toLower) letters cs := by
  induction letters generalizing cs with
  | nil =>
    cases cs with
    | nil => simp
    | cons c cs => simp
  | cons letter letters ih =>
    rw [List.forall_mem_cons] at h
    cases cs with
    | nil => simp
    | cons c cs =>
      rw [List.forall₂_cons, List.forall₂_cons, ih h.2, h.1.sameLetter_iff]

end Text

/-! ### The actions -/

namespace Action

/-- The text is the action's name, letter by letter, in small or capital letters. -/
def SpelledBy (a : Action) (text : String) : Prop :=
  List.Forall₂ (fun letter c => c = letter ∨ c = letter.toLower) a.name.toList text.toList

instance (a : Action) (text : String) : Decidable (a.SpelledBy text) :=
  inferInstanceAs (Decidable (List.Forall₂ _ _ _))

/-- The action that the text spells. -/
def spelled? (text : String) : Option Action :=
  all.find? fun a => a.SpelledBy text

theorem name_letters (a : Action) : ∀ l ∈ a.name.toList, 65 ≤ l.toNat ∧ l.toNat ≤ 90 := by
  have hall : a.name.toList.all (fun l => 65 ≤ l.toNat && l.toNat ≤ 90) = true := by
    cases a <;> rfl
  intro l hl
  simpa using List.all_eq_true.mp hall l hl

theorem name_eq_iff (a : Action) (text : String) :
    (a.name.toList == Text.upperAscii text.toList) = decide (a.SpelledBy text) := by
  rw [Bool.eq_iff_iff, beq_iff_eq, decide_eq_true_eq]
  exact eq_upperAscii_iff a.name_letters _

/-- Parsing gives the action that the text spells, and refuses every other text. -/
theorem parse_eq (text : String) :
    parse text = (spelled? text).elim (.error (.invalidAction text)) .ok := by
  have hsame : (all.find? fun a => a.name.toList == Text.upperAscii text.toList) =
      spelled? text := by
    unfold spelled?
    congr 1
    funext a
    exact a.name_eq_iff text
  unfold parse
  rw [hsame]
  cases spelled? text with
  | none => rfl
  | some a => rfl

/-- The words that name an action, each with the action and with the byte that stands for it in the
engine. -/
def lexicon : List (String × Action × UInt8) :=
  [("BUY", .buy, 1), ("SELL", .sell, 2), ("HOLD", .hold, 3)]

theorem mem_lexicon_iff {word : String} {a : Action} {tag : UInt8} :
    (word, a, tag) ∈ lexicon ↔ word = a.name ∧ tag = a.tag := by
  have hlexicon : lexicon = all.map fun a => (a.name, a, a.tag) := rfl
  rw [hlexicon, List.mem_map]
  constructor
  · rintro ⟨a', -, hentry⟩
    cases hentry
    exact ⟨rfl, rfl⟩
  · rintro ⟨rfl, rfl⟩
    refine ⟨a, ?_, rfl⟩
    cases a <;> decide

theorem sameButForCase_name_iff (a : Action) (text : String) :
    Text.SameButForCase a.name text ↔ a.SpelledBy text :=
  Text.forall₂_sameLetter_iff a.name_letters text.toList

/-- The byte of the action that the text names, up to the case of its letters. -/
def tagSpelled? (text : String) : Option UInt8 :=
  (lexicon.find? fun entry => Text.SameButForCase entry.1 text).map fun entry => entry.2.2

theorem tagSpelled?_eq (text : String) : tagSpelled? text = (spelled? text).map tag := by
  have hlexicon : lexicon = all.map fun a => (a.name, a, a.tag) := rfl
  have hsame : ((fun entry : String × Action × UInt8 =>
      decide (Text.SameButForCase entry.1 text)) ∘ fun a => (a.name, a, a.tag)) =
        fun a => decide (a.SpelledBy text) := by
    funext a
    exact decide_eq_decide.mpr (a.sameButForCase_name_iff text)
  unfold tagSpelled? spelled?
  rw [hlexicon, List.find?_map, hsame, Option.map_map]
  rfl

end Action

end MarketBridge
