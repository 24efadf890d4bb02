import MarketBridge.Proofs.Session.Prescribed

/-!
# `Spelling` — which words trade

Three words name an action, in whatever mixture of small and capital letters they are written
(`Action.lexicon`, `Text.SameButForCase`). `Action.parse_eq_ok_iff` says that a word is read as an
action exactly if it is written like the action's name. From that
`Backtest.words_trade_as_actions`: a backtest takes such a word for the action, and leaves
everything as it is on any other text.
-/

namespace MarketBridge

variable {ε β : Type}

/-! ## The names of the actions -/

namespace Action

theorem name_injective {a a' : Action} (h : a.name = a'.name) : a = a' := by
  cases a <;> cases a' <;> simp [name] at h ⊢

/-- A text spells one action at most. -/
theorem SpelledBy.unique {a a' : Action} {text : String} (h : a.SpelledBy text)
    (h' : a'.SpelledBy text) : a = a' := by
  -- in capital letters, the text is the name of both
  have hname := (eq_upperAscii_iff a.name_letters _).mpr h
  have hname' := (eq_upperAscii_iff a'.name_letters _).mpr h'
  exact name_injective (String.toList_inj.mp (hname.trans hname'.symm))

theorem spelled?_eq_some_iff {text : String} {a : Action} :
    spelled? text = some a ↔ a.SpelledBy text := by
  unfold spelled?
  constructor
  · intro hfound
    simpa using List.find?_some hfound
  · intro hspelled
    cases hfound : all.find? fun a => a.SpelledBy text with
    | none =>
      have hnone := List.find?_eq_none.mp hfound a (by cases a <;> decide)
      exact absurd hspelled (by simpa using hnone)
    | some a' =>
      have hspelled' : a'.SpelledBy text := by simpa using List.find?_some hfound
      exact congrArg some (hspelled'.unique hspelled)

-- the long s is a small form of S for Unicode, and no letter of these words
example : spelled? "sElL" = some .sell ∧ spelled? "ſELL" = none := by decide

theorem parse_eq_ok_iff {text : String} {a : Action} :
    parse text = .ok a ↔ a.SpelledBy text := by
  rw [parse_eq, ← spelled?_eq_some_iff]
  cases spelled? text with
  | none => simp
  | some a' => simp

theorem parse_eq_error_of {text : String} (h : ∀ a : Action, ¬ a.SpelledBy text) :
    parse text = .error (.invalidAction text) := by
  rw [parse_eq]
  cases hspelled : spelled? text with
  | none => rfl
  | some a => exact absurd (spelled?_eq_some_iff.mp hspelled) (h a)

end Action

/-! ## Trading by words -/

namespace Backtest

variable {x : Backtest ε β} {text : String} {a : Action} {price margin : Double}

theorem applySignal_of_spelledBy (h : a.SpelledBy text) :
    applySignal text price margin x = apply a price margin x := by
  unfold applySignal
  rw [Action.parse_eq_ok_iff.mpr h]

theorem applySignal_of_not_spelledBy (h : ∀ a : Action, ¬ a.SpelledBy text) :
    applySignal text price margin x = ⟨.error (.invalidAction text), x, []⟩ := by
  unfold applySignal
  rw [Action.parse_eq_error_of h]
  rfl

/-- Of an open backtest, an action makes one call cross, with the byte of the action. -/
theorem crossings_apply {l : BacktestLink ε β} (hopen : x.link = some l) (hlive : l.Live) :
    crossings (apply a price margin x).events =
      [.native l.backend.site (.backtest (.applySignal a.tag price margin))] := by
  have live : x.Live := by
    intro l' hl'
    rw [hopen, Option.mem_some_iff] at hl'
    exact hl' ▸ hlive
  obtain ⟨crossed, -⟩ := invoke_crosses live (.applySignal a.tag price margin)
  unfold apply
  rw [crossed, crossing, backend?, hopen]
  rfl

/-- What comes of trading by a word, on a backtest that may be open or closed. -/
structure WordLaw (x : Backtest ε β) (text : String) (price margin : Double) : Prop where
  /-- A word of the lexicon, in any case, does what its action does: the answer is the same, and so
  are the backtest after it and everything that is left in the journal. -/
  acts : ∀ word a tag, (word, a, tag) ∈ Action.lexicon → Text.SameButForCase word text →
    applySignal text price margin x = apply a price margin x
  /-- On an open backtest this is one native call, with the byte of the action. -/
  crosses : ∀ word a tag, (word, a, tag) ∈ Action.lexicon → Text.SameButForCase word text →
    ∀ l, x.link = some l → l.Live →
      crossings (applySignal text price margin x).events =
        [.native l.backend.site (.backtest (.applySignal tag price margin))]
  /-- Every other text is handed back in the error, and nothing else happens. -/
  refused : (∀ word a tag, (word, a, tag) ∈ Action.lexicon → ¬ Text.SameButForCase word text) →
    applySignal text price margin x = ⟨.error (.invalidAction text), x, []⟩

/-- **Exactly the names of the actions trade.** On every backtest, open or closed, and for every
text: if it is one of the three words up to the case of its letters, trading by it is trading by its
action, and otherwise it is refused before anything is called or changed. -/
theorem words_trade_as_actions (x : Backtest ε β) (text : String) (price margin : Double) :
    x.WordLaw text price margin := by
  constructor
  case acts =>
    intro word a tag hentry hsame
    obtain ⟨rfl, rfl⟩ := Action.mem_lexicon_iff.mp hentry
    exact applySignal_of_spelledBy ((a.sameButForCase_name_iff text).mp hsame)
  case crosses =>
    intro word a tag hentry hsame l hopen hlive
    obtain ⟨rfl, rfl⟩ := Action.mem_lexicon_iff.mp hentry
    rw [applySignal_of_spelledBy ((a.sameButForCase_name_iff text).mp hsame)]
    exact crossings_apply hopen hlive
  case refused =>
    intro hnone
    apply applySignal_of_not_spelledBy
    intro a hspelled
    exact hnone a.name a a.tag (Action.mem_lexicon_iff.mpr ⟨rfl, rfl⟩)
      ((a.sameButForCase_name_iff text).mpr hspelled)

end Backtest

end MarketBridge
