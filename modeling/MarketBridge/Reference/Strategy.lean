import MarketBridge.Decimal.Read
import MarketBridge.Signal
import MarketBridge.Text.Blank

/-!
# `Reference.Strategy` — the strategy language of the reference engine

A strategy is a text with one rule on each line that is not blank: `IF CLOSE < x THEN ACTION`,
`IF CLOSE > x THEN ACTION`, or `EMIT tag`. The first rule that applies to a close decides the tag.
-/

namespace MarketBridge.Reference

/-- A rule about the close of a bar. -/
inductive Rule
  | below (limit : Double) (tag : UInt8)
  | above (limit : Double) (tag : UInt8)
  | emit (tag : UInt8)
  deriving DecidableEq

/-- The tag of the signal that the rule asks for, if it applies. -/
def Rule.hit? (close : Double) : Rule → Option UInt8
  | below limit tag => if close < limit then some tag else none
  | above limit tag => if limit < close then some tag else none
  | emit tag => some tag

/-- The action that a capital word names. -/
def actionNamed? (word : List Char) : Option Action :=
  Action.all.find? fun a => a.name.toList == word

/-- The words of a rule. -/
def Rule.ofWords? (words : List (List Char)) : Option Rule :=
  match words.map String.ofList, words with
  | ["EMIT", _], [_, tag] => (Decimal.readByte? tag).map .emit
  | ["IF", "CLOSE", comparison, _, "THEN", _], [_, _, _, limit, _, action] => do
    let limit ← Decimal.readFloat? limit
    let action ← actionNamed? action
    if comparison = "<" then some (.below limit action.tag)
    else if comparison = ">" then some (.above limit action.tag)
    else none
  | _, _ => none

/-- The rules of a strategy text, of which there must be at least one. -/
def parseRules? (text : String) : Option (List Rule) := do
  let lines := (Text.lines text.toList).map Text.trim
  let rules ← (lines.filter fun l => !l.isEmpty).mapM fun l => Rule.ofWords? (Text.words l)
  if rules.isEmpty then none else some rules

end MarketBridge.Reference
