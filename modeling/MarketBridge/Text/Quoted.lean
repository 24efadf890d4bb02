import MarketBridge.Text.Glyph

/-!
# `Text.Quoted` — text between double quotes, with what cannot be seen spelled out

A quoted text is one line of visible characters: control, unprintable and combining characters are
written as escapes, and so are the quote and the backslash. The apostrophe ends nothing and stays as
it is.
-/

namespace MarketBridge.Text

/-- The digits of `n` to base sixteen, without leading zeros, in small letters. -/
def hexDigits (n : Nat) : List Char :=
  Nat.toDigits 16 n

/-- How one character is written inside quotes. -/
def quoteChar (c : Char) : List Char :=
  if c = '\x00' then ['\\', '0']
  else if c = '\t' then ['\\', 't']
  else if c = '\r' then ['\\', 'r']
  else if c = '\n' then ['\\', 'n']
  else if c = '\\' || c = '\x22' then ['\\', c]
  else if isCombining c || isUnprintable c then
    '\\' :: 'u' :: '\x7b' :: (hexDigits c.toNat ++ ['\x7d'])
  else [c]

/-- The text `s` between quotes. -/
def quote (s : String) : String :=
  String.ofList ('\x22' :: (s.toList.flatMap quoteChar ++ ['\x22']))

end MarketBridge.Text
