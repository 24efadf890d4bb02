/-!
# `Text.Blank` — white space, trimming, words and lines

White space is the Unicode property of that name, all twenty-five code points of it. Configuration
values are trimmed by it and strategy texts are split by it.
-/

namespace MarketBridge.Text

/-- The code points with the Unicode property `White_Space`. -/
def isBlank (c : Char) : Bool :=
  let n := c.toNat
  (0x09 ≤ n && n ≤ 0x0D) || n == 0x20 || n == 0x85 || n == 0xA0 || n == 0x1680 ||
    (0x2000 ≤ n && n ≤ 0x200A) || n == 0x2028 || n == 0x2029 || n == 0x202F || n == 0x205F ||
    n == 0x3000

/-- The part of `cs` without the blanks before its first and after its last other character. -/
def trim (cs : List Char) : List Char :=
  ((cs.dropWhile isBlank).reverse.dropWhile isBlank).reverse

/-- The maximal runs of characters that are not blank, in order. -/
def words (cs : List Char) : List (List Char) :=
  (cs.splitOnP isBlank).filter (fun w => !w.isEmpty)

/-- The stretches of text between line feeds. -/
def lines (cs : List Char) : List (List Char) :=
  cs.splitOn '\n'

/-- The characters of `cs` with the letters `A` to `Z` made small; no other character changes. -/
def lowerAscii (cs : List Char) : List Char :=
  cs.map Char.toLower

/-- The characters of `cs` with the letters `a` to `z` made capital; no other character changes. -/
def upperAscii (cs : List Char) : List Char :=
  cs.map Char.toUpper

end MarketBridge.Text
