/-!
# `Text.Utf8` — byte strings read as characters, wherever they are well formed

Paths and environment values are byte strings that need not be UTF-8. `pieces` splits such a string
into the characters it spells and the stretches that spell none; a bad stretch is the longest start
of a character that broke off, or a single byte that cannot start one.
-/

namespace MarketBridge.Text

/-- A part of a byte string: a character, or bytes that spell no character. -/
inductive Piece
  | char (c : Char)
  | bad (bytes : List UInt8)
  deriving DecidableEq, Repr

/-- Whether `b` continues a character. -/
def isContinuation (b : UInt8) : Bool :=
  0x80 ≤ b && b ≤ 0xBF

/-- Whether `b` may follow `lead` as the second byte of a character of three or four bytes. The
bounds leave out overlong forms, surrogates and code points beyond the last one. -/
def isSecond (lead b : UInt8) : Bool :=
  let low : UInt8 := if lead == 0xE0 then 0xA0 else if lead == 0xF0 then 0x90 else 0x80
  let high : UInt8 := if lead == 0xED then 0x9F else if lead == 0xF4 then 0x8F else 0xBF
  low ≤ b && b ≤ high

/-- The six low bits that a continuation byte adds to the code point `n`. -/
def extendCode (n : Nat) (b : UInt8) : Nat :=
  n * 64 + (b.toNat - 0x80)

/-- The first piece of `b :: rest`, and how many bytes of `rest` belong to it. -/
def firstPiece (b : UInt8) (rest : List UInt8) : Piece × Nat :=
  if b < 0x80 then (.char (Char.ofNat b.toNat), 0)
  else if 0xC2 ≤ b && b ≤ 0xDF then
    match rest with
    | c :: _ =>
      if isContinuation c then (.char (Char.ofNat (extendCode (b.toNat - 0xC0) c)), 1)
      else (.bad [b], 0)
    | [] => (.bad [b], 0)
  else if 0xE0 ≤ b && b ≤ 0xEF then
    match rest with
    | c :: d :: _ =>
      if !isSecond b c then (.bad [b], 0)
      else if !isContinuation d then (.bad [b, c], 1)
      else (.char (Char.ofNat (extendCode (extendCode (b.toNat - 0xE0) c) d)), 2)
    | [c] => if isSecond b c then (.bad [b, c], 1) else (.bad [b], 0)
    | [] => (.bad [b], 0)
  else if 0xF0 ≤ b && b ≤ 0xF4 then
    match rest with
    | c :: d :: e :: _ =>
      if !isSecond b c then (.bad [b], 0)
      else if !isContinuation d then (.bad [b, c], 1)
      else if !isContinuation e then (.bad [b, c, d], 2)
      else
        (.char (Char.ofNat (extendCode (extendCode (extendCode (b.toNat - 0xF0) c) d) e)), 3)
    | [c, d] =>
      if !isSecond b c then (.bad [b], 0)
      else if !isContinuation d then (.bad [b, c], 1)
      else (.bad [b, c, d], 2)
    | [c] => if isSecond b c then (.bad [b, c], 1) else (.bad [b], 0)
    | [] => (.bad [b], 0)
  else (.bad [b], 0)

/-- The pieces of a byte string, in order. -/
def pieces : List UInt8 → List Piece
  | [] => []
  | b :: rest =>
    let (piece, used) := firstPiece b rest
    piece :: pieces (rest.drop used)
  termination_by bytes => bytes.length
  decreasing_by simp only [List.length_drop, List.length_cons]; omega

end MarketBridge.Text
