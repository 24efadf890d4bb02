import MarketBridge.Text.Quoted
import MarketBridge.Text.Utf8

/-!
# `Path` — byte strings that name files or fill environment variables

A path is any string of bytes. It has a text only when the bytes are UTF-8; for people it can be
shown with a replacement mark for every bad stretch, or quoted with the bad bytes spelled out.
-/

namespace MarketBridge

/-- A path, or the value of an environment variable. -/
structure Path where
  bytes : ByteArray
  deriving Inhabited

instance : DecidableEq Path := fun p q =>
  decidable_of_iff (p.bytes.data = q.bytes.data)
    ⟨fun h => by cases p; cases q; exact congrArg Path.mk (ByteArray.ext h), fun h => h ▸ rfl⟩

namespace Path

/-- The path that `text` spells. -/
def ofText (text : String) : Path :=
  ⟨text.toUTF8⟩

/-- The path made of the given bytes. -/
def ofBytes (bytes : List UInt8) : Path :=
  ⟨⟨bytes.toArray⟩⟩

/-- The bytes of the path in order. -/
def toBytes (p : Path) : List UInt8 :=
  p.bytes.data.toList

/-- Whether the path has no bytes at all. -/
def isEmpty (p : Path) : Bool :=
  p.bytes.size == 0

/-- The text that the bytes spell, if they are UTF-8. -/
def text? (p : Path) : Option String :=
  String.fromUTF8? p.bytes

/-- The path as text, every bad stretch replaced by `U+FFFD`. -/
def shown (p : Path) : String :=
  match p.text? with
  | some text => text
  | none => String.ofList <| (Text.pieces p.toBytes).map fun
    | .char c => c
    | .bad _ => '\ufffd'

/-- A byte as two capital hexadecimal digits. -/
def hexByte (b : UInt8) : List Char :=
  let digits := (Nat.toDigits 16 b.toNat).map Char.toUpper
  List.replicate (2 - digits.length) '0' ++ digits

/-- The path between quotes, written like a text where it is one; bad bytes look like `\xFF`. -/
def quoted (p : Path) : String :=
  let inside := (Text.pieces p.toBytes).flatMap fun
    | .char c => Text.quoteChar c
    | .bad bytes => bytes.flatMap fun b => '\\' :: 'x' :: hexByte b
  String.ofList ('\x22' :: (inside ++ ['\x22']))

end Path

end MarketBridge
