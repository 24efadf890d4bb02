import MarketBridge.Decimal.Layout
import MarketBridge.Error

/-!
# `Document` — self-describing values

A document is what typed values are stored as and read back from: texts, numbers, lists and
mappings. The entries of a mapping are in rising order of their keys, each key once;
`Document.ofEntries` brings any list of entries into that form. Whole numbers and floats are
different documents: a whole number is accepted as a float, a float never as a whole number.
-/

namespace MarketBridge

/-- A self-describing value. -/
inductive Document
  | null
  | boolean (value : Bool)
  | integer (value : Int)
  | real (value : Double)
  | text (value : String)
  | sequence (items : List Document)
  | mapping (entries : List (String × Document))
  deriving Inhabited

namespace Document

/-- Puts an entry into its place among ordered entries; an entry with the same key is replaced. -/
def insertEntry (key : String) (value : Document) :
    List (String × Document) → List (String × Document)
  | [] => [(key, value)]
  | (k, v) :: rest =>
    if key < k then (key, value) :: (k, v) :: rest
    else if key = k then (key, value) :: rest
    else (k, v) :: insertEntry key value rest

/-- The mapping with the given entries; of two entries with one key the later counts. -/
def ofEntries (entries : List (String × Document)) : Document :=
  .mapping (entries.foldl (fun done (key, value) => insertEntry key value done) [])

/-- The document as errors show it. -/
def describe : Document → String
  | null => "null"
  | boolean value => "boolean `" ++ toString value ++ "`"
  | integer value => "integer `" ++ toString value ++ "`"
  | real value => "floating point `" ++ Decimal.Layout.document.write value ++ "`"
  | text value => "string " ++ Text.quote value
  | sequence _ => "sequence"
  | mapping _ => "map"

end Document

/-! ## Why a document does not fit a type -/

/-- A reason why a document is not the form of a value. -/
inductive Misfit
  | missing (field : String)
  | unknownField (field : String) (known : List String)
  | unknownName (name : String) (known : List String)
  | wrongType (found : Document) (expected : String)
  | outOfRange (found : Int) (expected : String)
  | notSingle
  | tooShort (size : Nat) (expected : String)
  | tooLong (size : Nat) (expected : String)

/-- The reason in words. -/
def Misfit.message : Misfit → String
  | missing field => "missing field `" ++ field ++ "`"
  | unknownField field known => "unknown field `" ++ field ++ "`, " ++ expectedText known
  | unknownName name known => "unknown variant `" ++ name ++ "`, " ++ expectedText known
  | wrongType found expected => "invalid type: " ++ found.describe ++ ", expected " ++ expected
  | outOfRange found expected =>
    "invalid value: integer `" ++ toString found ++ "`, expected " ++ expected
  | notSingle => "invalid value: map, expected map with a single key"
  | tooShort size expected | tooLong size expected =>
    "invalid length " ++ toString size ++ ", expected " ++ expected

end MarketBridge
