import RichText.Json.Printer
import RichText.Json.Fault
import RichText.Text.Quoted

/-!
# Values of the wrong shape

A `Mismatch` says why a JSON value is not of the shape that a document has.  A `ReadError` is
either a mismatch or a fault of the text, whichever a reader meets first.
-/

namespace RichText.Json

/-- A value that was found where another was expected. -/
inductive Found where
  | null
  | bool (b : Bool)
  | number (n : Number)
  | string (s : String)
  | sequence
  | map
deriving DecidableEq

/-- What a value was expected to be. -/
inductive Expected where
  | string
  | sequence
  | map
  | node
  | mark
deriving DecidableEq

/-- Why a value does not fit. -/
inductive Mismatch where
  | invalidType (found : Found) (expected : Expected)
  | missingField (name : String)
  | duplicateField (name : String)
  /-- A list of `length` values, with no value for a field that has no default. -/
  | tooShort (length : Nat) (expected : Expected) (fields : Nat)
  /-- A list of `length` values, more than there are fields. -/
  | tooLong (length : Nat)
deriving DecidableEq

/-- Why reading failed: a fault of the text, or a value that does not fit. -/
inductive ReadError where
  | fault (fault : Fault)
  | mismatch (mismatch : Mismatch)
deriving DecidableEq

/-- The shape of a value. -/
def found : Json → Found
  | .null => .null
  | .bool b => .bool b
  | .number n => .number n
  | .string s => .string s
  | .array _ => .sequence
  | .object _ => .map

/-- The wording of what was found. -/
def Found.text : Found → String
  | null => "null"
  | bool true => "boolean `true`"
  | bool false => "boolean `false`"
  | number (.integer n) => "integer `" ++ toString n ++ "`"
  | number (.double x) => "floating point `" ++ x.text ++ "`"
  | string s => "string " ++ Text.quoted s
  | sequence => "sequence"
  | map => "map"

/-- The wording of what was expected. -/
def Expected.text : Expected → String
  | string => "a string"
  | sequence => "a sequence"
  | map => "a map"
  | node => "struct NodeJson"
  | mark => "struct MarkJson"

/-- The wording of a mismatch. -/
def Mismatch.message : Mismatch → String
  | invalidType found expected => "invalid type: " ++ found.text ++ ", expected " ++ expected.text
  | missingField name => "missing field `" ++ name ++ "`"
  | duplicateField name => "duplicate field `" ++ name ++ "`"
  | tooShort length expected fields =>
    "invalid length " ++ toString length ++ ", expected " ++ expected.text ++ " with "
      ++ toString fields ++ " elements"
  | tooLong length =>
    "invalid length " ++ toString length ++ ", expected fewer elements in array"

namespace ReadError

/-- The category of a reading error. -/
def category : ReadError → Category
  | fault f => f.category
  | mismatch _ => .unfit

/-- The wording of a reading error. -/
def message : ReadError → String
  | fault f => f.message
  | mismatch m => m.message

end ReadError

end RichText.Json
