import RichText.Binary64.Shortest
import RichText.Json.Basic
import RichText.Json.Quotation

/-!
# Writing JSON values

`Json.compact` writes a value without blanks, its fields in their order.
-/

namespace RichText.Json

/-- The text of a number. -/
def Number.text : Number → String
  | .integer n => toString n
  | .double x => x.text

mutual

/-- The text of a value without blanks. -/
def compact : Json → String
  | .null => "null"
  | .bool true => "true"
  | .bool false => "false"
  | .number n => n.text
  | .string s => quote s
  | .array [] => "[]"
  | .array (item :: rest) => "[" ++ compact item ++ compactItems rest ++ "]"
  | .object [] => "\x7b\x7d"
  | .object ((name, value) :: rest) =>
    "\x7b" ++ quote name ++ ":" ++ compact value ++ compactFields rest ++ "\x7d"

/-- The texts of further items, a comma before each. -/
def compactItems : List Json → String
  | [] => ""
  | item :: rest => "," ++ compact item ++ compactItems rest

/-- The texts of further fields, a comma before each. -/
def compactFields : List (String × Json) → String
  | [] => ""
  | (name, value) :: rest =>
    "," ++ quote name ++ ":" ++ compact value ++ compactFields rest

end

end RichText.Json
