/-!
# What can be wrong with JSON

A `Json.Fault` says why a text is no JSON text, a `Json.Mismatch` why a value is not of the
shape that a document has.  Each belongs to a `Category` and has one `message`.
-/

namespace RichText.Json

/-- The kind of a reading error: the text is malformed, its values do not fit, or it ends too
early. -/
inductive Category where
  | malformed
  | unfit
  | cutOff
deriving DecidableEq, Repr

/-- Why a text is no JSON text. -/
inductive Fault where
  | endInValue
  | endInArray
  | endInObject
  | endInString
  | valueExpected
  | wordExpected
  | colonExpected
  | commaOrBracketExpected
  | commaOrBraceExpected
  | keyExpected
  | trailingComma
  | trailingText
  | invalidNumber
  | numberOutOfRange
  | invalidEscape
  | loneSurrogate
  | unfinishedSurrogatePair
  | controlCharacter
  | tooDeep
deriving DecidableEq, Repr

namespace Fault

/-- A text that ends inside a value is cut off; every other fault is one of form. -/
def category : Fault → Category
  | endInValue | endInArray | endInObject | endInString => .cutOff
  | _ => .malformed

/-- The wording of a fault. -/
def message : Fault → String
  | endInValue => "EOF while parsing a value"
  | endInArray => "EOF while parsing a list"
  | endInObject => "EOF while parsing an object"
  | endInString => "EOF while parsing a string"
  | valueExpected => "expected value"
  | wordExpected => "expected ident"
  | colonExpected => "expected `:`"
  | commaOrBracketExpected => "expected `,` or `]`"
  | commaOrBraceExpected => "expected `,` or `\x7d`"
  | keyExpected => "key must be a string"
  | trailingComma => "trailing comma"
  | trailingText => "trailing characters"
  | invalidNumber => "invalid number"
  | numberOutOfRange => "number out of range"
  | invalidEscape => "invalid escape"
  | loneSurrogate => "lone leading surrogate in hex escape"
  | unfinishedSurrogatePair => "unexpected end of hex escape"
  | controlCharacter => "control character (\\u0000-\\u001F) found while parsing a string"
  | tooDeep => "recursion limit exceeded"

end Fault

end RichText.Json
