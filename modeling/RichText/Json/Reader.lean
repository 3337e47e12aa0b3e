import RichText.Json.Outline

/-!
# Reading JSON texts

`Outline.read` gives the value of an outline in the order of its text, or the first fault that a
reader of values meets.  `Outline.skip` passes over a value that nobody wants: it minds only the
faults of structure, and neither numbers out of range, nor unpaired surrogates, nor the depth.
`Json.parse` is the canonical value of a whole text with at most 127 open brackets.
-/

namespace RichText.Json

namespace Close

/-- What a reader of an array meets behind its last item. -/
def arrayFault? : Close → Option Fault
  | closed => none
  | cutOff => some .endInArray
  | cutOffAtComma => some .endInValue
  | comma => some .trailingComma
  | separatorExpected => some .commaOrBracketExpected
  | keyExpected | broken => some .valueExpected

/-- What a reader of an object meets behind its last field. -/
def objectFault? : Close → Option Fault
  | closed => none
  | cutOff => some .endInObject
  | cutOffAtComma => some .endInValue
  | comma => some .trailingComma
  | separatorExpected => some .commaOrBraceExpected
  | keyExpected | broken => some .keyExpected

/-- What skipping an array meets behind its last item: a bracket behind a comma stands where
a value is due. -/
def skippedArrayFault? : Close → Option Fault
  | comma => some .valueExpected
  | close => close.arrayFault?

/-- What skipping an object meets behind its last field: behind a comma a name is due. -/
def skippedObjectFault? : Close → Option Fault
  | comma => some .keyExpected
  | cutOffAtComma => some .endInObject
  | close => close.objectFault?

end Close

/-- The value `x`, unless there is a fault. -/
def unlessFault {α : Type} (fault : Option Fault) (x : α) : Except Fault α :=
  match fault with
  | some fault => .error fault
  | none => .ok x

/-- The value of a word. -/
def wordValue : Option Bool → Json
  | some b => .bool b
  | none => .null

/-- The fault of a missing colon. -/
def colonFault (atEnd : Bool) : Fault :=
  if atEnd then .endInObject else .colonExpected

namespace Outline

/-! ### Skipping -/

mutual

/-- Passes over a value. -/
def skip : Outline → Except Fault Unit
  | missing => .error .endInValue
  | stray => .error .valueExpected
  | noColon atEnd => .error (colonFault atEnd)
  | word _ fault => unlessFault fault ()
  | numeral (.ok _) => .ok ()
  | numeral (.error _) => .error .invalidNumber
  | quotation q => unlessFault q.fault? ()
  | array items close => do
    skipItems items
    unlessFault close.skippedArrayFault? ()
  | object fields close => do
    skipFields fields
    unlessFault close.skippedObjectFault? ()

/-- Passes over the items of an array. -/
def skipItems : List Outline → Except Fault Unit
  | [] => .ok ()
  | item :: rest => do
    skip item
    skipItems rest

/-- Passes over the fields of an object. -/
def skipFields : List (Quotation × Outline) → Except Fault Unit
  | [] => .ok ()
  | (key, value) :: rest => do
    unlessFault key.fault? ()
    skip value
    skipFields rest

end

/-! ### Reading -/

mutual

/-- The value of an outline, with its fields in the order of the text, if no more than `depth`
brackets are open at once. -/
def read (depth : Nat) : Outline → Except Fault Json
  | missing => .error .endInValue
  | stray => .error .valueExpected
  | noColon atEnd => .error (colonFault atEnd)
  | word value fault => unlessFault fault (wordValue value)
  | numeral (.ok n) => n.value.map .number
  | numeral (.error fault) => .error fault
  | quotation q => q.text.map .string
  | array items close =>
    match depth with
    | 0 => .error .tooDeep
    | depth + 1 => do
      let items ← readItems depth items
      unlessFault close.arrayFault? (.array items)
  | object fields close =>
    match depth with
    | 0 => .error .tooDeep
    | depth + 1 => do
      let fields ← readFields depth fields
      unlessFault close.objectFault? (.object fields)

/-- The values of the items of an array. -/
def readItems (depth : Nat) : List Outline → Except Fault (List Json)
  | [] => .ok []
  | item :: rest => do
    let value ← read depth item
    let values ← readItems depth rest
    return value :: values

/-- The names and values of the fields of an object. -/
def readFields (depth : Nat) :
    List (Quotation × Outline) → Except Fault (List (String × Json))
  | [] => .ok []
  | (key, value) :: rest => do
    let name ← key.text
    let value ← read depth value
    let fields ← readFields depth rest
    return (name, value) :: fields

end

end Outline

/-! ### Whole texts -/

/-- The number of brackets that may be open at once. -/
def depthLimit : Nat := 127

/-- The value of a text in the order of the text, if no more than `depth` brackets are open at
once. -/
def readWithin (depth : Nat) (text : String) : Except Fault Json := do
  let (outline, trailing) := Outline.ofText text
  let value ← outline.read depth
  unlessFault (if trailing then some .trailingText else none) value

/-- The canonical value of a text, if no more than `depth` brackets are open at once. -/
def parseWithin (depth : Nat) (text : String) : Except Fault Json :=
  (readWithin depth text).map canonical

/-- The canonical value of a text. -/
def parse (text : String) : Except Fault Json := parseWithin depthLimit text

end RichText.Json
