import RichText.OutputSpec.Basic
import RichText.Json.Printer
import RichText.Json.Reader

/-!
# The array form of output specs

In JSON a spec is a string, a native node, or an array of a tag, perhaps an object of attributes,
and children, where the number zero stands for the hole.  `OutputSpec.ofJson` reads this form
from left to right and stops at the first fault, `OutputSpec.toJson` writes it.  An attribute
whose value is `null` counts as absent, so it is not written again.
-/

namespace RichText

/-- Why a value is not the array form of a spec. -/
inductive SpecError where
  | emptySpec
  | invalidTag (value : Json)
  | invalidAttribute (name : String) (value : Json)
  | invalidSpec (value : Json)
  /-- The text is no JSON text. -/
  | text (fault : Json.Fault)
deriving DecidableEq

/-- The wording of a fault of a spec. -/
def SpecError.message : SpecError → String
  | emptySpec => "output spec array must not be empty"
  | invalidTag value => "output spec tag must be a string, got " ++ value.compact
  | invalidAttribute name value =>
    "attribute `" ++ name ++ "` must have a string value, got " ++ value.compact
  | invalidSpec value => "invalid output spec value: " ++ value.compact
  | text fault => fault.message

namespace OutputSpec

/-! ### Kinds of values -/

/-- Whether an object is a native node. -/
def isNative (fields : List (String × Json)) : Bool :=
  match Entries.find? nativeMarker fields with
  | some value => !value.isNull
  | none => false

/-- Whether a value is an object of attributes where one may stand. -/
def isAttributesObject : Json → Bool
  | .object fields => !isNative fields
  | _ => false

/-- Whether a value stands for the hole. -/
def isHole : Json → Bool
  | .number (.integer n) => n == 0
  | _ => false

/-- The type that a native node claims; a type that is no 16-bit word counts as zero. -/
def nativeType (fields : List (String × Json)) : UInt16 :=
  match Entries.find? nativeMarker fields with
  | some (.number (.integer n)) => if 0 ≤ n ∧ n < 65536 then n.toNat.toUInt16 else 0
  | _ => 0

/-! ### Reading -/

/-- The attributes of an object, without those that are `null`. -/
def attributesOf : List (String × Json) → Except SpecError (List (String × String))
  | [] => .ok []
  | (_, .null) :: rest => attributesOf rest
  | (name, .string s) :: rest => do
    let entries ← attributesOf rest
    return (name, s) :: entries
  | (name, value) :: _ => .error (.invalidAttribute name value)

mutual

/-- The spec of a value. -/
def ofJson : Json → Except SpecError OutputSpec
  | .string s => .ok (.text s)
  | .object fields =>
    if isNative fields then .ok (.native (nativeType fields) (.object fields))
    else .error (.invalidSpec (.object fields))
  | .array [] => .error .emptySpec
  | .array (.string tag :: .object fields :: rest) =>
    if isNative fields then do
      let children ← childrenOf rest
      return .element tag none (.spec (.native (nativeType fields) (.object fields)) :: children)
    else do
      let attributes ← attributesOf fields
      let children ← childrenOf rest
      return .element tag (some (Table.ofList attributes)) children
  | .array (.string tag :: rest) => do
    let children ← childrenOf rest
    return .element tag none children
  | .array (value :: _) => .error (.invalidTag value)
  | value => .error (.invalidSpec value)
termination_by structural value => value

/-- The children that the values of a list stand for. -/
def childrenOf : List Json → Except SpecError (List SpecChild)
  | [] => .ok []
  | value :: rest =>
    if isHole value then do
      let children ← childrenOf rest
      return .hole :: children
    else do
      let nested ← ofJson value
      let children ← childrenOf rest
      return .spec nested :: children
termination_by structural values => values

end

/-- The spec of a JSON text. -/
def parse (text : String) : Except SpecError OutputSpec :=
  match Json.parse text with
  | .ok value => ofJson value
  | .error fault => .error (.text fault)

/-! ### Writing -/

mutual

/-- The array form of a spec. -/
def toJson : OutputSpec → Json
  | .text s => .string s
  | .native _ raw => raw
  | .element tag none children => .array (.string tag :: childrenToJson children)
  | .element tag (some attributes) children =>
    .array (.string tag
      :: .object (attributes.entries.map fun entry => (entry.1, .string entry.2))
      :: childrenToJson children)

/-- The values of the children of a spec. -/
def childrenToJson : List SpecChild → List Json
  | [] => []
  | .hole :: rest => .ofInt 0 :: childrenToJson rest
  | .spec s :: rest => toJson s :: childrenToJson rest

end

end OutputSpec

end RichText
