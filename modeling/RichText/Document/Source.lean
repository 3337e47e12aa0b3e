import RichText.Document.Node
import RichText.Json.Mismatch
import RichText.Json.Reader

/-!
# Documents as they are written

A `SourceNode` is a node of a JSON document before its types are looked up in a schema.  Nodes
and marks are written as objects, or as arrays of their fields in a fixed order.
`SourceNode.ofText` decodes a document while it reads the text, so that of all faults the first
in the text is reported; `SourceNode.ofJson` decodes a value.  Unknown fields are skipped.
-/

namespace RichText

open Json (Outline Quotation Close Fault Found Expected Mismatch ReadError)

/-- A mark as it is written. -/
structure SourceMark where
  typeName : String
  attributes : Attributes
deriving DecidableEq

/-- A node as it is written. -/
structure SourceNode where
  typeName : String
  attributes : Attributes
  content : List SourceNode
  marks : List SourceMark
  text : Option String

/-! ### Fields -/

/-- A field of a mark. -/
inductive MarkField where
  | typeName
  | attributes
deriving DecidableEq

namespace MarkField

/-- The fields in the order of the array form. -/
def all : List MarkField := [typeName, attributes]

/-- The name of a field. -/
def name : MarkField → String
  | typeName => "type"
  | attributes => "attrs"

/-- The field of a name. -/
def ofName? (name : String) : Option MarkField := all.find? (·.name == name)

end MarkField

/-- A field of a node. -/
inductive NodeField where
  | typeName
  | attributes
  | content
  | marks
  | text
deriving DecidableEq

namespace NodeField

/-- The fields in the order of the array form. -/
def all : List NodeField := [typeName, attributes, content, marks, text]

/-- The name of a field. -/
def name : NodeField → String
  | typeName => "type"
  | attributes => "attrs"
  | content => "content"
  | marks => "marks"
  | text => "text"

/-- The field of a name. -/
def ofName? (name : String) : Option NodeField := all.find? (·.name == name)

end NodeField

/-- The fields of a mark that have been read. -/
structure MarkDraft where
  typeName : Option String
  attributes : Option Attributes

namespace MarkDraft

/-- Nothing has been read. -/
def empty : MarkDraft := ⟨none, none⟩

/-- Whether a field has been read. -/
def has (draft : MarkDraft) : MarkField → Bool
  | .typeName => draft.typeName.isSome
  | .attributes => draft.attributes.isSome

/-- The mark, if the type has been read; without one `missing` is the error. -/
def finish (draft : MarkDraft) (missing : Mismatch) : Except ReadError SourceMark :=
  match draft.typeName with
  | some typeName => .ok ⟨typeName, draft.attributes.getD Table.empty⟩
  | none => .error (.mismatch missing)

/-- The mark of the fields of an object. -/
def finishObject (draft : MarkDraft) : Except ReadError SourceMark :=
  draft.finish (.missingField MarkField.typeName.name)

/-- The mark of the items of an array. -/
def finishArray (draft : MarkDraft) : Except ReadError SourceMark :=
  draft.finish (.tooShort 0 .mark MarkField.all.length)

end MarkDraft

/-- The fields of a node that have been read. -/
structure NodeDraft where
  typeName : Option String
  attributes : Option Attributes
  content : Option (List SourceNode)
  marks : Option (List SourceMark)
  text : Option (Option String)

namespace NodeDraft

/-- Nothing has been read. -/
def empty : NodeDraft := ⟨none, none, none, none, none⟩

/-- Whether a field has been read. -/
def has (draft : NodeDraft) : NodeField → Bool
  | .typeName => draft.typeName.isSome
  | .attributes => draft.attributes.isSome
  | .content => draft.content.isSome
  | .marks => draft.marks.isSome
  | .text => draft.text.isSome

/-- The node of the given type and the fields that have been read. -/
def node (draft : NodeDraft) (typeName : String) (text : Option String) : SourceNode where
  typeName := typeName
  attributes := draft.attributes.getD Table.empty
  content := draft.content.getD []
  marks := draft.marks.getD []
  text := text

/-- The node of the fields of an object, which must have a type. -/
def finishObject (draft : NodeDraft) : Except ReadError SourceNode :=
  match draft.typeName with
  | some typeName => .ok (draft.node typeName (draft.text.getD none))
  | none => .error (.mismatch (.missingField NodeField.typeName.name))

/-- The node of the items of an array, which must have a type and, as the last one, a text. -/
def finishArray (draft : NodeDraft) : Except ReadError SourceNode :=
  match draft.typeName, draft.text with
  | none, _ => .error (.mismatch (.tooShort 0 .node NodeField.all.length))
  | some _, none => .error (.mismatch (.tooShort 4 .node NodeField.all.length))
  | some typeName, some text => .ok (draft.node typeName text)

end NodeDraft

/-! ### Decoding values -/

/-- The error of a value where another is expected. -/
def unfit {α : Type} (value : Json) (expected : Expected) : Except ReadError α :=
  .error (.mismatch (.invalidType value.found expected))

/-- A string. -/
def stringOf : Json → Except ReadError String
  | .string s => .ok s
  | value => unfit value .string

/-- A string, or nothing for `null`. -/
def textOf : Json → Except ReadError (Option String)
  | .null => .ok none
  | value => (stringOf value).map some

/-- The attributes of an object. -/
def attributesOf : Json → Except ReadError Attributes
  | .object fields => .ok (Table.ofList fields)
  | value => unfit value .map

/-- Passes over `count` values, which are all there should be. -/
def checkLength (values : List Json) (fields : Nat) : Except ReadError Unit :=
  if fields < values.length then .error (.mismatch (.tooLong values.length)) else .ok ()

namespace SourceMark

/-- The draft with the value of one more field. -/
def readField (draft : MarkDraft) (value : Json) : MarkField → Except ReadError MarkDraft
  | .typeName => do return { draft with typeName := some (← stringOf value) }
  | .attributes => do return { draft with attributes := some (← attributesOf value) }

/-- The draft with the fields of an object. -/
def readFields (draft : MarkDraft) : List (String × Json) → Except ReadError MarkDraft
  | [] => .ok draft
  | (name, value) :: rest =>
    match MarkField.ofName? name with
    | some field => do readFields (← readField draft value field) rest
    | none => readFields draft rest

/-- The draft with the items of an array, for the given fields. -/
def readItems (draft : MarkDraft) : List MarkField → List Json → Except ReadError MarkDraft
  | field :: fields, value :: rest => do readItems (← readField draft value field) fields rest
  | _, _ => .ok draft

/-- The mark of a value. -/
def ofJson : Json → Except ReadError SourceMark
  | .object fields => do (← readFields .empty fields).finishObject
  | .array items => do
    let mark ← (← readItems .empty MarkField.all items).finishArray
    checkLength items MarkField.all.length
    return mark
  | value => unfit value .mark

/-- The marks of a list of values. -/
def listOf : Json → Except ReadError (List SourceMark)
  | .array items => items.mapM ofJson
  | value => unfit value .sequence

end SourceMark

namespace SourceNode

mutual

/-- The node of a value. -/
def ofJson : Json → Except ReadError SourceNode
  | .object fields => do (← readFields .empty fields).finishObject
  | .array items => do
    let node ← (← readItems .empty NodeField.all items).finishArray
    checkLength items NodeField.all.length
    return node
  | value => unfit value .node
termination_by structural value => value

/-- The draft with the fields of an object. -/
def readFields (draft : NodeDraft) : List (String × Json) → Except ReadError NodeDraft
  | [] => .ok draft
  | (name, value) :: rest =>
    match NodeField.ofName? name with
    | some field => do readFields (← readField draft field value) rest
    | none => readFields draft rest
termination_by structural fields => fields

/-- The draft with the items of an array, for the given fields. -/
def readItems (draft : NodeDraft) (fields : List NodeField) :
    List Json → Except ReadError NodeDraft
  | [] => .ok draft
  | value :: rest =>
    match fields with
    | [] => .ok draft
    | field :: fields => do readItems (← readField draft field value) fields rest
termination_by structural values => values

/-- The draft with the value of one more field. -/
def readField (draft : NodeDraft) (field : NodeField) : Json → Except ReadError NodeDraft
  | .array items =>
    match field with
    | .typeName => unfit (.array items) .string
    | .attributes => unfit (.array items) .map
    | .content => do return { draft with content := some (← ofItems items) }
    | .marks => do return { draft with marks := some (← SourceMark.listOf (.array items)) }
    | .text => unfit (.array items) .string
  | value =>
    match field with
    | .typeName => do return { draft with typeName := some (← stringOf value) }
    | .attributes => do return { draft with attributes := some (← attributesOf value) }
    | .content => unfit value .sequence
    | .marks => unfit value .sequence
    | .text => do return { draft with text := some (← textOf value) }
termination_by structural value => value

/-- The nodes of a list of values. -/
def ofItems : List Json → Except ReadError (List SourceNode)
  | [] => .ok []
  | value :: rest => do
    let node ← ofJson value
    let nodes ← ofItems rest
    return node :: nodes
termination_by structural values => values

end

end SourceNode

/-! ### Decoding texts -/

/-- A fault of the text, as a reading error. -/
def faulty {α : Type} (result : Except Fault α) : Except ReadError α :=
  result.mapError .fault

/-- Goes on unless there is a fault of the text. -/
def passing (fault : Option Fault) : Except ReadError Unit :=
  faulty (Json.unlessFault fault ())

/-- The error of an outline where another value is expected: the fault of its own text, if it
is no bracket, and else its shape. -/
def unfitOutline {α : Type} (outline : Outline) (expected : Expected) : Except ReadError α :=
  match outline with
  | .array _ _ => .error (.mismatch (.invalidType .sequence expected))
  | .object _ _ => .error (.mismatch (.invalidType .map expected))
  | outline => do unfit (← faulty (outline.read 0)) expected

/-- A string. -/
def readString : Outline → Except ReadError String
  | .quotation q => faulty q.text
  | outline => unfitOutline outline .string

/-- A string, or nothing for `null`. -/
def readText : Outline → Except ReadError (Option String)
  | .word none fault => faulty (Json.unlessFault fault none)
  | outline => (readString outline).map some

/-- The attributes of an object. -/
def readAttributes (depth : Nat) : Outline → Except ReadError Attributes
  | .object fields close => do
    attributesOf (← faulty (Outline.read depth (.object fields close))).canonical
  | outline => unfitOutline outline .map

/-- What a reader of all fields of an array meets behind them. -/
def behindFields (rest : List Outline) (close : Close) : Option Fault :=
  match rest, close with
  | [], .closed => none
  | [], .cutOff => some .endInArray
  | [], .comma => some .trailingComma
  | _, _ => some .trailingText

/-- The depth behind one more bracket. -/
def descend (depth : Nat) : Except ReadError Nat :=
  match depth with
  | 0 => .error (.fault .tooDeep)
  | depth + 1 => .ok depth

namespace SourceMark

/-- The draft with the text of one more field. -/
def readOutlineField (depth : Nat) (draft : MarkDraft) (outline : Outline) :
    MarkField → Except ReadError MarkDraft
  | .typeName => do return { draft with typeName := some (← readString outline) }
  | .attributes => do return { draft with attributes := some (← readAttributes depth outline) }

/-- The draft with the fields of an object. -/
def readOutlineFields (depth : Nat) (draft : MarkDraft) :
    List (Quotation × Outline) → Except ReadError MarkDraft
  | [] => .ok draft
  | (key, outline) :: rest => do
    match MarkField.ofName? (← faulty key.text) with
    | some field =>
      if draft.has field then .error (.mismatch (.duplicateField field.name))
      else readOutlineFields depth (← readOutlineField depth draft outline field) rest
    | none =>
      faulty outline.skip
      readOutlineFields depth draft rest

/-- The mark of the items of an array, for the given fields. -/
def readOutlineItems (depth : Nat) (close : Close) (draft : MarkDraft) :
    List MarkField → List Outline → Except ReadError SourceMark
  | field :: fields, outline :: rest => do
    readOutlineItems depth close (← readOutlineField depth draft outline field) fields rest
  | _ :: _, [] => do
    passing close.arrayFault?
    draft.finishArray
  | [], rest => do
    let mark ← draft.finishArray
    passing (behindFields rest close)
    return mark

/-- The mark of an outline. -/
def ofOutline (depth : Nat) : Outline → Except ReadError SourceMark
  | .object fields close => do
    let depth ← descend depth
    let draft ← readOutlineFields depth .empty fields
    passing close.objectFault?
    draft.finishObject
  | .array items close => do
    let depth ← descend depth
    readOutlineItems depth close .empty MarkField.all items
  | outline => unfitOutline outline .mark

/-- The marks of an outline. -/
def listOfOutline (depth : Nat) : Outline → Except ReadError (List SourceMark)
  | .array items close => do
    let depth ← descend depth
    let marks ← items.mapM (ofOutline depth)
    passing close.arrayFault?
    return marks
  | outline => unfitOutline outline .sequence

end SourceMark

namespace SourceNode

mutual

/-- The node of an outline, if no more than `depth` brackets are open at once. -/
def ofOutline (depth : Nat) : Outline → Except ReadError SourceNode
  | .object fields close => do
    let depth ← descend depth
    let draft ← readOutlineFields depth .empty fields
    passing close.objectFault?
    draft.finishObject
  | .array items close => do
    let depth ← descend depth
    readOutlineItems depth close .empty NodeField.all items
  | outline => unfitOutline outline .node
termination_by structural outline => outline

/-- The draft with the fields of an object. -/
def readOutlineFields (depth : Nat) (draft : NodeDraft) :
    List (Quotation × Outline) → Except ReadError NodeDraft
  | [] => .ok draft
  | (key, outline) :: rest => do
    match NodeField.ofName? (← faulty key.text) with
    | some field =>
      if draft.has field then .error (.mismatch (.duplicateField field.name))
      else readOutlineFields depth (← readOutlineField depth draft field outline) rest
    | none =>
      faulty outline.skip
      readOutlineFields depth draft rest
termination_by structural fields => fields

/-- The node of the items of an array, for the given fields. -/
def readOutlineItems (depth : Nat) (close : Close) (draft : NodeDraft)
    (fields : List NodeField) : List Outline → Except ReadError SourceNode
  | [] =>
    match fields with
    | [] => do
      let node ← draft.finishArray
      passing (behindFields [] close)
      return node
    | _ :: _ => do
      passing close.arrayFault?
      draft.finishArray
  | outline :: rest =>
    match fields with
    | [] => do
      let node ← draft.finishArray
      passing (behindFields (outline :: rest) close)
      return node
    | field :: fields => do
      readOutlineItems depth close (← readOutlineField depth draft field outline) fields rest
termination_by structural items => items

/-- The draft with the text of one more field. -/
def readOutlineField (depth : Nat) (draft : NodeDraft) (field : NodeField) :
    Outline → Except ReadError NodeDraft
  | .array items close =>
    match field with
    | .typeName => unfitOutline (.array items close) .string
    | .attributes => unfitOutline (.array items close) .map
    | .content => do
      let depth ← descend depth
      let content ← ofOutlineItems depth items
      passing close.arrayFault?
      return { draft with content := some content }
    | .marks => do
      return { draft with marks := some (← SourceMark.listOfOutline depth (.array items close)) }
    | .text => unfitOutline (.array items close) .string
  | outline =>
    match field with
    | .typeName => do return { draft with typeName := some (← readString outline) }
    | .attributes => do return { draft with attributes := some (← readAttributes depth outline) }
    | .content => unfitOutline outline .sequence
    | .marks => unfitOutline outline .sequence
    | .text => do return { draft with text := some (← readText outline) }
termination_by structural outline => outline

/-- The nodes of the items of an array. -/
def ofOutlineItems (depth : Nat) : List Outline → Except ReadError (List SourceNode)
  | [] => .ok []
  | outline :: rest => do
    let node ← ofOutline depth outline
    let nodes ← ofOutlineItems depth rest
    return node :: nodes
termination_by structural items => items

end

/-- The node of a text. -/
def ofText (text : String) : Except ReadError SourceNode := do
  let (outline, trailing) := Outline.ofText text
  let node ← ofOutline Json.depthLimit outline
  passing (if trailing then some .trailingText else none)
  return node

end SourceNode

end RichText
