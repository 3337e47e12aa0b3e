import RichText.Document.Source
import RichText.Schema.Basic

/-!
# Resolving documents

Resolving looks up the types of a document in a schema: nodes and marks of unknown types and texts
without text are errors, and the flags of every node come from its type.  The marks of a node are
looked up first, then its content from left to right, then the node itself; what stands below a
text is not looked at.
-/

namespace RichText

open Json (ReadError)

/-- Why a document does not belong to a schema. -/
inductive SchemaError where
  | unknownNodeType (name : String)
  | unknownMarkType (name : String)
  | missingText
  /-- The document cannot be read at all. -/
  | unreadable (error : ReadError)
deriving DecidableEq

/-- The wording of an error. -/
def SchemaError.message : SchemaError → String
  | unknownNodeType name => "unknown node type `" ++ name ++ "`"
  | unknownMarkType name => "unknown mark type `" ++ name ++ "`"
  | missingText => "text node without text"
  | unreadable error => "invalid document JSON: " ++ error.message

namespace Schema

/-- The type of nodes of a name. -/
def nodeType (schema : Schema) (name : String) : Except SchemaError NodeType :=
  match schema.nodes.find? name with
  | some type => .ok type
  | none => .error (.unknownNodeType name)

/-- The type of marks of a name. -/
def markType (schema : Schema) (name : String) : Except SchemaError MarkType :=
  match schema.marks.find? name with
  | some type => .ok type
  | none => .error (.unknownMarkType name)

/-- A node of a declared type, with the flags of the type. -/
def node (schema : Schema) (typeName : String) (attributes : Attributes) (content : List Node)
    (marks : List Mark) : Except SchemaError Node := do
  let type ← schema.nodeType typeName
  return ⟨type.name, type.isInline, type.isLeaf, attributes, marks, none, content⟩

/-- A text, if the schema declares texts. -/
def text (schema : Schema) (text : String) (marks : List Mark) : Except SchemaError Node := do
  let node ← schema.node Node.textType Table.empty [] marks
  return { node with text := some text }

/-- A mark of a declared type without attributes. -/
def mark (schema : Schema) (typeName : String) : Except SchemaError Mark := do
  let type ← schema.markType typeName
  return Mark.ofType type.name

/-- The mark that a written mark stands for. -/
def resolveMark (schema : Schema) (source : SourceMark) : Except SchemaError Mark := do
  let mark ← schema.mark source.typeName
  return { mark with attributes := source.attributes }

mutual

/-- The node that a written node stands for. -/
def resolve (schema : Schema) : SourceNode → Except SchemaError Node
  | { typeName, attributes, content, marks, text } => do
    let marks ← marks.mapM schema.resolveMark
    if typeName = Node.textType then
      match text with
      | some text => schema.text text marks
      | none => .error .missingText
    else
      let content ← resolveAll schema content
      schema.node typeName attributes content marks
termination_by structural source => source

/-- The nodes that the written nodes of a list stand for. -/
def resolveAll (schema : Schema) : List SourceNode → Except SchemaError (List Node)
  | [] => .ok []
  | source :: rest => do
    let node ← resolve schema source
    let nodes ← resolveAll schema rest
    return node :: nodes
termination_by structural sources => sources

end

/-- The document of what was read. -/
def document (schema : Schema) (source : Except ReadError SourceNode) :
    Except SchemaError Node :=
  match source with
  | .ok source => schema.resolve source
  | .error error => .error (.unreadable error)

/-- The document of a JSON value. -/
def documentOfJson (schema : Schema) (value : Json) : Except SchemaError Node :=
  schema.document (SourceNode.ofJson value)

/-- The document of a JSON text. -/
def documentOfText (schema : Schema) (text : String) : Except SchemaError Node :=
  schema.document (SourceNode.ofText text)

end Schema

end RichText
