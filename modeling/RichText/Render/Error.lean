/-!
# What stops a render

A `RenderError` is a fault of a schema, not of a document; none is recovered from.
-/

namespace RichText

/-- The kind of a type: of nodes or of marks. -/
inductive TypeKind where
  | node
  | mark
deriving DecidableEq, Repr

/-- The word for a kind of types. -/
def TypeKind.word : TypeKind → String
  | node => "node"
  | mark => "mark"

/-- Why nothing is rendered. -/
inductive RenderError where
  /-- A spec is, or holds, a node of a foreign tree. -/
  | unsupportedSpec
  /-- A spec has a second hole. -/
  | duplicateHole
  /-- A hole has siblings. -/
  | holeNotSoleChild
  /-- No factory makes elements of this type. -/
  | unknownType (kind : TypeKind) (name : String)
deriving DecidableEq, Repr

/-- The wording of an error. -/
def RenderError.message : RenderError → String
  | unsupportedSpec =>
    "renderer cannot accept a pre-built native node; schema must emit a declarative spec"
  | duplicateHole => "only one content hole allowed in an output spec"
  | holeNotSoleChild => "content hole must be the only child of its parent"
  | unknownType kind name => "no " ++ kind.word ++ " factory registered for type `" ++ name ++ "`"

end RichText
