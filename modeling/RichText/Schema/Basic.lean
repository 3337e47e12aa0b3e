import RichText.Document.Node
import RichText.Element
import RichText.OutputSpec.Basic
import RichText.Render.Outcome

/-!
# Schemas

A `Schema` declares types of nodes and of marks by name.  A type says how its nodes or marks are
rendered: by a factory that makes the element, or by a function that gives a spec, or not at all.
A type that is declared again replaces the earlier one.
-/

namespace RichText

/-- Makes the element of a node from the element of its content and the values handed through. -/
abbrev NodeFactory := Node → Element → Attributes → Render Element

/-- Makes the element of a mark from the element that it wraps; the flag says whether the marked
node is inline. -/
abbrev MarkFactory := Mark → Bool → Element → Attributes → Render Element

/-- Gives the spec of a node. -/
abbrev NodeSpecFunction := Node → Noted OutputSpec

/-- Gives the spec of a mark; the flag says whether the marked node is inline. -/
abbrev MarkSpecFunction := Mark → Bool → Noted OutputSpec

/-- How the nodes of a type are described and rendered. -/
structure NodeSpec where
  /-- What the nodes may contain; without it, or if it is empty, they are leaves. -/
  content : Option String
  isInline : Bool
  /-- A factory of its own, which counts before the spec. -/
  factory : Option NodeFactory
  outputSpec : Option NodeSpecFunction

namespace NodeSpec

/-- A block leaf that is not rendered. -/
def plain : NodeSpec := ⟨none, false, none, none⟩

/-- A block with the given content that is rendered by its spec. -/
def block (content : String) (spec : NodeSpecFunction) : NodeSpec :=
  ⟨some content, false, none, some spec⟩

/-- An inline leaf that is rendered by its spec. -/
def inlineLeaf (spec : NodeSpecFunction) : NodeSpec := ⟨none, true, none, some spec⟩

/-- Whether the nodes hold no content. -/
def isLeaf (spec : NodeSpec) : Bool := (spec.content.getD "").isEmpty

end NodeSpec

/-- How the marks of a type are rendered. -/
structure MarkSpec where
  /-- A factory of its own, which counts before the spec. -/
  factory : Option MarkFactory
  outputSpec : Option MarkSpecFunction

/-- A type of nodes. -/
structure NodeType where
  name : String
  spec : NodeSpec

namespace NodeType

/-- Whether nodes of the type stand in a line; texts always do. -/
def isInline (type : NodeType) : Bool := type.name == Node.textType || type.spec.isInline

/-- Whether nodes of the type hold no content. -/
def isLeaf (type : NodeType) : Bool := type.spec.isLeaf

end NodeType

/-- A type of marks. -/
structure MarkType where
  name : String
  spec : MarkSpec

/-- The declared types by name. -/
structure Schema where
  nodes : Table NodeType
  marks : Table MarkType

namespace Schema

/-- The schema without types. -/
def empty : Schema := ⟨Table.empty, Table.empty⟩

/-- The schema with a type of nodes, in place of an earlier one of that name. -/
def declareNode (schema : Schema) (name : String) (spec : NodeSpec) : Schema :=
  { schema with nodes := schema.nodes.insert name ⟨name, spec⟩ }

/-- The schema with a type of marks, in place of an earlier one of that name. -/
def declareMark (schema : Schema) (name : String) (spec : MarkSpec) : Schema :=
  { schema with marks := schema.marks.insert name ⟨name, spec⟩ }

end Schema

end RichText
