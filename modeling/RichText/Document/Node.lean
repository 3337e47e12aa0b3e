import RichText.Json.Basic

/-!
# Documents

A document is a tree of nodes.  A `Node` has the name of its type, flags, attributes, marks, and
either a text or further nodes as its content.  A fragment is a list of nodes.
-/

namespace RichText

/-- The attributes of a node or a mark, and the values handed to every factory. -/
abbrev Attributes := Table Json

/-- The string under a name. -/
def Attributes.string? (attributes : Attributes) (name : String) : Option String :=
  (attributes.find? name).bind Json.string?

/-- An annotation of a node. -/
structure Mark where
  typeName : String
  attributes : Attributes
deriving DecidableEq, Inhabited

/-- A mark without attributes. -/
def Mark.ofType (typeName : String) : Mark := ⟨typeName, Table.empty⟩

/-- A node of a document. -/
structure Node where
  typeName : String
  isInline : Bool
  isLeaf : Bool
  attributes : Attributes
  marks : List Mark
  text : Option String
  content : List Node
deriving Inhabited

namespace Node

/-- The name of the type of texts. -/
def textType : String := "text"

/-- A block with the given content. -/
def block (typeName : String) (content : List Node) : Node :=
  ⟨typeName, false, false, Table.empty, [], none, content⟩

/-- A block that cannot hold content. -/
def leaf (typeName : String) : Node :=
  { block typeName [] with isLeaf := true }

/-- A node that holds a text. -/
def ofText (text : String) : Node :=
  { leaf textType with isInline := true, text := some text }

mutual

/-- The text of a node; without a text of its own, the texts of its content. -/
def textContent : Node → String
  | { text := some text, .. } => text
  | { text := none, content, .. } => textContentAll content
termination_by structural node => node

/-- The texts of a fragment, joined. -/
def textContentAll : List Node → String
  | [] => ""
  | node :: rest => textContent node ++ textContentAll rest

end

end Node

end RichText
