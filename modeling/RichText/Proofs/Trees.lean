import RichText.Document.Source
import RichText.Render.Error

/-!
# The nodes of a tree

`Node.nodes` lists a node and all nodes below it, `Node.nodesOf` those of a fragment, so that what
holds everywhere in a document is said of the members of a list.  `SourceNode.reached` lists the
nodes of a written document that are looked up: those that do not stand below a text.  The types
that a document uses are those of its nodes and of their marks.
-/

namespace RichText

namespace Node

mutual

/-- The node and the nodes below it. -/
def nodes : Node → List Node
  | node@{ content, .. } => node :: nodesOf content
termination_by structural node => node

/-- The nodes of a fragment and the nodes below them. -/
def nodesOf : List Node → List Node
  | [] => []
  | node :: rest => nodes node ++ nodesOf rest
termination_by structural nodes => nodes

end

theorem nodes_eq (node : Node) :
  node.nodes = node :: nodesOf node.content
  := by
  cases node
  rfl

/-- The types of a node and of its marks. -/
def types (node : Node) : List (TypeKind × String) :=
  (.node, node.typeName) :: node.marks.map fun mark => (.mark, mark.typeName)

/-- The types that a fragment uses, at any depth. -/
def usedTypes (fragment : List Node) : List (TypeKind × String) := (nodesOf fragment).flatMap types

end Node

namespace SourceNode

mutual

/-- The node and the nodes below it, without those below a text. -/
def reached : SourceNode → List SourceNode
  | source@{ typeName, content, .. } =>
    source :: if typeName = Node.textType then [] else reachedOf content
termination_by structural source => source

/-- The nodes of a list and the nodes below them, without those below a text. -/
def reachedOf : List SourceNode → List SourceNode
  | [] => []
  | source :: rest => reached source ++ reachedOf rest
termination_by structural sources => sources

end

/-- The types of a written node and of its marks. -/
def types (source : SourceNode) : List (TypeKind × String) :=
  (.node, source.typeName) :: source.marks.map fun mark => (.mark, mark.typeName)

/-- The types of the nodes that are reached, and of their marks. -/
def usedTypes (source : SourceNode) : List (TypeKind × String) := source.reached.flatMap types

/-- The types of the nodes of a list that are reached, and of their marks. -/
def usedTypesOf (sources : List SourceNode) : List (TypeKind × String) :=
  (reachedOf sources).flatMap types

theorem usedTypes_eq (source : SourceNode) :
  source.usedTypes
    = source.types
      ++ if source.typeName = Node.textType then [] else usedTypesOf source.content
  := by
  obtain ⟨typeName, attributes, content, marks, text⟩ := source
  rw [usedTypes, reached, List.flatMap_cons]
  split
  · rfl
  · rfl

theorem usedTypesOf_cons (source : SourceNode) (rest : List SourceNode) :
  usedTypesOf (source :: rest) = source.usedTypes ++ usedTypesOf rest
  := by
  rw [usedTypesOf, reachedOf, List.flatMap_append]
  rfl

end SourceNode

end RichText
