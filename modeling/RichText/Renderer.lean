import RichText.Html
import RichText.Render.Factory

/-!
# Renderers

A `Renderer` holds the factories of a schema.  It renders a fragment node by node: first the
content of a node, from left to right, then the node itself, then its marks, the first one
innermost.  The first error ends the render, and nothing runs after it.
-/

namespace RichText

/-- The factories of the types of a schema, and a name to show. -/
structure Renderer where
  displayName : String
  nodes : Table NodeFactory
  marks : Table MarkFactory

namespace Renderer

/-- The name of a renderer that was given none. -/
def defaultDisplayName : String := "ProseRenderer"

/-- The renderer of a schema. -/
def ofSchema (schema : Schema) (displayName : Option String) (options : RendererOptions) :
    Renderer where
  displayName := displayName.getD defaultDisplayName
  nodes := NodeFactory.table options schema.nodes
  marks := MarkFactory.table options schema.marks

/-- The factory of the nodes of a type. -/
def nodeFactory (renderer : Renderer) (typeName : String) : Render NodeFactory :=
  match renderer.nodes.find? typeName with
  | some factory => .done factory
  | none => .fail (.unknownType .node typeName)

/-- The factory of the marks of a type. -/
def markFactory (renderer : Renderer) (typeName : String) : Render MarkFactory :=
  match renderer.marks.find? typeName with
  | some factory => .done factory
  | none => .fail (.unknownType .mark typeName)

variable (renderer : Renderer) (passthrough : Attributes)

/-- Wraps an element in marks, the first one innermost. -/
def renderMarks (isInline : Bool) : List Mark → Element → Render Element
  | [], element => .done element
  | mark :: rest, element => do
    let factory ← renderer.markFactory mark.typeName
    let wrapped ← factory mark isInline element passthrough
    renderMarks isInline rest wrapped

mutual

/-- The element of a node. -/
def renderNode : Node → Render Element
  | node@{ typeName, isInline, marks, content, .. } => do
    let children ← renderAll content
    let factory ← renderer.nodeFactory typeName
    let element ← factory node (.fragment children) passthrough
    renderer.renderMarks passthrough isInline marks element
termination_by structural node => node

/-- The elements of the nodes of a fragment. -/
def renderAll : List Node → Render (List Element)
  | [] => .done []
  | node :: rest => do
    let element ← renderNode node
    let elements ← renderAll rest
    return element :: elements
termination_by structural nodes => nodes

end

/-- The HTML of a fragment. -/
def renderHtml (fragment : List Node) : Render String := do
  let elements ← renderer.renderAll passthrough fragment
  return Element.htmlAll elements

end Renderer

end RichText
