import RichText.OutputSpec.Interpret
import RichText.Schema.Basic

/-!
# Factories

A type that brings a factory is rendered by it.  For a type that gives a spec, a factory
interprets the spec of each node or mark and reports what is suspicious about it.  A type with
neither has no factory, except that texts are rendered as themselves.
-/

namespace RichText

namespace NodeFactory

/-- Renders a node as its text. -/
def literal : NodeFactory := fun node _ _ => .done (.text (node.text.getD ""))

/-- The diagnostics of a node that was rendered by a spec. -/
def diagnose (options : RendererOptions) (node : Node) (content : Element)
    (interpreted : Interpreted) : List Event :=
  options.reportIf (node.isLeaf && interpreted.holeConsumed)
      (.leafRenderedContent node.typeName)
    ++ options.reportIf (!node.isLeaf && !content.isEmpty && !interpreted.holeConsumed)
      (.contentNotRendered node.typeName)
    ++ options.reportIf interpreted.element.isEmpty (.noElementRendered .node node.typeName)

/-- Renders nodes by their specs. -/
def ofSpec (options : RendererOptions) (specOf : NodeSpecFunction) : NodeFactory :=
  fun node content _ => do
    let spec ← Render.ofNoted (specOf node)
    let interpreted ← Render.ofExcept (spec.interpret content false)
    Render.emit (diagnose options node content interpreted)
    return interpreted.element

/-- The factory of a type of nodes, if it is rendered at all. -/
def ofType? (options : RendererOptions) (type : NodeType) : Option NodeFactory :=
  match type.spec.factory, type.spec.outputSpec with
  | some factory, _ => some factory
  | none, some specOf => some (ofSpec options specOf)
  | none, none => none

/-- The factories of the types of nodes; texts have one in any case. -/
def table (options : RendererOptions) (types : Table NodeType) : Table NodeFactory :=
  let factories := types.filterMap fun _ type => ofType? options type
  if factories.contains Node.textType then factories else factories.insert Node.textType literal

end NodeFactory

namespace MarkFactory

/-- The diagnostics of the spec of a mark. -/
def diagnoseSpec (options : RendererOptions) (mark : Mark) (spec : OutputSpec) : List Event :=
  match spec with
  | .element .. =>
    options.reportIf spec.hasNestedElement (.markSpecNested mark.typeName)
      ++ options.reportIf spec.hasHole (.markSpecHasHole mark.typeName)
  | _ => options.report (.markSpecNotElement mark.typeName)

/-- The diagnostics of a mark that was rendered by a spec. -/
def diagnose (options : RendererOptions) (mark : Mark) (content : Element)
    (interpreted : Interpreted) : List Event :=
  options.reportIf (!content.isEmpty && !interpreted.holeConsumed)
      (.markContentNotRendered mark.typeName)
    ++ options.reportIf interpreted.element.isEmpty (.noElementRendered .mark mark.typeName)

/-- Renders marks by their specs; the content goes behind the children of a spec, so a mark wraps
it. -/
def ofSpec (options : RendererOptions) (specOf : MarkSpecFunction) : MarkFactory :=
  fun mark isInline content _ => do
    let spec ← Render.ofNoted (specOf mark isInline)
    Render.emit (diagnoseSpec options mark spec)
    let interpreted ← Render.ofExcept (spec.hole.interpret content false)
    Render.emit (diagnose options mark content interpreted)
    return interpreted.element

/-- The factory of a type of marks, if it is rendered at all. -/
def ofType? (options : RendererOptions) (type : MarkType) : Option MarkFactory :=
  match type.spec.factory, type.spec.outputSpec with
  | some factory, _ => some factory
  | none, some specOf => some (ofSpec options specOf)
  | none, none => none

/-- The factories of the types of marks. -/
def table (options : RendererOptions) (types : Table MarkType) : Table MarkFactory :=
  types.filterMap fun _ type => ofType? options type

end MarkFactory

end RichText
