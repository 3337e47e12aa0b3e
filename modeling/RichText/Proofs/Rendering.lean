import RichText.Renderer
import RichText.Proofs.Declarations
import RichText.Proofs.Interpretation
import RichText.Proofs.Trees
import Mathlib.Tactic.Use

/-!
# What a renderer makes of a fragment

In a schema without factories, whether a fragment is rendered is settled node by node and mark by
mark, however they are nested: a node needs a spec that can be interpreted, or must be a text, and
a mark needs a spec that is a text or a tag without children.  The elements are then those of
`Schema.reference`, which fills the spec of a node with the elements of its content and wraps what
comes out in the tags of its marks.
-/

namespace RichText

namespace OutputSpec

/-- Whether a spec is a text, or a tag without children. -/
def isBare : OutputSpec → Bool
  | .text _ => true
  | .native _ _ => false
  | .element _ _ children => children.isEmpty

/-- The element that a spec without children makes around another one; a text takes its place. -/
def wrap (content : Element) : OutputSpec → Element
  | .text s => .text s
  -- No element stands for a native node, and none is ever asked for.
  | .native _ _ => .fragment []
  | .element tag attributes _ => .node tag (attributes.map Props.withClassApart) (some [content])

/-- A spec with a hole behind its children can be interpreted if it had no children. -/
theorem interpretable_hole {spec : OutputSpec} :
  spec.hole.Interpretable false ↔ spec.isBare = true
  := by
  cases spec with
  | text s => simp [hole, isBare]
  | native nodeType raw => simp [hole, isBare]
  | element tag attributes children =>
    rw [hole, isBare, interpretable_element]
    constructor
    · intro hchildren
      have hsole := hchildren.sole_of_hole (by simp [SpecChild.isHole])
      simpa using hsole
    · intro hempty
      obtain rfl := List.isEmpty_iff.mp hempty
      simp

/-- A spec without children, with a hole behind them, is filled by wrapping the content. -/
theorem fill_hole {spec : OutputSpec} (h : spec.isBare = true) (content : Element) :
  spec.hole.fill content = spec.wrap content
  := by
  cases spec with
  | text s => rfl
  | native nodeType raw => rfl
  | element tag attributes children =>
    obtain rfl := List.isEmpty_iff.mp h
    rfl

end OutputSpec

namespace Schema

variable (schema : Schema)

/-- The spec function of the nodes of a declared type, if it has one. -/
def nodeSpec? (typeName : String) : Option NodeSpecFunction :=
  (schema.nodes.find? typeName).bind (·.spec.outputSpec)

/-- The spec function of the marks of a declared type, if it has one. -/
def markSpec? (typeName : String) : Option MarkSpecFunction :=
  (schema.marks.find? typeName).bind (·.spec.outputSpec)

/-! ### Conditions on nodes and marks -/

/-- The node is a text without a spec, or its type gives a spec that can be interpreted. -/
def RendersNode (node : Node) : Prop :=
  (node.typeName = Node.textType ∧ schema.nodeSpec? node.typeName = none)
    ∨ ∃ specOf, schema.nodeSpec? node.typeName = some specOf
        ∧ (specOf node).value.Interpretable false

/-- The type of the mark gives a spec that is a text, or a tag without children. -/
def RendersMark (isInline : Bool) (mark : Mark) : Prop :=
  ∃ specOf, schema.markSpec? mark.typeName = some specOf
    ∧ (specOf mark isInline).value.isBare = true

/-- The node and all marks on it meet their conditions. -/
def RendersMarked (node : Node) : Prop :=
  schema.RendersNode node ∧ ∀ mark ∈ node.marks, schema.RendersMark node.isInline mark

/-- The type of the node is not known, or its spec cannot be interpreted for this reason. -/
def NodeFault (node : Node) (error : RenderError) : Prop :=
  match schema.nodeSpec? node.typeName with
  | some specOf => ∃ content, (specOf node).value.interpret content false = .error error
  | none => node.typeName ≠ Node.textType ∧ error = .unknownType .node node.typeName

/-- The type of the mark is not known, or its spec cannot be interpreted for this reason with a
hole behind the children. -/
def MarkFault (isInline : Bool) (mark : Mark) (error : RenderError) : Prop :=
  match schema.markSpec? mark.typeName with
  | some specOf =>
    ∃ content, (specOf mark isInline).value.hole.interpret content false = .error error
  | none => error = .unknownType .mark mark.typeName

/-- The node or a mark on it has this fault. -/
def MarkedFault (error : RenderError) (node : Node) : Prop :=
  schema.NodeFault node error ∨ ∃ mark ∈ node.marks, schema.MarkFault node.isInline mark error

/-! ### The elements -/

/-- The element of a node without its marks. -/
def bodyOf (node : Node) (content : Element) : Element :=
  match schema.nodeSpec? node.typeName with
  | some specOf => (specOf node).value.fill content
  | none => .text (node.text.getD "")

/-- The element of a mark around the element so far. -/
def wrapIn (isInline : Bool) (element : Element) (mark : Mark) : Element :=
  match schema.markSpec? mark.typeName with
  | some specOf => (specOf mark isInline).value.wrap element
  | none => element

mutual

/-- The element of a node: its body around the elements of its content, in its marks from the first
one to the last one. -/
def reference : Node → Element
  | node@{ isInline, marks, content, .. } =>
    marks.foldl (schema.wrapIn isInline) (schema.bodyOf node (.fragment (referenceAll content)))
termination_by structural node => node

/-- The elements of the nodes of a fragment. -/
def referenceAll : List Node → List Element
  | [] => []
  | node :: rest => reference node :: referenceAll rest
termination_by structural nodes => nodes

end

theorem referenceAll_eq_map (fragment : List Node) :
  schema.referenceAll fragment = fragment.map schema.reference
  := by
  induction fragment with
  | nil => rfl
  | cons node rest ih => rw [referenceAll, ih, List.map_cons]

end Schema

/-! ### Tables of factories -/

namespace NodeFactory

/-- In the table of factories a text has a factory in any case. -/
theorem find?_table (options : RendererOptions) (types : Table NodeType) (typeName : String) :
  (table options types).find? typeName
    = ((types.find? typeName).bind (ofType? options)
        <|> if typeName = Node.textType then some literal else none)
  := by
  have hfind : ∀ name, (types.filterMap fun _ type => ofType? options type).find? name
      = (types.find? name).bind (ofType? options) := by
    intro name
    apply Table.find?_filterMap
  unfold table
  by_cases htext : typeName = Node.textType
  · subst htext
    cases hfactory : (types.find? Node.textType).bind (ofType? options) with
    | none => simp [Table.contains, hfind, hfactory]
    | some factory => simp [Table.contains, hfind, hfactory]
  · simp only [if_neg htext]
    split
    · simp [hfind]
    · rw [Table.find?_insert_ne _ htext, hfind]
      simp

/-- A spec function renders a node as its spec is interpreted. -/
theorem result_ofSpec (options : RendererOptions) (specOf : NodeSpecFunction) (node : Node)
    (content : Element) (passthrough : Attributes) :
  (ofSpec options specOf node content passthrough).result
    = ((specOf node).value.interpret content false).map (·.element)
  := by
  simp only [ofSpec, Render.result_bind, Render.result_ofNoted, Render.result_ofExcept,
    Render.result_emit, Render.result_pure, ok_bind]
  cases (specOf node).value.interpret content false with
  | error _ => rfl
  | ok _ => rfl

end NodeFactory

namespace MarkFactory

theorem find?_table (options : RendererOptions) (types : Table MarkType) (typeName : String) :
  (table options types).find? typeName = (types.find? typeName).bind (ofType? options)
  := by
  apply Table.find?_filterMap

/-- A spec function renders a mark as its spec is interpreted with a hole behind the children. -/
theorem result_ofSpec (options : RendererOptions) (specOf : MarkSpecFunction) (mark : Mark)
    (isInline : Bool) (content : Element) (passthrough : Attributes) :
  (ofSpec options specOf mark isInline content passthrough).result
    = ((specOf mark isInline).value.hole.interpret content false).map (·.element)
  := by
  simp only [ofSpec, Render.result_bind, Render.result_ofNoted, Render.result_ofExcept,
    Render.result_emit, Render.result_pure, ok_bind]
  cases (specOf mark isInline).value.hole.interpret content false with
  | error _ => rfl
  | ok _ => rfl

end MarkFactory

namespace Renderer

/-! ### One step -/

section

variable (renderer : Renderer) (passthrough : Attributes)

/-- Renders a node around its content by the factory of its type. -/
def nodeStep (node : Node) (content : Element) : Render Element :=
  renderer.nodeFactory node.typeName >>= fun factory => factory node content passthrough

/-- Renders a mark around an element by the factory of its type. -/
def markStep (isInline : Bool) (element : Element) (mark : Mark) : Render Element :=
  renderer.markFactory mark.typeName >>= fun factory =>
    factory mark isInline element passthrough

theorem nodeStep_of_some {node : Node} {factory : NodeFactory}
    (h : renderer.nodes.find? node.typeName = some factory) (content : Element) :
  renderer.nodeStep passthrough node content = factory node content passthrough
  := by
  rw [nodeStep, nodeFactory, h]
  apply pure_bind

theorem nodeStep_of_none {node : Node} (h : renderer.nodes.find? node.typeName = none)
    (content : Element) :
  renderer.nodeStep passthrough node content = .fail (.unknownType .node node.typeName)
  := by
  rw [nodeStep, nodeFactory, h]
  rfl

theorem markStep_of_some {mark : Mark} {factory : MarkFactory}
    (h : renderer.marks.find? mark.typeName = some factory) (isInline : Bool)
    (content : Element) :
  renderer.markStep passthrough isInline content mark = factory mark isInline content passthrough
  := by
  rw [markStep, markFactory, h]
  apply pure_bind

theorem markStep_of_none {mark : Mark} (h : renderer.marks.find? mark.typeName = none)
    (isInline : Bool) (content : Element) :
  renderer.markStep passthrough isInline content mark = .fail (.unknownType .mark mark.typeName)
  := by
  rw [markStep, markFactory, h]
  rfl

/-- Marks are rendered one after the other. -/
theorem renderMarks_cons (isInline : Bool) (mark : Mark) (rest : List Mark) (element : Element) :
  renderer.renderMarks passthrough isInline (mark :: rest) element
    = renderer.markStep passthrough isInline element mark >>=
        renderer.renderMarks passthrough isInline rest
  := by
  rw [renderMarks, markStep, bind_assoc]

/-- A node is rendered after its content and before its marks. -/
theorem renderNode_eq (node : Node) :
  renderer.renderNode passthrough node
    = renderer.renderAll passthrough node.content >>= fun children =>
        renderer.nodeStep passthrough node (.fragment children) >>=
          renderer.renderMarks passthrough node.isInline node.marks
  := by
  cases node
  simp only [renderNode, nodeStep, bind_assoc]

/-- There is one element for each node of a fragment. -/
theorem length_of_renderAll {fragment : List Node} {elements : List Element}
    (h : (renderer.renderAll passthrough fragment).result = .ok elements) :
  elements.length = fragment.length
  := by
  induction fragment generalizing elements with
  | nil =>
    obtain rfl := Except.ok.inj h
    rfl
  | cons node rest ih =>
    simp only [renderAll, Render.result_bind, bind_eq_ok_iff, Render.result_pure] at h
    obtain ⟨element, _, others, hothers, hcons⟩ := h
    obtain rfl := Except.ok.inj hcons
    rw [List.length_cons, List.length_cons, ih hothers]

end

variable {schema : Schema} (hfree : schema.FactoryFree) (displayName : Option String)
  (options : RendererOptions) (passthrough : Attributes)

include hfree

/-- The factory of a declared type interprets its spec; without one, texts have a factory. -/
theorem nodeFactory_ofSchema (typeName : String) :
  ((ofSchema schema displayName options).nodeFactory typeName).result
    = match schema.nodeSpec? typeName with
      | some specOf => .ok (NodeFactory.ofSpec options specOf)
      | none =>
        if typeName = Node.textType then .ok NodeFactory.literal
        else .error (.unknownType .node typeName)
  := by
  rw [nodeFactory, ofSchema, NodeFactory.find?_table, Schema.nodeSpec?]
  cases hfind : schema.nodes.find? typeName with
  | none =>
    by_cases htext : typeName = Node.textType
    · simp [htext]
    · simp [htext]
  | some type =>
    have hfactory := hfree.nodes typeName type hfind
    cases hspec : type.spec.outputSpec with
    | none =>
      by_cases htext : typeName = Node.textType
      · simp [NodeFactory.ofType?, hfactory, hspec, htext]
      · simp [NodeFactory.ofType?, hfactory, hspec, htext]
    | some specOf => simp [NodeFactory.ofType?, hfactory, hspec]

/-- The factory of a declared type of marks interprets its spec. -/
theorem markFactory_ofSchema (typeName : String) :
  ((ofSchema schema displayName options).markFactory typeName).result
    = match schema.markSpec? typeName with
      | some specOf => .ok (MarkFactory.ofSpec options specOf)
      | none => .error (.unknownType .mark typeName)
  := by
  rw [markFactory, ofSchema, MarkFactory.find?_table, Schema.markSpec?]
  cases hfind : schema.marks.find? typeName with
  | none => rfl
  | some type =>
    have hfactory := hfree.marks typeName type hfind
    cases hspec : type.spec.outputSpec with
    | none => simp [MarkFactory.ofType?, hfactory, hspec]
    | some specOf => simp [MarkFactory.ofType?, hfactory, hspec]

/-- A node is rendered around its content exactly when it meets its condition, and as its body. -/
theorem nodeStep_eq_ok_iff {node : Node} {content element : Element} :
  ((ofSchema schema displayName options).nodeStep passthrough node content).result = .ok element
    ↔ schema.RendersNode node ∧ element = schema.bodyOf node content
  := by
  rw [nodeStep, Render.result_bind, nodeFactory_ofSchema hfree, Schema.RendersNode, Schema.bodyOf]
  cases hspec : schema.nodeSpec? node.typeName with
  | none =>
    by_cases htext : node.typeName = Node.textType
    · simp [htext, NodeFactory.literal, eq_comm]
    · simp [htext, bind_eq_ok_iff]
  | some specOf =>
    simp only [ok_bind, NodeFactory.result_ofSpec, map_eq_ok_iff, OutputSpec.interpret_eq_ok_iff]
    constructor
    · rintro ⟨_, ⟨hspec, rfl⟩, rfl⟩
      exact ⟨.inr ⟨specOf, rfl, hspec⟩, rfl⟩
    · rintro ⟨⟨_, hnone⟩ | ⟨_, hsome, hspec⟩, rfl⟩
      · simp at hnone
      · obtain rfl := Option.some.inj hsome
        exact ⟨_, ⟨hspec, rfl⟩, rfl⟩

/-- A mark is rendered around an element exactly when it meets its condition, and wraps it. -/
theorem markStep_eq_ok_iff {isInline : Bool} {mark : Mark} {content element : Element} :
  ((ofSchema schema displayName options).markStep passthrough isInline content mark).result
      = .ok element
    ↔ schema.RendersMark isInline mark ∧ element = schema.wrapIn isInline content mark
  := by
  rw [markStep, Render.result_bind, markFactory_ofSchema hfree, Schema.RendersMark, Schema.wrapIn]
  cases hspec : schema.markSpec? mark.typeName with
  | none => simp [bind_eq_ok_iff]
  | some specOf =>
    simp only [ok_bind, MarkFactory.result_ofSpec, map_eq_ok_iff, OutputSpec.interpret_eq_ok_iff,
      OutputSpec.interpretable_hole]
    constructor
    · rintro ⟨_, ⟨hbare, rfl⟩, rfl⟩
      exact ⟨⟨specOf, rfl, hbare⟩, OutputSpec.fill_hole hbare content⟩
    · rintro ⟨⟨_, hsome, hbare⟩, rfl⟩
      obtain rfl := Option.some.inj hsome
      exact ⟨_, ⟨hbare, rfl⟩, OutputSpec.fill_hole hbare content⟩

/-- A node that is not rendered has a fault. -/
theorem nodeFault_of_nodeStep {node : Node} {content : Element} {error : RenderError}
    (h : ((ofSchema schema displayName options).nodeStep passthrough node content).result
      = .error error) :
  schema.NodeFault node error
  := by
  rw [nodeStep, Render.result_bind, nodeFactory_ofSchema hfree] at h
  rw [Schema.NodeFault]
  cases hspec : schema.nodeSpec? node.typeName with
  | none =>
    by_cases htext : node.typeName = Node.textType
    · simp only [hspec, if_pos htext, ok_bind, NodeFactory.literal, Render.result_done,
        reduceCtorEq] at h
    · simp only [hspec, if_neg htext, bind_eq_error_iff, Except.error.injEq, reduceCtorEq,
        false_and, exists_false, or_false] at h
      exact ⟨htext, h.symm⟩
  | some specOf =>
    simp only [hspec, ok_bind, NodeFactory.result_ofSpec, map_eq_error_iff] at h
    exact ⟨content, h⟩

/-- A mark that is not rendered has a fault. -/
theorem markFault_of_markStep {isInline : Bool} {mark : Mark} {content : Element}
    {error : RenderError}
    (h : ((ofSchema schema displayName options).markStep passthrough isInline content mark).result
      = .error error) :
  schema.MarkFault isInline mark error
  := by
  rw [markStep, Render.result_bind, markFactory_ofSchema hfree] at h
  rw [Schema.MarkFault]
  cases hspec : schema.markSpec? mark.typeName with
  | none =>
    simp only [hspec, bind_eq_error_iff, Except.error.injEq, reduceCtorEq, false_and,
      exists_false, or_false] at h
    exact h.symm
  | some specOf =>
    simp only [hspec, ok_bind, MarkFactory.result_ofSpec, map_eq_error_iff] at h
    exact ⟨content, h⟩

/-! ### Whole runs -/

/-- Marks are rendered exactly when each meets its condition, one around the other. -/
theorem renderMarks_eq_ok_iff {isInline : Bool} {marks : List Mark} {element wrapped : Element} :
  ((ofSchema schema displayName options).renderMarks passthrough isInline marks element).result
      = .ok wrapped
    ↔ (∀ mark ∈ marks, schema.RendersMark isInline mark)
      ∧ wrapped = marks.foldl (schema.wrapIn isInline) element
  := by
  induction marks generalizing element with
  | nil => simp [renderMarks, eq_comm]
  | cons mark rest ih =>
    rw [renderMarks_cons, Render.result_bind, bind_eq_ok_iff]
    simp only [markStep_eq_ok_iff hfree, ih, List.forall_mem_cons, List.foldl_cons]
    constructor
    · rintro ⟨_, ⟨hmark, rfl⟩, hrest, rfl⟩
      exact ⟨⟨hmark, hrest⟩, rfl⟩
    · rintro ⟨⟨hmark, hrest⟩, rfl⟩
      exact ⟨_, ⟨hmark, rfl⟩, hrest, rfl⟩

/-- An error of rendering marks is a fault of one of them. -/
theorem exists_markFault_of_renderMarks {isInline : Bool} {marks : List Mark} {element : Element}
    {error : RenderError}
    (h : ((ofSchema schema displayName options).renderMarks passthrough isInline marks
      element).result = .error error) :
  ∃ mark ∈ marks, schema.MarkFault isInline mark error
  := by
  induction marks generalizing element with
  | nil => simp [renderMarks] at h
  | cons mark rest ih =>
    rw [renderMarks_cons, Render.result_bind, bind_eq_error_iff] at h
    rcases h with h | ⟨wrapped, _, h⟩
    · use mark, List.mem_cons_self
      exact markFault_of_markStep hfree _ _ _ h
    · obtain ⟨mark', hmem, hfault⟩ := ih h
      use mark', List.mem_cons_of_mem _ hmem

end Renderer

namespace Renderer

variable {schema : Schema} (displayName : Option String) (options : RendererOptions)
  (passthrough : Attributes)

mutual

/-- A node is rendered exactly when it and all nodes below it meet their conditions, and as its
reference element. -/
theorem renderNode_eq_ok_iff (hfree : schema.FactoryFree) :
    ∀ (node : Node) (element : Element),
      ((ofSchema schema displayName options).renderNode passthrough node).result = .ok element
        ↔ (∀ below ∈ node.nodes, schema.RendersMarked below) ∧ element = schema.reference node
  | ⟨typeName, isInline, isLeaf, attributes, marks, text, content⟩, element => by
    rw [renderNode_eq, Node.nodes_eq, List.forall_mem_cons, Schema.reference]
    simp only [Render.result_bind, bind_eq_ok_iff, renderAll_eq_ok_iff hfree content,
      nodeStep_eq_ok_iff hfree, renderMarks_eq_ok_iff hfree]
    constructor
    · rintro ⟨_, ⟨hcontent, rfl⟩, _, ⟨hnode, rfl⟩, hmarks, rfl⟩
      exact ⟨⟨⟨hnode, hmarks⟩, hcontent⟩, rfl⟩
    · rintro ⟨⟨⟨hnode, hmarks⟩, hcontent⟩, rfl⟩
      exact ⟨_, ⟨hcontent, rfl⟩, _, ⟨hnode, rfl⟩, hmarks, rfl⟩

/-- A fragment is rendered exactly when all nodes in it meet their conditions, and as the reference
elements of its nodes. -/
theorem renderAll_eq_ok_iff (hfree : schema.FactoryFree) :
    ∀ (fragment : List Node) (elements : List Element),
      ((ofSchema schema displayName options).renderAll passthrough fragment).result = .ok elements
        ↔ (∀ node ∈ Node.nodesOf fragment, schema.RendersMarked node)
          ∧ elements = schema.referenceAll fragment
  | [], elements => by
    simp [renderAll, Node.nodesOf, Schema.referenceAll, eq_comm]
  | node :: rest, elements => by
    rw [renderAll, Node.nodesOf, Schema.referenceAll]
    simp only [Render.result_bind, bind_eq_ok_iff, renderNode_eq_ok_iff hfree node,
      renderAll_eq_ok_iff hfree rest, Render.result_pure, List.forall_mem_append]
    constructor
    · rintro ⟨_, ⟨hnode, rfl⟩, _, ⟨hrest, rfl⟩, helements⟩
      exact ⟨⟨hnode, hrest⟩, (Except.ok.inj helements).symm⟩
    · rintro ⟨⟨hnode, hrest⟩, rfl⟩
      exact ⟨_, ⟨hnode, rfl⟩, _, ⟨hrest, rfl⟩, rfl⟩

end

mutual

/-- An error of rendering a node is a fault of the node, of a node below it, or of their marks. -/
theorem exists_fault_of_renderNode (hfree : schema.FactoryFree) {error : RenderError} :
    ∀ node : Node,
      ((ofSchema schema displayName options).renderNode passthrough node).result = .error error →
        ∃ below ∈ node.nodes, schema.MarkedFault error below
  | ⟨typeName, isInline, isLeaf, attributes, marks, text, content⟩, h => by
    rw [renderNode_eq, Render.result_bind, bind_eq_error_iff] at h
    rw [Node.nodes_eq]
    rcases h with h | ⟨children, _, h⟩
    · obtain ⟨below, hmem, hfault⟩ := exists_fault_of_renderAll hfree content h
      use below, List.mem_cons_of_mem _ hmem
    · rw [Render.result_bind, bind_eq_error_iff] at h
      use ⟨typeName, isInline, isLeaf, attributes, marks, text, content⟩, List.mem_cons_self
      rcases h with h | ⟨body, _, h⟩
      · left
        apply nodeFault_of_nodeStep hfree _ _ _ h
      · right
        apply exists_markFault_of_renderMarks hfree _ _ _ h

/-- An error of rendering a fragment is a fault of a node in it, at any depth, or of its marks. -/
theorem exists_fault_of_renderAll (hfree : schema.FactoryFree) {error : RenderError} :
    ∀ fragment : List Node,
      ((ofSchema schema displayName options).renderAll passthrough fragment).result
          = .error error →
        ∃ node ∈ Node.nodesOf fragment, schema.MarkedFault error node
  | [], h => by simp [renderAll] at h
  | node :: rest, h => by
    rw [renderAll, Render.result_bind, bind_eq_error_iff] at h
    rcases h with h | ⟨element, _, h⟩
    · obtain ⟨below, hmem, hfault⟩ := exists_fault_of_renderNode hfree node h
      use below, List.mem_append_left _ hmem
    · rw [Render.result_bind, bind_eq_error_iff] at h
      rcases h with h | ⟨elements, _, h⟩
      · obtain ⟨below, hmem, hfault⟩ := exists_fault_of_renderAll hfree rest h
        use below, List.mem_append_right _ hmem
      · simp at h

end

/-- In a schema without factories a fragment is rendered exactly if every node in it, at any depth,
is a text without a spec or has a spec that can be interpreted, and every mark has a spec that is a
text or a tag without children.  There is one element for each node of the fragment then, in order:
its body around the elements of its content, in its marks from the first one to the last one. -/
theorem renders_iff_all_nodes_render {schema : Schema} (hfree : schema.FactoryFree)
    (displayName : Option String) (options : RendererOptions) (passthrough : Attributes)
    (fragment : List Node) :
  ((∃ elements, ((ofSchema schema displayName options).renderAll passthrough fragment).result
        = .ok elements)
      ↔ ∀ node ∈ Node.nodesOf fragment, schema.RendersNode node
          ∧ ∀ mark ∈ node.marks, schema.RendersMark node.isInline mark)
    ∧ (∀ elements, ((ofSchema schema displayName options).renderAll passthrough fragment).result
        = .ok elements → elements = fragment.map schema.reference)
    ∧ ∀ node, schema.reference node = node.marks.foldl (schema.wrapIn node.isInline)
        (schema.bodyOf node (.fragment (node.content.map schema.reference)))
  := by
  refine ⟨?_, ?_, ?_⟩
  · constructor
    · rintro ⟨elements, helements⟩
      exact ((renderAll_eq_ok_iff _ _ _ hfree _ _).mp helements).1
    · intro hnodes
      use schema.referenceAll fragment
      exact (renderAll_eq_ok_iff _ _ _ hfree _ _).mpr ⟨hnodes, rfl⟩
  · intro elements helements
    rw [← Schema.referenceAll_eq_map]
    exact ((renderAll_eq_ok_iff _ _ _ hfree _ _).mp helements).2
  · intro node
    rw [← Schema.referenceAll_eq_map]
    cases node
    rfl

/-- A quote of a text with two marks. -/
def markedQuote : List Node :=
  [.block "blockquote" [.block "paragraph"
    [{ Node.ofText "hi" with marks := [.ofType "em", .ofType "strong"] }]]]

theorem renders_markedQuote :
  Chat.schema.FactoryFree
    ∧ ((∃ elements, ((ofSchema Chat.schema none .default).renderAll Table.empty
          markedQuote).result = .ok elements)
        ↔ ∀ node ∈ Node.nodesOf markedQuote, Chat.schema.RendersNode node
            ∧ ∀ mark ∈ node.marks, Chat.schema.RendersMark node.isInline mark)
    ∧ (∀ elements, ((ofSchema Chat.schema none .default).renderAll Table.empty
          markedQuote).result = .ok elements → elements = markedQuote.map Chat.schema.reference)
    ∧ ∀ node, Chat.schema.reference node
        = node.marks.foldl (Chat.schema.wrapIn node.isInline)
            (Chat.schema.bodyOf node (.fragment (node.content.map Chat.schema.reference)))
  := ⟨Chat.schema_factoryFree,
    renders_iff_all_nodes_render Chat.schema_factoryFree none .default Table.empty markedQuote⟩

end Renderer

end RichText
