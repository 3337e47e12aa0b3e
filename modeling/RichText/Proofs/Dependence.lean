import RichText.Proofs.Resolution
import RichText.Proofs.Runs

/-!
# What documents and renders depend on

Resolving a document and rendering a fragment look up the types of their nodes and marks, and no
others: schemas that declare these alike (`Schema.AgreeOn`) give the same outcome, whatever else they
declare.  The name of a renderer, its settings and its sink settle what is reported, but not what is
rendered; nor do the values handed through matter, unless some type brings a factory.
-/

namespace RichText

namespace Schema

/-! ### Schemas that declare types alike -/

/-- Both schemas declare a type alike, or both do not declare it. -/
def SameAt (schema schema' : Schema) : TypeKind × String → Prop
  | (.node, name) => schema.nodes.find? name = schema'.nodes.find? name
  | (.mark, name) => schema.marks.find? name = schema'.marks.find? name

/-- Both schemas declare each of the types alike, or both do not declare it. -/
def AgreeOn (schema schema' : Schema) (types : List (TypeKind × String)) : Prop :=
  ∀ type ∈ types, schema.SameAt schema' type

/-- Sequences that differ only in declarations of other types give schemas that agree. -/
theorem agreeOn_ofDeclarations {declarations declarations' : List Declaration}
    {types : List (TypeKind × String)}
    (h : declarations.filter (·.type ∈ types) = declarations'.filter (·.type ∈ types)) :
  (ofDeclarations declarations).AgreeOn (ofDeclarations declarations') types
  := by
  rintro ⟨kind, name⟩ htype
  have hkept : ∀ declaration : Declaration, declaration.type = (kind, name) →
      decide (declaration.type ∈ types) = true := by
    intro declaration heq
    simpa [heq] using htype
  cases kind with
  | node =>
    rw [SameAt, ← find?_nodes_ofDeclarations_filter hkept, h,
      find?_nodes_ofDeclarations_filter hkept]
  | mark =>
    rw [SameAt, ← find?_marks_ofDeclarations_filter hkept, h,
      find?_marks_ofDeclarations_filter hkept]

variable {schema schema' : Schema}

theorem AgreeOn.of_subset {types types' : List (TypeKind × String)}
    (h : schema.AgreeOn schema' types') (hsubset : types ⊆ types') :
  schema.AgreeOn schema' types
  := by
  intro type htype
  apply h type (hsubset htype)

/-! ### Documents -/

/-- Schemas that declare a type of nodes alike make the same nodes of it. -/
theorem node_congr {name : String} (h : schema.SameAt schema' (.node, name)) :
  schema.node name = schema'.node name
  := by
  funext attributes content marks
  rw [node, node, nodeType, nodeType, h]

/-- Schemas that declare a type of marks alike resolve its marks alike. -/
theorem resolveMark_congr {source : SourceMark}
    (h : schema.SameAt schema' (.mark, source.typeName)) :
  schema.resolveMark source = schema'.resolveMark source
  := by
  rw [resolveMark, resolveMark, mark, mark, markType, markType, h]

mutual

/-- A document is resolved alike in schemas that agree on the types of what is reached in it. -/
theorem resolve_congr :
    ∀ source : SourceNode, schema.AgreeOn schema' source.usedTypes →
      schema.resolve source = schema'.resolve source
  | ⟨typeName, attributes, content, marks, text⟩, h => by
    rw [SourceNode.usedTypes_eq] at h
    obtain ⟨htypes, hcontent⟩ := List.forall_mem_append.mp h
    obtain ⟨hnode, hmarks⟩ := List.forall_mem_cons.mp htypes
    have hresolved : marks.mapM schema.resolveMark = marks.mapM schema'.resolveMark := by
      apply mapM_congr
      intro mark hmark
      apply resolveMark_congr
      exact hmarks _ (List.mem_map_of_mem hmark)
    rw [resolve, resolve, hresolved]
    congr 1
    funext resolved
    by_cases htext : typeName = Node.textType
    · subst htext
      simp only [if_true, Schema.text, node_congr hnode]
    · rw [if_neg htext] at hcontent
      simp only [if_neg htext, resolveAll_congr content hcontent, node_congr hnode]

/-- Documents are resolved alike in schemas that agree on the types of what is reached in them. -/
theorem resolveAll_congr :
    ∀ sources : List SourceNode, schema.AgreeOn schema' (SourceNode.usedTypesOf sources) →
      schema.resolveAll sources = schema'.resolveAll sources
  | [], _ => rfl
  | source :: rest, h => by
    rw [SourceNode.usedTypesOf_cons] at h
    obtain ⟨hsource, hrest⟩ := List.forall_mem_append.mp h
    rw [resolveAll, resolveAll, resolve_congr source hsource, resolveAll_congr rest hrest]

end

/-- What was read gives the same document in schemas that agree on what is reached in it. -/
theorem document_congr {read : Except Json.ReadError SourceNode}
    (h : ∀ source, read = .ok source → schema.AgreeOn schema' source.usedTypes) :
  schema.document read = schema'.document read
  := by
  cases read with
  | error error => rfl
  | ok source => exact resolve_congr source (h source rfl)

end Schema

namespace Renderer

/-! ### Renders in schemas that agree -/

section

variable {schema schema' : Schema} (displayName displayName' : Option String)
  (options : RendererOptions) (passthrough : Attributes)

/-- The call of a step is answered alike if its type is declared alike. -/
theorem answer_congr {step : Step} (h : schema.SameAt schema' (step.kind, step.typeName))
    (made : List Element) :
  (ofSchema schema displayName options).answer passthrough (step.call made)
    = (ofSchema schema' displayName' options).answer passthrough (step.call made)
  := by
  cases step with
  | body node =>
    have hfind : schema.nodes.find? node.typeName = schema'.nodes.find? node.typeName := h
    simp only [Step.call, answer, nodeStep, nodeFactory, ofSchema, NodeFactory.find?_table, hfind]
  | wrap isInline inner mark =>
    have hfind : schema.marks.find? mark.typeName = schema'.marks.find? mark.typeName := h
    simp only [Step.call, answer, markStep, markFactory, ofSchema, MarkFactory.find?_table, hfind]

/-- A fragment is rendered alike in schemas that agree on the types that it uses. -/
theorem renderAll_ofSchema_congr {fragment : List Node}
    (h : schema.AgreeOn schema' (Node.usedTypes fragment)) :
  (ofSchema schema displayName options).renderAll passthrough fragment
    = (ofSchema schema' displayName' options).renderAll passthrough fragment
  := by
  apply renderAll_congr
  intro step hstep
  apply answer_congr
  apply h _ (Step.mem_usedTypes_of_mem_ofNodes hstep)

end

end Renderer

namespace Schema

open Renderer (ofSchema)

/-- Renderers of both schemas with the same settings make the same of a fragment: the same elements
or the same error, the same HTML, and the same events. -/
def RendersAlike (schema schema' : Schema) (fragment : List Node) : Prop :=
  ∀ (displayName displayName' : Option String) (options : RendererOptions)
      (passthrough : Attributes),
    (ofSchema schema displayName options).renderAll passthrough fragment
        = (ofSchema schema' displayName' options).renderAll passthrough fragment
      ∧ (ofSchema schema displayName options).renderHtml passthrough fragment
        = (ofSchema schema' displayName' options).renderHtml passthrough fragment

theorem AgreeOn.rendersAlike {schema schema' : Schema} {fragment : List Node}
    (h : schema.AgreeOn schema' (Node.usedTypes fragment)) :
  schema.RendersAlike schema' fragment
  := by
  intro displayName displayName' options passthrough
  have hrender := Renderer.renderAll_ofSchema_congr displayName displayName' options passthrough h
  constructor
  · exact hrender
  · rw [Renderer.renderHtml, Renderer.renderHtml, hrender]

/-- Schemas that declare alike, or both do not declare, the types that are reached in a document
read it alike, with the same node or the same error; and if they agree so on the types that a
fragment uses, it is rendered alike.  So declarations of types that are not used may be added, left
out or replaced without a change to what is read and rendered. -/
theorem unused_types_never_matter :
  (∀ (schema schema' : Schema) (value : Json),
      (∀ source, SourceNode.ofJson value = .ok source →
          schema.AgreeOn schema' source.usedTypes) →
        schema.documentOfJson value = schema'.documentOfJson value)
    ∧ (∀ (schema schema' : Schema) (text : String),
      (∀ source, SourceNode.ofText text = .ok source →
          schema.AgreeOn schema' source.usedTypes) →
        schema.documentOfText text = schema'.documentOfText text)
    ∧ (∀ (schema schema' : Schema) (fragment : List Node),
      schema.AgreeOn schema' (Node.usedTypes fragment) → schema.RendersAlike schema' fragment)
    ∧ ∀ (declarations declarations' : List Declaration) (types : List (TypeKind × String)),
      declarations.filter (·.type ∈ types) = declarations'.filter (·.type ∈ types) →
        (∀ value,
          (∀ source, SourceNode.ofJson value = .ok source → source.usedTypes ⊆ types) →
            (ofDeclarations declarations).documentOfJson value
              = (ofDeclarations declarations').documentOfJson value)
        ∧ ∀ fragment, Node.usedTypes fragment ⊆ types →
            (ofDeclarations declarations).RendersAlike (ofDeclarations declarations') fragment
  := by
  refine ⟨?_, ?_, ?_, ?_⟩
  · intro schema schema' value h
    apply document_congr h
  · intro schema schema' text h
    apply document_congr h
  · intro schema schema' fragment h
    apply h.rendersAlike
  · intro declarations declarations' types h
    have hagree := agreeOn_ofDeclarations h
    constructor
    · intro value hvalue
      apply document_congr
      intro source hsource
      apply hagree.of_subset (hvalue source hsource)
    · intro fragment hfragment
      apply (hagree.of_subset hfragment).rendersAlike

/-- Declarations for paragraphs of emphasised texts. -/
def paragraphDeclarations : List Declaration :=
  [.node "paragraph" (.block "inline*" fun _ => .silent (OutputSpec.ofTag "p" |>.hole)),
    .node Node.textType .plain,
    .mark "em" ⟨none, some fun _ _ => .silent (.ofTag "em")⟩]

/-- The same declarations among others, some of which have one of these names for another kind. -/
def tableDeclarations : List Declaration :=
  .node "table" (.block "row+" fun _ => .silent (OutputSpec.ofTag "table" |>.hole))
    :: .node "em" .plain :: paragraphDeclarations ++ [.mark "paragraph" ⟨none, none⟩]

/-- A paragraph with an emphasised text, as it is written. -/
def writtenParagraph : Json :=
  .object [("type", .string "paragraph"), ("content", .array [
    .object [("type", .string "text"), ("text", .string "hi"),
      ("marks", .array [.object [("type", .string "em")]])]])]

/-- The paragraph as it is read. -/
def readParagraph : Node :=
  .block "paragraph" [{ Node.ofText "hi" with marks := [.ofType "em"] }]

/-- The types of the paragraph. -/
def paragraphTypes : List (TypeKind × String) :=
  [(.node, "paragraph"), (.node, "text"), (.mark, "em")]

theorem tables_never_matter_to_paragraph :
  paragraphDeclarations.filter (·.type ∈ paragraphTypes)
      = tableDeclarations.filter (·.type ∈ paragraphTypes)
    ∧ (∀ source, SourceNode.ofJson writtenParagraph = .ok source →
        source.usedTypes ⊆ paragraphTypes)
    ∧ Node.usedTypes [readParagraph] ⊆ paragraphTypes
    ∧ (ofDeclarations paragraphDeclarations).documentOfJson writtenParagraph = .ok readParagraph
    ∧ (ofDeclarations tableDeclarations).documentOfJson writtenParagraph = .ok readParagraph
    ∧ (ofDeclarations paragraphDeclarations).RendersAlike (ofDeclarations tableDeclarations)
        [readParagraph]
  := by
  have hdeclarations : paragraphDeclarations.filter (·.type ∈ paragraphTypes)
      = tableDeclarations.filter (·.type ∈ paragraphTypes) := by
    rfl
  have hsource : ∀ source, SourceNode.ofJson writtenParagraph = .ok source →
      source.usedTypes ⊆ paragraphTypes := by
    intro source hread
    obtain rfl := Except.ok.inj hread
    decide
  have hfragment : Node.usedTypes [readParagraph] ⊆ paragraphTypes := by
    decide
  have hread : (ofDeclarations paragraphDeclarations).documentOfJson writtenParagraph
      = .ok readParagraph := by
    rfl
  obtain ⟨_, _, _, halike⟩ := unused_types_never_matter
  obtain ⟨hreads, hrenders⟩ := halike _ _ _ hdeclarations
  exact ⟨hdeclarations, hsource, hfragment, hread, hreads _ hsource ▸ hread,
    hrenders _ hfragment⟩

end Schema

namespace Renderer

/-! ### Settings and values that are handed through -/

section

variable {schema : Schema} (displayName displayName' : Option String)
  (options options' : RendererOptions) {passthrough passthrough' : Attributes}
  (h : schema.FactoryFree ∨ passthrough = passthrough')

include h

/-- What is made of a node does not depend on the settings, nor on the values handed through if no
type brings a factory. -/
theorem result_nodeStep_ofSchema (node : Node) (content : Element) :
  ((ofSchema schema displayName options).nodeStep passthrough node content).result
    = ((ofSchema schema displayName' options').nodeStep passthrough' node content).result
  := by
  simp only [nodeStep, nodeFactory, ofSchema, NodeFactory.find?_table]
  cases hfind : schema.nodes.find? node.typeName with
  | none =>
    by_cases htext : node.typeName = Node.textType
    · simp [htext, NodeFactory.literal]
    · simp [htext, error_bind]
  | some type =>
    cases hfactory : type.spec.factory with
    | some factory =>
      have hpassthrough : passthrough = passthrough' := by
        apply h.resolve_left
        intro hfree
        simp [hfree.nodes _ _ hfind] at hfactory
      simp [NodeFactory.ofType?, hfactory, hpassthrough]
    | none =>
      cases hspec : type.spec.outputSpec with
      | none =>
        by_cases htext : node.typeName = Node.textType
        · simp [NodeFactory.ofType?, hfactory, hspec, htext, NodeFactory.literal]
        · simp [NodeFactory.ofType?, hfactory, hspec, htext, error_bind]
      | some specOf => simp [NodeFactory.ofType?, hfactory, hspec, NodeFactory.result_ofSpec]

/-- What is made of a mark does not depend on the settings, nor on the values handed through if no
type brings a factory. -/
theorem result_markStep_ofSchema (isInline : Bool) (content : Element) (mark : Mark) :
  ((ofSchema schema displayName options).markStep passthrough isInline content mark).result
    = ((ofSchema schema displayName' options').markStep passthrough' isInline content mark).result
  := by
  simp only [markStep, markFactory, ofSchema, MarkFactory.find?_table]
  cases hfind : schema.marks.find? mark.typeName with
  | none => simp [error_bind]
  | some type =>
    cases hfactory : type.spec.factory with
    | some factory =>
      have hpassthrough : passthrough = passthrough' := by
        apply h.resolve_left
        intro hfree
        simp [hfree.marks _ _ hfind] at hfactory
      simp [MarkFactory.ofType?, hfactory, hpassthrough]
    | none =>
      cases hspec : type.spec.outputSpec with
      | none => simp [MarkFactory.ofType?, hfactory, hspec, error_bind]
      | some specOf => simp [MarkFactory.ofType?, hfactory, hspec, MarkFactory.result_ofSpec]

/-- The elements of a fragment, or the error in their place, do not depend on the settings, nor on
the values handed through if no type brings a factory. -/
theorem result_renderAll_ofSchema (fragment : List Node) :
  ((ofSchema schema displayName options).renderAll passthrough fragment).result
    = ((ofSchema schema displayName' options').renderAll passthrough' fragment).result
  := by
  apply result_renderAll_congr
  intro step _ made
  cases step with
  | body node => apply result_nodeStep_ofSchema _ _ _ _ h
  | wrap isInline inner mark => apply result_markStep_ofSchema _ _ _ _ h

/-- The HTML of a fragment does not depend on more than its elements do. -/
theorem result_renderHtml_ofSchema (fragment : List Node) :
  ((ofSchema schema displayName options).renderHtml passthrough fragment).result
    = ((ofSchema schema displayName' options').renderHtml passthrough' fragment).result
  := by
  rw [renderHtml, renderHtml, Render.result_bind, Render.result_bind,
    result_renderAll_ofSchema displayName displayName' options options' h]

end

/-- The name of a renderer, its settings and its sink do not change what it makes of a fragment, be
it elements, HTML or an error.  Nor do the values handed through, if no type brings a factory. -/
theorem reports_never_change_results (schema : Schema) (displayName displayName' : Option String)
    (options options' : RendererOptions) (fragment : List Node) :
  (∀ passthrough,
      ((ofSchema schema displayName options).renderAll passthrough fragment).result
          = ((ofSchema schema displayName' options').renderAll passthrough fragment).result
        ∧ ((ofSchema schema displayName options).renderHtml passthrough fragment).result
          = ((ofSchema schema displayName' options').renderHtml passthrough fragment).result)
    ∧ (schema.FactoryFree → ∀ passthrough passthrough',
      ((ofSchema schema displayName options).renderAll passthrough fragment).result
          = ((ofSchema schema displayName' options').renderAll passthrough' fragment).result
        ∧ ((ofSchema schema displayName options).renderHtml passthrough fragment).result
          = ((ofSchema schema displayName' options').renderHtml passthrough' fragment).result)
  := by
  constructor
  · intro passthrough
    constructor
    · apply result_renderAll_ofSchema _ _ _ _ (.inr rfl)
    · apply result_renderHtml_ofSchema _ _ _ _ (.inr rfl)
  · intro hfree passthrough passthrough'
    constructor
    · apply result_renderAll_ofSchema _ _ _ _ (.inl hfree)
    · apply result_renderHtml_ofSchema _ _ _ _ (.inl hfree)

/-- A schema of rules that do not show what is written in them. -/
def ruleSchema : Schema :=
  Schema.empty |>.declareNode "rule" (.block "inline*" fun _ => .silent (.ofTag "hr"))

/-- A rule with a text in it. -/
def ruledText : List Node := [.block "rule" [Node.ofText "hi"]]

theorem ruledText_result_of_reports :
  ruleSchema.FactoryFree
    ∧ ((ofSchema ruleSchema none ⟨true, .memory⟩).renderAll Table.empty ruledText).events
      = [.kept (.contentNotRendered "rule")]
    ∧ ((ofSchema ruleSchema (some "quiet") ⟨false, .log⟩).renderAll
        (Table.ofList [("user", .string "ada")]) ruledText).events = []
    ∧ ((ofSchema ruleSchema none ⟨true, .memory⟩).renderAll Table.empty ruledText).result
      = .ok [.create "hr" none []]
    ∧ ((ofSchema ruleSchema (some "quiet") ⟨false, .log⟩).renderAll
        (Table.ofList [("user", .string "ada")]) ruledText).result = .ok [.create "hr" none []]
  := by
  have hfree : ruleSchema.FactoryFree :=
    Schema.factoryFree_of_all (Schema.allNodes_empty.declareNode rfl)
      Schema.allMarks_empty.declareNode
  have hresult : ((ofSchema ruleSchema none ⟨true, .memory⟩).renderAll Table.empty
      ruledText).result = .ok [.create "hr" none []] := by
    rfl
  obtain ⟨_, hhanded⟩ := reports_never_change_results ruleSchema none (some "quiet")
    ⟨true, .memory⟩ ⟨false, .log⟩ ruledText
  refine ⟨hfree, rfl, rfl, hresult, ?_⟩
  rw [← (hhanded hfree Table.empty _).1, hresult]

end Renderer

end RichText
