import RichText.Proofs.Dependence

/-!
# Types that a renderer does not know

Resolving looks types up in the schema, rendering looks them up among its factories, where those
without a spec are missing and texts are there in any case.  So what resolves meets an unknown type
only where a type is declared without a spec, and then its render fails.
-/

namespace RichText

namespace Schema

/-- A type that is declared without a spec, and is not that of texts. -/
def Specless (schema : Schema) : TypeKind × String → Prop
  | (.node, name) =>
    name ≠ Node.textType
      ∧ ∃ type, schema.nodes.find? name = some type ∧ type.spec.outputSpec = none
  | (.mark, name) => ∃ type, schema.marks.find? name = some type ∧ type.spec.outputSpec = none

variable {schema : Schema}

/-! ### Single nodes -/

/-- A declared type of nodes that is unknown to renderers has no spec. -/
theorem specless_of_nodeFault {node : Node} (hdeclared : schema.nodes.contains node.typeName = true)
    {kind : TypeKind} {name : String} (h : schema.NodeFault node (.unknownType kind name)) :
  (kind, name) = (.node, node.typeName) ∧ schema.Specless (kind, name)
  := by
  obtain ⟨type, hfind⟩ := Option.isSome_iff_exists.mp hdeclared
  rw [NodeFault, nodeSpec?, hfind, Option.bind_some] at h
  split at h
  · obtain ⟨content, hcontent⟩ := h
    exact absurd hcontent (OutputSpec.interpret_ne_unknownType _ _ _ _ _)
  · rename_i hspec
    obtain ⟨htext, herror⟩ := h
    obtain ⟨rfl, rfl⟩ := RenderError.unknownType.inj herror
    exact ⟨rfl, htext, type, hfind, hspec⟩

/-- A declared type of marks that is unknown to renderers has no spec. -/
theorem specless_of_markFault {isInline : Bool} {mark : Mark}
    (hdeclared : schema.marks.contains mark.typeName = true) {kind : TypeKind} {name : String}
    (h : schema.MarkFault isInline mark (.unknownType kind name)) :
  (kind, name) = (.mark, mark.typeName) ∧ schema.Specless (kind, name)
  := by
  obtain ⟨type, hfind⟩ := Option.isSome_iff_exists.mp hdeclared
  rw [MarkFault, markSpec?, hfind, Option.bind_some] at h
  split at h
  · obtain ⟨content, hcontent⟩ := h
    exact absurd hcontent (OutputSpec.interpret_ne_unknownType _ _ _ _ _)
  · rename_i hspec
    obtain ⟨rfl, rfl⟩ := RenderError.unknownType.inj h
    exact ⟨rfl, type, hfind, hspec⟩

/-- A type that is unknown to renderers, where all types are declared, is one of the node or its
marks and has no spec. -/
theorem specless_of_markedFault {node : Node} (hdeclares : schema.Declares node) {kind : TypeKind}
    {name : String} (h : schema.MarkedFault (.unknownType kind name) node) :
  (kind, name) ∈ node.types ∧ schema.Specless (kind, name)
  := by
  rcases h with h | ⟨mark, hmark, h⟩
  · obtain ⟨htype, hspecless⟩ := specless_of_nodeFault hdeclares.node h
    rw [htype] at hspecless ⊢
    exact ⟨List.mem_cons_self, hspecless⟩
  · obtain ⟨htype, hspecless⟩ := specless_of_markFault (hdeclares.marks mark hmark) h
    rw [htype] at hspecless ⊢
    exact ⟨List.mem_cons_of_mem _ (List.mem_map_of_mem hmark), hspecless⟩

/-- A node of a type without a spec is not rendered, nor is one with such a mark. -/
theorem not_rendersMarked_of_specless {node : Node} {type : TypeKind × String}
    (htype : type ∈ node.types) (hspecless : schema.Specless type) :
  ¬ schema.RendersMarked node
  := by
  rintro ⟨hnode, hmarks⟩
  rcases List.mem_cons.mp htype with rfl | htype
  · obtain ⟨htext, type, hfind, hspec⟩ := hspecless
    rw [RendersNode, nodeSpec?, hfind, Option.bind_some, hspec] at hnode
    simp [htext] at hnode
  · obtain ⟨mark, hmark, rfl⟩ := List.mem_map.mp htype
    obtain ⟨type, hfind, hspec⟩ := hspecless
    have hrenders := hmarks mark hmark
    rw [RendersMark, markSpec?, hfind, Option.bind_some, hspec] at hrenders
    simp at hrenders

end Schema

namespace Renderer

variable {schema : Schema} (displayName : Option String) (options : RendererOptions)
  (passthrough : Attributes)

/-! ### Whole fragments -/

/-- An unknown type that ends the render of a fragment of declared types has no spec. -/
theorem specless_of_renderAll (hfree : schema.FactoryFree) {fragment : List Node}
    (hdeclares : ∀ node ∈ Node.nodesOf fragment, schema.Declares node) {kind : TypeKind}
    {name : String}
    (h : ((ofSchema schema displayName options).renderAll passthrough fragment).result
      = .error (.unknownType kind name)) :
  schema.Specless (kind, name) ∧ (kind, name) ∈ Node.usedTypes fragment
  := by
  obtain ⟨node, hnode, hfault⟩ := exists_fault_of_renderAll _ _ _ hfree fragment h
  obtain ⟨htype, hspecless⟩ := Schema.specless_of_markedFault (hdeclares node hnode) hfault
  use hspecless
  apply List.mem_flatMap_of_mem hnode htype

/-- A fragment that uses a type without a spec is not rendered. -/
theorem exists_error_of_specless (hfree : schema.FactoryFree) {fragment : List Node}
    {type : TypeKind × String} (htype : type ∈ Node.usedTypes fragment)
    (hspecless : schema.Specless type) :
  ∃ error, ((ofSchema schema displayName options).renderAll passthrough fragment).result
    = .error error
  := by
  cases hresult : ((ofSchema schema displayName options).renderAll passthrough fragment).result with
  | error error => use error
  | ok elements =>
    obtain ⟨node, hnode, htype⟩ := List.mem_flatMap.mp htype
    have hrenders := ((renderAll_eq_ok_iff _ _ _ hfree _ _).mp hresult).1 node hnode
    exact absurd hrenders (Schema.not_rendersMarked_of_specless htype hspecless)

end Renderer

namespace Schema

/-- All nodes of a document are of declared types, and so are their marks. -/
theorem declares_of_document {schema : Schema} (hnames : schema.NamesAgree)
    {read : Except Json.ReadError SourceNode} {document : Node}
    (hdocument : schema.document read = .ok document) :
  ∀ node ∈ Node.nodesOf [document], schema.Declares node
  := by
  intro node hnode
  obtain ⟨source, _, hresolve⟩ := document_eq_ok_iff.mp hdocument
  rw [Node.nodesOf, Node.nodesOf, List.append_nil] at hnode
  exact (makes_of_resolve hnames source document hresolve node hnode).declares

/-- In the schema of declarations without factories, a document that has been read meets an unknown
type only if that type occurs in it and is declared without a spec, and is not that of texts; and if
there is such a type, the render fails.  So if all types but that of texts have specs, no document
ever meets an unknown type. -/
theorem unknownType_only_without_spec {declarations : List Declaration}
    (hfree : (ofDeclarations declarations).FactoryFree) {value : Json} {document : Node}
    (hdocument : (ofDeclarations declarations).documentOfJson value = .ok document)
    (displayName : Option String) (options : RendererOptions) (passthrough : Attributes) :
  (∀ kind name,
      ((Renderer.ofSchema (ofDeclarations declarations) displayName options).renderAll passthrough
          [document]).result = .error (.unknownType kind name) →
        (ofDeclarations declarations).Specless (kind, name)
          ∧ (kind, name) ∈ Node.usedTypes [document])
    ∧ (∀ type ∈ Node.usedTypes [document], (ofDeclarations declarations).Specless type →
        ∃ error, ((Renderer.ofSchema (ofDeclarations declarations) displayName options).renderAll
          passthrough [document]).result = .error error)
    ∧ ((∀ name type, (ofDeclarations declarations).nodes.find? name = some type →
          name ≠ Node.textType → type.spec.outputSpec.isSome = true) →
        (∀ name type, (ofDeclarations declarations).marks.find? name = some type →
          type.spec.outputSpec.isSome = true) →
        ∀ kind name,
          ((Renderer.ofSchema (ofDeclarations declarations) displayName options).renderAll
            passthrough [document]).result ≠ .error (.unknownType kind name))
  := by
  have hdeclares := declares_of_document (namesAgree_ofDeclarations declarations) hdocument
  refine ⟨?_, ?_, ?_⟩
  · intro kind name herror
    exact Renderer.specless_of_renderAll _ _ _ hfree hdeclares herror
  · intro type htype hspecless
    exact Renderer.exists_error_of_specless _ _ _ hfree htype hspecless
  · intro hnodes hmarks kind name herror
    obtain ⟨hspecless, _⟩ := Renderer.specless_of_renderAll _ _ _ hfree hdeclares herror
    cases kind with
    | node =>
      obtain ⟨htext, type, hfind, hspec⟩ := hspecless
      simpa [hspec] using hnodes name type hfind htext
    | mark =>
      obtain ⟨type, hfind, hspec⟩ := hspecless
      simpa [hspec] using hmarks name type hfind

/-- Declarations in which underlines lose their spec. -/
def underlineDeclarations : List Declaration :=
  [.mark "u" ⟨none, some fun _ _ => .silent (.ofTag "u")⟩, .node Node.textType .plain,
    .mark "u" ⟨none, none⟩]

/-- An underlined text, as it is written. -/
def writtenUnderline : Json :=
  .object [("type", .string "text"), ("text", .string "hi"),
    ("marks", .array [.object [("type", .string "u")]])]

/-- The underlined text as it is read. -/
def readUnderline : Node := { Node.ofText "hi" with marks := [.ofType "u"] }

theorem underline_unknown_and_paragraph_known :
  (ofDeclarations underlineDeclarations).FactoryFree
    ∧ (ofDeclarations underlineDeclarations).documentOfJson writtenUnderline = .ok readUnderline
    ∧ ((Renderer.ofSchema (ofDeclarations underlineDeclarations) none .default).renderAll
        Table.empty [readUnderline]).result = .error (.unknownType .mark "u")
    ∧ (ofDeclarations underlineDeclarations).Specless (.mark, "u")
    ∧ (.mark, "u") ∈ Node.usedTypes [readUnderline]
    ∧ (ofDeclarations paragraphDeclarations).FactoryFree
    ∧ (ofDeclarations paragraphDeclarations).documentOfJson writtenParagraph = .ok readParagraph
    ∧ ∀ kind name,
        ((Renderer.ofSchema (ofDeclarations paragraphDeclarations) none .default).renderAll
          Table.empty [readParagraph]).result ≠ .error (.unknownType kind name)
  := by
  have hfree : (ofDeclarations underlineDeclarations).FactoryFree := by
    apply factoryFree_ofDeclarations
    simp [underlineDeclarations, Declaration.FactoryFree, NodeSpec.plain]
  have hdocument : (ofDeclarations underlineDeclarations).documentOfJson writtenUnderline
      = .ok readUnderline := by
    rfl
  have herror : ((Renderer.ofSchema (ofDeclarations underlineDeclarations) none
      .default).renderAll Table.empty [readUnderline]).result
      = .error (.unknownType .mark "u") := by
    rfl
  obtain ⟨hunknown, _, _⟩ :=
    unknownType_only_without_spec hfree hdocument none .default Table.empty
  obtain ⟨hspecless, hused⟩ := hunknown _ _ herror
  have hfree' : (ofDeclarations paragraphDeclarations).FactoryFree := by
    apply factoryFree_ofDeclarations
    simp [paragraphDeclarations, Declaration.FactoryFree, NodeSpec.plain, NodeSpec.block]
  have hdocument' : (ofDeclarations paragraphDeclarations).documentOfJson writtenParagraph
      = .ok readParagraph := by
    rfl
  obtain ⟨_, _, hknown⟩ :=
    unknownType_only_without_spec hfree' hdocument' none .default Table.empty
  refine ⟨hfree, hdocument, herror, hspecless, hused, hfree', hdocument', hknown ?_ ?_⟩
  · intro name type hfind htext
    obtain ⟨_, hmem⟩ := mem_of_find?_nodes_ofDeclarations hfind
    simp only [paragraphDeclarations, List.mem_cons, Declaration.node.injEq, htext, false_and,
      reduceCtorEq, List.not_mem_nil, or_false] at hmem
    rw [hmem.2]
    rfl
  · intro name type hfind
    obtain ⟨_, hmem⟩ := mem_of_find?_marks_ofDeclarations hfind
    simp only [paragraphDeclarations, List.mem_cons, Declaration.mark.injEq, reduceCtorEq,
      List.not_mem_nil, or_false, false_or] at hmem
    rw [hmem.2]
    rfl

end Schema

end RichText
