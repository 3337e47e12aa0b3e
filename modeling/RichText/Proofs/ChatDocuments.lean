import RichText.Command.Run
import RichText.Proofs.Rendering
import RichText.Proofs.Resolution

/-!
# Which chat documents are rendered

Every type of chat messages has a spec that can be interpreted, whatever its node looks like, but
for texts, which need none, and whole documents, which are not rendered.  So a document of chat
messages is rendered unless there is a document inside it, and nothing else can go wrong.
-/

namespace RichText

/-- A spec that can be interpreted is interpreted without an error. -/
theorem OutputSpec.Interpretable.ne_error {consumed : Bool} {spec : OutputSpec}
    (h : spec.Interpretable consumed) (content : Element) (error : RenderError) :
  spec.interpret content consumed ≠ .error error
  := by
  rw [interpret_eq_ok_iff.mpr ⟨h, rfl⟩]
  simp

namespace Chat

/-- The name of the type of whole documents. -/
def documentType : String := "doc"

/-- The name of the type of mentions. -/
def mentionType : String := "mention"

/-- The name of the attribute of a mention that holds the name of the user. -/
def usernameAttribute : String := "username"

/-! ### The specs of chat messages -/

/-- Whatever its attributes are, a mention has a spec that can be interpreted. -/
theorem interpretable_mentionSpec (node : Node) :
  (mentionSpec node).value.Interpretable false
  := by
  simp [mentionSpec, Noted.silent, mentionOf, OutputSpec.ofTag, OutputSpec.attr, OutputSpec.child]

/-- Whatever its shortname is, an emoji has a spec that can be interpreted. -/
theorem interpretable_emojiSpec (node : Node) :
  (emojiSpec node).value.Interpretable false
  := by
  rw [emojiSpec]
  split
  · simp [Noted.silent, imageSpec, OutputSpec.ofTag, OutputSpec.attr]
  · simp [imageSpec, OutputSpec.ofTag, OutputSpec.attr]

/-- What a type of nodes is in the chat schema: whole documents, texts, or one whose specs can be
interpreted. -/
inductive Manner (name : String) (spec : NodeSpec) : Prop where
  | document (hname : name = documentType) (hspec : spec.outputSpec = none)
  | literal (hname : name = Node.textType) (hspec : spec.outputSpec = none)
  | described (specOf : NodeSpecFunction) (hname : name ≠ documentType)
      (hspec : spec.outputSpec = some specOf)
      (hinterpretable : ∀ node, (specOf node).value.Interpretable false)

theorem allNodes_manner :
  schema.AllNodes Manner
  := by
  apply allNodes_schema
  · exact .document rfl rfl
  · apply Manner.described _ (by decide) rfl
    simp [Noted.silent, around, OutputSpec.ofTag, OutputSpec.hole]
  · apply Manner.described _ (by decide) rfl
    simp [Noted.silent, around, OutputSpec.ofTag, OutputSpec.hole]
  · apply Manner.described _ (by decide) rfl
    simp [Noted.silent, around, OutputSpec.ofTag, OutputSpec.hole, OutputSpec.child]
  · exact .literal rfl rfl
  · apply Manner.described _ (by decide) rfl
    simp [Noted.silent, OutputSpec.ofTag]
  · exact .described _ (by decide) rfl interpretable_mentionSpec
  · exact .described _ (by decide) rfl interpretable_emojiSpec

/-- Every mark is rendered by a tag without children. -/
theorem allMarks_bare :
  schema.AllMarks fun _ spec => ∃ specOf, spec.outputSpec = some specOf
    ∧ ∀ mark isInline, (specOf mark isInline).value.isBare = true
  := by
  apply allMarks_schema
  · exact ⟨_, rfl, fun _ _ => rfl⟩
  · exact ⟨_, rfl, fun _ _ => rfl⟩
  · exact ⟨_, rfl, fun _ _ => rfl⟩

/-! ### Nodes and marks of declared types -/

/-- A declared type of nodes is one of those of the chat schema. -/
theorem exists_manner {name : String} (hdeclared : schema.nodes.contains name = true) :
  ∃ spec, schema.nodeSpec? name = spec.outputSpec ∧ Manner name spec
  := by
  obtain ⟨type, hfind⟩ := Option.isSome_iff_exists.mp hdeclared
  use type.spec
  constructor
  · rw [Schema.nodeSpec?, hfind, Option.bind_some]
  · apply (allNodes_manner name type hfind).2

/-- A node of a declared type is rendered unless it is a document. -/
theorem rendersNode_iff {node : Node} (hdeclared : schema.nodes.contains node.typeName = true) :
  schema.RendersNode node ↔ node.typeName ≠ documentType
  := by
  obtain ⟨spec, hspec, hmanner⟩ := exists_manner hdeclared
  rw [Schema.RendersNode, hspec]
  cases hmanner with
  | document hname hnone =>
    have htext : documentType ≠ Node.textType := by decide
    simp [hname, hnone, htext]
  | literal hname hnone =>
    have htext : Node.textType ≠ documentType := by decide
    simp [hname, hnone, htext]
  | described specOf hname hsome hinterpretable =>
    constructor
    · exact fun _ => hname
    · exact fun _ => .inr ⟨specOf, hsome, hinterpretable node⟩

/-- The only fault of a node of a declared type is that it is a document. -/
theorem nodeFault_eq {node : Node} (hdeclared : schema.nodes.contains node.typeName = true)
    {error : RenderError} (hfault : schema.NodeFault node error) :
  error = .unknownType .node documentType
  := by
  obtain ⟨spec, hspec, hmanner⟩ := exists_manner hdeclared
  rw [Schema.NodeFault, hspec] at hfault
  cases hmanner with
  | document hname hnone =>
    rw [hnone] at hfault
    rw [hfault.2, hname]
  | literal hname hnone =>
    rw [hnone] at hfault
    exact absurd hname hfault.1
  | described specOf hname hsome hinterpretable =>
    rw [hsome] at hfault
    obtain ⟨content, hfault⟩ := hfault
    exact absurd hfault ((hinterpretable node).ne_error content error)

/-- A mark of a declared type has a spec that is a tag without children. -/
theorem exists_markSpec {name : String} (hdeclared : schema.marks.contains name = true) :
  ∃ specOf, schema.markSpec? name = some specOf
    ∧ ∀ mark isInline, (specOf mark isInline).value.isBare = true
  := by
  obtain ⟨type, hfind⟩ := Option.isSome_iff_exists.mp hdeclared
  obtain ⟨specOf, hspec, hbare⟩ := (allMarks_bare name type hfind).2
  use specOf
  constructor
  · rw [Schema.markSpec?, hfind, Option.bind_some, hspec]
  · apply hbare

/-- A mark of a declared type is rendered. -/
theorem rendersMark {mark : Mark} (hdeclared : schema.marks.contains mark.typeName = true)
    (isInline : Bool) :
  schema.RendersMark isInline mark
  := by
  obtain ⟨specOf, hspec, hbare⟩ := exists_markSpec hdeclared
  use specOf, hspec, hbare mark isInline

/-- A mark of a declared type has no fault. -/
theorem not_markFault {mark : Mark} (hdeclared : schema.marks.contains mark.typeName = true)
    (isInline : Bool) (error : RenderError) :
  ¬ schema.MarkFault isInline mark error
  := by
  obtain ⟨specOf, hspec, hbare⟩ := exists_markSpec hdeclared
  rw [Schema.MarkFault, hspec]
  rintro ⟨content, hfault⟩
  have hinterpretable := OutputSpec.interpretable_hole.mpr (hbare mark isInline)
  exact absurd hfault (hinterpretable.ne_error content error)

/-! ### Documents -/

variable (displayName : Option String) (options : RendererOptions)

/-- A fragment of declared types is rendered unless there is a document in it. -/
theorem exists_renderAll_iff {fragment : List Node} (passthrough : Attributes)
    (hdeclared : ∀ node ∈ Node.nodesOf fragment, schema.Declares node) :
  (∃ elements, ((Renderer.ofSchema schema displayName options).renderAll passthrough
      fragment).result = .ok elements)
    ↔ ∀ node ∈ Node.nodesOf fragment, node.typeName ≠ documentType
  := by
  simp only [Renderer.renderAll_eq_ok_iff _ _ _ schema_factoryFree]
  constructor
  · rintro ⟨_, hnodes, _⟩ node hmem
    apply (rendersNode_iff (hdeclared node hmem).node).mp
    exact (hnodes node hmem).1
  · intro hnodes
    refine ⟨_, ?_, rfl⟩
    intro node hmem
    constructor
    · exact (rendersNode_iff (hdeclared node hmem).node).mpr (hnodes node hmem)
    · intro mark hmark
      exact rendersMark ((hdeclared node hmem).marks mark hmark) node.isInline

/-- A fragment of declared types that is not rendered has a document in it. -/
theorem renderAll_error_eq {fragment : List Node} (passthrough : Attributes)
    (hdeclared : ∀ node ∈ Node.nodesOf fragment, schema.Declares node) {error : RenderError}
    (herror : ((Renderer.ofSchema schema displayName options).renderAll passthrough
      fragment).result = .error error) :
  error = .unknownType .node documentType
  := by
  obtain ⟨node, hmem, hfault | ⟨mark, hmark, hfault⟩⟩ :=
    Renderer.exists_fault_of_renderAll _ _ _ schema_factoryFree _ herror
  · exact nodeFault_eq (hdeclared node hmem).node hfault
  · exact absurd hfault (not_markFault ((hdeclared node hmem).marks mark hmark) _ error)

/-- The HTML of a fragment is there when its elements are. -/
theorem exists_renderHtml_iff {fragment : List Node} (passthrough : Attributes)
    (hdeclared : ∀ node ∈ Node.nodesOf fragment, schema.Declares node) :
  (∃ html, ((Renderer.ofSchema schema displayName options).renderHtml passthrough
      fragment).result = .ok html)
    ↔ ∀ node ∈ Node.nodesOf fragment, node.typeName ≠ documentType
  := by
  rw [← exists_renderAll_iff displayName options passthrough hdeclared]
  simp only [Renderer.renderHtml, Render.result_bind, bind_eq_ok_iff, Render.result_pure]
  constructor
  · rintro ⟨_, elements, helements, _⟩
    exact ⟨elements, helements⟩
  · rintro ⟨elements, helements⟩
    exact ⟨_, elements, helements, rfl⟩

/-- Without its HTML a fragment has no elements either, and fails for the same reason. -/
theorem renderHtml_error_eq {fragment : List Node} (passthrough : Attributes)
    (hdeclared : ∀ node ∈ Node.nodesOf fragment, schema.Declares node) {error : RenderError}
    (herror : ((Renderer.ofSchema schema displayName options).renderHtml passthrough
      fragment).result = .error error) :
  error = .unknownType .node documentType
  := by
  rw [Renderer.renderHtml, Render.result_bind, bind_eq_error_iff] at herror
  rcases herror with herror | ⟨elements, _, herror⟩
  · exact renderAll_error_eq displayName options passthrough hdeclared herror
  · simp at herror

/-- All nodes in the content of a resolved chat document are nodes that the schema makes. -/
theorem makes_content {source : SourceNode} {document : Node}
    (hresolve : schema.resolve source = .ok document) :
  ∀ node ∈ Node.nodesOf document.content, schema.Makes node
  := by
  have hnodes := Schema.makes_of_resolve schema_namesAgree source document hresolve
  rw [Node.nodes_eq, List.forall_mem_cons] at hnodes
  apply hnodes.2

/-- All nodes in the content of a resolved chat document are of declared types. -/
theorem declares_content {source : SourceNode} {document : Node}
    (hresolve : schema.resolve source = .ok document) :
  ∀ node ∈ Node.nodesOf document.content, schema.Declares node
  := by
  intro node hmem
  exact (makes_content hresolve node hmem).declares

/-- HTML comes from rendering the content of the document of the text. -/
theorem renderDocument_eq_ok_iff {renderer : Renderer} {text html : String} :
  (Command.renderDocument renderer text).2 = .ok html
    ↔ ∃ document, schema.documentOfText text = .ok document
      ∧ (renderer.renderHtml Table.empty document.content).result = .ok html
  := by
  rw [Command.renderDocument]
  cases schema.documentOfText text with
  | error fault => simp
  | ok document => simp [mapError_eq_ok_iff]

/-- If a text is a document, an error comes from rendering its content. -/
theorem exists_renderHtml_error {renderer : Renderer} {text : String} {document : Node}
    {error : Command.DocumentError} (hdocument : schema.documentOfText text = .ok document)
    (herror : (Command.renderDocument renderer text).2 = .error error) :
  ∃ fault, (renderer.renderHtml Table.empty document.content).result = .error fault
    ∧ error = .unrenderable fault
  := by
  rw [Command.renderDocument, hdocument] at herror
  obtain ⟨fault, hfault, rfl⟩ := mapError_eq_error_iff.mp herror
  use fault, hfault

/-- A chat document is rendered exactly if its text can be read, the types of all nodes and marks
that are reached in it are known, every text has a text, and there is no document below the root of
what it resolves to.  A document that resolves and is not rendered has a document in it, and that
is the error. -/
theorem renderDocument_iff (text : String) :
  ((∃ html, (Command.renderDocument (Renderer.ofSchema schema displayName options) text).2
        = .ok html)
      ↔ ∃ source, SourceNode.ofText text = .ok source
          ∧ (∀ reached ∈ source.reached, schema.Admits reached)
          ∧ ∃ document, schema.resolve source = .ok document
            ∧ ∀ node ∈ Node.nodesOf document.content, node.typeName ≠ documentType)
    ∧ ∀ document error, schema.documentOfText text = .ok document →
        (Command.renderDocument (Renderer.ofSchema schema displayName options) text).2
            = .error error →
          error = .unrenderable (.unknownType .node documentType)
  := by
  refine ⟨⟨?_, ?_⟩, ?_⟩
  · rintro ⟨html, hhtml⟩
    obtain ⟨document, hdocument, hrender⟩ := renderDocument_eq_ok_iff.mp hhtml
    obtain ⟨source, hread, hresolve⟩ := Schema.document_eq_ok_iff.mp hdocument
    have hdeclared := declares_content hresolve
    use source, hread, (Schema.exists_resolve_iff source).mp ⟨document, hresolve⟩, document,
      hresolve
    apply (exists_renderHtml_iff displayName options Table.empty hdeclared).mp ⟨html, hrender⟩
  · rintro ⟨source, hread, _, document, hresolve, hnodes⟩
    have hdeclared := declares_content hresolve
    obtain ⟨html, hrender⟩ :=
      (exists_renderHtml_iff displayName options Table.empty hdeclared).mpr hnodes
    use html
    apply renderDocument_eq_ok_iff.mpr
    use document, Schema.document_eq_ok_iff.mpr ⟨source, hread, hresolve⟩
  · intro document error hdocument herror
    obtain ⟨source, _, hresolve⟩ := Schema.document_eq_ok_iff.mp hdocument
    obtain ⟨fault, hfault, rfl⟩ := exists_renderHtml_error hdocument herror
    rw [renderHtml_error_eq displayName options Table.empty (declares_content hresolve) hfault]

end Chat

end RichText
