import RichText.Proofs.ChatDocuments
import RichText.Proofs.Diagnostics

/-!
# Chat documents have nothing to report

A type of chat messages has a hole in its specs exactly if its nodes are no leaves, no spec of it is
the empty text, and every mark is a tag.  A resolved document has the flags of its nodes from their
types.  So no step of rendering it has a diagnostic, wherever the node or mark of the step stands,
and whether or not the render gets to its end.
-/

namespace RichText

/-! ### Specs with nothing to report -/

/-- A spec that is not the empty text, and has a hole exactly if the node is no leaf, has nothing to
report. -/
theorem NodeFactory.expected_eq_nil {node : Node} {spec : OutputSpec}
    (hempty : spec.isEmptyText = false) (hholes : spec.holes = 0 ↔ node.isLeaf = true) :
  expected node spec = []
  := by
  rw [expected, hempty]
  cases hleaf : node.isLeaf with
  | true =>
    rw [hleaf] at hholes
    simp [hholes.mpr rfl, Diagnostic.when]
  | false =>
    have hhole : spec.holes ≠ 0 := by
      rw [ne_eq, hholes, hleaf]
      simp
    simp [hhole, Diagnostic.when]

/-- A mark that is a tag without children has nothing to report. -/
theorem MarkFactory.expected_eq_nil {mark : Mark} {isEmpty : Bool} {spec : OutputSpec}
    (hbare : spec.isBare = true) (htagged : spec.isTagged = true) :
  expected mark isEmpty spec = []
  := by
  cases spec with
  | text s => simp [OutputSpec.isTagged] at htagged
  | native nodeType raw => simp [OutputSpec.isTagged] at htagged
  | element tag attributes children =>
    obtain rfl := List.isEmpty_iff.mp hbare
    simp [expected, expectedOfSpec, Diagnostic.when, OutputSpec.isTagged, OutputSpec.isBare,
      OutputSpec.hasNestedElement, OutputSpec.hasHole, OutputSpec.isEmptyText]

namespace Chat

/-! ### The types of chat messages -/

/-- A spec of a type fits it: it is not the empty text and has a hole exactly if the nodes of the
type are no leaves, and what is noted about it comes from this schema. -/
structure Fits (type : NodeSpec) (noted : Noted OutputSpec) : Prop where
  filled : noted.value.isEmptyText = false
  holes : noted.value.holes = 0 ↔ type.isLeaf = true
  notes : ∀ record ∈ noted.records, record.target = logTarget

theorem Fits.silent {type : NodeSpec} {spec : OutputSpec} (hfilled : spec.isEmptyText = false)
    (hholes : spec.holes = 0 ↔ type.isLeaf = true) :
  Fits type (.silent spec)
  := by
  constructor
  · exact hfilled
  · exact hholes
  · simp [Noted.silent]

theorem fits_mentionSpec (node : Node) :
  Fits (.inlineLeaf mentionSpec) (mentionSpec node)
  := by
  apply Fits.silent
  · rfl
  · exact iff_of_true rfl rfl

theorem fits_emojiSpec (node : Node) :
  Fits (.inlineLeaf emojiSpec) (emojiSpec node)
  := by
  rw [emojiSpec]
  split
  · apply Fits.silent
    · rfl
    · exact iff_of_true rfl rfl
  · constructor
    · rfl
    · exact iff_of_true rfl rfl
    · simp [unknownEmoji]

/-- Whatever its node looks like, a spec of a declared type fits the type. -/
theorem allNodes_fit :
  schema.AllNodes fun _ type =>
    ∀ specOf, type.outputSpec = some specOf → ∀ node, Fits type (specOf node)
  := by
  apply allNodes_schema
  · rintro _ ⟨⟩
  · rintro _ ⟨⟩ node
    exact .silent rfl (by decide)
  · rintro _ ⟨⟩ node
    exact .silent rfl (by decide)
  · rintro _ ⟨⟩ node
    exact .silent rfl (by decide)
  · rintro _ ⟨⟩
  · rintro _ ⟨⟩ node
    exact .silent rfl (by decide)
  · rintro _ ⟨⟩ node
    exact fits_mentionSpec node
  · rintro _ ⟨⟩ node
    exact fits_emojiSpec node

/-- Every mark of a declared type is a tag without children, and nothing is noted about it. -/
theorem allMarks_tagged :
  schema.AllMarks fun _ type => ∀ specOf, type.outputSpec = some specOf → ∀ mark isInline,
    (specOf mark isInline).value.isBare = true ∧ (specOf mark isInline).value.isTagged = true
      ∧ (specOf mark isInline).records = []
  := by
  apply allMarks_schema
  · rintro _ ⟨⟩ mark isInline
    exact ⟨rfl, rfl, rfl⟩
  · rintro _ ⟨⟩ mark isInline
    exact ⟨rfl, rfl, rfl⟩
  · rintro _ ⟨⟩ mark isInline
    exact ⟨rfl, rfl, rfl⟩

/-! ### Steps -/

/-- A step that has nothing to report, and notes nothing but what comes from this schema. -/
structure Quiet (step : Step) : Prop where
  expected : schema.expected step = []
  notes : ∀ record ∈ schema.notes step, record.target = logTarget

/-- The step of a node with the flag of its type is quiet. -/
theorem quiet_body {node : Node} (hmakes : schema.Makes node) :
  Quiet (.body node)
  := by
  obtain ⟨type, hfind, _, hleaf⟩ := hmakes.type
  cases hspec : type.spec.outputSpec with
  | none =>
    constructor
    · simp [Schema.expected, Schema.nodeSpec?, hfind, hspec]
    · simp [Schema.notes, Schema.nodeSpec?, hfind, hspec]
  | some specOf =>
    have hfits := (allNodes_fit _ _ hfind).2 specOf hspec node
    rw [NodeType.isLeaf] at hleaf
    constructor
    · simp only [Schema.expected, Schema.nodeSpec?, hfind, Option.bind_some, hspec]
      apply NodeFactory.expected_eq_nil hfits.filled
      rw [hleaf]
      exact hfits.holes
    · simp only [Schema.notes, Schema.nodeSpec?, hfind, Option.bind_some, hspec]
      exact hfits.notes

/-- The step of a mark of a declared type is quiet, whatever it is put around. -/
theorem quiet_wrap {isInline : Bool} {inner : Step} {mark : Mark}
    (hdeclared : schema.marks.contains mark.typeName = true) :
  Quiet (.wrap isInline inner mark)
  := by
  obtain ⟨type, hfind⟩ := Option.isSome_iff_exists.mp hdeclared
  cases hspec : type.spec.outputSpec with
  | none =>
    constructor
    · simp [Schema.expected, Schema.markSpec?, hfind, hspec]
    · simp [Schema.notes, Schema.markSpec?, hfind, hspec]
  | some specOf =>
    obtain ⟨hbare, htagged, hrecords⟩ := (allMarks_tagged _ _ hfind).2 specOf hspec mark isInline
    constructor
    · simp only [Schema.expected, Schema.markSpec?, hfind, Option.bind_some, hspec]
      apply MarkFactory.expected_eq_nil hbare htagged
    · simp [Schema.notes, Schema.markSpec?, hfind, hspec, hrecords]

/-- All steps of rendering the content of a resolved document are quiet. -/
theorem quiet_of_mem_ofNodes {source : SourceNode} {document : Node}
    (hresolve : schema.resolve source = .ok document) {step : Step}
    (hstep : step ∈ Step.ofNodes document.content) :
  Quiet step
  := by
  obtain ⟨node, hnode, hmem⟩ := (Step.mem_ofNodes_iff _).mp hstep
  have hmakes := makes_content hresolve node hnode
  rcases List.mem_cons.mp hmem with rfl | hmem
  · exact quiet_body hmakes
  · obtain ⟨inner, mark, hmark, rfl⟩ := Step.exists_of_mem_ofMarks hmem
    exact quiet_wrap (hmakes.marks mark hmark)

/-! ### Documents -/

/-- Rendering the content of a resolved document with diagnostics on reports nothing, whether it
gives elements or ends at a document inside: none is kept in memory, and if they go to the log,
nothing in the log comes from them. -/
theorem renders_without_diagnostics {source : SourceNode} {document : Node}
    (hresolve : schema.resolve source = .ok document) (displayName : Option String)
    (passthrough : Attributes) :
  Event.diagnostics ((Renderer.ofSchema schema displayName ⟨true, .memory⟩).renderAll passthrough
      document.content).events = []
    ∧ ∀ record ∈ Event.records ((Renderer.ofSchema schema displayName ⟨true, .log⟩).renderAll
        passthrough document.content).events, record.target ≠ Sink.logTarget
  := by
  have hquiet : ∀ step ∈ schema.performed (Step.ofNodes document.content), Quiet step := by
    intro step hstep
    exact quiet_of_mem_ofNodes hresolve (Schema.mem_of_mem_performed hstep)
  constructor
  · rw [(Renderer.diagnostics_eq_expected schema_factoryFree displayName passthrough _).1,
      List.flatMap_eq_nil_iff]
    intro step hstep
    exact (hquiet step hstep).expected
  · have hfollows := Renderer.follows_renderAll displayName ⟨true, .log⟩ passthrough
      schema_factoryFree document.content
    have htarget : logTarget ≠ Sink.logTarget := by
      decide
    intro record hrecord
    rw [hfollows.events_eq, Event.mem_records, List.mem_flatMap] at hrecord
    obtain ⟨step, hstep, hmem⟩ := hrecord
    rw [Schema.eventsOf, (hquiet step hstep).expected, List.flatMap_nil, List.append_nil] at hmem
    obtain ⟨_, hnoted, ⟨⟩⟩ := List.mem_map.mp hmem
    rw [(hquiet step hstep).notes record hnoted]
    exact htarget

/-- A document with a marked paragraph inside an emoji that there is no image for, and with a
document inside. -/
def nestedSource : SourceNode :=
  ⟨documentType, Table.empty,
    [⟨"emoji", Table.empty.insert "shortname" (.string ":nope:"),
        [⟨"paragraph", Table.empty, [⟨Node.textType, Table.empty, [], [], some ""⟩],
          [⟨"em", Table.empty⟩], none⟩],
        [⟨"code", Table.empty⟩], none⟩,
      ⟨documentType, Table.empty, [], [], none⟩],
    [], none⟩

/-- The document that is written like that. -/
def nestedDocument : Node :=
  .block documentType
    [{ Node.leaf "emoji" with
        isInline := true
        attributes := Table.empty.insert "shortname" (.string ":nope:")
        marks := [.ofType "code"]
        content := [{ Node.block "paragraph" [.ofText ""] with marks := [.ofType "em"] }] },
      .block documentType []]

theorem nestedDocument_without_diagnostics :
  schema.resolve nestedSource = .ok nestedDocument
    ∧ Event.diagnostics ((Renderer.ofSchema schema none ⟨true, .memory⟩).renderAll Table.empty
      nestedDocument.content).events = []
    ∧ (∀ record ∈ Event.records ((Renderer.ofSchema schema none ⟨true, .log⟩).renderAll
      Table.empty nestedDocument.content).events, record.target ≠ Sink.logTarget)
    ∧ ((Renderer.ofSchema schema none ⟨true, .memory⟩).renderAll Table.empty
      nestedDocument.content).result = .error (.unknownType .node documentType)
  := by
  have hresolve : schema.resolve nestedSource = .ok nestedDocument := by
    rfl
  have hquiet := renders_without_diagnostics hresolve none Table.empty
  exact ⟨hresolve, hquiet.1, hquiet.2, rfl⟩

end Chat

end RichText
