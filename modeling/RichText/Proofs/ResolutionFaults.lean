import RichText.Proofs.Outlines
import RichText.Proofs.ResolvedNodes

/-!
# Which fault a document is refused for

Resolving makes demands on a document and its schema in a fixed order (`SourceNode.demands`): for
each node the types of its marks, then a text or what its content demands, then its own type.  A
document is refused for the first demand that is not met, and resolves if all of them are.
-/

namespace RichText

/-- What resolving asks for: a declared type of marks or of nodes, or a text where there may be
none. -/
inductive Demand where
  | markType (name : String)
  | text (found : Option String)
  | nodeType (name : String)
deriving DecidableEq

/-- The error of a demand that is not met. -/
def Demand.fault? (schema : Schema) : Demand → Option SchemaError
  | markType name => if schema.marks.contains name then none else some (.unknownMarkType name)
  | text found => if found.isSome then none else some .missingText
  | nodeType name => if schema.nodes.contains name then none else some (.unknownNodeType name)

namespace SourceNode

mutual

/-- The demands of a written node, in their order; below a text there are none. -/
def demands : SourceNode → List Demand
  | { typeName, content, marks, text, .. } =>
    marks.map (.markType ·.typeName)
      ++ (if typeName = Node.textType then [.text text] else demandsOf content)
      ++ [.nodeType typeName]
termination_by structural source => source

/-- The demands of written nodes, from the first one to the last one. -/
def demandsOf : List SourceNode → List Demand
  | [] => []
  | source :: rest => demands source ++ demandsOf rest
termination_by structural sources => sources

end

end SourceNode

namespace Schema

variable {schema : Schema} {α β : Type}

/-- A demand fails with the error, and all demands before it are met. -/
def FirstFault (schema : Schema) (demands : List Demand) (error : SchemaError) : Prop :=
  ∃ before demand after, demands = before ++ demand :: after
    ∧ (∀ earlier ∈ before, earlier.fault? schema = none) ∧ demand.fault? schema = some error

/-! ### Steps that mind demands -/

/-- A step fails for the first demand that is not met, and else gives a result. -/
def Minds (schema : Schema) (demands : List Demand) (step : Except SchemaError α) : Prop :=
  ∀ error, step = .error error ↔ demands.findSome? (·.fault? schema) = some error

theorem firstFault_iff {demands : List Demand} {error : SchemaError} :
  schema.FirstFault demands error ↔ demands.findSome? (·.fault? schema) = some error
  := by
  rw [List.findSome?_eq_some_iff]
  simp only [FirstFault, and_comm]

/-- What gives a result minds demands that are all met. -/
theorem minds_ok {demands : List Demand} {a : α} :
  schema.Minds demands (.ok a) ↔ demands.findSome? (·.fault? schema) = none
  := by
  rw [Option.eq_none_iff_forall_ne_some]
  simp [Minds, eq_comm]

theorem minds_error {demands : List Demand} {error : SchemaError} :
  schema.Minds demands (.error error : Except SchemaError α)
    ↔ demands.findSome? (·.fault? schema) = some error
  := by
  constructor
  · intro h
    exact (h error).mp rfl
  · intro h other
    rw [h, Option.some.injEq, Except.error.injEq]

/-- A sequence minds the demands of its first step, and behind it those of the second one. -/
theorem Minds.bind {demands demands' : List Demand} {step : Except SchemaError α}
    {next : α → Except SchemaError β} (h : schema.Minds demands step)
    (hnext : ∀ a, schema.Minds demands' (next a)) :
  schema.Minds (demands ++ demands') (step >>= next)
  := by
  intro error
  rw [List.findSome?_append]
  cases step with
  | error fault =>
    rw [minds_error.mp h, error_bind, Option.some_or, Option.some.injEq, Except.error.injEq]
  | ok a =>
    rw [minds_ok.mp h, ok_bind, Option.none_or]
    exact hnext a error

/-- What is made of a result makes no demands. -/
theorem Minds.bind_pure {demands : List Demand} {step : Except SchemaError α}
    (h : schema.Minds demands step) (f : α → β) :
  schema.Minds demands (step >>= fun a => pure (f a))
  := by
  rw [← demands.append_nil]
  apply h.bind
  intro a
  exact minds_ok.mpr rfl

/-! ### Whole documents -/

theorem minds_nodeType (name : String) :
  schema.Minds [.nodeType name] (schema.nodeType name)
  := by
  rw [Schema.nodeType]
  cases hfind : schema.nodes.find? name with
  | none => simp [minds_error, Demand.fault?, Table.contains, hfind]
  | some type => simp [minds_ok, Demand.fault?, Table.contains, hfind]

theorem minds_markType (name : String) :
  schema.Minds [.markType name] (schema.markType name)
  := by
  rw [Schema.markType]
  cases hfind : schema.marks.find? name with
  | none => simp [minds_error, Demand.fault?, Table.contains, hfind]
  | some type => simp [minds_ok, Demand.fault?, Table.contains, hfind]

theorem minds_node (name : String) (attributes : Attributes) (content : List Node)
    (marks : List Mark) :
  schema.Minds [.nodeType name] (schema.node name attributes content marks)
  := (minds_nodeType name).bind_pure _

/-- A text demands that there is one, and then that texts are declared. -/
theorem minds_text (text : Option String) (marks : List Mark) :
  schema.Minds [.text text, .nodeType Node.textType]
    (match text with
    | some text => schema.text text marks
    | none => .error .missingText)
  := by
  cases text with
  | none => exact minds_error.mpr rfl
  | some text => exact (minds_node Node.textType Table.empty [] marks).bind_pure _

/-- The marks of a node demand their types, from the first one to the last one. -/
theorem minds_resolveMarks (sources : List SourceMark) :
  schema.Minds (sources.map (.markType ·.typeName)) (sources.mapM schema.resolveMark)
  := by
  induction sources with
  | nil => exact minds_ok.mpr rfl
  | cons source rest ih =>
    rw [List.mapM_cons, List.map_cons, ← List.singleton_append]
    apply Minds.bind
    · exact ((minds_markType source.typeName).bind_pure _).bind_pure _
    · intro mark
      exact ih.bind_pure _

mutual

/-- Resolving a node minds its demands. -/
theorem minds_resolve :
    ∀ source : SourceNode, schema.Minds source.demands (schema.resolve source)
  | ⟨typeName, attributes, content, marks, text⟩ => by
    rw [SourceNode.demands, resolve, List.append_assoc]
    apply (minds_resolveMarks marks).bind
    intro resolved
    by_cases htext : typeName = Node.textType
    · subst htext
      exact minds_text text resolved
    · rw [if_neg htext, if_neg htext]
      apply (minds_resolveAll content).bind
      intro nodes
      exact minds_node typeName attributes nodes resolved

/-- Resolving nodes minds their demands. -/
theorem minds_resolveAll :
    ∀ sources : List SourceNode,
      schema.Minds (SourceNode.demandsOf sources) (schema.resolveAll sources)
  | [] => minds_ok.mpr rfl
  | source :: rest => by
    rw [SourceNode.demandsOf, resolveAll]
    apply (minds_resolve source).bind
    intro node
    exact (minds_resolveAll rest).bind_pure _

end

/-- What stands below a text does not count. -/
theorem resolve_content_of_text {source : SourceNode} (h : source.typeName = Node.textType)
    (content : List SourceNode) :
  schema.resolve { source with content := content } = schema.resolve source
  := by
  obtain ⟨typeName, attributes, content', marks, text⟩ := source
  obtain rfl : typeName = Node.textType := h
  rfl

/-- A document that has been read resolves exactly if on every node that is reached the types of
the node and of its marks are declared and every text has a text; otherwise its error is the first
fault: of each node first those of its marks, from the first one to the last one, then that of a
missing text, or of any other node those of its content, and at last that of its own type.  What
stands below a text is not reached. -/
theorem document_fails_at_first_fault (schema : Schema) (source : SourceNode) :
  (∀ value, SourceNode.ofJson value = .ok source →
      ((∃ node, schema.documentOfJson value = .ok node)
          ↔ ∀ reached ∈ source.reached, schema.Admits reached)
        ∧ ∀ error, schema.documentOfJson value = .error error
          ↔ schema.FirstFault source.demands error)
    ∧ (∀ text, SourceNode.ofText text = .ok source →
      ((∃ node, schema.documentOfText text = .ok node)
          ↔ ∀ reached ∈ source.reached, schema.Admits reached)
        ∧ ∀ error, schema.documentOfText text = .error error
          ↔ schema.FirstFault source.demands error)
    ∧ (source.typeName = Node.textType →
      ∀ content, schema.resolve { source with content := content } = schema.resolve source)
  := by
  have hread : ∀ read : Except Json.ReadError SourceNode, read = .ok source →
      ((∃ node, schema.document read = .ok node)
          ↔ ∀ reached ∈ source.reached, schema.Admits reached)
        ∧ ∀ error, schema.document read = .error error ↔ schema.FirstFault source.demands error := by
    rintro read rfl
    constructor
    · exact exists_resolve_iff source
    · intro error
      rw [firstFault_iff]
      exact minds_resolve source error
  refine ⟨?_, ?_, resolve_content_of_text⟩
  · intro value hvalue
    exact hread _ hvalue
  · intro text htext
    exact hread _ htext

/-- A written video whose type is not declared.  The first image in it has a text without a text,
the second one a mark of another type that is not declared. -/
def writtenVideo : Json :=
  .object [("type", .string "video"), ("marks", .array [.object [("type", .string "em")]]),
    ("content", .array [
      .object [("type", .string "image"), ("content", .array [.object [("type", .string "text")]])],
      .object [("type", .string "image"), ("marks", .array [.object [("type", .string "u")]])]])]

/-- The video as it is read. -/
def videoSource : SourceNode :=
  ⟨"video", Table.empty,
    [⟨"image", Table.empty, [⟨Node.textType, Table.empty, [], [], none⟩], [], none⟩,
      ⟨"image", Table.empty, [], [⟨"u", Table.empty⟩], none⟩],
    [⟨"em", Table.empty⟩], none⟩

/-- A written text that has no text, but a node of an unknown type below it. -/
def bareText : String :=
  "\x7b\"type\":\"text\",\"content\":[\x7b\"type\":\"audio\"\x7d]\x7d"

/-- The text as it is read. -/
def bareSource : SourceNode :=
  ⟨Node.textType, Table.empty, [⟨"audio", Table.empty, [], [], none⟩], [], none⟩

theorem ofText_bareText :
  SourceNode.ofText bareText = .ok bareSource
  := by
  rw [SourceNode.ofText, Json.Outline.ofText_eq, bareText]
  simp [Json.Outline.skipBlanks, Json.Outline.isBlank, List.dropWhile, Json.Outline.scanQuotation,
    Json.Quotation.scan, Json.Outline.fieldsBehindName, Json.Quotation.cons,
    Json.Outline.fieldsBehind]
  rfl

theorem video_and_bareText_miss_text :
  (SourceNode.ofJson writtenVideo = .ok videoSource
      ∧ (ofDeclarations imageDeclarations).FirstFault videoSource.demands .missingText
      ∧ (ofDeclarations imageDeclarations).documentOfJson writtenVideo = .error .missingText)
    ∧ SourceNode.ofText bareText = .ok bareSource
      ∧ (ofDeclarations imageDeclarations).FirstFault bareSource.demands .missingText
      ∧ (ofDeclarations imageDeclarations).documentOfText bareText = .error .missingText
      ∧ bareSource.typeName = Node.textType
      ∧ (ofDeclarations imageDeclarations).resolve { bareSource with content := [] }
        = (ofDeclarations imageDeclarations).resolve bareSource
  := by
  have hvideo : SourceNode.ofJson writtenVideo = .ok videoSource := by
    rfl
  have hvideoFault : (ofDeclarations imageDeclarations).FirstFault videoSource.demands
      .missingText := by
    use [.markType "em"], .text none, videoSource.demands.drop 2
    decide
  have hbareFault : (ofDeclarations imageDeclarations).FirstFault bareSource.demands
      .missingText := by
    use [], .text none, bareSource.demands.drop 1
    decide
  obtain ⟨hjson, _, _⟩ :=
    document_fails_at_first_fault (ofDeclarations imageDeclarations) videoSource
  obtain ⟨_, htext, hcontent⟩ :=
    document_fails_at_first_fault (ofDeclarations imageDeclarations) bareSource
  exact ⟨⟨hvideo, hvideoFault, ((hjson _ hvideo).2 _).mpr hvideoFault⟩, ofText_bareText, hbareFault,
    ((htext _ ofText_bareText).2 _).mpr hbareFault, rfl, hcontent rfl []⟩

end Schema

end RichText
