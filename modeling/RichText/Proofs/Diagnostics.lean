import RichText.Proofs.Steps

/-!
# What a render reports

In a schema without factories, the diagnostics of a step are settled by the shapes of its node or
mark and of its spec: by flags, by direct children, and by the number of holes
(`Schema.expected`).  What a factory finds out while it renders says the same, since a hole is used
if there is one, and an element is empty if its spec is the empty text.  The events of a render are
those of the steps that are performed, one step after the other.
-/

namespace RichText

/-! ### Expected diagnostics -/

/-- A diagnostic that is given only under a condition. -/
def Diagnostic.when (condition : Bool) (diagnostic : Diagnostic) : List Diagnostic :=
  if condition then [diagnostic] else []

/-- Whether a spec is the empty text. -/
def OutputSpec.isEmptyText : OutputSpec → Bool
  | .text s => s.isEmpty
  | _ => false

/-- The diagnostics of a node whose spec can be interpreted: the node is a leaf and the spec has a
hole, or it is none, has content and the spec has no hole; the spec is the empty text. -/
def NodeFactory.expected (node : Node) (spec : OutputSpec) : List Diagnostic :=
  if spec.Interpretable false then
    Diagnostic.when (node.isLeaf && spec.holes != 0) (.leafRenderedContent node.typeName)
      ++ Diagnostic.when (!node.isLeaf && !node.content.isEmpty && spec.holes == 0)
        (.contentNotRendered node.typeName)
      ++ Diagnostic.when spec.isEmptyText (.noElementRendered .node node.typeName)
  else []

namespace MarkFactory

/-- The diagnostics of a mark and its spec, whether or not the spec can be interpreted: the spec has
no tag, or it has a tag as a direct child, and a hole as a direct child. -/
def expectedOfSpec (mark : Mark) (spec : OutputSpec) : List Diagnostic :=
  Diagnostic.when (!spec.isTagged) (.markSpecNotElement mark.typeName)
    ++ Diagnostic.when spec.hasNestedElement (.markSpecNested mark.typeName)
    ++ Diagnostic.when spec.hasHole (.markSpecHasHole mark.typeName)

/-- The diagnostics of a mark around an element, which may be known to be empty.  Beyond those of
the spec, there are some if the spec is a text or a tag without children: the spec is a text in
place of an element that is not empty; the spec is the empty text. -/
def expected (mark : Mark) (isEmpty : Bool) (spec : OutputSpec) : List Diagnostic :=
  expectedOfSpec mark spec
    ++ if spec.isBare then
        Diagnostic.when (!isEmpty && !spec.isTagged) (.markContentNotRendered mark.typeName)
          ++ Diagnostic.when spec.isEmptyText (.noElementRendered .mark mark.typeName)
      else []

end MarkFactory

namespace Schema

variable (schema : Schema)

/-- Whether a step that succeeds makes an empty text: that is its spec, or it renders a text that is
empty, or missing. -/
def makesEmpty : Step → Bool
  | .body node =>
    match schema.nodeSpec? node.typeName with
    | some specOf => (specOf node).value.isEmptyText
    | none => (node.text.getD "").isEmpty
  | .wrap isInline _ mark =>
    match schema.markSpec? mark.typeName with
    | some specOf => (specOf mark isInline).value.isEmptyText
    | none => false

/-- The diagnostics of a step. -/
def expected : Step → List Diagnostic
  | .body node =>
    match schema.nodeSpec? node.typeName with
    | some specOf => NodeFactory.expected node (specOf node).value
    | none => []
  | .wrap isInline inner mark =>
    match schema.markSpec? mark.typeName with
    | some specOf =>
      MarkFactory.expected mark (schema.makesEmpty inner) (specOf mark isInline).value
    | none => []

/-- What the spec function of a step writes to the log. -/
def notes : Step → List LogRecord
  | .body node =>
    match schema.nodeSpec? node.typeName with
    | some specOf => (specOf node).records
    | none => []
  | .wrap isInline _ mark =>
    match schema.markSpec? mark.typeName with
    | some specOf => (specOf mark isInline).records
    | none => []

/-- The events of a step: what its spec function writes, then its diagnostics. -/
def eventsOf (options : RendererOptions) (step : Step) : List Event :=
  (schema.notes step).map .logged ++ (schema.expected step).flatMap options.report

end Schema

/-! ### What factories report -/

@[simp]
theorem RendererOptions.flatMap_when (options : RendererOptions) (condition : Bool)
    (diagnostic : Diagnostic) :
  (diagnostic.when condition).flatMap options.report = options.reportIf condition diagnostic
  := by
  cases condition with
  | false => rfl
  | true => simp [Diagnostic.when, reportIf]

namespace OutputSpec

/-- The element of a spec is empty if the spec is the empty text. -/
theorem isEmpty_fill {consumed : Bool} {spec : OutputSpec} (h : spec.Interpretable consumed)
    (content : Element) :
  (spec.fill content).isEmpty = spec.isEmptyText
  := by
  cases spec with
  | text s => rfl
  | native nodeType raw => simp at h
  | element tag attributes children =>
    rw [fill_element]
    rfl

/-- An element that takes the place of its content, or wraps it, is empty if its spec is the empty
text. -/
theorem isEmpty_wrap {spec : OutputSpec} (h : spec.isBare = true) (content : Element) :
  (spec.wrap content).isEmpty = spec.isEmptyText
  := by
  cases spec with
  | text s => rfl
  | native nodeType raw => simp [isBare] at h
  | element tag attributes children => rfl

/-- Where no hole has been used before, one is used if the spec has one. -/
theorem usesHole_false (spec : OutputSpec) :
  spec.usesHole false = (spec.holes != 0)
  := by
  have hor := or_usesHole false spec
  simpa using hor

/-- The hole behind the children of a spec is used if there is a tag around it. -/
theorem usesHole_hole {spec : OutputSpec} (h : spec.isBare = true) :
  spec.hole.usesHole false = spec.isTagged
  := by
  cases spec with
  | text s => rfl
  | native nodeType raw => simp [isBare] at h
  | element tag attributes children =>
    obtain rfl := List.isEmpty_iff.mp h
    rfl

/-- A spec that cannot be interpreted gives an error. -/
theorem exists_interpret_eq_error {consumed : Bool} {spec : OutputSpec}
    (h : ¬ spec.Interpretable consumed) (content : Element) :
  ∃ error, spec.interpret content consumed = .error error
  := by
  cases hinterpret : spec.interpret content consumed with
  | error error => exact ⟨error, rfl⟩
  | ok interpreted => exact absurd (interpret_eq_ok_iff.mp hinterpret).1 h

end OutputSpec

namespace NodeFactory

variable (options : RendererOptions) (specOf : NodeSpecFunction) {node : Node} {content : Element}
  (passthrough : Attributes)

/-- A factory of specs reports what its spec function writes, and what is suspicious about the
element once there is one. -/
theorem events_ofSpec :
  (ofSpec options specOf node content passthrough).events
    = (specOf node).records.map .logged
      ++ match (specOf node).value.interpret content false with
        | .ok interpreted => diagnose options node content interpreted
        | .error _ => []
  := by
  rw [ofSpec, Render.events_bind_of_ok rfl]
  congr 1
  cases (specOf node).value.interpret content false with
  | error error => rfl
  | ok interpreted =>
    rw [Render.events_bind_of_ok rfl, Render.events_bind_of_ok rfl]
    apply List.append_nil

/-- The diagnostics are the expected ones, if it is known whether the content is empty. -/
theorem events_ofSpec_eq (hcontent : content.isEmpty = node.content.isEmpty) :
  (ofSpec options specOf node content passthrough).events
    = (specOf node).records.map .logged
      ++ (expected node (specOf node).value).flatMap options.report
  := by
  rw [events_ofSpec, expected]
  congr 1
  by_cases hspec : (specOf node).value.Interpretable false
  · have hholes : (!((specOf node).value.holes != 0)) = ((specOf node).value.holes == 0) := by
      rw [bne, Bool.not_not]
    rw [if_pos hspec, OutputSpec.interpret_eq_ok_iff.mpr ⟨hspec, rfl⟩]
    simp only [diagnose, List.flatMap_append, RendererOptions.flatMap_when,
      OutputSpec.usesHole_false, OutputSpec.isEmpty_fill hspec, hcontent, hholes]
  · obtain ⟨error, herror⟩ := OutputSpec.exists_interpret_eq_error hspec content
    rw [if_neg hspec, herror]
    rfl

end NodeFactory

namespace MarkFactory

variable (options : RendererOptions) (specOf : MarkSpecFunction) {isInline : Bool} {mark : Mark}
  {content : Element} (passthrough : Attributes)

/-- A factory of specs of marks reports what its spec function writes, what is suspicious about the
spec, and what is suspicious about the element once there is one. -/
theorem events_ofSpec :
  (ofSpec options specOf mark isInline content passthrough).events
    = (specOf mark isInline).records.map .logged
      ++ (diagnoseSpec options mark (specOf mark isInline).value
        ++ match (specOf mark isInline).value.hole.interpret content false with
          | .ok interpreted => diagnose options mark content interpreted
          | .error _ => [])
  := by
  rw [ofSpec, Render.events_bind_of_ok rfl]
  congr 1
  rw [Render.events_bind_of_ok rfl]
  congr 1
  cases (specOf mark isInline).value.hole.interpret content false with
  | error error => rfl
  | ok interpreted =>
    rw [Render.events_bind_of_ok rfl, Render.events_bind_of_ok rfl]
    apply List.append_nil

/-- The diagnostics of the spec are the expected ones. -/
theorem diagnoseSpec_eq (spec : OutputSpec) :
  diagnoseSpec options mark spec = (expectedOfSpec mark spec).flatMap options.report
  := by
  simp only [expectedOfSpec, List.flatMap_append, RendererOptions.flatMap_when]
  cases spec with
  | text s => simp [diagnoseSpec, RendererOptions.reportIf, OutputSpec.isTagged,
      OutputSpec.hasNestedElement, OutputSpec.hasHole]
  | native nodeType raw => simp [diagnoseSpec, RendererOptions.reportIf, OutputSpec.isTagged,
      OutputSpec.hasNestedElement, OutputSpec.hasHole]
  | element tag attributes children => rfl

/-- The diagnostics are the expected ones, if it is known whether the content is empty. -/
theorem events_ofSpec_eq {isEmpty : Bool} (hcontent : content.isEmpty = isEmpty) :
  (ofSpec options specOf mark isInline content passthrough).events
    = (specOf mark isInline).records.map .logged
      ++ (expected mark isEmpty (specOf mark isInline).value).flatMap options.report
  := by
  rw [events_ofSpec, expected, List.flatMap_append, diagnoseSpec_eq]
  congr 2
  by_cases hspec : (specOf mark isInline).value.isBare = true
  · rw [if_pos hspec,
      OutputSpec.interpret_eq_ok_iff.mpr ⟨OutputSpec.interpretable_hole.mpr hspec, rfl⟩]
    simp only [diagnose, List.flatMap_append, RendererOptions.flatMap_when,
      OutputSpec.usesHole_hole hspec, OutputSpec.fill_hole hspec, OutputSpec.isEmpty_wrap hspec,
      hcontent]
  · have hhole := mt OutputSpec.interpretable_hole.mp hspec
    obtain ⟨error, herror⟩ := OutputSpec.exists_interpret_eq_error hhole content
    rw [if_neg hspec, herror]
    rfl

end MarkFactory

namespace Schema

variable {schema : Schema}

/-- Whether the element of a node without its marks is empty is known from the step of the node. -/
theorem isEmpty_bodyOf {node : Node} (h : schema.RendersNode node) (content : Element) :
  (schema.bodyOf node content).isEmpty = schema.makesEmpty (.body node)
  := by
  rw [bodyOf, makesEmpty]
  obtain ⟨_, hnone⟩ | ⟨specOf, hsome, hspec⟩ := h
  · rw [hnone]
    rfl
  · rw [hsome]
    apply OutputSpec.isEmpty_fill hspec

/-- Whether the element of a mark is empty is known from the step of the mark. -/
theorem isEmpty_wrapIn {isInline : Bool} {mark : Mark} (h : schema.RendersMark isInline mark)
    {inner : Step} (content : Element) :
  (schema.wrapIn isInline content mark).isEmpty = schema.makesEmpty (.wrap isInline inner mark)
  := by
  obtain ⟨specOf, hsome, hspec⟩ := h
  rw [wrapIn, makesEmpty, hsome]
  apply OutputSpec.isEmpty_wrap hspec

end Schema

/-! ### Renders that follow steps -/

/-- A render has the events of the steps that are performed, and gives a result exactly if all
steps succeed. -/
structure Schema.Follows {α : Type} (schema : Schema) (options : RendererOptions) (x : Render α)
    (steps : List Step) : Prop where
  events_eq : x.events = (schema.performed steps).flatMap (schema.eventsOf options)
  ok_iff : (∃ a, x.result = .ok a) ↔ ∀ step ∈ steps, schema.Succeeds step

namespace Schema.Follows

variable {α β : Type} {schema : Schema} {options : RendererOptions} {x : Render α}
  {steps rest : List Step}

theorem pure (a : α) :
  schema.Follows options (pure a) []
  := by
  constructor
  · rfl
  · simp

/-- A sequence of renders follows the steps of the first one and then those of the second one. -/
theorem bind (hx : schema.Follows options x steps) {f : α → Render β}
    (hf : ∀ a, x.result = .ok a → schema.Follows options (f a) rest) :
  schema.Follows options (x >>= f) (steps ++ rest)
  := by
  cases hresult : x.result with
  | ok a =>
    have hsteps := hx.ok_iff.mp ⟨a, hresult⟩
    have hrest := hf a hresult
    constructor
    · rw [Render.events_bind_of_ok hresult, hx.events_eq, hrest.events_eq,
        performed_eq_self hsteps, performed_append_of_succeed hsteps, List.flatMap_append]
    · rw [Render.result_bind, hresult, ok_bind, hrest.ok_iff, List.forall_mem_append]
      exact (and_iff_right hsteps).symm
  | error error =>
    have hsteps : ¬ ∀ step ∈ steps, schema.Succeeds step := by
      rw [← hx.ok_iff, hresult]
      simp
    constructor
    · rw [Render.events_bind_of_error hresult, hx.events_eq, performed_append_of_fail hsteps]
    · rw [Render.result_bind, hresult, List.forall_mem_append]
      simp [bind_eq_ok_iff, hsteps]

/-- A render of one step that has its events and gives a result exactly if it succeeds follows the
step. -/
theorem single {step : Step} (hevents : x.events = schema.eventsOf options step)
    (hok : (∃ a, x.result = .ok a) ↔ schema.Succeeds step) :
  schema.Follows options x [step]
  := by
  constructor
  · rw [hevents]
    simp [performed]
  · simpa using hok

end Schema.Follows

namespace Renderer

theorem events_nodeFactory (renderer : Renderer) (typeName : String) :
  (renderer.nodeFactory typeName).events = []
  := by
  rw [nodeFactory]
  split
  · rfl
  · rfl

theorem events_markFactory (renderer : Renderer) (typeName : String) :
  (renderer.markFactory typeName).events = []
  := by
  rw [markFactory]
  split
  · rfl
  · rfl

variable {schema : Schema} (hfree : schema.FactoryFree) (displayName : Option String)
  (options : RendererOptions) (passthrough : Attributes)

include hfree

/-- Rendering a node around its content follows the step of the node, if it is known whether the
content is empty. -/
theorem follows_nodeStep {node : Node} {content : Element}
    (hcontent : content.isEmpty = node.content.isEmpty) :
  schema.Follows options
    ((ofSchema schema displayName options).nodeStep passthrough node content) [.body node]
  := by
  have hfactory := nodeFactory_ofSchema hfree displayName options node.typeName
  apply Schema.Follows.single
  · rw [Schema.eventsOf, Schema.notes, Schema.expected, nodeStep]
    cases hspec : schema.nodeSpec? node.typeName with
    | none =>
      rw [hspec] at hfactory
      by_cases htext : node.typeName = Node.textType
      · simp only [if_pos htext] at hfactory
        rw [Render.events_bind_of_ok hfactory, events_nodeFactory]
        rfl
      · simp only [if_neg htext] at hfactory
        rw [Render.events_bind_of_error hfactory, events_nodeFactory]
        rfl
    | some specOf =>
      simp only [hspec] at hfactory
      rw [Render.events_bind_of_ok hfactory, events_nodeFactory, List.nil_append]
      apply NodeFactory.events_ofSpec_eq options specOf passthrough hcontent
  · simp only [nodeStep_eq_ok_iff hfree, exists_and_left, exists_eq, and_true]
    rfl

/-- Rendering a mark around what an inner step made follows the step of the mark, if it is known
whether that is empty. -/
theorem follows_markStep {isInline : Bool} {inner : Step} {mark : Mark} {content : Element}
    (hcontent : content.isEmpty = schema.makesEmpty inner) :
  schema.Follows options
    ((ofSchema schema displayName options).markStep passthrough isInline content mark)
    [.wrap isInline inner mark]
  := by
  have hfactory := markFactory_ofSchema hfree displayName options mark.typeName
  apply Schema.Follows.single
  · rw [Schema.eventsOf, Schema.notes, Schema.expected, markStep]
    cases hspec : schema.markSpec? mark.typeName with
    | none =>
      rw [hspec] at hfactory
      rw [Render.events_bind_of_error hfactory, events_markFactory]
      rfl
    | some specOf =>
      rw [hspec] at hfactory
      rw [Render.events_bind_of_ok hfactory, events_markFactory, List.nil_append]
      apply MarkFactory.events_ofSpec_eq options specOf passthrough hcontent
  · simp only [markStep_eq_ok_iff hfree, exists_and_left, exists_eq, and_true]
    rfl

/-- Whether what a node step gives is empty is known from the step. -/
theorem isEmpty_of_nodeStep {node : Node} {content element : Element}
    (h : ((ofSchema schema displayName options).nodeStep passthrough node content).result
      = .ok element) :
  element.isEmpty = schema.makesEmpty (.body node)
  := by
  obtain ⟨hnode, rfl⟩ := (nodeStep_eq_ok_iff hfree displayName options passthrough).mp h
  apply Schema.isEmpty_bodyOf hnode

/-- Whether what a mark step gives is empty is known from the step. -/
theorem isEmpty_of_markStep {isInline : Bool} {inner : Step} {mark : Mark}
    {content element : Element}
    (h : ((ofSchema schema displayName options).markStep passthrough isInline content mark).result
      = .ok element) :
  element.isEmpty = schema.makesEmpty (.wrap isInline inner mark)
  := by
  obtain ⟨hmark, rfl⟩ := (markStep_eq_ok_iff hfree displayName options passthrough).mp h
  apply Schema.isEmpty_wrapIn hmark

/-! ### Whole runs -/

/-- Rendering marks follows their steps. -/
theorem follows_renderMarks {isInline : Bool} {marks : List Mark} {inner : Step}
    {element : Element} (helement : element.isEmpty = schema.makesEmpty inner) :
  schema.Follows options
    ((ofSchema schema displayName options).renderMarks passthrough isInline marks element)
    (Step.ofMarks isInline inner marks)
  := by
  induction marks generalizing inner element with
  | nil => exact .pure element
  | cons mark rest ih =>
    rw [renderMarks_cons, Step.ofMarks]
    apply Schema.Follows.bind
      (follows_markStep hfree displayName options passthrough helement)
    intro wrapped hwrapped
    exact ih (isEmpty_of_markStep hfree displayName options passthrough hwrapped)

end Renderer

namespace Renderer

variable {schema : Schema} (displayName : Option String) (options : RendererOptions)
  (passthrough : Attributes)

/-- A fragment is rendered as one element for each node. -/
theorem isEmpty_of_renderAll {renderer : Renderer} {fragment : List Node}
    {elements : List Element}
    (h : (renderer.renderAll passthrough fragment).result = .ok elements) :
  elements.isEmpty = fragment.isEmpty
  := by
  rw [Bool.eq_iff_iff, List.isEmpty_iff_length_eq_zero, List.isEmpty_iff_length_eq_zero,
    length_of_renderAll _ _ h]

mutual

/-- Rendering a node follows its steps. -/
theorem follows_renderNode (hfree : schema.FactoryFree) :
    ∀ node : Node, schema.Follows options
      ((ofSchema schema displayName options).renderNode passthrough node) (Step.ofNode node)
  | ⟨typeName, isInline, isLeaf, attributes, marks, text, content⟩ => by
    rw [renderNode_eq, Step.ofNode_eq]
    apply Schema.Follows.bind (follows_renderAll hfree content)
    intro children hchildren
    have hempty : (Element.fragment children).isEmpty = content.isEmpty :=
      isEmpty_of_renderAll passthrough hchildren
    apply Schema.Follows.bind (follows_nodeStep hfree displayName options passthrough hempty)
    intro body hbody
    exact follows_renderMarks hfree displayName options passthrough
      (isEmpty_of_nodeStep hfree displayName options passthrough hbody)

/-- Rendering a fragment follows its steps. -/
theorem follows_renderAll (hfree : schema.FactoryFree) :
    ∀ fragment : List Node, schema.Follows options
      ((ofSchema schema displayName options).renderAll passthrough fragment)
      (Step.ofNodes fragment)
  | [] => .pure []
  | node :: rest => by
    rw [renderAll, Step.ofNodes]
    apply Schema.Follows.bind (follows_renderNode hfree node)
    intro element _
    rw [← List.append_nil (Step.ofNodes rest)]
    apply Schema.Follows.bind (follows_renderAll hfree rest)
    intro elements _
    exact .pure _

end

end Renderer

/-! ### Kept diagnostics -/

namespace Event

theorem diagnostics_append (events events' : List Event) :
  diagnostics (events ++ events') = diagnostics events ++ diagnostics events'
  := List.filterMap_append

theorem diagnostics_logged (records : List LogRecord) :
  diagnostics (records.map .logged) = []
  := by
  simp [diagnostics]

/-- The log records are those that were logged. -/
theorem mem_records {record : LogRecord} {events : List Event} :
  record ∈ records events ↔ .logged record ∈ events
  := by
  rw [records, List.mem_filterMap]
  constructor
  · rintro ⟨kept | logged, hmem, hrecord⟩
    · simp at hrecord
    · obtain rfl := Option.some.inj hrecord
      exact hmem
  · intro hmem
    exact ⟨.logged record, hmem, rfl⟩

/-- What is kept in memory is kept as it was reported. -/
theorem diagnostics_flatMap_report (reported : List Diagnostic) :
  diagnostics (reported.flatMap (RendererOptions.report ⟨true, .memory⟩)) = reported
  := by
  induction reported with
  | nil => rfl
  | cons diagnostic rest ih =>
    rw [List.flatMap_cons, diagnostics_append, ih]
    rfl

/-- With diagnostics kept in memory, those of steps are the expected ones; what spec functions write
to the log is not among them. -/
theorem diagnostics_flatMap_eventsOf (schema : Schema) (steps : List Step) :
  diagnostics (steps.flatMap (schema.eventsOf ⟨true, .memory⟩)) = steps.flatMap schema.expected
  := by
  induction steps with
  | nil => rfl
  | cons step rest ih =>
    rw [List.flatMap_cons, List.flatMap_cons, diagnostics_append, ih, Schema.eventsOf,
      diagnostics_append, diagnostics_logged, diagnostics_flatMap_report, List.nil_append]

end Event

namespace Renderer

/-- In a schema without factories, the diagnostics that a render keeps are those that the shapes of
its steps predict, one step after the other: nodes behind their content and marks behind their
nodes, up to the first step that fails.  A render fails exactly if one of its steps does. -/
theorem diagnostics_eq_expected {schema : Schema} (hfree : schema.FactoryFree)
    (displayName : Option String) (passthrough : Attributes) (fragment : List Node) :
  Event.diagnostics ((ofSchema schema displayName ⟨true, .memory⟩).renderAll passthrough
      fragment).events
      = (schema.performed (Step.ofNodes fragment)).flatMap schema.expected
    ∧ ((∃ elements, ((ofSchema schema displayName ⟨true, .memory⟩).renderAll passthrough
          fragment).result = .ok elements)
        ↔ ∀ step ∈ Step.ofNodes fragment, schema.Succeeds step)
  := by
  have hfollows := follows_renderAll displayName ⟨true, .memory⟩ passthrough hfree fragment
  constructor
  · rw [hfollows.events_eq, Event.diagnostics_flatMap_eventsOf]
  · exact hfollows.ok_iff

/-- A schema whose figures have no place for their content, and whose notes take the place of what
they are about. -/
def carelessSchema : Schema :=
  Schema.empty
    |>.declareNode "figure" (.block "text*" fun _ => .silent (.ofTag "img"))
    |>.declareMark "note" ⟨none, some fun _ _ => .silent (.text "")⟩

/-- A figure of a text with a note, something unknown, and one more figure. -/
def carelessFragment : List Node :=
  [.block "figure" [{ Node.ofText "x" with marks := [.ofType "note"] }], .block "table" [],
    .block "figure" [.ofText "y"]]

theorem diagnostics_carelessFragment :
  carelessSchema.FactoryFree
    ∧ Event.diagnostics ((ofSchema carelessSchema none ⟨true, .memory⟩).renderAll Table.empty
        carelessFragment).events
      = [.markSpecNotElement "note", .markContentNotRendered "note",
          .noElementRendered .mark "note", .contentNotRendered "figure"]
    ∧ ¬ ∃ elements, ((ofSchema carelessSchema none ⟨true, .memory⟩).renderAll Table.empty
        carelessFragment).result = .ok elements
  := by
  have hfree : carelessSchema.FactoryFree := by
    apply Schema.factoryFree_of_all
    · exact Schema.allNodes_empty |>.declareNode rfl |>.declareMark
    · exact Schema.allMarks_empty |>.declareNode |>.declareMark rfl
  have hunknown : ¬ carelessSchema.Succeeds (.body (.block "table" [])) := by
    decide
  obtain ⟨hdiagnostics, hok⟩ := diagnostics_eq_expected hfree none Table.empty carelessFragment
  refine ⟨hfree, hdiagnostics.trans (by decide), ?_⟩
  rw [hok]
  intro hsteps
  apply hunknown
  apply hsteps
  simp [carelessFragment, Step.ofNodes, Step.ofNode_eq, Step.ofMarked]

end Renderer

end RichText
