import RichText.Proofs.Diagnostics

/-!
# Silent renders lose no text

What a spec says itself are its literals; all other text of an element comes from the content that
was put in it.  A string is `Woven` of texts if it holds each of them once, in order, with literals
around them.  A step of a render puts its content in the element once, or leaves it out.  It says so
if it leaves out what may hold a text, hence what is rendered without saying so is woven of the
texts of the fragment.
-/

namespace RichText

/-! ### Texts among literals -/

/-- A string that holds the given texts, each once and in order, and around them strings that `P`
holds of. -/
inductive Woven (P : String → Prop) : List String → String → Prop where
  | nil : Woven P [] ""
  | literal {texts : List String} {s rest : String} (hs : P s) (hrest : Woven P texts rest) :
    Woven P texts (s ++ rest)
  | text {texts : List String} (s : String) {rest : String} (hrest : Woven P texts rest) :
    Woven P (s :: texts) (s ++ rest)

namespace Woven

variable {P : String → Prop} {texts texts' : List String} {s s' : String}

theorem ofLiteral (h : P s) :
  Woven P [] s
  := by
  have hwoven := literal h nil
  rwa [String.append_empty] at hwoven

theorem ofText (s : String) :
  Woven P [s] s
  := by
  have hwoven := text (P := P) s nil
  rwa [String.append_empty] at hwoven

theorem append (h : Woven P texts s) (h' : Woven P texts' s') :
  Woven P (texts ++ texts') (s ++ s')
  := by
  induction h with
  | nil => rwa [String.empty_append]
  | literal hs _ ih =>
    rw [String.append_assoc]
    exact literal hs ih
  | text s _ ih =>
    rw [String.append_assoc]
    exact text s ih

/-- A woven string is a row of literals, and then each text with a row of literals behind it. -/
theorem exists_pieces (h : Woven P texts s) :
  ∃ (lead : List String) (pieces : List (String × List String)),
    pieces.map (·.1) = texts
      ∧ s = String.join lead ++ String.join (pieces.map fun piece => piece.1 ++ String.join piece.2)
      ∧ (∀ l ∈ lead, P l) ∧ ∀ piece ∈ pieces, ∀ l ∈ piece.2, P l
  := by
  induction h with
  | nil => exact ⟨[], [], rfl, rfl, by simp, by simp⟩
  | @literal _ s _ hs _ ih =>
    obtain ⟨lead, pieces, htexts, rfl, hlead, hpieces⟩ := ih
    refine ⟨s :: lead, pieces, htexts, ?_, List.forall_mem_cons.mpr ⟨hs, hlead⟩, hpieces⟩
    rw [String.join_cons, String.append_assoc]
  | text s _ ih =>
    obtain ⟨lead, pieces, rfl, rfl, hlead, hpieces⟩ := ih
    refine ⟨[], (s, lead) :: pieces, rfl, ?_, by simp, List.forall_mem_cons.mpr ⟨hlead, hpieces⟩⟩
    rw [List.map_cons, String.join_cons, String.join_nil, String.empty_append,
      String.append_assoc]

end Woven

/-! ### Texts of fragments and literals of specs -/

namespace Node

/-- The text of a node whose type is that of texts; a missing one is empty. -/
def ownTexts (node : Node) : List String :=
  if node.typeName = textType then [node.text.getD ""] else []

/-- The texts of a fragment, at any depth and in order. -/
def textsOf (fragment : List Node) : List String := (nodesOf fragment).flatMap ownTexts

theorem textsOf_cons (node : Node) (rest : List Node) :
  textsOf (node :: rest) = node.ownTexts ++ textsOf node.content ++ textsOf rest
  := by
  rw [textsOf, nodesOf, nodes_eq, List.flatMap_append, List.flatMap_cons]
  rfl

end Node

namespace OutputSpec

/-- The text of a spec that is a text. -/
def text? : OutputSpec → Option String
  | .text s => some s
  | _ => none

/-- The texts that a spec says itself, at any depth. -/
def literals (spec : OutputSpec) : List String := spec.parts.filterMap text?

end OutputSpec

namespace Schema

variable (schema : Schema)

/-- The specs of a node and of its marks, as far as their types give some. -/
def specsOf (node : Node) : List OutputSpec :=
  ((schema.nodeSpec? node.typeName).map fun specOf => (specOf node).value).toList
    ++ node.marks.filterMap fun mark =>
      (schema.markSpec? mark.typeName).map fun specOf => (specOf mark node.isInline).value

/-- The texts that the specs of a fragment say themselves. -/
def literalsOf (fragment : List Node) : List String :=
  (Node.nodesOf fragment).flatMap fun node => (schema.specsOf node).flatMap OutputSpec.literals

end Schema

/-! ### Content in elements -/

namespace Element

theorem textContent_create (tag : String) (props : Option Props) (children : List Element) :
  (create tag props children).textContent = textContentAll children
  := by
  cases children with
  | nil => rfl
  | cons child rest => rfl

/-- An empty element has no text. -/
theorem textContent_of_isEmpty {element : Element} (h : element.isEmpty = true) :
  element.textContent = ""
  := by
  cases element with
  | text s => simpa [isEmpty, textContent] using h
  | fragment children =>
    obtain rfl := List.isEmpty_iff.mp h
    rfl
  | node tag props children => simp [isEmpty] at h

end Element

namespace OutputSpec

variable {P : String → Prop} {texts : List String} {content : Element}

mutual

/-- A filled spec is woven of the texts of the content, once for every hole. -/
theorem woven_fill (hcontent : Woven P texts content.textContent) :
    ∀ spec : OutputSpec, (∀ s ∈ spec.literals, P s) →
      Woven P (List.replicate spec.holes texts).flatten (spec.fill content).textContent
  | .text s, hliterals => .ofLiteral (hliterals s (by simp [literals, parts, text?]))
  | .native _ _, _ => .nil
  | .element tag attributes children, hliterals => by
    rw [fill_element, Element.textContent_create]
    exact woven_fillAll hcontent children hliterals

/-- Filled children are woven of the texts of the content, once for every hole. -/
theorem woven_fillAll (hcontent : Woven P texts content.textContent) :
    ∀ children : List SpecChild, (∀ s ∈ (partsOf children).filterMap text?, P s) →
      Woven P (List.replicate (holesOf children) texts).flatten
        (Element.textContentAll (fillAll content children))
  | [], _ => .nil
  | .hole :: rest, hliterals => by
    rw [holesOf, List.replicate_succ, List.flatten_cons]
    exact hcontent.append (woven_fillAll hcontent rest hliterals)
  | .spec s :: rest, hliterals => by
    rw [partsOf, List.filterMap_append, List.forall_mem_append] at hliterals
    rw [holesOf, ← List.replicate_append_replicate, List.flatten_append]
    exact (woven_fill hcontent s hliterals.1).append (woven_fillAll hcontent rest hliterals.2)

end

end OutputSpec

/-! ### Steps that report no loss -/

/-- Whether a diagnostic says that content is left out. -/
def Diagnostic.isLoss : Diagnostic → Bool
  | .contentNotRendered _ => true
  | .markContentNotRendered _ => true
  | _ => false

namespace Schema

/-- A step that does not say that content is left out. -/
def Silent (schema : Schema) (step : Step) : Prop :=
  ∀ diagnostic ∈ schema.expected step, diagnostic.isLoss = false

variable {schema : Schema} {P : String → Prop} {content : Element}

/-- A node that is no leaf and whose spec has no hole reports the loss of its content, unless there
is none. -/
theorem content_eq_nil_of_silent {node : Node} {specOf : NodeSpecFunction}
    (hsome : schema.nodeSpec? node.typeName = some specOf)
    (hspec : (specOf node).value.Interpretable false) (hholes : (specOf node).value.holes = 0)
    (hleaf : node.isLeaf = false) (hsilent : schema.Silent (.body node)) :
  node.content = []
  := by
  cases hcontent : node.content with
  | nil => rfl
  | cons child rest =>
    have hmem : .contentNotRendered node.typeName ∈ schema.expected (.body node) := by
      simp [expected, hsome, NodeFactory.expected, hspec, hholes, hleaf, hcontent, Diagnostic.when]
    have hloss := hsilent _ hmem
    simp [Diagnostic.isLoss] at hloss

/-- A mark whose spec is a text reports the loss of what it takes the place of, unless that is
empty. -/
theorem makesEmpty_of_silent {isInline : Bool} {mark : Mark} {inner : Step}
    {specOf : MarkSpecFunction} (hsome : schema.markSpec? mark.typeName = some specOf) {s : String}
    (hspec : (specOf mark isInline).value = .text s)
    (hsilent : schema.Silent (.wrap isInline inner mark)) :
  schema.makesEmpty inner = true
  := by
  cases hinner : schema.makesEmpty inner with
  | true => rfl
  | false =>
    have hmem : .markContentNotRendered mark.typeName
        ∈ schema.expected (.wrap isInline inner mark) := by
      simp [expected, hsome, hinner, hspec, MarkFactory.expected, OutputSpec.isBare,
        OutputSpec.isTagged, Diagnostic.when]
    have hloss := hsilent _ hmem
    simp [Diagnostic.isLoss] at hloss

/-- A node step that is silent keeps the texts of the content, behind the text of the node if it is
one. -/
theorem woven_bodyOf (htext : schema.nodeSpec? Node.textType = none) {node : Node}
    (hplain : node.isLeaf = true ∨ node.typeName = Node.textType → node.content = [])
    (hnode : schema.RendersNode node) (hsilent : schema.Silent (.body node))
    (hliterals : ∀ spec ∈ schema.specsOf node, ∀ s ∈ spec.literals, P s)
    (hcontent : Woven P (Node.textsOf node.content) content.textContent) :
  Woven P (node.ownTexts ++ Node.textsOf node.content) (schema.bodyOf node content).textContent
  := by
  rw [bodyOf, Node.ownTexts]
  obtain ⟨htype, hnone⟩ | ⟨specOf, hsome, hspec⟩ := hnode
  · rw [hnone, if_pos htype, hplain (.inr htype)]
    exact .ofText _
  · have htype : node.typeName ≠ Node.textType := by
      intro htype
      rw [htype, htext] at hsome
      simp at hsome
    have hfill := OutputSpec.woven_fill hcontent (specOf node).value
      (hliterals _ (by simp [specsOf, hsome]))
    simp only [hsome, if_neg htype, List.nil_append]
    have hle : (specOf node).value.holes ≤ 1 := hspec.holes_le
    by_cases hholes : (specOf node).value.holes = 0
    · have hempty : node.content = [] := by
        cases hleaf : node.isLeaf with
        | true => exact hplain (.inl hleaf)
        | false => exact content_eq_nil_of_silent hsome hspec hholes hleaf hsilent
      rw [hholes] at hfill
      rwa [hempty]
    · have hone : (specOf node).value.holes = 1 := by omega
      rw [hone] at hfill
      simpa using hfill

/-- A mark step that is silent keeps the texts of what it is put around. -/
theorem woven_wrapIn {isInline : Bool} {mark : Mark} {inner : Step} {texts : List String}
    (hmark : schema.RendersMark isInline mark)
    (hsilent : schema.Silent (.wrap isInline inner mark))
    (hempty : content.isEmpty = schema.makesEmpty inner)
    (hliterals : ∀ specOf, schema.markSpec? mark.typeName = some specOf →
      ∀ s ∈ (specOf mark isInline).value.literals, P s)
    (hcontent : Woven P texts content.textContent) :
  Woven P texts (schema.wrapIn isInline content mark).textContent
  := by
  obtain ⟨specOf, hsome, hbare⟩ := hmark
  have hliterals := hliterals specOf hsome
  simp only [wrapIn, hsome]
  cases hspec : (specOf mark isInline).value with
  | text s =>
    -- A text takes the place of an empty element only, which has no text to lose.
    rw [makesEmpty_of_silent hsome hspec hsilent] at hempty
    have hnothing := Element.textContent_of_isEmpty hempty
    have hs : P s := hliterals s (by simp [hspec, OutputSpec.literals, OutputSpec.parts,
      OutputSpec.text?])
    have hwoven := Woven.literal hs hcontent
    rwa [hnothing, String.append_empty] at hwoven
  | native nodeType raw => simp [hspec, OutputSpec.isBare] at hbare
  | element tag attributes children =>
    simpa [OutputSpec.wrap, Element.textContent, Element.textContentAll] using hcontent

/-- Mark steps that are silent keep the texts of what they are put around. -/
theorem woven_foldl_wrapIn {isInline : Bool} {marks : List Mark} {inner : Step}
    {texts : List String} (hmarks : ∀ mark ∈ marks, schema.RendersMark isInline mark)
    (hsilent : ∀ step ∈ Step.ofMarks isInline inner marks, schema.Silent step)
    (hempty : content.isEmpty = schema.makesEmpty inner)
    (hliterals : ∀ mark ∈ marks, ∀ specOf, schema.markSpec? mark.typeName = some specOf →
      ∀ s ∈ (specOf mark isInline).value.literals, P s)
    (hcontent : Woven P texts content.textContent) :
  Woven P texts (marks.foldl (schema.wrapIn isInline) content).textContent
  := by
  induction marks generalizing inner content with
  | nil => exact hcontent
  | cons mark rest ih =>
    obtain ⟨hmark, hmarks⟩ := List.forall_mem_cons.mp hmarks
    obtain ⟨hstep, hsteps⟩ := List.forall_mem_cons.mp hsilent
    obtain ⟨hspec, hspecs⟩ := List.forall_mem_cons.mp hliterals
    exact ih hmarks hsteps (isEmpty_wrapIn hmark content) hspecs
      (woven_wrapIn hmark hstep hempty hspec hcontent)

/-! ### Whole fragments -/

/-- A node whose steps all succeed, and none of which reports a loss: where no content is expected
there is none. -/
structure Keeps (schema : Schema) (node : Node) : Prop where
  plain : node.isLeaf = true ∨ node.typeName = Node.textType → node.content = []
  renders : schema.RendersMarked node
  silent : ∀ step ∈ Step.ofMarked node, schema.Silent step

mutual

/-- The element of a node is woven of the texts of the node and of its content. -/
theorem woven_reference (htext : schema.nodeSpec? Node.textType = none) :
    ∀ node : Node, (∀ below ∈ node.nodes, schema.Keeps below) →
      (∀ below ∈ node.nodes, ∀ spec ∈ schema.specsOf below, ∀ s ∈ spec.literals, P s) →
        Woven P (node.ownTexts ++ Node.textsOf node.content) (schema.reference node).textContent
  | node@⟨typeName, isInline, isLeaf, attributes, marks, text, content⟩, hkeeps, hliterals => by
    rw [Node.nodes_eq, List.forall_mem_cons] at hkeeps hliterals
    obtain ⟨⟨hplain, ⟨hnode, hmarks⟩, hsilent⟩, hkeeps⟩ := hkeeps
    obtain ⟨hspecs, hliterals⟩ := hliterals
    obtain ⟨hbody, hwraps⟩ := List.forall_mem_cons.mp hsilent
    have hcontent := woven_referenceAll htext content hkeeps hliterals
    rw [reference]
    apply woven_foldl_wrapIn hmarks hwraps (isEmpty_bodyOf hnode _)
    · intro mark hmark specOf hsome
      apply hspecs
      rw [specsOf, List.mem_append, List.mem_filterMap]
      exact .inr ⟨mark, hmark, by rw [hsome]; rfl⟩
    · exact woven_bodyOf htext hplain hnode hbody hspecs hcontent

/-- The elements of a fragment are woven of its texts. -/
theorem woven_referenceAll (htext : schema.nodeSpec? Node.textType = none) :
    ∀ fragment : List Node, (∀ node ∈ Node.nodesOf fragment, schema.Keeps node) →
      (∀ node ∈ Node.nodesOf fragment, ∀ spec ∈ schema.specsOf node, ∀ s ∈ spec.literals, P s) →
        Woven P (Node.textsOf fragment) (Element.textContentAll (schema.referenceAll fragment))
  | [], _, _ => .nil
  | node :: rest, hkeeps, hliterals => by
    rw [Node.nodesOf, List.forall_mem_append] at hkeeps hliterals
    rw [Node.textsOf_cons]
    exact (woven_reference htext node hkeeps.1 hliterals.1).append
      (woven_referenceAll htext rest hkeeps.2 hliterals.2)

end

end Schema

namespace Renderer

/-- A render that keeps no diagnostic of a loss has silent steps. -/
theorem silent_of_diagnostics {schema : Schema} (hfree : schema.FactoryFree)
    {displayName : Option String} {passthrough : Attributes} {fragment : List Node}
    (hsucceed : ∀ step ∈ Step.ofNodes fragment, schema.Succeeds step)
    (hsilent : ∀ diagnostic ∈ Event.diagnostics ((ofSchema schema displayName
      ⟨true, .memory⟩).renderAll passthrough fragment).events, diagnostic.isLoss = false) :
  ∀ step ∈ Step.ofNodes fragment, schema.Silent step
  := by
  have hfollows := follows_renderAll displayName ⟨true, .memory⟩ passthrough hfree fragment
  rw [hfollows.events_eq, Event.diagnostics_flatMap_eventsOf,
    Schema.performed_eq_self hsucceed] at hsilent
  intro step hstep diagnostic hdiagnostic
  exact hsilent diagnostic (List.mem_flatMap.mpr ⟨step, hstep, hdiagnostic⟩)

/-- A render that reports no loss has lost no text.  In a schema without factories and without a
spec for texts, and where no leaf and no text has content, the text of the elements is made of the
texts of the fragment, each once and in order, with literals of the specs around them.  Where
diagnostics go does not matter for the elements, so they are looked up in memory. -/
theorem texts_conserved {schema : Schema} (hfree : schema.FactoryFree)
    (htext : schema.nodeSpec? Node.textType = none) {fragment : List Node}
    (hplain : ∀ node ∈ Node.nodesOf fragment,
      node.isLeaf = true ∨ node.typeName = Node.textType → node.content = [])
    {displayName : Option String} {options : RendererOptions} {passthrough : Attributes}
    {elements : List Element}
    (hrender : ((ofSchema schema displayName options).renderAll passthrough fragment).result
      = .ok elements)
    (hsilent : ∀ diagnostic ∈ Event.diagnostics ((ofSchema schema displayName
      ⟨true, .memory⟩).renderAll passthrough fragment).events, diagnostic.isLoss = false) :
  ∃ (lead : List String) (pieces : List (String × List String)),
    pieces.map (·.1) = Node.textsOf fragment
      ∧ Element.textContentAll elements
        = String.join lead ++ String.join (pieces.map fun piece => piece.1 ++ String.join piece.2)
      ∧ (∀ l ∈ lead, l ∈ schema.literalsOf fragment)
      ∧ ∀ piece ∈ pieces, ∀ l ∈ piece.2, l ∈ schema.literalsOf fragment
  := by
  have hfollows := follows_renderAll displayName options passthrough hfree fragment
  have hsteps := silent_of_diagnostics hfree (hfollows.ok_iff.mp ⟨elements, hrender⟩) hsilent
  obtain ⟨hrenders, rfl⟩ :=
    (renderAll_eq_ok_iff displayName options passthrough hfree _ _).mp hrender
  apply Woven.exists_pieces
  apply Schema.woven_referenceAll htext
  · intro node hnode
    constructor
    · exact hplain node hnode
    · exact hrenders node hnode
    · intro step hstep
      exact hsteps step ((Step.mem_ofNodes_iff fragment).mpr ⟨node, hnode, hstep⟩)
  · intro node hnode spec hspec s hs
    rw [Schema.literalsOf, List.mem_flatMap]
    exact ⟨node, hnode, List.mem_flatMap.mpr ⟨spec, hspec, hs⟩⟩

/-- A greeting of two texts and a mention. -/
def greeting : List Node :=
  [.block "paragraph" [{ Node.ofText "hi " with marks := [.ofType "em"] },
    { Node.leaf "mention" with attributes := Table.empty.insert "username" (.string "ada") },
    .ofText "!"]]

theorem texts_greeting :
  Chat.schema.FactoryFree ∧ Chat.schema.nodeSpec? Node.textType = none
    ∧ (∀ node ∈ Node.nodesOf greeting,
      node.isLeaf = true ∨ node.typeName = Node.textType → node.content = [])
    ∧ ((ofSchema Chat.schema none ⟨true, .memory⟩).renderAll Table.empty greeting).result
      = .ok (Chat.schema.referenceAll greeting)
    ∧ Event.diagnostics ((ofSchema Chat.schema none ⟨true, .memory⟩).renderAll Table.empty
      greeting).events = []
    ∧ Element.textContentAll (Chat.schema.referenceAll greeting) = "hi @ada!"
    ∧ ∃ (lead : List String) (pieces : List (String × List String)),
      pieces.map (·.1) = ["hi ", "!"]
        ∧ Element.textContentAll (Chat.schema.referenceAll greeting)
          = String.join lead ++ String.join (pieces.map fun piece => piece.1 ++ String.join piece.2)
        ∧ (∀ l ∈ lead, l ∈ ["@ada"]) ∧ ∀ piece ∈ pieces, ∀ l ∈ piece.2, l ∈ ["@ada"]
  := by
  have hfree := Chat.schema_factoryFree
  have htext : Chat.schema.nodeSpec? Node.textType = none := by
    decide
  have hplain : ∀ node ∈ Node.nodesOf greeting,
      node.isLeaf = true ∨ node.typeName = Node.textType → node.content = [] := by
    simp [greeting, Node.nodesOf, Node.nodes_eq, Node.block, Node.leaf, Node.ofText]
    decide
  have hsteps : ∀ step ∈ Step.ofNodes greeting, Chat.schema.Succeeds step := by
    decide
  have hfollows := follows_renderAll none ⟨true, .memory⟩ Table.empty hfree greeting
  obtain ⟨elements, hrender⟩ := hfollows.ok_iff.mpr hsteps
  obtain ⟨_, rfl⟩ := (renderAll_eq_ok_iff none _ Table.empty hfree _ _).mp hrender
  have hdiagnostics : Event.diagnostics ((ofSchema Chat.schema none ⟨true, .memory⟩).renderAll
      Table.empty greeting).events = [] := by
    rw [hfollows.events_eq, Event.diagnostics_flatMap_eventsOf]
    decide
  have hsilent : ∀ diagnostic ∈ Event.diagnostics ((ofSchema Chat.schema none
      ⟨true, .memory⟩).renderAll Table.empty greeting).events, diagnostic.isLoss = false := by
    simp [hdiagnostics]
  exact ⟨hfree, htext, hplain, hrender, hdiagnostics, by decide,
    texts_conserved hfree htext hplain hrender hsilent⟩

end Renderer

end RichText
