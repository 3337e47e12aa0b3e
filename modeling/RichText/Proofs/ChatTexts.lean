import RichText.Proofs.ChatDiagnostics
import RichText.Proofs.Conservation

/-!
# The text of chat documents

`Chat.shown` says what a node of a chat document shows as text: a text itself, a mention the name of
its user behind an at sign, an emoji or a line break nothing, and any other node what its content
shows.  Rendering keeps that text, whatever marks there are.  The text of a document itself counts
what stands below a leaf and does not know of names of users, and is the same otherwise.
-/

namespace RichText.Chat

/-! ### What nodes show -/

/-- The types of nodes that show a picture or the end of a line, and no text. -/
def wordlessTypes : List String := ["emoji", "hard_break"]

/-- What a node shows as text around what its content shows. -/
def shownAround (node : Node) (inner : String) : String :=
  if node.typeName = Node.textType then node.text.getD ""
  else if node.typeName = mentionType then
    "@" ++ (node.attributes.string? usernameAttribute).getD ""
  else if node.typeName ∈ wordlessTypes then ""
  else inner

mutual

/-- What a node shows as text. -/
def shown : Node → String
  | node@{ content, .. } => shownAround node (shownAll content)
termination_by structural node => node

/-- What the nodes of a fragment show as text, joined. -/
def shownAll : List Node → String
  | [] => ""
  | node :: rest => shown node ++ shownAll rest
termination_by structural nodes => nodes

end

theorem shownAround_text {node : Node} (h : node.typeName = Node.textType) (inner : String) :
  shownAround node inner = node.text.getD ""
  := if_pos h

theorem shownAround_mention {node : Node} (h : node.typeName = mentionType) (inner : String) :
  shownAround node inner = "@" ++ (node.attributes.string? usernameAttribute).getD ""
  := by
  have htext : node.typeName ≠ Node.textType := by
    rw [h]
    decide
  rw [shownAround, if_neg htext, if_pos h]

theorem shownAround_wordless {node : Node} (h : node.typeName ∈ wordlessTypes) (inner : String) :
  shownAround node inner = ""
  := by
  have hdisjoint : ∀ name ∈ wordlessTypes, name ≠ Node.textType ∧ name ≠ mentionType := by
    decide
  obtain ⟨htext, hmention⟩ := hdisjoint _ h
  rw [shownAround, if_neg htext, if_neg hmention, if_pos h]

/-- A node of any other type shows what its content shows. -/
theorem shownAround_block {node : Node}
    (h : node.typeName ∉ Node.textType :: mentionType :: wordlessTypes) (inner : String) :
  shownAround node inner = inner
  := by
  simp only [List.mem_cons, not_or] at h
  obtain ⟨htext, hmention, hwordless⟩ := h
  rw [shownAround, if_neg htext, if_neg hmention, if_neg (by simpa using hwordless)]

/-! ### The texts of elements -/

theorem textContent_image (alt title : String) (code : Nat) (content : Element) :
  ((imageSpec alt title code).fill content).textContent = ""
  := rfl

/-- The element of a spec of a declared type has the text that the node shows around the text of its
content. -/
theorem allNodes_shown :
  schema.AllNodes fun name type => ∀ specOf, type.outputSpec = some specOf → ∀ node : Node,
    node.typeName = name → ∀ content : Element,
      ((specOf node).value.fill content).textContent = shownAround node content.textContent
  := by
  apply allNodes_schema
  · rintro _ ⟨⟩
  · rintro _ ⟨⟩ node hname content
    rw [shownAround_block (by rw [hname]; decide)]
    apply String.append_empty
  · rintro _ ⟨⟩ node hname content
    rw [shownAround_block (by rw [hname]; decide)]
    apply String.append_empty
  · rintro _ ⟨⟩ node hname content
    rw [shownAround_block (by rw [hname]; decide)]
    apply Eq.trans (String.append_empty ..)
    apply String.append_empty
  · rintro _ ⟨⟩
  · rintro _ ⟨⟩ node hname content
    rw [shownAround_wordless (by rw [hname]; decide)]
    rfl
  · rintro _ ⟨⟩ node hname content
    rw [shownAround_mention hname]
    apply String.append_empty
  · rintro _ ⟨⟩ node hname content
    rw [shownAround_wordless (by rw [hname]; decide), emojiSpec]
    split
    · apply textContent_image
    · apply textContent_image

/-- The body of a node has the text that the node shows around the text of its content. -/
theorem textContent_bodyOf {node : Node} (hrenders : schema.RendersNode node) (content : Element) :
  (schema.bodyOf node content).textContent = shownAround node content.textContent
  := by
  rw [Schema.bodyOf]
  obtain ⟨htype, hnone⟩ | ⟨specOf, hsome, _⟩ := hrenders
  · rw [hnone, shownAround_text htype, Element.textContent]
  · obtain ⟨type, hfind, hspec⟩ := Option.bind_eq_some_iff.mp hsome
    rw [hsome]
    exact (allNodes_shown _ _ hfind).2 specOf hspec node rfl content

/-- A mark of a declared type leaves the text of the element that it wraps alone. -/
theorem textContent_wrapIn {mark : Mark} (hdeclared : schema.marks.contains mark.typeName = true)
    (isInline : Bool) (element : Element) :
  (schema.wrapIn isInline element mark).textContent = element.textContent
  := by
  obtain ⟨type, hfind⟩ := Option.isSome_iff_exists.mp hdeclared
  rw [Schema.wrapIn, Schema.markSpec?, hfind, Option.bind_some]
  cases hspec : type.spec.outputSpec with
  | none => rfl
  | some specOf =>
    obtain ⟨_, htagged, _⟩ := (allMarks_tagged _ _ hfind).2 specOf hspec mark isInline
    change ((specOf mark isInline).value.wrap element).textContent = _
    cases hvalue : (specOf mark isInline).value with
    | text s => simp [hvalue, OutputSpec.isTagged] at htagged
    | native nodeType raw => simp [hvalue, OutputSpec.isTagged] at htagged
    | element tag attributes children => apply String.append_empty

/-- Marks of declared types leave the text of the element that they wrap alone. -/
theorem textContent_foldl_wrapIn {marks : List Mark}
    (hdeclared : ∀ mark ∈ marks, schema.marks.contains mark.typeName = true) (isInline : Bool)
    (element : Element) :
  (marks.foldl (schema.wrapIn isInline) element).textContent = element.textContent
  := by
  induction marks generalizing element with
  | nil => rfl
  | cons mark rest ih =>
    obtain ⟨hmark, hrest⟩ := List.forall_mem_cons.mp hdeclared
    rw [List.foldl_cons, ih hrest, textContent_wrapIn hmark]

mutual

/-- The element of a node has the text that the node shows. -/
theorem textContent_reference :
    ∀ node : Node, (∀ below ∈ node.nodes, schema.Makes below ∧ schema.RendersNode below) →
      (schema.reference node).textContent = shown node
  | ⟨typeName, isInline, isLeaf, attributes, marks, text, content⟩, h => by
    rw [Node.nodes_eq, List.forall_mem_cons] at h
    obtain ⟨⟨hmakes, hrenders⟩, hcontent⟩ := h
    rw [Schema.reference, textContent_foldl_wrapIn hmakes.marks, textContent_bodyOf hrenders,
      Element.textContent, textContentAll_reference content hcontent, shown]

/-- The elements of a fragment have the text that its nodes show. -/
theorem textContentAll_reference :
    ∀ fragment : List Node,
      (∀ node ∈ Node.nodesOf fragment, schema.Makes node ∧ schema.RendersNode node) →
        Element.textContentAll (schema.referenceAll fragment) = shownAll fragment
  | [], _ => rfl
  | node :: rest, h => by
    rw [Node.nodesOf, List.forall_mem_append] at h
    rw [Schema.referenceAll, Element.textContentAll, shownAll, textContent_reference node h.1,
      textContentAll_reference rest h.2]

end

/-! ### The texts of nodes -/

/-- Nodes without words are leaves. -/
theorem allNodes_wordless :
  schema.AllNodes fun name type => name ∈ wordlessTypes → type.isLeaf = true
  := by
  apply allNodes_schema
  all_goals decide

/-- A node that is no mention, and has no content if it is a leaf. -/
def Plain (node : Node) : Prop :=
  node.typeName ≠ mentionType ∧ (node.isLeaf = true → node.content = [])

/-- A plain node shows its own text, if its content shows the texts of its nodes. -/
theorem shownAround_textContentAll {node : Node} (hmakes : schema.Makes node)
    (hplain : Plain node) :
  shownAround node (Node.textContentAll node.content) = node.textContent
  := by
  obtain ⟨typeName, isInline, isLeaf, attributes, marks, text, content⟩ := node
  cases text with
  | some text => rw [shownAround_text (hmakes.text.mp rfl), Node.textContent, Option.getD_some]
  | none =>
    have htext : typeName ≠ Node.textType := by
      intro htype
      have hsome := hmakes.text.mpr htype
      simp at hsome
    rw [Node.textContent]
    by_cases hwordless : typeName ∈ wordlessTypes
    · obtain ⟨type, hfind, _, hleaf⟩ := hmakes.type
      have hempty : content = [] := by
        apply hplain.2
        rw [hleaf]
        exact (allNodes_wordless _ _ hfind).2 hwordless
      rw [shownAround_wordless hwordless, hempty, Node.textContentAll]
    · apply shownAround_block
      simp [htext, hplain.1, hwordless]

mutual

/-- Where all nodes are plain, a node shows its own text. -/
theorem shown_eq_textContent :
    ∀ node : Node, (∀ below ∈ node.nodes, schema.Makes below ∧ Plain below) →
      shown node = node.textContent
  | node@⟨typeName, isInline, isLeaf, attributes, marks, text, content⟩, h => by
    rw [Node.nodes_eq, List.forall_mem_cons] at h
    obtain ⟨⟨hmakes, hplain⟩, hcontent⟩ := h
    rw [← shownAround_textContentAll hmakes hplain, shown,
      shownAll_eq_textContentAll content hcontent]

/-- Where all nodes are plain, the nodes of a fragment show their own texts. -/
theorem shownAll_eq_textContentAll :
    ∀ fragment : List Node, (∀ node ∈ Node.nodesOf fragment, schema.Makes node ∧ Plain node) →
      shownAll fragment = Node.textContentAll fragment
  | [], _ => rfl
  | node :: rest, h => by
    rw [Node.nodesOf, List.forall_mem_append] at h
    rw [shownAll, Node.textContentAll, shown_eq_textContent node h.1,
      shownAll_eq_textContentAll rest h.2]

end

/-! ### Documents -/

variable {source : SourceNode} {document : Node}

/-- A resolved document that is no text has the texts of its content. -/
theorem textContent_document (hresolve : schema.resolve source = .ok document)
    (htext : document.typeName ≠ Node.textType) :
  document.textContent = Node.textContentAll document.content
  := by
  have hnodes := Schema.makes_of_resolve schema_namesAgree source document hresolve
  rw [Node.nodes_eq, List.forall_mem_cons] at hnodes
  obtain ⟨hmakes, -⟩ := hnodes
  obtain ⟨typeName, isInline, isLeaf, attributes, marks, text, content⟩ := document
  cases text with
  | some text => exact absurd (hmakes.text.mp rfl) htext
  | none => rw [Node.textContent]

/-- The elements of the content of a resolved document have the text that the content shows.  If the
document is no text, there is no mention in it and no content below a leaf, that is the text of the
document. -/
theorem textContent_rendered (hresolve : schema.resolve source = .ok document)
    {displayName : Option String} {options : RendererOptions} {passthrough : Attributes}
    {elements : List Element}
    (hrender : ((Renderer.ofSchema schema displayName options).renderAll passthrough
      document.content).result = .ok elements) :
  Element.textContentAll elements = shownAll document.content
    ∧ (document.typeName ≠ Node.textType →
        (∀ node ∈ Node.nodesOf document.content,
          node.typeName ≠ mentionType ∧ (node.isLeaf = true → node.content = [])) →
        Element.textContentAll elements = document.textContent)
  := by
  have hmakes := makes_content hresolve
  obtain ⟨hrenders, rfl⟩ :=
    (Renderer.renderAll_eq_ok_iff displayName options passthrough schema_factoryFree _ _).mp hrender
  have hshown : Element.textContentAll (schema.referenceAll document.content)
      = shownAll document.content := by
    apply textContentAll_reference
    intro node hnode
    exact ⟨hmakes node hnode, (hrenders node hnode).1⟩
  use hshown
  intro htext hplain
  rw [hshown, textContent_document hresolve htext]
  apply shownAll_eq_textContentAll
  intro node hnode
  exact ⟨hmakes node hnode, hplain node hnode⟩

/-- A document with a mention, and with a text below the mention. -/
def mentioningSource : SourceNode :=
  ⟨documentType, Table.empty,
    [⟨"paragraph", Table.empty,
      [⟨Node.textType, Table.empty, [], [⟨"em", Table.empty⟩], some "hi "⟩,
        ⟨mentionType, Table.empty.insert usernameAttribute (.string "ada"),
          [⟨Node.textType, Table.empty, [], [], some "lost"⟩], [], none⟩],
      [], none⟩],
    [], none⟩

/-- A document with a line break in a quote, where no leaf has content. -/
def quotingSource : SourceNode :=
  ⟨documentType, Table.empty,
    [⟨"blockquote", Table.empty,
      [⟨Node.textType, Table.empty, [], [⟨"em", Table.empty⟩, ⟨"code", Table.empty⟩], some "a"⟩,
        ⟨"hard_break", Table.empty, [], [], none⟩,
        ⟨Node.textType, Table.empty, [], [], some "b"⟩],
      [], none⟩],
    [], none⟩

/-- The document that `mentioningSource` is resolved to. -/
def mentioningDocument : Node :=
  .block documentType
    [.block "paragraph"
      [{ Node.ofText "hi " with marks := [.ofType "em"] },
        { Node.leaf mentionType with
          isInline := true
          attributes := Table.empty.insert usernameAttribute (.string "ada")
          content := [.ofText "lost"] }]]

/-- The document that `quotingSource` is resolved to. -/
def quotingDocument : Node :=
  .block documentType
    [.block "blockquote"
      [{ Node.ofText "a" with marks := [.ofType "em", .ofType "code"] },
        { Node.leaf "hard_break" with isInline := true }, .ofText "b"]]

theorem textContent_mentioning_quoting :
  schema.resolve mentioningSource = .ok mentioningDocument
    ∧ schema.resolve quotingSource = .ok quotingDocument
    ∧ (∃ elements, ((Renderer.ofSchema schema none .default).renderAll Table.empty
        mentioningDocument.content).result = .ok elements
      ∧ Element.textContentAll elements = shownAll mentioningDocument.content)
    ∧ shownAll mentioningDocument.content = "hi @ada"
    ∧ mentioningDocument.textContent = "hi lost"
    ∧ (∃ elements, ((Renderer.ofSchema schema none .default).renderAll Table.empty
        quotingDocument.content).result = .ok elements
      ∧ Element.textContentAll elements = quotingDocument.textContent)
    ∧ quotingDocument.textContent = "ab"
  := by
  have hmentioning : schema.resolve mentioningSource = .ok mentioningDocument := by
    rfl
  have hquoting : schema.resolve quotingSource = .ok quotingDocument := by
    rfl
  have hrender : ((Renderer.ofSchema schema none .default).renderAll Table.empty
      mentioningDocument.content).result
        = .ok (schema.referenceAll mentioningDocument.content) := by
    rfl
  have hrender' : ((Renderer.ofSchema schema none .default).renderAll Table.empty
      quotingDocument.content).result = .ok (schema.referenceAll quotingDocument.content) := by
    rfl
  have hplain : ∀ node ∈ Node.nodesOf quotingDocument.content,
      node.typeName ≠ mentionType ∧ (node.isLeaf = true → node.content = []) := by
    simp [quotingDocument, Node.nodesOf, Node.nodes_eq, Node.block, Node.leaf, Node.ofText]
    decide
  exact ⟨hmentioning, hquoting, ⟨_, hrender, (textContent_rendered hmentioning hrender).1⟩,
    by decide, by decide,
    ⟨_, hrender', (textContent_rendered hquoting hrender').2 (by decide) hplain⟩, by decide⟩

end RichText.Chat
