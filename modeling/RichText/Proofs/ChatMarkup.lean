import RichText.Proofs.ChatDiagnostics
import RichText.Proofs.ClickHandlers
import RichText.Proofs.Tags

/-!
# The markup of chat documents

Texts and the names of users come from whoever writes a message.  The tags of a rendered document
do not depend on them: `Chat.skeleton` lists the tags of a node by its type, its marks and its
content alone, and these are the tags that a scanner finds in the HTML.  So two documents that
differ in texts and names of users only (`Chat.mask`) are rendered with the same tags, or fail with
the same error.
-/

namespace RichText.Chat

open Html (Tag AllNames)

/-! ### The tags of nodes -/

/-- The tags of an element without attributes around others. -/
def paired (tag : String) (inner : List Tag) : List Tag :=
  .opening tag [] :: inner ++ [.closing tag]

/-- The tags of a node of a type around those of its content. -/
def tagsAround (typeName : String) (inner : List Tag) : List Tag :=
  match typeName with
  | "paragraph" => paired "p" inner
  | "blockquote" => paired "blockquote" inner
  | "code_block" => paired "pre" (paired "code" inner)
  | "hard_break" => [.selfClosing "br" []]
  | "mention" => [.opening "span" ["class", "data-username", "onclick"], .closing "span"]
  | "emoji" => [.selfClosing "img" ["class", "alt", "src", "title"]]
  | _ => []

mutual

/-- The tags of a node.  A mark has the tag that it is called by. -/
def skeleton : Node → List Tag
  | { typeName, marks, content, .. } =>
    marks.foldl (fun inner mark => paired mark.typeName inner)
      (tagsAround typeName (skeletonAll content))
termination_by structural node => node

/-- The tags of the nodes of a fragment. -/
def skeletonAll : List Node → List Tag
  | [] => []
  | node :: rest => skeleton node ++ skeletonAll rest
termination_by structural nodes => nodes

end

/-! ### The tags of elements -/

theorem tags_image (alt title : String) (code : Nat) (content : Element) :
  ((imageSpec alt title code).fill content).tags
    = [.selfClosing "img" ["class", "alt", "src", "title"]]
  := rfl

theorem tags_around (tag : String) (content : Element) :
  ((around tag).fill content).tags = paired tag content.tags
  := congrArg (paired tag) (List.append_nil content.tags)

/-- The element of a spec of a declared type has the tags of the type around those of its
content. -/
theorem allNodes_tagsAround :
  schema.AllNodes fun name type => ∀ specOf, type.outputSpec = some specOf → ∀ node content,
    ((specOf node).value.fill content).tags = tagsAround name content.tags
  := by
  apply allNodes_schema
  · rintro _ ⟨⟩
  · rintro _ ⟨⟩ node content
    apply tags_around
  · rintro _ ⟨⟩ node content
    apply tags_around
  · rintro _ ⟨⟩ node content
    apply congrArg (paired "pre")
    rw [← tags_around]
    apply List.append_nil
  · rintro _ ⟨⟩
  · rintro _ ⟨⟩ node content
    rfl
  · rintro _ ⟨⟩ node content
    rfl
  · rintro _ ⟨⟩ node content
    rw [emojiSpec]
    split
    · apply tags_image
    · apply tags_image

/-- The element of a mark of a declared type has the tag that the mark is called by. -/
theorem allMarks_paired :
  schema.AllMarks fun name type => ∃ specOf, type.outputSpec = some specOf
    ∧ ∀ mark isInline element,
      ((specOf mark isInline).value.wrap element).tags = paired name element.tags
  := by
  apply allMarks_schema
  all_goals
    refine ⟨_, rfl, ?_⟩
    intro mark isInline element
    apply congrArg (paired _) (List.append_nil element.tags)

/-- The body of a node has the tags of its type around those of its content. -/
theorem tags_bodyOf {node : Node} (hrenders : schema.RendersNode node) (content : Element) :
  (schema.bodyOf node content).tags = tagsAround node.typeName content.tags
  := by
  rw [Schema.bodyOf]
  obtain ⟨htype, hnone⟩ | ⟨specOf, hsome, _⟩ := hrenders
  · rw [hnone, htype]
    rfl
  · obtain ⟨type, hfind, hspec⟩ := Option.bind_eq_some_iff.mp hsome
    rw [hsome]
    exact (allNodes_tagsAround _ _ hfind).2 specOf hspec node content

/-- A mark of a declared type puts its tag around the tags of an element. -/
theorem tags_wrapIn {mark : Mark} (hdeclared : schema.marks.contains mark.typeName = true)
    (isInline : Bool) (element : Element) :
  (schema.wrapIn isInline element mark).tags = paired mark.typeName element.tags
  := by
  obtain ⟨type, hfind⟩ := Option.isSome_iff_exists.mp hdeclared
  obtain ⟨specOf, hspec, htags⟩ := (allMarks_paired _ _ hfind).2
  rw [Schema.wrapIn, Schema.markSpec?, hfind, Option.bind_some, hspec]
  apply htags

/-- Marks of declared types put their tags around the tags of an element. -/
theorem tags_foldl_wrapIn {marks : List Mark}
    (hdeclared : ∀ mark ∈ marks, schema.marks.contains mark.typeName = true) (isInline : Bool)
    (element : Element) :
  (marks.foldl (schema.wrapIn isInline) element).tags
    = marks.foldl (fun inner mark => paired mark.typeName inner) element.tags
  := by
  induction marks generalizing element with
  | nil => rfl
  | cons mark rest ih =>
    obtain ⟨hmark, hrest⟩ := List.forall_mem_cons.mp hdeclared
    rw [List.foldl_cons, List.foldl_cons, ih hrest, tags_wrapIn hmark]

mutual

/-- The element of a node has the tags of the node. -/
theorem tags_reference :
    ∀ node : Node, (∀ below ∈ node.nodes, schema.Declares below ∧ schema.RendersNode below) →
      (schema.reference node).tags = skeleton node
  | ⟨typeName, isInline, isLeaf, attributes, marks, text, content⟩, h => by
    rw [Node.nodes_eq, List.forall_mem_cons] at h
    obtain ⟨⟨hdeclares, hrenders⟩, hcontent⟩ := h
    rw [Schema.reference, tags_foldl_wrapIn hdeclares.marks, tags_bodyOf hrenders, Element.tags,
      tagsAll_referenceAll content hcontent, skeleton]

/-- The elements of a fragment have the tags of its nodes. -/
theorem tagsAll_referenceAll :
    ∀ fragment : List Node,
      (∀ node ∈ Node.nodesOf fragment, schema.Declares node ∧ schema.RendersNode node) →
        Element.tagsAll (schema.referenceAll fragment) = skeletonAll fragment
  | [], _ => rfl
  | node :: rest, h => by
    rw [Node.nodesOf, List.forall_mem_append] at h
    rw [Schema.referenceAll, Element.tagsAll, skeletonAll, tags_reference node h.1,
      tagsAll_referenceAll rest h.2]

end

/-! ### Names -/

theorem allNames_paired_iff {tag : String} {inner : List Tag} :
  AllNames Html.IsName (paired tag inner) ↔ Html.IsName tag ∧ AllNames Html.IsName inner
  := by
  rw [paired, Element.allNames_paired]
  simp

/-- The tags of a type around tags with names have names. -/
theorem allNames_tagsAround (typeName : String) {inner : List Tag}
    (hinner : AllNames Html.IsName inner) :
  AllNames Html.IsName (tagsAround typeName inner)
  := by
  unfold tagsAround
  split
  · exact allNames_paired_iff.mpr ⟨by decide, hinner⟩
  · exact allNames_paired_iff.mpr ⟨by decide, hinner⟩
  · exact allNames_paired_iff.mpr ⟨by decide, allNames_paired_iff.mpr ⟨by decide, hinner⟩⟩
  all_goals decide

/-- A mark of a declared type is called by a name. -/
theorem isName_of_declared :
  schema.AllMarks fun name _ => Html.IsName name
  := by
  apply allMarks_schema
  all_goals decide

/-- The tags of marks of declared types around tags with names have names. -/
theorem allNames_foldl_paired {marks : List Mark}
    (hdeclared : ∀ mark ∈ marks, schema.marks.contains mark.typeName = true) {inner : List Tag}
    (hinner : AllNames Html.IsName inner) :
  AllNames Html.IsName (marks.foldl (fun inner mark => paired mark.typeName inner) inner)
  := by
  induction marks generalizing inner with
  | nil => exact hinner
  | cons mark rest ih =>
    obtain ⟨hmark, hrest⟩ := List.forall_mem_cons.mp hdeclared
    obtain ⟨type, hfind⟩ := Option.isSome_iff_exists.mp hmark
    have hname := (isName_of_declared _ _ hfind).2
    apply ih hrest (allNames_paired_iff.mpr ⟨hname, hinner⟩)

mutual

/-- The tags of a node have names. -/
theorem allNames_skeleton :
    ∀ node : Node, (∀ below ∈ node.nodes, schema.Declares below) →
      AllNames Html.IsName (skeleton node)
  | ⟨typeName, isInline, isLeaf, attributes, marks, text, content⟩, h => by
    rw [Node.nodes_eq, List.forall_mem_cons] at h
    rw [skeleton]
    apply allNames_foldl_paired h.1.marks
    apply allNames_tagsAround
    apply allNames_skeletonAll content h.2

/-- The tags of the nodes of a fragment have names. -/
theorem allNames_skeletonAll :
    ∀ fragment : List Node, (∀ node ∈ Node.nodesOf fragment, schema.Declares node) →
      AllNames Html.IsName (skeletonAll fragment)
  | [], _ => by decide
  | node :: rest, h => by
    rw [Node.nodesOf, List.forall_mem_append] at h
    rw [skeletonAll, Html.allNames_append]
    exact ⟨allNames_skeleton node h.1, allNames_skeletonAll rest h.2⟩

end

/-! ### Masked documents -/

/-- Attributes in which the name of the user is empty, if there is one. -/
def withoutUsername (attributes : Attributes) : Attributes :=
  match attributes.find? usernameAttribute with
  | some (.string _) => attributes.insert usernameAttribute (.string "")
  | _ => attributes

/-- The attributes of a node, for a mention with an empty name of the user. -/
def maskAttributes (typeName : String) (attributes : Attributes) : Attributes :=
  if typeName = mentionType then withoutUsername attributes else attributes

/-- What is written as the text of a node, for a text with an empty string in its place. -/
def maskText (typeName : String) (text : Option String) : Option String :=
  if typeName = Node.textType then text.map fun _ => "" else text

mutual

/-- A written node with empty texts and empty names of users. -/
def mask : SourceNode → SourceNode
  | { typeName, attributes, content, marks, text } =>
    { typeName, attributes := maskAttributes typeName attributes, content := maskAll content,
      marks, text := maskText typeName text }
termination_by structural source => source

/-- The written nodes of a list with empty texts and empty names of users. -/
def maskAll : List SourceNode → List SourceNode
  | [] => []
  | source :: rest => mask source :: maskAll rest
termination_by structural sources => sources

end

mutual

/-- A node with empty texts and empty names of users. -/
def maskNode : Node → Node
  | { typeName, isInline, isLeaf, attributes, marks, text, content } =>
    { typeName, isInline, isLeaf, attributes := maskAttributes typeName attributes, marks,
      text := maskText typeName text, content := maskNodes content }
termination_by structural node => node

/-- The nodes of a fragment with empty texts and empty names of users. -/
def maskNodes : List Node → List Node
  | [] => []
  | node :: rest => maskNode node :: maskNodes rest
termination_by structural nodes => nodes

end

mutual

/-- What a node is resolved to is masked by masking the node. -/
theorem resolve_mask :
    ∀ (source : SourceNode) (node : Node), schema.resolve source = .ok node →
      schema.resolve (mask source) = .ok (maskNode node)
  | ⟨typeName, attributes, content, marks, text⟩, node, hresolve => by
    obtain ⟨resolved, hmarks, hnode⟩ := Schema.resolve_eq_ok_iff.mp hresolve
    rw [Schema.resolve_eq_ok_iff, mask]
    use resolved, hmarks
    by_cases htext : typeName = Node.textType
    · simp only [if_pos htext] at hnode ⊢
      obtain ⟨s, rfl, hnode⟩ := hnode
      obtain ⟨type, hfind, rfl⟩ := Schema.text_eq_ok_iff.mp hnode
      have hname := schema_namesAgree.nodes _ _ hfind
      have hmention : Node.textType ≠ mentionType := by
        decide
      use "", if_pos htext
      apply Schema.text_eq_ok_iff.mpr
      use type, hfind
      simp [maskNode, maskNodes, maskText, maskAttributes, hname, hmention]
    · simp only [if_neg htext] at hnode ⊢
      obtain ⟨nodes, hnodes, hnode⟩ := hnode
      obtain ⟨type, hfind, rfl⟩ := Schema.node_eq_ok_iff.mp hnode
      have hname := schema_namesAgree.nodes _ _ hfind
      use maskNodes nodes, resolveAll_mask content nodes hnodes
      apply Schema.node_eq_ok_iff.mpr
      use type, hfind
      simp [maskNode, maskText, hname, htext]

/-- What nodes are resolved to is masked by masking the nodes. -/
theorem resolveAll_mask :
    ∀ (sources : List SourceNode) (nodes : List Node), schema.resolveAll sources = .ok nodes →
      schema.resolveAll (maskAll sources) = .ok (maskNodes nodes)
  | [], nodes, hresolve => by
    obtain rfl := Except.ok.inj hresolve
    rfl
  | source :: rest, nodes, hresolve => by
    simp only [Schema.resolveAll, bind_eq_ok_iff, pure_eq_ok_iff] at hresolve
    obtain ⟨node, hnode, others, hothers, rfl⟩ := hresolve
    rw [maskAll, Schema.resolveAll, resolve_mask source node hnode,
      resolveAll_mask rest others hothers]
    rfl

end

mutual

/-- Masking keeps the tags of a node. -/
theorem skeleton_maskNode : ∀ node : Node, skeleton (maskNode node) = skeleton node
  | ⟨typeName, isInline, isLeaf, attributes, marks, text, content⟩ => by
    rw [maskNode, skeleton, skeletonAll_maskNodes content, skeleton]

/-- Masking keeps the tags of a fragment. -/
theorem skeletonAll_maskNodes :
    ∀ fragment : List Node, skeletonAll (maskNodes fragment) = skeletonAll fragment
  | [] => rfl
  | node :: rest => by
    rw [maskNodes, skeletonAll, skeleton_maskNode node, skeletonAll_maskNodes rest, skeletonAll]

end

mutual

/-- Masking keeps the types of a node and of the nodes below it. -/
theorem typeNames_nodes_maskNode :
    ∀ node : Node, (maskNode node).nodes.map (·.typeName) = node.nodes.map (·.typeName)
  | ⟨typeName, isInline, isLeaf, attributes, marks, text, content⟩ => by
    rw [maskNode, Node.nodes_eq, Node.nodes_eq, List.map_cons, List.map_cons,
      typeNames_nodesOf_maskNodes content]

/-- Masking keeps the types of the nodes of a fragment and of the nodes below them. -/
theorem typeNames_nodesOf_maskNodes :
    ∀ fragment : List Node, (Node.nodesOf (maskNodes fragment)).map (·.typeName)
      = (Node.nodesOf fragment).map (·.typeName)
  | [] => rfl
  | node :: rest => by
    rw [maskNodes, Node.nodesOf, Node.nodesOf, List.map_append, List.map_append,
      typeNames_nodes_maskNode node, typeNames_nodesOf_maskNodes rest]

end

/-! ### Documents -/

variable {source source' : SourceNode} {document document' : Node} {encoder : Html.Encoder}

/-- The HTML of the content of a resolved document has the tags of the content, unless there is a
document in it. -/
theorem tags_rendered (hresolve : schema.resolve source = .ok document)
    (hencoder : encoder.Lawful) {displayName : Option String} {options : RendererOptions}
    {passthrough : Attributes} {elements : List Element}
    (hrender : ((Renderer.ofSchema schema displayName options).renderAll passthrough
      document.content).result = .ok elements) :
  Html.tags (Element.htmlAllWith encoder elements) = skeletonAll document.content
  := by
  have hdeclares := declares_content hresolve
  obtain ⟨hrenders, rfl⟩ :=
    (Renderer.renderAll_eq_ok_iff displayName options passthrough schema_factoryFree _ _).mp hrender
  have htags : Element.tagsAll (schema.referenceAll document.content)
      = skeletonAll document.content := by
    apply tagsAll_referenceAll
    intro node hnode
    exact ⟨hdeclares node hnode, (hrenders node hnode).1⟩
  have hnames := allNames_skeletonAll document.content hdeclares
  rw [← htags] at hnames ⊢
  apply Element.tags_htmlAllWith hencoder hnames

/-- Documents that are written alike but for texts and names of users have contents that are alike
but for these. -/
theorem maskNodes_content_eq (hresolve : schema.resolve source = .ok document)
    (hresolve' : schema.resolve source' = .ok document') (hmask : mask source = mask source') :
  maskNodes document.content = maskNodes document'.content
  := by
  have hcontent : ∀ node, (maskNode node).content = maskNodes node.content := by
    rintro ⟨⟩
    rfl
  have hmasked := resolve_mask source document hresolve
  rw [hmask, resolve_mask source' document' hresolve'] at hmasked
  rw [← hcontent, ← hcontent, Except.ok.inj hmasked]

/-- Two documents that are written alike but for texts and names of users are both rendered, to HTML
with the same tags in the same order, or both fail with the same error. -/
theorem sameTags_of_mask_eq (hresolve : schema.resolve source = .ok document)
    (hresolve' : schema.resolve source' = .ok document') (hmask : mask source = mask source')
    (hencoder : encoder.Lawful) (displayName : Option String) (options : RendererOptions)
    (passthrough : Attributes) :
  (∃ elements elements',
      ((Renderer.ofSchema schema displayName options).renderAll passthrough
        document.content).result = .ok elements
      ∧ ((Renderer.ofSchema schema displayName options).renderAll passthrough
        document'.content).result = .ok elements'
      ∧ Html.tags (Element.htmlAllWith encoder elements)
        = Html.tags (Element.htmlAllWith encoder elements'))
    ∨ ∃ error,
      ((Renderer.ofSchema schema displayName options).renderAll passthrough
        document.content).result = .error error
      ∧ ((Renderer.ofSchema schema displayName options).renderAll passthrough
        document'.content).result = .error error
  := by
  have hcontents := maskNodes_content_eq hresolve hresolve' hmask
  have hdeclares := declares_content hresolve
  have hdeclares' := declares_content hresolve'
  have htypes : (Node.nodesOf document.content).map (·.typeName)
      = (Node.nodesOf document'.content).map (·.typeName) := by
    rw [← typeNames_nodesOf_maskNodes, hcontents, typeNames_nodesOf_maskNodes]
  have hnotMem : ∀ nodes : List Node, (∀ node ∈ nodes, node.typeName ≠ documentType)
      ↔ documentType ∉ nodes.map (·.typeName) := by
    simp
  have hrenders := exists_renderAll_iff displayName options passthrough hdeclares
  rw [hnotMem, htypes, ← hnotMem,
    ← exists_renderAll_iff displayName options passthrough hdeclares'] at hrenders
  cases hresult : ((Renderer.ofSchema schema displayName options).renderAll passthrough
      document.content).result with
  | ok elements =>
    obtain ⟨elements', hresult'⟩ := hrenders.mp ⟨elements, hresult⟩
    left
    use elements, elements', rfl, hresult'
    rw [tags_rendered hresolve hencoder hresult, tags_rendered hresolve' hencoder hresult',
      ← skeletonAll_maskNodes, hcontents, skeletonAll_maskNodes]
  | error error =>
    have herror := renderAll_error_eq displayName options passthrough hdeclares hresult
    cases hresult' : ((Renderer.ofSchema schema displayName options).renderAll passthrough
        document'.content).result with
    | ok elements' =>
      obtain ⟨elements, hok⟩ := hrenders.mpr ⟨elements', hresult'⟩
      simp [hresult] at hok
    | error error' =>
      have herror' := renderAll_error_eq displayName options passthrough hdeclares' hresult'
      right
      use error, rfl
      rw [herror, herror']

/-- A document in which a user is mentioned in front of a marked text. -/
def greetingSource (username text : String) : SourceNode :=
  ⟨documentType, Table.empty,
    [⟨"paragraph", Table.empty,
      [⟨mentionType, Table.empty.insert usernameAttribute (.string username), [], [], none⟩,
        ⟨Node.textType, Table.empty, [], [⟨"em", Table.empty⟩], some text⟩],
      [], none⟩],
    [], none⟩

/-- The document that is written like that. -/
def greetingDocument (username text : String) : Node :=
  .block documentType
    [.block "paragraph"
      [{ Node.leaf mentionType with
          isInline := true
          attributes := Table.empty.insert usernameAttribute (.string username) },
        { Node.ofText text with marks := [.ofType "em"] }]]

theorem sameTags_greeting :
  schema.resolve (greetingSource "ada" "hi") = .ok (greetingDocument "ada" "hi")
    ∧ schema.resolve (greetingSource "\"><b>" "</em><br/>")
      = .ok (greetingDocument "\"><b>" "</em><br/>")
    ∧ mask (greetingSource "ada" "hi") = mask (greetingSource "\"><b>" "</em><br/>")
    ∧ Html.Encoder.standard.Lawful
    ∧ ∃ elements elements',
      ((Renderer.ofSchema schema none .default).renderAll Table.empty
        (greetingDocument "ada" "hi").content).result = .ok elements
      ∧ ((Renderer.ofSchema schema none .default).renderAll Table.empty
        (greetingDocument "\"><b>" "</em><br/>").content).result = .ok elements'
      ∧ Html.tags (Element.htmlAll elements) = Html.tags (Element.htmlAll elements')
  := by
  have hresolve : ∀ username text, schema.resolve (greetingSource username text)
      = .ok (greetingDocument username text) := by
    intro username text
    rfl
  have hmask : mask (greetingSource "ada" "hi") = mask (greetingSource "\"><b>" "</em><br/>") := by
    rfl
  have hrender : ((Renderer.ofSchema schema none .default).renderAll Table.empty
      (greetingDocument "ada" "hi").content).result
        = .ok (schema.referenceAll (greetingDocument "ada" "hi").content) := by
    rfl
  refine ⟨hresolve _ _, hresolve _ _, hmask, Html.Encoder.lawful_standard, ?_⟩
  obtain htags | ⟨error, herror, _⟩ := sameTags_of_mask_eq (hresolve "ada" "hi")
    (hresolve "\"><b>" "</em><br/>") hmask Html.Encoder.lawful_standard none .default Table.empty
  · exact htags
  · rw [hrender] at herror
    simp at herror

end RichText.Chat
