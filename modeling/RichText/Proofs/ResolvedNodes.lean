import RichText.Proofs.Resolution

/-!
# What written nodes become

Every node of a resolved document is what one written node stands for (`Schema.Represents`): its
flags are those of the last declaration of its type, its marks are the written ones, and it is
either a text and nothing else, or it has the written attributes and one node for each written node
below it.
-/

namespace RichText

namespace Schema

/-- The node is what the written node stands for in the schema of the declarations. -/
structure Represents (declarations : List Declaration) (source : SourceNode) (node : Node) :
    Prop where
  typeName : node.typeName = source.typeName
  /-- The flags are those of the last declaration of the type, but a text is always inline. -/
  flags : ∃ spec, (Declaration.node node.typeName spec).IsLastIn declarations
    ∧ (node.isInline = true ↔ node.typeName = Node.textType ∨ spec.isInline = true)
    ∧ node.isLeaf = spec.isLeaf
  marks : node.marks = source.marks.map fun mark => ⟨mark.typeName, mark.attributes⟩
  markTypes : ∀ mark ∈ node.marks, ∃ spec, .mark mark.typeName spec ∈ declarations
  /-- Of a text, attributes and content are dropped. -/
  ofText : node.typeName = Node.textType →
    (∃ text, source.text = some text ∧ node.text = some text)
      ∧ node.attributes = Table.empty ∧ node.content = []
  /-- Of every other node the text is dropped; its type may be one of leaves. -/
  ofOther : node.typeName ≠ Node.textType →
    node.text = none ∧ node.attributes = source.attributes
      ∧ List.Forall₂ (fun written child => (ofDeclarations declarations).resolve written = .ok child)
        source.content node.content

/-! ### Single nodes -/

/-- Nodes resolve if they do one by one. -/
theorem resolveAll_eq_ok_iff {schema : Schema} {sources : List SourceNode} {nodes : List Node} :
  schema.resolveAll sources = .ok nodes
    ↔ List.Forall₂ (fun source node => schema.resolve source = .ok node) sources nodes
  := by
  induction sources generalizing nodes with
  | nil => simp [resolveAll, eq_comm]
  | cons source rest ih =>
    simp only [resolveAll, bind_eq_ok_iff, pure_eq_ok_iff, List.forall₂_cons_left_iff, ih]
    constructor
    · rintro ⟨node, hnode, others, hothers, rfl⟩
      exact ⟨node, others, hnode, hothers, rfl⟩
    · rintro ⟨node, others, hnode, hothers, rfl⟩
      exact ⟨node, hnode, others, hothers, rfl⟩

variable {declarations : List Declaration}

/-- The marks of a resolved node are the written ones, and their types are declared. -/
theorem marks_of_resolveMarks {sources : List SourceMark} {marks : List Mark}
    (h : sources.mapM (ofDeclarations declarations).resolveMark = .ok marks) :
  marks = sources.map (fun mark => ⟨mark.typeName, mark.attributes⟩)
    ∧ ∀ mark ∈ marks, ∃ spec, .mark mark.typeName spec ∈ declarations
  := by
  constructor
  · apply eq_map_of_mapM _ h
    intro source mark hmark
    obtain ⟨type, hfind, rfl⟩ := resolveMark_eq_ok_iff.mp hmark
    rw [(mem_of_find?_marks_ofDeclarations hfind).1]
  · intro mark hmem
    obtain ⟨source, _, hmark⟩ := exists_of_mem_mapM h hmem
    obtain ⟨type, hfind, rfl⟩ := resolveMark_eq_ok_iff.mp hmark
    obtain ⟨hname, hdeclared⟩ := mem_of_find?_marks_ofDeclarations hfind
    use type.spec
    rwa [hname]

/-- A node with the flags of the type that is found under its name has those of the last
declaration. -/
theorem flags_of_find? {name : String} {type : NodeType}
    (hfind : (ofDeclarations declarations).nodes.find? name = some type) :
  ∃ spec, (Declaration.node type.name spec).IsLastIn declarations
    ∧ (type.isInline = true ↔ type.name = Node.textType ∨ spec.isInline = true)
    ∧ type.isLeaf = spec.isLeaf
  := by
  obtain ⟨hname, hlast⟩ := find?_nodes_ofDeclarations_eq_some_iff.mp hfind
  rw [hname]
  use type.spec, hlast
  simp [NodeType.isInline, NodeType.isLeaf, hname]

/-- What a written node resolves to is what it stands for. -/
theorem represents_of_resolve {source : SourceNode} {node : Node}
    (h : (ofDeclarations declarations).resolve source = .ok node) :
  Represents declarations source node
  := by
  obtain ⟨marks, hmarks, hnode⟩ := resolve_eq_ok_iff.mp h
  obtain ⟨hmarks, hdeclared⟩ := marks_of_resolveMarks hmarks
  by_cases htext : source.typeName = Node.textType
  · rw [if_pos htext] at hnode
    obtain ⟨text, hsome, hnode⟩ := hnode
    obtain ⟨type, hfind, rfl⟩ := text_eq_ok_iff.mp hnode
    have hname : type.name = source.typeName :=
      (find?_nodes_ofDeclarations_eq_some_iff.mp hfind).1.trans htext.symm
    exact {
      typeName := hname
      flags := flags_of_find? hfind
      marks := hmarks
      markTypes := hdeclared
      ofText := fun _ => ⟨⟨text, hsome, rfl⟩, rfl, rfl⟩
      ofOther := fun hother => absurd (hname.trans htext) hother }
  · rw [if_neg htext] at hnode
    obtain ⟨content, hcontent, hnode⟩ := hnode
    obtain ⟨type, hfind, rfl⟩ := node_eq_ok_iff.mp hnode
    have hname : type.name = source.typeName :=
      (find?_nodes_ofDeclarations_eq_some_iff.mp hfind).1
    exact {
      typeName := hname
      flags := flags_of_find? hfind
      marks := hmarks
      markTypes := hdeclared
      ofText := fun heq => absurd (hname.symm.trans heq) htext
      ofOther := fun _ => ⟨rfl, rfl, resolveAll_eq_ok_iff.mp hcontent⟩ }

/-! ### Whole documents -/

/-- At every place of a resolved document stands the node that the written node at this place stands
for.  Nothing is reached below a text, and everything else is. -/
theorem nodes_represent_reached {source : SourceNode} {node : Node}
    (h : (ofDeclarations declarations).resolve source = .ok node) :
  List.Forall₂ (Represents declarations) source.reached node.nodes
  := by
  apply List.Forall₂.imp _ (forall₂_resolve source node h)
  intro written made hmade
  exact represents_of_resolve hmade

/-- Declarations in which images become inline leaves. -/
def imageDeclarations : List Declaration :=
  [.node "image" { NodeSpec.plain with content := some "text*" }, .mark "em" ⟨none, none⟩,
    .node "image" { NodeSpec.plain with isInline := true }, .node Node.textType .plain]

/-- A written image with a text of its own and with another one below it, which has attributes,
content, and one mark twice. -/
def captionedImage : SourceNode where
  typeName := "image"
  attributes := .ofList [("src", .string "a.png")]
  content := [⟨Node.textType, .ofList [("lang", .string "en")],
    [⟨"video", Table.empty, [], [], none⟩], [⟨"em", Table.empty⟩, ⟨"em", Table.empty⟩], some "a"⟩]
  marks := []
  text := some "dropped"

/-- The image as it is resolved. -/
def resolvedImage : Node where
  typeName := "image"
  isInline := true
  isLeaf := true
  attributes := .ofList [("src", .string "a.png")]
  marks := []
  text := none
  content := [{ Node.ofText "a" with marks := [.ofType "em", .ofType "em"] }]

theorem resolvedImage_represents_captionedImage :
  (ofDeclarations imageDeclarations).resolve captionedImage = .ok resolvedImage
    ∧ List.Forall₂ (Represents imageDeclarations) captionedImage.reached resolvedImage.nodes
  := by
  have hresolve : (ofDeclarations imageDeclarations).resolve captionedImage
    = .ok resolvedImage := rfl
  exact ⟨hresolve, nodes_represent_reached hresolve⟩

end Schema

end RichText
