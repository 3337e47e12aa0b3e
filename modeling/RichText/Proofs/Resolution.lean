import RichText.Schema.Resolve
import RichText.Proofs.Declarations
import RichText.Proofs.Sequencing
import RichText.Proofs.Trees
import Mathlib.Tactic.Use

/-!
# When documents resolve

A written document resolves in a schema exactly when every node that is reached has a declared
type, every mark on it has one, and every text has a text; what stands below a text is not reached.
If the schema knows its types by their names, all nodes and marks of the resolved document are of
declared types, and every node has the flags of its type.
-/

namespace RichText

namespace Schema

/-- The types of a written node and of its marks are declared, and it has a text if it is one. -/
structure Admits (schema : Schema) (source : SourceNode) : Prop where
  marks : ∀ mark ∈ source.marks, schema.marks.contains mark.typeName = true
  node : schema.nodes.contains source.typeName = true
  text : source.typeName = Node.textType → source.text.isSome = true

/-- The types of a node and of its marks are declared. -/
structure Declares (schema : Schema) (node : Node) : Prop where
  marks : ∀ mark ∈ node.marks, schema.marks.contains mark.typeName = true
  node : schema.nodes.contains node.typeName = true

/-! ### Looking types up -/

variable {schema : Schema}

theorem nodeType_eq_ok_iff {name : String} {type : NodeType} :
  schema.nodeType name = .ok type ↔ schema.nodes.find? name = some type
  := by
  unfold nodeType
  cases schema.nodes.find? name with
  | none => simp
  | some type' => simp

theorem markType_eq_ok_iff {name : String} {type : MarkType} :
  schema.markType name = .ok type ↔ schema.marks.find? name = some type
  := by
  unfold markType
  cases schema.marks.find? name with
  | none => simp
  | some type' => simp

/-- A node is made when its type is declared, and takes name and flags from it. -/
theorem node_eq_ok_iff {name : String} {attributes : Attributes} {content : List Node}
    {marks : List Mark} {node : Node} :
  schema.node name attributes content marks = .ok node
    ↔ ∃ type, schema.nodes.find? name = some type
      ∧ node = ⟨type.name, type.isInline, type.isLeaf, attributes, marks, none, content⟩
  := by
  simp only [Schema.node, bind_eq_ok_iff, nodeType_eq_ok_iff, pure_eq_ok_iff]
  constructor
  · rintro ⟨type, hfind, rfl⟩
    exact ⟨type, hfind, rfl⟩
  · rintro ⟨type, hfind, rfl⟩
    exact ⟨type, hfind, rfl⟩

/-- A text is made when texts are declared. -/
theorem text_eq_ok_iff {text : String} {marks : List Mark} {node : Node} :
  schema.text text marks = .ok node
    ↔ ∃ type, schema.nodes.find? Node.textType = some type
      ∧ node = ⟨type.name, type.isInline, type.isLeaf, Table.empty, marks, some text, []⟩
  := by
  simp only [Schema.text, bind_eq_ok_iff, node_eq_ok_iff, pure_eq_ok_iff]
  constructor
  · rintro ⟨_, ⟨type, hfind, rfl⟩, rfl⟩
    exact ⟨type, hfind, rfl⟩
  · rintro ⟨type, hfind, rfl⟩
    exact ⟨_, ⟨type, hfind, rfl⟩, rfl⟩

/-- A mark resolves when its type is declared, and takes its name from it. -/
theorem resolveMark_eq_ok_iff {source : SourceMark} {mark : Mark} :
  schema.resolveMark source = .ok mark
    ↔ ∃ type, schema.marks.find? source.typeName = some type
      ∧ mark = ⟨type.name, source.attributes⟩
  := by
  simp only [resolveMark, Schema.mark, bind_eq_ok_iff, markType_eq_ok_iff, pure_eq_ok_iff]
  constructor
  · rintro ⟨_, ⟨type, hfind, rfl⟩, rfl⟩
    exact ⟨type, hfind, rfl⟩
  · rintro ⟨type, hfind, rfl⟩
    exact ⟨_, ⟨type, hfind, rfl⟩, rfl⟩

/-- The marks of a node resolve when their types are declared. -/
theorem exists_resolveMarks_iff {sources : List SourceMark} :
  (∃ marks, sources.mapM schema.resolveMark = .ok marks)
    ↔ ∀ mark ∈ sources, schema.marks.contains mark.typeName = true
  := by
  simp only [exists_mapM_eq_ok_iff, resolveMark_eq_ok_iff, Table.contains,
    Option.isSome_iff_exists]
  constructor
  · intro hmarks source hmem
    obtain ⟨_, type, hfind, _⟩ := hmarks source hmem
    exact ⟨type, hfind⟩
  · intro hmarks source hmem
    obtain ⟨type, hfind⟩ := hmarks source hmem
    exact ⟨_, type, hfind, rfl⟩

/-- A text is made exactly when texts are declared. -/
theorem exists_text_iff {text : String} {marks : List Mark} :
  (∃ node, schema.text text marks = .ok node) ↔ schema.nodes.contains Node.textType = true
  := by
  simp only [text_eq_ok_iff, Table.contains, Option.isSome_iff_exists]
  constructor
  · rintro ⟨_, type, hfind, _⟩
    exact ⟨type, hfind⟩
  · rintro ⟨type, hfind⟩
    exact ⟨_, type, hfind, rfl⟩

/-- A node is made exactly when its type is declared. -/
theorem exists_node_iff {name : String} {attributes : Attributes} {content : List Node}
    {marks : List Mark} :
  (∃ node, schema.node name attributes content marks = .ok node)
    ↔ schema.nodes.contains name = true
  := by
  simp only [node_eq_ok_iff, Table.contains, Option.isSome_iff_exists]
  constructor
  · rintro ⟨_, type, hfind, _⟩
    exact ⟨type, hfind⟩
  · rintro ⟨type, hfind⟩
    exact ⟨_, type, hfind, rfl⟩

/-! ### Whole documents -/

/-- Resolving a node: its marks first, then its content unless it is a text, then its type. -/
theorem resolve_eq_ok_iff {source : SourceNode} {node : Node} :
  schema.resolve source = .ok node
    ↔ ∃ marks, source.marks.mapM schema.resolveMark = .ok marks
      ∧ if source.typeName = Node.textType then
          ∃ text, source.text = some text ∧ schema.text text marks = .ok node
        else
          ∃ content, schema.resolveAll source.content = .ok content
            ∧ schema.node source.typeName source.attributes content marks = .ok node
  := by
  obtain ⟨typeName, attributes, content, marks, text⟩ := source
  rw [resolve, bind_eq_ok_iff]
  by_cases htext : typeName = Node.textType
  · cases text with
    | none => simp [htext]
    | some text => simp [htext]
  · simp only [if_neg htext, bind_eq_ok_iff]

mutual

/-- A document resolves exactly when all nodes that are reached are admitted. -/
theorem exists_resolve_iff :
    ∀ source : SourceNode,
      (∃ node, schema.resolve source = .ok node)
        ↔ ∀ reached ∈ source.reached, schema.Admits reached
  | ⟨typeName, attributes, content, marks, text⟩ => by
    simp only [resolve_eq_ok_iff, SourceNode.reached, List.forall_mem_cons]
    by_cases htext : typeName = Node.textType
    · subst htext
      simp only [if_true, List.not_mem_nil, false_implies, implies_true, and_true]
      constructor
      · rintro ⟨node, resolved, hmarks, s, rfl, hnode⟩
        exact ⟨exists_resolveMarks_iff.mp ⟨resolved, hmarks⟩, exists_text_iff.mp ⟨node, hnode⟩,
          fun _ => rfl⟩
      · rintro ⟨hmarks, hdeclared, hsome⟩
        obtain ⟨resolved, hresolved⟩ := exists_resolveMarks_iff.mpr hmarks
        obtain ⟨s, hs⟩ := Option.isSome_iff_exists.mp (hsome rfl)
        obtain ⟨node, hnode⟩ := exists_text_iff.mpr hdeclared
        exact ⟨node, resolved, hresolved, s, hs, hnode⟩
    · simp only [if_neg htext, ← exists_resolveAll_iff content]
      constructor
      · rintro ⟨node, resolved, hmarks, nodes, hnodes, hnode⟩
        exact ⟨⟨exists_resolveMarks_iff.mp ⟨resolved, hmarks⟩, exists_node_iff.mp ⟨node, hnode⟩,
          fun heq => absurd heq htext⟩, nodes, hnodes⟩
      · rintro ⟨⟨hmarks, hdeclared, _⟩, nodes, hnodes⟩
        obtain ⟨resolved, hresolved⟩ := exists_resolveMarks_iff.mpr hmarks
        obtain ⟨node, hnode⟩ := exists_node_iff.mpr hdeclared
        exact ⟨node, resolved, hresolved, nodes, hnodes, hnode⟩

/-- Documents resolve exactly when all nodes that are reached in them are admitted. -/
theorem exists_resolveAll_iff :
    ∀ sources : List SourceNode,
      (∃ nodes, schema.resolveAll sources = .ok nodes)
        ↔ ∀ reached ∈ SourceNode.reachedOf sources, schema.Admits reached
  | [] => by simp [resolveAll, SourceNode.reachedOf]
  | source :: rest => by
    rw [resolveAll, SourceNode.reachedOf, List.forall_mem_append, ← exists_resolve_iff source,
      ← exists_resolveAll_iff rest]
    simp only [bind_eq_ok_iff, pure_eq_ok_iff]
    constructor
    · rintro ⟨_, node, hnode, nodes, hnodes, _⟩
      exact ⟨⟨node, hnode⟩, nodes, hnodes⟩
    · rintro ⟨⟨node, hnode⟩, nodes, hnodes⟩
      exact ⟨_, node, hnode, nodes, hnodes, rfl⟩

end

mutual

/-- The nodes of a resolved document are what the written nodes that are reached resolve to, one by
one and in the same order. -/
theorem forall₂_resolve :
    ∀ (source : SourceNode) (node : Node), schema.resolve source = .ok node →
      List.Forall₂ (fun written made => schema.resolve written = .ok made) source.reached
        node.nodes
  | ⟨typeName, attributes, content, marks, text⟩, node, hresolve => by
    obtain ⟨resolved, hmarks, hnode⟩ := resolve_eq_ok_iff.mp hresolve
    rw [SourceNode.reached, Node.nodes_eq, List.forall₂_cons]
    constructor
    · exact hresolve
    · by_cases htext : typeName = Node.textType
      · rw [if_pos htext] at hnode ⊢
        obtain ⟨s, _, hnode⟩ := hnode
        obtain ⟨type, _, rfl⟩ := text_eq_ok_iff.mp hnode
        exact .nil
      · rw [if_neg htext] at hnode ⊢
        obtain ⟨nodes, hnodes, hnode⟩ := hnode
        obtain ⟨type, _, rfl⟩ := node_eq_ok_iff.mp hnode
        exact forall₂_resolveAll content nodes hnodes

/-- The nodes of resolved documents are what the written nodes that are reached resolve to. -/
theorem forall₂_resolveAll :
    ∀ (sources : List SourceNode) (nodes : List Node), schema.resolveAll sources = .ok nodes →
      List.Forall₂ (fun written made => schema.resolve written = .ok made)
        (SourceNode.reachedOf sources) (Node.nodesOf nodes)
  | [], nodes, hresolve => by
    obtain rfl := Except.ok.inj hresolve
    exact .nil
  | source :: rest, nodes, hresolve => by
    simp only [resolveAll, bind_eq_ok_iff, pure_eq_ok_iff] at hresolve
    obtain ⟨node, hnode, others, hothers, rfl⟩ := hresolve
    rw [SourceNode.reachedOf, Node.nodesOf]
    apply List.rel_append
    · exact forall₂_resolve source node hnode
    · exact forall₂_resolveAll rest others hothers

end

/-- There is a document when something can be read and it resolves. -/
theorem document_eq_ok_iff {read : Except Json.ReadError SourceNode} {node : Node} :
  schema.document read = .ok node ↔ ∃ source, read = .ok source ∧ schema.resolve source = .ok node
  := by
  cases read with
  | error fault => simp [document]
  | ok source => simp [document]

/-! ### Resolved documents -/

/-- The marks of a resolved node are of declared types. -/
theorem contains_of_resolveMarks (hnames : schema.NamesAgree) {sources : List SourceMark}
    {marks : List Mark} (hmarks : sources.mapM schema.resolveMark = .ok marks) :
  ∀ mark ∈ marks, schema.marks.contains mark.typeName = true
  := by
  intro mark hmem
  obtain ⟨source, _, hsource⟩ := exists_of_mem_mapM hmarks hmem
  obtain ⟨type, hfind, rfl⟩ := resolveMark_eq_ok_iff.mp hsource
  rw [← hnames.marks _ _ hfind] at hfind
  simp [Table.contains, hfind]

/-- A node of a declared type with the flags of the type and with marks of declared types.  It has a
text exactly if it is one, and then no content. -/
structure Makes (schema : Schema) (node : Node) : Prop where
  type : ∃ type, schema.nodes.find? node.typeName = some type
    ∧ node.isInline = type.isInline ∧ node.isLeaf = type.isLeaf
  marks : ∀ mark ∈ node.marks, schema.marks.contains mark.typeName = true
  text : node.text.isSome = true ↔ node.typeName = Node.textType
  content : node.typeName = Node.textType → node.content = []

/-- The types of a node that a schema makes and of its marks are declared. -/
theorem Makes.declares {node : Node} (h : schema.Makes node) :
  schema.Declares node
  := by
  obtain ⟨type, hfind, _⟩ := h.type
  constructor
  · exact h.marks
  · simp [Table.contains, hfind]

/-- What is made of a text is a node that the schema makes. -/
theorem makes_of_text (hnames : schema.NamesAgree) {text : String} {marks : List Mark}
    (hmarks : ∀ mark ∈ marks, schema.marks.contains mark.typeName = true) {node : Node}
    (h : schema.text text marks = .ok node) :
  schema.Makes node
  := by
  obtain ⟨type, hfind, rfl⟩ := text_eq_ok_iff.mp h
  have hname := hnames.nodes _ _ hfind
  constructor
  · exact ⟨type, by rwa [hname], rfl, rfl⟩
  · exact hmarks
  · simp [hname]
  · intro _
    rfl

/-- What is made of another type than that of texts is a node that the schema makes. -/
theorem makes_of_node (hnames : schema.NamesAgree) {name : String} {attributes : Attributes}
    {content : List Node} {marks : List Mark} (htext : name ≠ Node.textType)
    (hmarks : ∀ mark ∈ marks, schema.marks.contains mark.typeName = true) {node : Node}
    (h : schema.node name attributes content marks = .ok node) :
  schema.Makes node
  := by
  obtain ⟨type, hfind, rfl⟩ := node_eq_ok_iff.mp h
  have hname := hnames.nodes _ _ hfind
  constructor
  · exact ⟨type, by rwa [hname], rfl, rfl⟩
  · exact hmarks
  · simp [hname, htext]
  · intro heq
    exact absurd (hname ▸ heq) htext

/-- What a written node resolves to is a node that the schema makes. -/
theorem makes_of_resolve_self (hnames : schema.NamesAgree) {source : SourceNode} {node : Node}
    (h : schema.resolve source = .ok node) :
  schema.Makes node
  := by
  obtain ⟨resolved, hmarks, hnode⟩ := resolve_eq_ok_iff.mp h
  have hresolved := contains_of_resolveMarks hnames hmarks
  split at hnode
  · obtain ⟨s, _, hnode⟩ := hnode
    exact makes_of_text hnames hresolved hnode
  · rename_i htext
    obtain ⟨nodes, _, hnode⟩ := hnode
    exact makes_of_node hnames htext hresolved hnode

/-- All nodes of a resolved document are nodes that the schema makes. -/
theorem makes_of_resolve (hnames : schema.NamesAgree) (source : SourceNode) (node : Node)
    (hresolve : schema.resolve source = .ok node) :
  ∀ below ∈ node.nodes, schema.Makes below
  := by
  intro below hbelow
  obtain ⟨written, _, hwritten⟩ := exists_of_mem_right (forall₂_resolve source node hresolve) hbelow
  exact makes_of_resolve_self hnames hwritten

end Schema

end RichText
