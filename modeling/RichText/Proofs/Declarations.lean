import RichText.Chat
import RichText.Proofs.Table

/-!
# What holds of all declared types

A schema is built by declaring types one by one.  What holds of every declaration holds of every
type of the schema, since a type that is declared again only replaces the earlier one.  In
particular a type is found under its own name.  In the schema of a sequence of declarations
(`Schema.ofDeclarations`) the last declaration of a type counts, and the others do not.
-/

namespace RichText

namespace Schema

/-- Every type of nodes has the name it is declared under, and `P` holds of its name and spec. -/
def AllNodes (P : String → NodeSpec → Prop) (schema : Schema) : Prop :=
  ∀ name type, schema.nodes.find? name = some type → type.name = name ∧ P name type.spec

/-- Every type of marks has the name it is declared under, and `P` holds of its name and spec. -/
def AllMarks (P : String → MarkSpec → Prop) (schema : Schema) : Prop :=
  ∀ name type, schema.marks.find? name = some type → type.name = name ∧ P name type.spec

section

variable {P : String → NodeSpec → Prop} {Q : String → MarkSpec → Prop} {schema : Schema}

theorem allNodes_empty :
  empty.AllNodes P
  := Table.forall_find?_empty

theorem allMarks_empty :
  empty.AllMarks Q
  := Table.forall_find?_empty

/-- What holds of all types of nodes and of one more holds when that one is declared. -/
theorem AllNodes.declareNode (h : schema.AllNodes P) {name : String} {spec : NodeSpec}
    (hspec : P name spec) :
  (schema.declareNode name spec).AllNodes P
  := Table.forall_find?_insert h ⟨rfl, hspec⟩

/-- What holds of all types of marks and of one more holds when that one is declared. -/
theorem AllMarks.declareMark (h : schema.AllMarks Q) {name : String} {spec : MarkSpec}
    (hspec : Q name spec) :
  (schema.declareMark name spec).AllMarks Q
  := Table.forall_find?_insert h ⟨rfl, hspec⟩

/-- Declaring a type of marks leaves the types of nodes alone. -/
theorem AllNodes.declareMark (h : schema.AllNodes P) {name : String} {spec : MarkSpec} :
  (schema.declareMark name spec).AllNodes P
  := h

/-- Declaring a type of nodes leaves the types of marks alone. -/
theorem AllMarks.declareNode (h : schema.AllMarks Q) {name : String} {spec : NodeSpec} :
  (schema.declareNode name spec).AllMarks Q
  := h

end

/-- Every type has the name it is declared under. -/
structure NamesAgree (schema : Schema) : Prop where
  nodes : ∀ name type, schema.nodes.find? name = some type → type.name = name
  marks : ∀ name type, schema.marks.find? name = some type → type.name = name

/-- No type of nodes or marks brings a factory of its own. -/
structure FactoryFree (schema : Schema) : Prop where
  nodes : ∀ name type, schema.nodes.find? name = some type → type.spec.factory = none
  marks : ∀ name type, schema.marks.find? name = some type → type.spec.factory = none

/-- A schema is free of factories if none of its declarations brings one. -/
theorem factoryFree_of_all {schema : Schema}
    (hnodes : schema.AllNodes fun _ spec => spec.factory = none)
    (hmarks : schema.AllMarks fun _ spec => spec.factory = none) :
  schema.FactoryFree
  where
  nodes name type hfind := (hnodes name type hfind).2
  marks name type hfind := (hmarks name type hfind).2

end Schema

/-! ### Sequences of declarations -/

/-- A declaration of a type of nodes or of marks. -/
inductive Declaration where
  | node (name : String) (spec : NodeSpec)
  | mark (name : String) (spec : MarkSpec)

namespace Declaration

/-- The kind and the name of the type that is declared. -/
def type : Declaration → TypeKind × String
  | node name _ => (.node, name)
  | mark name _ => (.mark, name)

/-- The declared type brings no factory of its own. -/
def FactoryFree : Declaration → Prop
  | node _ spec => spec.factory = none
  | mark _ spec => spec.factory = none

/-- The type of nodes that is declared under a name. -/
def nodeType? (name : String) : Declaration → Option NodeType
  | node name' spec => if name' = name then some ⟨name', spec⟩ else none
  | mark .. => none

/-- The type of marks that is declared under a name. -/
def markType? (name : String) : Declaration → Option MarkType
  | node .. => none
  | mark name' spec => if name' = name then some ⟨name', spec⟩ else none

/-- It makes no difference which of two equal names is compared with a third. -/
private theorem named_iff {σ : Type} {name name' name'' : String} {spec spec' : σ} :
  (name' = name ∧ name' = name'' ∧ spec = spec')
    ↔ name'' = name ∧ name' = name ∧ spec = spec'
  := by
  constructor
  · rintro ⟨rfl, rfl, hspec⟩
    exact ⟨rfl, rfl, hspec⟩
  · rintro ⟨rfl, rfl, hspec⟩
    exact ⟨rfl, rfl, hspec⟩

theorem nodeType?_eq_some_iff {name : String} {declaration : Declaration} {type : NodeType} :
  declaration.nodeType? name = some type ↔ type.name = name ∧ declaration = .node name type.spec
  := by
  cases declaration with
  | node name' spec =>
    obtain ⟨name'', spec'⟩ := type
    simp only [nodeType?, Option.ite_none_right_eq_some, Option.some.injEq, NodeType.mk.injEq,
      node.injEq]
    exact named_iff
  | mark name' spec => simp [nodeType?]

theorem markType?_eq_some_iff {name : String} {declaration : Declaration} {type : MarkType} :
  declaration.markType? name = some type ↔ type.name = name ∧ declaration = .mark name type.spec
  := by
  cases declaration with
  | node name' spec => simp [markType?]
  | mark name' spec =>
    obtain ⟨name'', spec'⟩ := type
    simp only [markType?, Option.ite_none_right_eq_some, Option.some.injEq, MarkType.mk.injEq,
      mark.injEq]
    exact named_iff

theorem nodeType?_eq_none_iff {name : String} {declaration : Declaration} :
  declaration.nodeType? name = none ↔ declaration.type ≠ (.node, name)
  := by
  cases declaration with
  | node name' spec => simp [nodeType?, type]
  | mark name' spec => simp [nodeType?, type]

theorem markType?_eq_none_iff {name : String} {declaration : Declaration} :
  declaration.markType? name = none ↔ declaration.type ≠ (.mark, name)
  := by
  cases declaration with
  | node name' spec => simp [markType?, type]
  | mark name' spec => simp [markType?, type]

/-- The declaration is in the sequence, and no later one in it is of the same type. -/
def IsLastIn (declarations : List Declaration) (declaration : Declaration) : Prop :=
  ∃ before after, declarations = before ++ declaration :: after
    ∧ ∀ later ∈ after, later.type ≠ declaration.type

theorem IsLastIn.mem {declarations : List Declaration} {declaration : Declaration}
    (h : declaration.IsLastIn declarations) :
  declaration ∈ declarations
  := by
  obtain ⟨before, after, rfl, -⟩ := h
  simp

end Declaration

namespace Schema

/-- The schema with one more declaration. -/
def declare (schema : Schema) : Declaration → Schema
  | .node name spec => schema.declareNode name spec
  | .mark name spec => schema.declareMark name spec

/-- The schema of a sequence of declarations. -/
def ofDeclarations (declarations : List Declaration) : Schema := declarations.foldl declare empty

theorem find?_nodes_declare (schema : Schema) (declaration : Declaration) (name : String) :
  (schema.declare declaration).nodes.find? name
    = (declaration.nodeType? name).or (schema.nodes.find? name)
  := by
  cases declaration with
  | node name' spec => exact Table.find?_insert_eq_or _ _ _ _
  | mark name' spec => rfl

theorem find?_marks_declare (schema : Schema) (declaration : Declaration) (name : String) :
  (schema.declare declaration).marks.find? name
    = (declaration.markType? name).or (schema.marks.find? name)
  := by
  cases declaration with
  | node name' spec => rfl
  | mark name' spec => exact Table.find?_insert_eq_or _ _ _ _

/-- What is read behind steps that may each write something is what was written last. -/
private theorem read_foldl {σ δ α : Type} {step : σ → δ → σ} (read : σ → Option α)
    {written : δ → Option α} (h : ∀ state x, read (step state x) = (written x).or (read state))
    (state : σ) (xs : List δ) :
  read (xs.foldl step state) = (xs.reverse.findSome? written).or (read state)
  := by
  induction xs generalizing state with
  | nil => rfl
  | cons x rest ih =>
    rw [List.foldl_cons, ih, h, List.reverse_cons, List.findSome?_append, Option.or_assoc]
    simp

/-- The last declaration of a type of nodes counts. -/
theorem find?_nodes_ofDeclarations (declarations : List Declaration) (name : String) :
  (ofDeclarations declarations).nodes.find? name
    = declarations.reverse.findSome? (·.nodeType? name)
  := by
  apply (read_foldl (·.nodes.find? name) (find?_nodes_declare · · name) empty declarations).trans
  apply Option.or_none

/-- The last declaration of a type of marks counts. -/
theorem find?_marks_ofDeclarations (declarations : List Declaration) (name : String) :
  (ofDeclarations declarations).marks.find? name
    = declarations.reverse.findSome? (·.markType? name)
  := by
  apply (read_foldl (·.marks.find? name) (find?_marks_declare · · name) empty declarations).trans
  apply Option.or_none

/-- What is read behind steps is what one of them writes, and no later one writes anything. -/
private theorem findSome?_reverse_eq_some_iff {δ α : Type} {written : δ → Option α} {xs : List δ}
    {a : α} :
  xs.reverse.findSome? written = some a
    ↔ ∃ before x after, xs = before ++ x :: after ∧ written x = some a
      ∧ ∀ later ∈ after, written later = none
  := by
  rw [List.findSome?_eq_some_iff]
  constructor
  · rintro ⟨after, x, before, hsplit, hx, hafter⟩
    use before.reverse, x, after.reverse
    refine ⟨?_, hx, ?_⟩
    · rw [← xs.reverse_reverse, hsplit]
      simp
    · simpa using hafter
  · rintro ⟨before, x, after, rfl, hx, hafter⟩
    use after.reverse, x, before.reverse
    refine ⟨?_, hx, ?_⟩
    · simp
    · simpa using hafter

/-- What is read behind declarations is what the last one of a type says, if only those of the type
say anything. -/
private theorem findSome?_reverse_eq_some_iff_isLastIn {α : Type} {written : Declaration → Option α}
    {declarations : List Declaration} {a : α} {named : Prop} {declaration : Declaration}
    (hsome : ∀ other, written other = some a ↔ named ∧ other = declaration)
    (hnone : ∀ other, written other = none ↔ other.type ≠ declaration.type) :
  declarations.reverse.findSome? written = some a ↔ named ∧ declaration.IsLastIn declarations
  := by
  rw [findSome?_reverse_eq_some_iff]
  constructor
  · rintro ⟨before, other, after, hsplit, hother, hafter⟩
    obtain ⟨hnamed, rfl⟩ := (hsome other).mp hother
    refine ⟨hnamed, before, after, hsplit, ?_⟩
    intro later hlater
    exact (hnone later).mp (hafter later hlater)
  · rintro ⟨hnamed, before, after, hsplit, hafter⟩
    refine ⟨before, declaration, after, hsplit, (hsome declaration).mpr ⟨hnamed, rfl⟩, ?_⟩
    intro later hlater
    exact (hnone later).mpr (hafter later hlater)

/-- What is found under a name is what its last declaration says. -/
theorem find?_nodes_ofDeclarations_eq_some_iff {declarations : List Declaration} {name : String}
    {type : NodeType} :
  (ofDeclarations declarations).nodes.find? name = some type
    ↔ type.name = name ∧ (Declaration.node name type.spec).IsLastIn declarations
  := by
  rw [find?_nodes_ofDeclarations]
  apply findSome?_reverse_eq_some_iff_isLastIn
  · exact fun _ => Declaration.nodeType?_eq_some_iff
  · exact fun _ => Declaration.nodeType?_eq_none_iff

/-- What is found under a name is what its last declaration says. -/
theorem find?_marks_ofDeclarations_eq_some_iff {declarations : List Declaration} {name : String}
    {type : MarkType} :
  (ofDeclarations declarations).marks.find? name = some type
    ↔ type.name = name ∧ (Declaration.mark name type.spec).IsLastIn declarations
  := by
  rw [find?_marks_ofDeclarations]
  apply findSome?_reverse_eq_some_iff_isLastIn
  · exact fun _ => Declaration.markType?_eq_some_iff
  · exact fun _ => Declaration.markType?_eq_none_iff

/-- What is looked for is found among the elements that are kept, if none of the others has it. -/
private theorem findSome?_filter {α β : Type} {kept : α → Bool} {f : α → Option β} {xs : List α}
    (h : ∀ x ∈ xs, kept x = false → f x = none) :
  (xs.filter kept).findSome? f = xs.findSome? f
  := by
  induction xs with
  | nil => rfl
  | cons x rest ih =>
    obtain ⟨hx, hrest⟩ := List.forall_mem_cons.mp h
    cases hkept : kept x with
    | true => rw [List.filter_cons_of_pos hkept, List.findSome?_cons, List.findSome?_cons, ih hrest]
    | false =>
      rw [List.filter_cons_of_neg (by simp [hkept]), List.findSome?_cons, hx hkept, ih hrest]

/-- Declarations of another type than the one that says what is read do not count for it. -/
private theorem findSome?_reverse_filter {α : Type} {kept : Declaration → Bool}
    {written : Declaration → Option α} {type : TypeKind × String}
    (hwritten : ∀ declaration, written declaration = none ↔ declaration.type ≠ type)
    (hkept : ∀ declaration : Declaration, declaration.type = type → kept declaration = true)
    (declarations : List Declaration) :
  (declarations.filter kept).reverse.findSome? written = declarations.reverse.findSome? written
  := by
  rw [← List.filter_reverse]
  apply findSome?_filter
  intro declaration _ hdropped
  rw [hwritten]
  intro htype
  simp [hkept declaration htype] at hdropped

/-- Other declarations than those of a type of nodes do not count for it. -/
theorem find?_nodes_ofDeclarations_filter {kept : Declaration → Bool} {name : String}
    (h : ∀ declaration : Declaration, declaration.type = (.node, name) → kept declaration = true)
    (declarations : List Declaration) :
  (ofDeclarations (declarations.filter kept)).nodes.find? name
    = (ofDeclarations declarations).nodes.find? name
  := by
  rw [find?_nodes_ofDeclarations, find?_nodes_ofDeclarations]
  exact findSome?_reverse_filter (fun _ => Declaration.nodeType?_eq_none_iff) h declarations

/-- Other declarations than those of a type of marks do not count for it. -/
theorem find?_marks_ofDeclarations_filter {kept : Declaration → Bool} {name : String}
    (h : ∀ declaration : Declaration, declaration.type = (.mark, name) → kept declaration = true)
    (declarations : List Declaration) :
  (ofDeclarations (declarations.filter kept)).marks.find? name
    = (ofDeclarations declarations).marks.find? name
  := by
  rw [find?_marks_ofDeclarations, find?_marks_ofDeclarations]
  exact findSome?_reverse_filter (fun _ => Declaration.markType?_eq_none_iff) h declarations

/-- What is found under a name is declared under it. -/
theorem mem_of_find?_nodes_ofDeclarations {declarations : List Declaration} {name : String}
    {type : NodeType} (h : (ofDeclarations declarations).nodes.find? name = some type) :
  type.name = name ∧ .node name type.spec ∈ declarations
  := (find?_nodes_ofDeclarations_eq_some_iff.mp h).imp_right Declaration.IsLastIn.mem

/-- What is found under a name is declared under it. -/
theorem mem_of_find?_marks_ofDeclarations {declarations : List Declaration} {name : String}
    {type : MarkType} (h : (ofDeclarations declarations).marks.find? name = some type) :
  type.name = name ∧ .mark name type.spec ∈ declarations
  := (find?_marks_ofDeclarations_eq_some_iff.mp h).imp_right Declaration.IsLastIn.mem

/-- A type is found under its own name. -/
theorem namesAgree_ofDeclarations (declarations : List Declaration) :
  (ofDeclarations declarations).NamesAgree
  where
  nodes _ _ hfind := (mem_of_find?_nodes_ofDeclarations hfind).1
  marks _ _ hfind := (mem_of_find?_marks_ofDeclarations hfind).1

/-- A schema is free of factories if none of its declarations brings one. -/
theorem factoryFree_ofDeclarations {declarations : List Declaration}
    (h : ∀ declaration ∈ declarations, declaration.FactoryFree) :
  (ofDeclarations declarations).FactoryFree
  where
  nodes _ _ hfind := h _ (mem_of_find?_nodes_ofDeclarations hfind).2
  marks _ _ hfind := h _ (mem_of_find?_marks_ofDeclarations hfind).2

end Schema

/-! ### Chat messages -/

namespace Chat

/-- What holds of the declarations of nodes in the chat schema holds of all its types of nodes. -/
theorem allNodes_schema {P : String → NodeSpec → Prop}
    (hdoc : P "doc" { NodeSpec.plain with content := some "block+" })
    (hparagraph : P "paragraph" (.block "inline*" fun _ => .silent (around "p")))
    (hblockquote : P "blockquote" (.block "block+" fun _ => .silent (around "blockquote")))
    (hcodeBlock : P "code_block"
      (.block "text*" fun _ => .silent (OutputSpec.ofTag "pre" |>.child (around "code"))))
    (htext : P Node.textType .plain)
    (hhardBreak : P "hard_break" (.inlineLeaf fun _ => .silent (.ofTag "br")))
    (hmention : P "mention" (.inlineLeaf mentionSpec))
    (hemoji : P "emoji" (.inlineLeaf emojiSpec)) :
  schema.AllNodes P
  := Schema.allNodes_empty
    |>.declareNode hdoc
    |>.declareNode hparagraph
    |>.declareNode hblockquote
    |>.declareNode hcodeBlock
    |>.declareNode htext
    |>.declareNode hhardBreak
    |>.declareNode hmention
    |>.declareNode hemoji
    |>.declareMark
    |>.declareMark
    |>.declareMark

/-- What holds of the declarations of marks in the chat schema holds of all its types of marks. -/
theorem allMarks_schema {Q : String → MarkSpec → Prop} (hem : Q "em" (tagMark "em"))
    (hstrong : Q "strong" (tagMark "strong")) (hcode : Q "code" (tagMark "code")) :
  schema.AllMarks Q
  := Schema.allMarks_empty
    |>.declareNode
    |>.declareNode
    |>.declareNode
    |>.declareNode
    |>.declareNode
    |>.declareNode
    |>.declareNode
    |>.declareNode
    |>.declareMark hem
    |>.declareMark hstrong
    |>.declareMark hcode

/-- Every type of chat messages has the name it is declared under. -/
theorem schema_namesAgree :
  schema.NamesAgree
  := by
  have hnodes : schema.AllNodes fun _ _ => True :=
    allNodes_schema trivial trivial trivial trivial trivial trivial trivial trivial
  have hmarks : schema.AllMarks fun _ _ => True := allMarks_schema trivial trivial trivial
  constructor
  · intro name type hfind
    exact (hnodes name type hfind).1
  · intro name type hfind
    exact (hmarks name type hfind).1

/-- No type of chat messages brings a factory of its own. -/
theorem schema_factoryFree :
  schema.FactoryFree
  := Schema.factoryFree_of_all (allNodes_schema rfl rfl rfl rfl rfl rfl rfl rfl)
    (allMarks_schema rfl rfl rfl)

end Chat

end RichText
