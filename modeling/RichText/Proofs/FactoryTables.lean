import RichText.Proofs.Rendering

/-!
# What stands in tables of factories

The last declaration of a type settles what stands under its name in the table of a renderer: the
factory that it brings, or else one that interprets its specs, or nothing at all.  Texts have a
factory in any case, one that renders them as themselves if their last declaration gives neither.  So
one more declaration changes what stands under its own name and nothing else, and it can take a
factory out of the table again.
-/

namespace RichText

/-! ### Nodes and marks alike

The factories `φ` are those of nodes or those of marks. -/

section

variable {σ φ : Type}

/-- A factory of its own or a function that gives specs comes to a factory in any case. -/
private theorem isSome_or_isSome_iff (own : Option φ) (specs : Option σ) (make : σ → φ) :
  own.isSome = true ∨ specs.isSome = true
    ↔ ∃ factory, own = some factory
      ∨ own = none ∧ ∃ specOf, specs = some specOf ∧ make specOf = factory
  := by
  simp only [← Option.map_eq_some_iff, ← Option.or_eq_some_iff]
  rw [← Option.isSome_iff_exists, Option.isSome_or, Option.isSome_map, Bool.or_eq_true]

variable {IsLast : σ → Prop} {By : σ → φ → Prop}

/-- What is made of the type that is found is what its last declaration gives. -/
private theorem bind_eq_some_iff_isLast {τ : Type} {found : Option τ} {make : τ → Option φ}
    {factory : φ} {IsNamed : τ → Prop} {specOf : τ → σ}
    (hfound : ∀ type, found = some type ↔ IsNamed type ∧ IsLast (specOf type))
    (hmake : ∀ type, make type = some factory ↔ By (specOf type) factory)
    (htype : ∀ spec, ∃ type, IsNamed type ∧ specOf type = spec) :
  found.bind make = some factory ↔ ∃ spec, IsLast spec ∧ By spec factory
  := by
  simp only [Option.bind_eq_some_iff, hfound, hmake]
  constructor
  · rintro ⟨type, ⟨-, hlast⟩, hby⟩
    exact ⟨specOf type, hlast, hby⟩
  · rintro ⟨spec, hlast, hby⟩
    obtain ⟨type, hnamed, rfl⟩ := htype spec
    exact ⟨type, ⟨hnamed, hlast⟩, hby⟩

/-- A factory is found if the last declaration gives one. -/
private theorem isSome_iff_isLast {found : Option φ} {IsRendered : σ → Prop}
    (hfound : ∀ factory, found = some factory ↔ ∃ spec, IsLast spec ∧ By spec factory)
    (hrendered : ∀ spec, IsRendered spec ↔ ∃ factory, By spec factory) :
  found.isSome = true ↔ ∃ spec, IsLast spec ∧ IsRendered spec
  := by
  simp only [Option.isSome_iff_exists, hfound, hrendered]
  rw [exists_comm]
  simp only [exists_and_left]

end

/-! ### What a declaration gives -/

namespace NodeSpec

/-- The nodes bring a factory or have specs. -/
def IsRendered (spec : NodeSpec) : Prop :=
  spec.factory.isSome = true ∨ spec.outputSpec.isSome = true

/-- The nodes are rendered by the factory: it is the one that they bring or, only if they bring
none, the one that interprets their specs. -/
def RenderedBy (options : RendererOptions) (spec : NodeSpec) (factory : NodeFactory) : Prop :=
  spec.factory = some factory
    ∨ spec.factory = none
      ∧ ∃ specOf, spec.outputSpec = some specOf ∧ NodeFactory.ofSpec options specOf = factory

theorem isRendered_iff (options : RendererOptions) {spec : NodeSpec} :
  spec.IsRendered ↔ ∃ factory, spec.RenderedBy options factory
  := isSome_or_isSome_iff spec.factory spec.outputSpec (NodeFactory.ofSpec options)

end NodeSpec

namespace MarkSpec

/-- The marks bring a factory or have specs. -/
def IsRendered (spec : MarkSpec) : Prop :=
  spec.factory.isSome = true ∨ spec.outputSpec.isSome = true

/-- The marks are rendered by the factory: it is the one that they bring or, only if they bring
none, the one that interprets their specs. -/
def RenderedBy (options : RendererOptions) (spec : MarkSpec) (factory : MarkFactory) : Prop :=
  spec.factory = some factory
    ∨ spec.factory = none
      ∧ ∃ specOf, spec.outputSpec = some specOf ∧ MarkFactory.ofSpec options specOf = factory

theorem isRendered_iff (options : RendererOptions) {spec : MarkSpec} :
  spec.IsRendered ↔ ∃ factory, spec.RenderedBy options factory
  := isSome_or_isSome_iff spec.factory spec.outputSpec (MarkFactory.ofSpec options)

end MarkSpec

/-! ### Factories of nodes -/

namespace NodeFactory

open Schema (ofDeclarations)

variable {options : RendererOptions}

theorem ofType?_eq (type : NodeType) :
  ofType? options type = type.spec.factory.or (type.spec.outputSpec.map (ofSpec options))
  := by
  rw [ofType?]
  grind

theorem ofType?_eq_some_iff {type : NodeType} {factory : NodeFactory} :
  ofType? options type = some factory ↔ type.spec.RenderedBy options factory
  := by
  rw [ofType?_eq, Option.or_eq_some_iff, Option.map_eq_some_iff, NodeSpec.RenderedBy]

theorem ofType?_eq_none {type : NodeType} (h : ¬ type.spec.IsRendered) :
  ofType? options type = none
  := by
  obtain ⟨hfactory, hspecs⟩ := not_or.mp h
  rw [ofType?_eq, Option.not_isSome_iff_eq_none.mp hfactory,
    Option.not_isSome_iff_eq_none.mp hspecs]
  rfl

/-- Under a name stands the factory of its type, and for texts without one the factory that renders
them as themselves. -/
theorem find?_table_eq_some_iff {types : Table NodeType} {name : String} {factory : NodeFactory} :
  (table options types).find? name = some factory
    ↔ (types.find? name).bind (ofType? options) = some factory
      ∨ (types.find? name).bind (ofType? options) = none
        ∧ name = Node.textType ∧ factory = literal
  := by
  rw [find?_table, Option.orElse_eq_orElse, Option.orElse_eq_or, Option.or_eq_some_iff,
    Option.ite_none_right_eq_some, Option.some.injEq, @eq_comm _ literal]

/-- A declaration of a type of nodes changes what stands under its name and nothing else. -/
theorem find?_table_declareNode (schema : Schema) (name : String) (spec : NodeSpec)
    (other : String) :
  (table options (schema.declareNode name spec).nodes).find? other
    = if other = name then
        ofType? options ⟨name, spec⟩ <|> if name = Node.textType then some literal else none
      else (table options schema.nodes).find? other
  := by
  rw [find?_table, find?_table, Schema.declareNode, Table.bind_find?_insert]
  split
  · rename_i hname
    rw [hname]
  · rfl

variable {declarations : List Declaration} {name : String}

/-- Before texts are seen to, the last declaration of a type gives its factory. -/
theorem bind_ofType?_eq_some_iff {factory : NodeFactory} :
  ((ofDeclarations declarations).nodes.find? name).bind (ofType? options) = some factory
    ↔ ∃ spec, (Declaration.node name spec).IsLastIn declarations
      ∧ spec.RenderedBy options factory
  := by
  apply bind_eq_some_iff_isLast
  · exact fun _ => Schema.find?_nodes_ofDeclarations_eq_some_iff
  · exact fun _ => ofType?_eq_some_iff
  · exact fun spec => ⟨⟨name, spec⟩, rfl, rfl⟩

/-- Before texts are seen to, a type has a factory if its last declaration gives one. -/
theorem isSome_bind_ofType?_iff (options : RendererOptions) :
  (((ofDeclarations declarations).nodes.find? name).bind (ofType? options)).isSome = true
    ↔ ∃ spec, (Declaration.node name spec).IsLastIn declarations ∧ spec.IsRendered
  := by
  apply isSome_iff_isLast
  · exact fun _ => bind_ofType?_eq_some_iff
  · exact fun _ => NodeSpec.isRendered_iff options

/-- The names in the table are those of the rendered types, and that of texts. -/
theorem contains_table_iff :
  (table options (ofDeclarations declarations).nodes).contains name = true
    ↔ name = Node.textType
      ∨ ∃ spec, (Declaration.node name spec).IsLastIn declarations ∧ spec.IsRendered
  := by
  rw [Table.contains, find?_table, ← isSome_bind_ofType?_iff options]
  by_cases htext : name = Node.textType
  · simp [htext]
  · simp [htext]

/-- Under a name stands what the last declaration gives, and for texts without that the factory that
renders them as themselves. -/
theorem find?_table_ofDeclarations_eq_some_iff {factory : NodeFactory} :
  (table options (ofDeclarations declarations).nodes).find? name = some factory
    ↔ (∃ spec, (Declaration.node name spec).IsLastIn declarations
        ∧ spec.RenderedBy options factory)
      ∨ (∀ spec, (Declaration.node name spec).IsLastIn declarations → ¬ spec.IsRendered)
        ∧ name = Node.textType ∧ factory = literal
  := by
  rw [find?_table_eq_some_iff, bind_ofType?_eq_some_iff, ← Option.not_isSome_iff_eq_none,
    isSome_bind_ofType?_iff]
  simp only [not_exists, not_and]

end NodeFactory

namespace MarkFactory

open Schema (ofDeclarations)

variable {options : RendererOptions}

theorem ofType?_eq (type : MarkType) :
  ofType? options type = type.spec.factory.or (type.spec.outputSpec.map (ofSpec options))
  := by
  rw [ofType?]
  grind

theorem ofType?_eq_some_iff {type : MarkType} {factory : MarkFactory} :
  ofType? options type = some factory ↔ type.spec.RenderedBy options factory
  := by
  rw [ofType?_eq, Option.or_eq_some_iff, Option.map_eq_some_iff, MarkSpec.RenderedBy]

theorem ofType?_eq_none {type : MarkType} (h : ¬ type.spec.IsRendered) :
  ofType? options type = none
  := by
  obtain ⟨hfactory, hspecs⟩ := not_or.mp h
  rw [ofType?_eq, Option.not_isSome_iff_eq_none.mp hfactory,
    Option.not_isSome_iff_eq_none.mp hspecs]
  rfl

/-- A declaration of a type of marks changes what stands under its name and nothing else. -/
theorem find?_table_declareMark (schema : Schema) (name : String) (spec : MarkSpec)
    (other : String) :
  (table options (schema.declareMark name spec).marks).find? other
    = if other = name then ofType? options ⟨name, spec⟩
      else (table options schema.marks).find? other
  := by
  rw [find?_table, find?_table, Schema.declareMark, Table.bind_find?_insert]

variable {declarations : List Declaration} {name : String}

/-- Under a name stands what the last declaration gives. -/
theorem find?_table_ofDeclarations_eq_some_iff {factory : MarkFactory} :
  (table options (ofDeclarations declarations).marks).find? name = some factory
    ↔ ∃ spec, (Declaration.mark name spec).IsLastIn declarations
      ∧ spec.RenderedBy options factory
  := by
  rw [find?_table]
  apply bind_eq_some_iff_isLast
  · exact fun _ => Schema.find?_marks_ofDeclarations_eq_some_iff
  · exact fun _ => ofType?_eq_some_iff
  · exact fun spec => ⟨⟨name, spec⟩, rfl, rfl⟩

/-- The names in the table are those of the rendered types. -/
theorem contains_table_iff :
  (table options (ofDeclarations declarations).marks).contains name = true
    ↔ ∃ spec, (Declaration.mark name spec).IsLastIn declarations ∧ spec.IsRendered
  := by
  apply isSome_iff_isLast
  · exact fun _ => find?_table_ofDeclarations_eq_some_iff
  · exact fun _ => MarkSpec.isRendered_iff options

end MarkFactory

/-! ### Whole schemas -/

namespace Schema

/-- In the schema of declarations every type has the name that it is declared under.  For any
options, the names in the tables of factories are those of the types whose last declaration brings a
factory or specs, and that of texts among the nodes.  Under a name stands the factory that its last
declaration brings or, only if it brings none, the one that interprets its specs; for texts with
neither it is the one that renders them as themselves.  So a type that is declared once more with
neither leaves the table, or is rendered as itself if it is that of texts, and nothing else
changes. -/
theorem factories_of_last_declarations (declarations : List Declaration)
    (options : RendererOptions) :
  (ofDeclarations declarations).NamesAgree
    ∧ ((NodeFactory.table options (ofDeclarations declarations).nodes).Lists fun name =>
        name = Node.textType
          ∨ ∃ spec, (Declaration.node name spec).IsLastIn declarations ∧ spec.IsRendered)
    ∧ ((MarkFactory.table options (ofDeclarations declarations).marks).Lists fun name =>
        ∃ spec, (Declaration.mark name spec).IsLastIn declarations ∧ spec.IsRendered)
    ∧ (∀ name factory,
        (NodeFactory.table options (ofDeclarations declarations).nodes).find? name = some factory
          ↔ (∃ spec, (Declaration.node name spec).IsLastIn declarations
              ∧ spec.RenderedBy options factory)
            ∨ (∀ spec, (Declaration.node name spec).IsLastIn declarations → ¬ spec.IsRendered)
              ∧ name = Node.textType ∧ factory = .literal)
    ∧ (∀ name factory,
        (MarkFactory.table options (ofDeclarations declarations).marks).find? name = some factory
          ↔ ∃ spec, (Declaration.mark name spec).IsLastIn declarations
            ∧ spec.RenderedBy options factory)
    ∧ (∀ name spec, ¬ spec.IsRendered → ∀ other,
        (NodeFactory.table options
            (ofDeclarations (declarations ++ [.node name spec])).nodes).find? other
          = if other = name then (if name = Node.textType then some .literal else none)
            else (NodeFactory.table options (ofDeclarations declarations).nodes).find? other)
    ∧ (∀ name spec, ¬ spec.IsRendered → ∀ other,
        (MarkFactory.table options
            (ofDeclarations (declarations ++ [.mark name spec])).marks).find? other
          = if other = name then none
            else (MarkFactory.table options (ofDeclarations declarations).marks).find? other)
  := by
  refine ⟨namesAgree_ofDeclarations declarations, ?_, ?_, ?_, ?_, ?_, ?_⟩
  · apply Table.lists_of_contains
    intro name
    apply NodeFactory.contains_table_iff
  · apply Table.lists_of_contains
    intro name
    apply MarkFactory.contains_table_iff
  · intro name factory
    apply NodeFactory.find?_table_ofDeclarations_eq_some_iff
  · intro name factory
    apply MarkFactory.find?_table_ofDeclarations_eq_some_iff
  · intro name spec hspec other
    rw [ofDeclarations, List.foldl_concat]
    apply (NodeFactory.find?_table_declareNode _ _ _ _).trans
    rw [NodeFactory.ofType?_eq_none hspec]
    rfl
  · intro name spec hspec other
    rw [ofDeclarations, List.foldl_concat]
    apply (MarkFactory.find?_table_declareMark _ _ _ _).trans
    rw [MarkFactory.ofType?_eq_none hspec]
    rfl

/-- Renders a rule as three dashes. -/
def dashes : NodeFactory := fun _ _ _ => .done (.text "---")

/-- Declarations of texts and rules, the rules with specs before they bring a factory besides. -/
def ruleDeclarations : List Declaration :=
  [.node "rule" (.inlineLeaf fun _ => .silent (.ofTag "hr")),
    .node Node.textType (.inlineLeaf fun _ => .silent (.ofTag "span")),
    .node "doc" .plain,
    .node "rule" ⟨none, false, some dashes, some fun _ => .silent (.ofTag "hr")⟩]

theorem rules_and_texts_declared_again :
  ¬ NodeSpec.plain.IsRendered
    ∧ (NodeFactory.table .default (ofDeclarations ruleDeclarations).nodes).names = ["rule", "text"]
    ∧ (NodeFactory.table .default (ofDeclarations ruleDeclarations).nodes).find? "rule"
      = some dashes
    ∧ (NodeFactory.table .default
        (ofDeclarations (ruleDeclarations ++ [.node "rule" .plain])).nodes).find? "rule" = none
    ∧ (NodeFactory.table .default
        (ofDeclarations (ruleDeclarations ++ [.node Node.textType .plain])).nodes).find?
          Node.textType = some .literal
  := by
  have hplain : ¬ NodeSpec.plain.IsRendered := by
    simp [NodeSpec.IsRendered, NodeSpec.plain]
  have hlast : (Declaration.node "rule" ⟨none, false, some dashes,
      some fun _ => .silent (.ofTag "hr")⟩).IsLastIn ruleDeclarations := by
    use ruleDeclarations.dropLast, [], rfl
    simp
  obtain ⟨-, -, -, hfind, -, hagain, -⟩ :=
    factories_of_last_declarations ruleDeclarations .default
  refine ⟨hplain, rfl, ?_, ?_, ?_⟩
  · exact (hfind "rule" dashes).mpr (.inl ⟨_, hlast, .inl rfl⟩)
  · exact (hagain "rule" .plain hplain "rule").trans rfl
  · exact (hagain Node.textType .plain hplain Node.textType).trans rfl

end Schema

end RichText
