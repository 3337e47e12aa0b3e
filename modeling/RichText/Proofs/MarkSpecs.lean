import RichText.Proofs.Diagnostics
import RichText.Proofs.FactoryTables
import RichText.Proofs.FirstFault
import RichText.Proofs.SpecFaults

/-!
# The hole behind the spec of a mark

A mark is rendered by its spec with a hole behind the children.  What comes of that is told by the
spec without the hole (`OutputSpec.markResult`): a tag without children wraps the content, and a tag
with children fails, since its own interpretation is gone through first and the hole behind it is
then a second one or has siblings.  So a mark whose spec is reported for its children ends the
render.
-/

namespace RichText

namespace OutputSpec

open Sight (pass pass_of_fault pass_of_none)

/-- What comes of a mark with this spec around `content`: a text takes the place of the content, a
native node is not supported, and a tag without children wraps the content.  A tag with children
fails: two holes side by side come first, then what stops the spec without the hole behind it, and
then that hole. -/
def markResult (content : Element) (spec : OutputSpec) : Except RenderError Element :=
  match spec with
  | .text s => .ok (.text s)
  | .native _ _ => .error .unsupportedSpec
  | .element tag attributes [] =>
    .ok (.node tag (attributes.map Props.withClassApart) (some [content]))
  | .element _ _ (_ :: _) =>
    if spec.hasHole then .error .duplicateHole
    else
      match spec.interpret content false with
      | .error error => .error error
      | .ok interpreted =>
        .error (if interpreted.holeConsumed then .duplicateHole else .holeNotSoleChild)

/-! ### Sights of children -/

theorem sightsOf_append (sole : Bool) (before after : List SpecChild) :
  sightsOf sole (before ++ after) = sightsOf sole before ++ sightsOf sole after
  := by
  induction before with
  | nil => rfl
  | cons child rest ih =>
    cases child with
    | hole => rw [List.cons_append, sightsOf, sightsOf, ih, List.cons_append]
    | spec s => rw [List.cons_append, sightsOf, sightsOf, ih, List.append_assoc]

/-- Without a hole among them, children do not mind how many there are. -/
theorem sightsOf_eq_sightsOf (sole sole' : Bool) {children : List SpecChild}
    (h : directHoles children = 0) :
  sightsOf sole children = sightsOf sole' children
  := by
  induction children with
  | nil => rfl
  | cons child rest ih =>
    cases child with
    | hole => simp [directHoles] at h
    | spec s =>
      rw [directHoles] at h
      rw [sightsOf, sightsOf, ih h]

theorem hasHole_eq_false_iff {tag : String} {attributes : Option (Table String)}
    {children : List SpecChild} :
  (element tag attributes children).hasHole = false ↔ directHoles children = 0
  := by
  rw [← holeCount_eq_directHoles, hasHole, holeCount, List.countP_eq_zero, List.any_eq_false]

/-- Whether a hole has been used behind a spec is what running past its sights says. -/
theorem map_interpret (spec : OutputSpec) (content : Element) :
  (spec.interpret content false).map (·.holeConsumed) = spec.sights.foldlM pass false
  := by
  rw [← map_interpretIn (some content), interpret]
  cases spec.interpretIn (some content) false with
  | error error => rfl
  | ok outcome => rfl

/-! ### The hole behind the children -/

/-- A hole behind children that have no hole among them is met behind all that is met in the
children. -/
theorem sights_hole {tag : String} {attributes : Option (Table String)} {child : SpecChild}
    {rest : List SpecChild} (h : directHoles (child :: rest) = 0) :
  (element tag attributes (child :: rest)).hole.sights
    = .tag 1 :: (sightsOf false (child :: rest) ++ [.hole false])
  := by
  have hcount : directHoles (child :: rest ++ [.hole]) = 1 := by
    rw [directHoles_append, h]
    rfl
  have hlength : ((child :: rest ++ [SpecChild.hole]).length == 1) = false := by
    simp
  rw [hole, sights, hcount, hlength, sightsOf_append]
  rfl

/-- A hole with siblings stops whoever runs past it: it is a second one, or it is misplaced. -/
theorem pass_hole_false (consumed : Bool) :
  pass consumed (.hole false)
    = .error (if consumed then .duplicateHole else .holeNotSoleChild)
  := by
  cases consumed with
  | true => rfl
  | false => rfl

/-- To run past a spec with a hole behind its children is to run past the spec and then fail. -/
theorem foldlM_sights_hole (tag : String) (attributes : Option (Table String))
    {child : SpecChild} {rest : List SpecChild} (h : directHoles (child :: rest) = 0) :
  (element tag attributes (child :: rest)).hole.sights.foldlM pass false
    = (element tag attributes (child :: rest)).sights.foldlM pass false >>= fun consumed =>
        .error (if consumed then .duplicateHole else .holeNotSoleChild)
  := by
  have htag : ∀ holes : Nat, holes ≤ 1 → pass false (.tag holes) = .ok false := by
    intro holes hle
    apply pass_of_none
    apply if_neg
    omega
  have hsights := sightsOf_eq_sightsOf ((child :: rest).length == 1) false h
  rw [sights_hole h, sights, h, hsights, List.foldlM_cons, List.foldlM_cons,
    htag 1 (Nat.le_refl 1), htag 0 (Nat.zero_le 1), ok_bind, ok_bind, List.foldlM_append]
  congr 1
  funext consumed
  rw [List.foldlM_cons, pass_hole_false]
  rfl

/-- A hole behind children with a hole among them is one of two. -/
theorem interpret_hole_of_hasHole {tag : String} {attributes : Option (Table String)}
    {children : List SpecChild} (h : (element tag attributes children).hasHole = true)
    (content : Element) :
  (element tag attributes children).hole.interpret content false = .error .duplicateHole
  := by
  have hpos : 0 < directHoles children := by
    apply Nat.pos_of_ne_zero
    intro hzero
    rw [hasHole_eq_false_iff.mpr hzero] at h
    simp at h
  have hmany : 1 < directHoles (children ++ [.hole]) := by
    rw [directHoles_append]
    exact Nat.lt_add_of_pos_left hpos
  rw [interpret, hole, interpretIn, holeCount_eq_directHoles, if_pos hmany]
  rfl

/-- With a hole behind its children, a spec comes to what is told by the spec without the hole. -/
theorem interpret_hole_eq_markResult (spec : OutputSpec) (content : Element) :
  (spec.hole.interpret content false).map (·.element) = spec.markResult content
  := by
  match spec with
  | .text s => rfl
  | .native nodeType raw => rfl
  | .element tag attributes [] =>
    have hbare : (element tag attributes []).isBare = true := rfl
    rw [interpret_eq_ok_iff.mpr ⟨interpretable_hole.mpr hbare, rfl⟩, Except.map, fill_hole hbare]
    rfl
  | .element tag attributes (child :: rest) =>
    rw [markResult]
    cases hhole : (element tag attributes (child :: rest)).hasHole with
    | true =>
      rw [interpret_hole_of_hasHole hhole, if_pos rfl]
      rfl
    | false =>
      have hrun := foldlM_sights_hole tag attributes (hasHole_eq_false_iff.mp hhole)
      rw [← map_interpret _ content, ← map_interpret _ content] at hrun
      rw [if_neg Bool.false_ne_true]
      cases hinterpret : (element tag attributes (child :: rest)).interpret content false with
      | error error =>
        rw [hinterpret] at hrun
        rw [map_eq_error_iff.mp hrun]
        rfl
      | ok interpreted =>
        rw [hinterpret] at hrun
        rw [map_eq_error_iff.mp hrun]
        rfl

/-- A text in front of the hole is a sibling of it. -/
example (content : Element) :
  (ofTag "a" |>.child (.text "see ")).markResult content = .error .holeNotSoleChild
  := rfl

/-- What comes of a mark is an error if its spec has a tag or a hole among its children. -/
theorem exists_markResult_eq_error {spec : OutputSpec}
    (h : spec.hasNestedElement = true ∨ spec.hasHole = true) (content : Element) :
  ∃ error, spec.markResult content = .error error
  := by
  match spec with
  | .text s => simp [hasNestedElement, hasHole] at h
  | .native nodeType raw => simp [hasNestedElement, hasHole] at h
  | .element tag attributes [] => simp [hasNestedElement, hasHole] at h
  | .element tag attributes (child :: rest) =>
    rw [markResult]
    split
    · exact ⟨_, rfl⟩
    · split
      · exact ⟨_, rfl⟩
      · exact ⟨_, rfl⟩

end OutputSpec

/-! ### What is reported -/

/-- Whether a diagnostic says that the spec of a mark has something among its children. -/
def Diagnostic.isAboutChildren : Diagnostic → Bool
  | .markSpecNested _ => true
  | .markSpecHasHole _ => true
  | _ => false

theorem Diagnostic.mem_when {condition : Bool} {diagnostic other : Diagnostic} :
  other ∈ diagnostic.when condition ↔ condition = true ∧ other = diagnostic
  := by
  cases condition with
  | false => simp [when]
  | true => simp [when]

namespace MarkFactory

/-- A mark is reported for the children of its spec if there is a tag or a hole among them. -/
theorem children_of_mem_expected {mark : Mark} {isEmpty : Bool} {spec : OutputSpec}
    {diagnostic : Diagnostic} (h : diagnostic ∈ expected mark isEmpty spec)
    (habout : diagnostic.isAboutChildren = true) :
  spec.hasNestedElement = true ∨ spec.hasHole = true
  := by
  rw [expected, expectedOfSpec, List.mem_append] at h
  rcases h with h | h
  · simp only [List.mem_append, Diagnostic.mem_when] at h
    obtain (⟨-, rfl⟩ | ⟨hnested, rfl⟩) | ⟨hhole, rfl⟩ := h
    · simp [Diagnostic.isAboutChildren] at habout
    · exact .inl hnested
    · exact .inr hhole
  · split at h
    · simp only [List.mem_append, Diagnostic.mem_when] at h
      obtain ⟨-, rfl⟩ | ⟨-, rfl⟩ := h
      · simp [Diagnostic.isAboutChildren] at habout
      · simp [Diagnostic.isAboutChildren] at habout
    · simp at h

/-- A mark is reported to leave its content out only if its spec has no tag. -/
theorem not_isTagged_of_mem_expected {mark : Mark} {isEmpty : Bool} {spec : OutputSpec}
    {name : String} (h : .markContentNotRendered name ∈ expected mark isEmpty spec) :
  spec.isTagged = false
  := by
  rw [expected, expectedOfSpec, List.mem_append] at h
  rcases h with h | h
  · simp [Diagnostic.mem_when] at h
  · split at h
    · simp only [List.mem_append, Diagnostic.mem_when, reduceCtorEq, and_false, or_false,
        Bool.and_eq_true, Bool.not_eq_true'] at h
      exact h.1.2
    · simp at h

/-- With diagnostics kept in memory, those of a factory of specs of marks are the expected ones. -/
theorem diagnostics_ofSpec (specOf : MarkSpecFunction) (mark : Mark) (isInline : Bool)
    (content : Element) (passthrough : Attributes) :
  Event.diagnostics (ofSpec ⟨true, .memory⟩ specOf mark isInline content passthrough).events
    = expected mark content.isEmpty (specOf mark isInline).value
  := by
  rw [events_ofSpec_eq _ _ _ rfl, Event.diagnostics_append, Event.diagnostics_logged,
    Event.diagnostics_flatMap_report, List.nil_append]

end MarkFactory

namespace NodeFactory

/-- What is reported of a node is not about the spec of a mark. -/
theorem isAboutChildren_of_mem_diagnostics {specOf : NodeSpecFunction} {node : Node}
    {content : Element} {passthrough : Attributes} {diagnostic : Diagnostic}
    (h : diagnostic ∈ Event.diagnostics
      (ofSpec ⟨true, .memory⟩ specOf node content passthrough).events) :
  diagnostic.isAboutChildren = false
  := by
  rw [events_ofSpec, Event.diagnostics_append, Event.diagnostics_logged, List.nil_append] at h
  split at h
  · simp only [diagnose, ← RendererOptions.flatMap_when, ← List.flatMap_append,
      Event.diagnostics_flatMap_report, List.mem_append, Diagnostic.mem_when] at h
    obtain (⟨-, rfl⟩ | ⟨-, rfl⟩) | ⟨-, rfl⟩ := h
    · rfl
    · rfl
    · rfl
  · simp [Event.diagnostics] at h

/-- In the table of factories, one that its type does not bring is that of texts or interprets
specs. -/
theorem eq_of_find?_table {options : RendererOptions} {types : Table NodeType}
    {typeName : String} {factory : NodeFactory}
    (h : (table options types).find? typeName = some factory)
    (hown : (types.find? typeName).bind (·.spec.factory) = none) :
  factory = literal ∨ ∃ specOf, factory = ofSpec options specOf
  := by
  rcases find?_table_eq_some_iff.mp h with hbind | ⟨-, -, hliteral⟩
  · obtain ⟨type, hfind, htype⟩ := Option.bind_eq_some_iff.mp hbind
    rw [hfind, Option.bind_some] at hown
    rcases ofType?_eq_some_iff.mp htype with hfactory | ⟨-, specOf, -, rfl⟩
    · simp [hown] at hfactory
    · exact .inr ⟨specOf, rfl⟩
  · exact .inl hliteral

end NodeFactory

namespace MarkFactory

/-- In the table of factories, one that its type does not bring interprets specs. -/
theorem eq_of_find?_table {options : RendererOptions} {types : Table MarkType}
    {typeName : String} {factory : MarkFactory}
    (h : (table options types).find? typeName = some factory)
    (hown : (types.find? typeName).bind (·.spec.factory) = none) :
  ∃ specOf, factory = ofSpec options specOf
  := by
  rw [find?_table] at h
  obtain ⟨type, hfind, htype⟩ := Option.bind_eq_some_iff.mp h
  rw [hfind, Option.bind_some] at hown
  rcases ofType?_eq_some_iff.mp htype with hfactory | ⟨-, specOf, -, rfl⟩
  · simp [hown] at hfactory
  · use specOf

end MarkFactory

/-! ### Whole renders -/

namespace Schema

/-- Whether the type that a call is made for brings a factory of its own. -/
def bringsFactory (schema : Schema) : Call → Bool
  | .body node _ => ((schema.nodes.find? node.typeName).bind (·.spec.factory)).isSome
  | .wrap _ _ mark => ((schema.marks.find? mark.typeName).bind (·.spec.factory)).isSome

theorem FactoryFree.bringsFactory_eq_false {schema : Schema} (h : schema.FactoryFree)
    (call : Call) :
  schema.bringsFactory call = false
  := by
  cases call with
  | body node content =>
    rw [bringsFactory, Option.isSome_eq_false_iff, Option.isNone_iff_eq_none,
      Option.bind_eq_none_iff]
    apply h.nodes
  | wrap isInline content mark =>
    rw [bringsFactory, Option.isSome_eq_false_iff, Option.isNone_iff_eq_none,
      Option.bind_eq_none_iff]
    apply h.marks

end Schema

namespace Renderer

variable {schema : Schema} {displayName : Option String} {passthrough : Attributes}

/-- A call that reports the children of the spec of a mark is answered by an error, unless the type
brings a factory that reports whatever it likes. -/
theorem exists_error_of_isAboutChildren {call : Call} {diagnostic : Diagnostic}
    (hown : schema.bringsFactory call = false)
    (h : diagnostic ∈ Event.diagnostics
      ((ofSchema schema displayName ⟨true, .memory⟩).answer passthrough call).events)
    (habout : diagnostic.isAboutChildren = true) :
  ∃ error, ((ofSchema schema displayName ⟨true, .memory⟩).answer passthrough call).result
    = .error error
  := by
  cases call with
  | body node content =>
    exfalso
    rw [Schema.bringsFactory, Option.isSome_eq_false_iff, Option.isNone_iff_eq_none] at hown
    rw [answer] at h
    cases hfind : (ofSchema schema displayName ⟨true, .memory⟩).nodes.find? node.typeName with
    | none =>
      rw [nodeStep_of_none _ _ hfind] at h
      simp [Render.fail, Event.diagnostics] at h
    | some factory =>
      rw [nodeStep_of_some _ _ hfind] at h
      obtain rfl | ⟨specOf, rfl⟩ := NodeFactory.eq_of_find?_table hfind hown
      · simp [NodeFactory.literal, Render.done, Event.diagnostics] at h
      · rw [NodeFactory.isAboutChildren_of_mem_diagnostics h] at habout
        simp at habout
  | wrap isInline content mark =>
    rw [Schema.bringsFactory, Option.isSome_eq_false_iff, Option.isNone_iff_eq_none] at hown
    rw [answer] at h ⊢
    cases hfind : (ofSchema schema displayName ⟨true, .memory⟩).marks.find? mark.typeName with
    | none =>
      rw [markStep_of_none _ _ hfind] at h
      simp [Render.fail, Event.diagnostics] at h
    | some factory =>
      rw [markStep_of_some _ _ hfind] at h ⊢
      obtain ⟨specOf, rfl⟩ := MarkFactory.eq_of_find?_table hfind hown
      rw [MarkFactory.diagnostics_ofSpec] at h
      rw [MarkFactory.result_ofSpec, OutputSpec.interpret_hole_eq_markResult]
      apply OutputSpec.exists_markResult_eq_error
      apply MarkFactory.children_of_mem_expected h habout

end Renderer

namespace MarkFactory

/-- Marks of a type with specs and without a factory of its own are rendered as
`OutputSpec.markResult` says.  They are reported as their specs predict; that the content is left
out is never reported of a spec with a tag, and a spec with a tag or a hole among its children fails
when it has been reported.  So a render that keeps a diagnostic about the children of the spec of a
mark fails, whatever the factories of other types do, as long as they do not report such a thing
themselves. -/
theorem wraps_or_fails :
  (∀ (type : MarkType) (specOf : MarkSpecFunction) (options : RendererOptions),
      type.spec.factory = none → type.spec.outputSpec = some specOf →
      ∃ factory, ofType? options type = some factory
        ∧ ∀ mark isInline content passthrough,
          (factory mark isInline content passthrough).result
              = (specOf mark isInline).value.markResult content
            ∧ (factory mark isInline content passthrough).events
              = (specOf mark isInline).records.map .logged
                ++ (expected mark content.isEmpty (specOf mark isInline).value).flatMap
                  options.report
            ∧ ((specOf mark isInline).value.isTagged = true → ∀ name,
              .markContentNotRendered name
                ∉ expected mark content.isEmpty (specOf mark isInline).value)
            ∧ ∀ diagnostic ∈ expected mark content.isEmpty (specOf mark isInline).value,
              diagnostic.isAboutChildren = true →
              ∃ error, (factory mark isInline content passthrough).result = .error error)
    ∧ ∀ (schema : Schema) (displayName : Option String) (passthrough : Attributes)
        (fragment : List Node) (diagnostic : Diagnostic),
      diagnostic.isAboutChildren = true →
      diagnostic ∈ Event.diagnostics ((Renderer.ofSchema schema displayName
        ⟨true, .memory⟩).renderAll passthrough fragment).events →
      (∀ call ∈ (Renderer.ofSchema schema displayName ⟨true, .memory⟩).trace passthrough fragment,
        schema.bringsFactory call = true → diagnostic ∉ Event.diagnostics
          ((Renderer.ofSchema schema displayName ⟨true, .memory⟩).answer passthrough
            call).events) →
      ∃ error, ((Renderer.ofSchema schema displayName ⟨true, .memory⟩).renderAll passthrough
        fragment).result = .error error
  := by
  constructor
  · intro type specOf options hfactory hspec
    refine ⟨ofSpec options specOf, by simp [ofType?, hfactory, hspec], ?_⟩
    intro mark isInline content passthrough
    have hresult : (ofSpec options specOf mark isInline content passthrough).result
        = (specOf mark isInline).value.markResult content := by
      rw [result_ofSpec, OutputSpec.interpret_hole_eq_markResult]
    refine ⟨hresult, events_ofSpec_eq options specOf passthrough rfl, ?_, ?_⟩
    · intro htagged name hmem
      rw [not_isTagged_of_mem_expected hmem] at htagged
      simp at htagged
    · intro diagnostic hmem habout
      rw [hresult]
      apply OutputSpec.exists_markResult_eq_error
      apply children_of_mem_expected hmem habout
  · intro schema displayName passthrough fragment diagnostic habout hmem hown
    rw [Renderer.events_renderAll, Event.diagnostics, List.filterMap_flatMap,
      List.mem_flatMap] at hmem
    obtain ⟨call, hcall, hmem⟩ := hmem
    cases hbrings : schema.bringsFactory call with
    | true => exact absurd hmem (hown call hcall hbrings)
    | false =>
      obtain ⟨error, herror⟩ :=
        Renderer.exists_error_of_isAboutChildren hbrings hmem habout
      exact ⟨error, Renderer.result_renderAll_of_mem_trace hcall herror⟩

/-- The spec of a mark with a hole in a tag of its own. -/
def fancySpec : MarkSpecFunction := fun _ _ =>
  .silent (OutputSpec.ofTag "span" |>.child (OutputSpec.ofTag "b" |>.hole))

/-- A type of marks with this spec. -/
def fancyType : MarkType := ⟨"fancy", ⟨none, some fancySpec⟩⟩

/-- A schema of such marks. -/
def fancySchema : Schema := Schema.empty |>.declareMark "fancy" fancyType.spec

/-- A text with such a mark. -/
def fancyText : List Node := [{ Node.ofText "x" with marks := [.ofType "fancy"] }]

theorem fancy_fails :
  fancyType.spec.factory = none ∧ fancyType.spec.outputSpec = some fancySpec
    ∧ (fancySpec (.ofType "fancy") true).value.isTagged = true
    ∧ .markSpecNested "fancy"
      ∈ expected (.ofType "fancy") false (fancySpec (.ofType "fancy") true).value
    ∧ (∃ factory, ofType? ⟨true, .memory⟩ fancyType = some factory
      ∧ (factory (.ofType "fancy") true (.text "x") Table.empty).result = .error .duplicateHole
      ∧ (factory (.ofType "fancy") true (.text "x") Table.empty).events
        = [.kept (.markSpecNested "fancy")]
      ∧ (∀ name, .markContentNotRendered name
        ∉ expected (.ofType "fancy") false (fancySpec (.ofType "fancy") true).value)
      ∧ ∃ error, (factory (.ofType "fancy") true (.text "x") Table.empty).result = .error error)
    ∧ Event.diagnostics ((Renderer.ofSchema fancySchema none ⟨true, .memory⟩).renderAll
        Table.empty fancyText).events = [.markSpecNested "fancy"]
    ∧ ∃ error, ((Renderer.ofSchema fancySchema none ⟨true, .memory⟩).renderAll Table.empty
        fancyText).result = .error error
  := by
  have hnested : .markSpecNested "fancy"
      ∈ expected (.ofType "fancy") false (fancySpec (.ofType "fancy") true).value := by
    decide
  have hfree : fancySchema.FactoryFree :=
    Schema.factoryFree_of_all Schema.allNodes_empty.declareMark
      (Schema.allMarks_empty.declareMark rfl)
  have hdiagnostics : Event.diagnostics ((Renderer.ofSchema fancySchema none
      ⟨true, .memory⟩).renderAll Table.empty fancyText).events = [.markSpecNested "fancy"] := by
    rfl
  obtain ⟨hfactories, hrenders⟩ := wraps_or_fails
  obtain ⟨factory, htype, hfactory⟩ := hfactories fancyType fancySpec ⟨true, .memory⟩ rfl rfl
  obtain ⟨hresult, hevents, hkept, herror⟩ :=
    hfactory (.ofType "fancy") true (.text "x") Table.empty
  refine ⟨rfl, rfl, rfl, hnested, ⟨factory, htype, hresult, hevents, hkept rfl,
    herror _ hnested rfl⟩, hdiagnostics, ?_⟩
  apply hrenders fancySchema none Table.empty fancyText (.markSpecNested "fancy") rfl
  · rw [hdiagnostics]
    apply List.mem_cons_self
  · intro call _ hbrings
    rw [hfree.bringsFactory_eq_false call] at hbrings
    simp at hbrings

end MarkFactory

end RichText
