import RichText.Proofs.Notation

/-!
# Specs that are built step by step

A built spec can be read back from its array form exactly if no tag in it has an attribute of the
name that marks native nodes: the attributes would be read as a native node among the children.
Nothing else is lost, since a built native node is its type and nothing more, and whatever is
written of a built spec is canonical.
-/

namespace RichText.OutputSpec

/-! ### Building -/

/-- The specs that can be built: texts, native nodes, and tags with attributes, with children that
are built, and with holes, which are added in any order. -/
inductive Built : OutputSpec → Prop where
  | text (s : String) : Built (.text s)
  | native (nodeType : UInt16) : Built (ofNative nodeType)
  | tag (tag : String) : Built (ofTag tag)
  | attr {spec : OutputSpec} (hspec : Built spec) (name value : String) :
      Built (spec.attr name value)
  | child {spec nested : OutputSpec} (hspec : Built spec) (hnested : Built nested) :
      Built (spec.child nested)
  | hole {spec : OutputSpec} (hspec : Built spec) : Built spec.hole

/-- The names of the attributes of a tag; other specs have none. -/
def attributeNames : OutputSpec → List String
  | .element _ (some attributes) _ => attributes.names
  | _ => []

/-- A native node is its type and nothing more. -/
def IsBareNative : OutputSpec → Prop
  | .native nodeType raw => .native nodeType raw = ofNative nodeType
  | _ => True

theorem partsOf_append (before after : List SpecChild) :
  partsOf (before ++ after) = partsOf before ++ partsOf after
  := by
  induction before with
  | nil => rfl
  | cons child rest ih =>
    cases child with
    | hole => rw [List.cons_append, partsOf, partsOf, ih]
    | spec s => rw [List.cons_append, partsOf, partsOf, ih, List.append_assoc]

/-- The native nodes of a tag are those of its children. -/
theorem isBareNative_parts_element {tag : String} {attributes : Option (Table String)}
    {children : List SpecChild} :
  (∀ part ∈ parts (.element tag attributes children), part.IsBareNative)
    ↔ ∀ part ∈ partsOf children, part.IsBareNative
  := by
  rw [parts, List.forall_mem_cons]
  simp [IsBareNative]

theorem isBareNative_parts_concat {tag : String} {attributes : Option (Table String)}
    {children : List SpecChild} {child : SpecChild} :
  (∀ part ∈ parts (.element tag attributes (children ++ [child])), part.IsBareNative)
    ↔ (∀ part ∈ parts (.element tag attributes children), part.IsBareNative)
      ∧ ∀ part ∈ partsOf [child], part.IsBareNative
  := by
  rw [isBareNative_parts_element, isBareNative_parts_element, partsOf_append,
    List.forall_mem_append]

/-- All native nodes of a built spec are bare. -/
theorem Built.isBareNative {spec : OutputSpec} (h : Built spec) :
  ∀ part ∈ spec.parts, part.IsBareNative
  := by
  -- A step that is taken on a text or a native node changes nothing.
  induction h with
  | text s => simp [parts, IsBareNative]
  | native nodeType => simp [ofNative, parts, IsBareNative]
  | tag tag => simp [ofTag, parts, partsOf, IsBareNative]
  | @attr spec hspec name value ih =>
    cases spec with
    | text s => exact ih
    | native nodeType raw => exact ih
    | element tag attributes children =>
      rw [OutputSpec.attr, isBareNative_parts_element]
      exact isBareNative_parts_element.mp ih
  | @child spec nested hspec hnested ih ihnested =>
    cases spec with
    | text s => exact ih
    | native nodeType raw => exact ih
    | element tag attributes children =>
      rw [OutputSpec.child, isBareNative_parts_concat]
      constructor
      · exact ih
      · simpa [partsOf] using ihnested
  | @hole spec hspec ih =>
    cases spec with
    | text s => exact ih
    | native nodeType raw => exact ih
    | element tag attributes children =>
      rw [OutputSpec.hole, isBareNative_parts_concat]
      constructor
      · exact ih
      · simp [partsOf]

/-! ### What is written -/

/-- The fields of written attributes are those of a canonical object. -/
theorem isCanonical_attributesToJson (attributes : Table String) :
  (Json.object (attributesToJson attributes)).IsCanonical
  := by
  apply Json.isCanonical_object
  · rw [Entries.Ascending, attributesToJson, List.pairwise_map]
    apply attributes.ascending
  · intro field hfield
    obtain ⟨entry, -, rfl⟩ := List.mem_map.mp hfield
    rfl

mutual

/-- What is written of a spec is canonical if its native nodes are bare. -/
theorem isCanonical_toJson :
    ∀ spec : OutputSpec, (∀ part ∈ spec.parts, part.IsBareNative) → spec.toJson.IsCanonical
  | .text s, _ => rfl
  | .native nodeType raw, hparts => by
    have hraw : OutputSpec.native nodeType raw = ofNative nodeType :=
      hparts (.native nodeType raw) (by simp [parts])
    rw [hraw]
    rfl
  | .element tag none children, hparts => by
    rw [parts, List.forall_mem_cons] at hparts
    rw [toJson, Json.isCanonical_array, List.forall_mem_cons]
    exact ⟨rfl, isCanonical_childrenToJson children hparts.2⟩
  | .element tag (some attributes) children, hparts => by
    rw [parts, List.forall_mem_cons] at hparts
    rw [toJson_attributed, Json.isCanonical_array, List.forall_mem_cons, List.forall_mem_cons]
    exact ⟨rfl, isCanonical_attributesToJson attributes,
      isCanonical_childrenToJson children hparts.2⟩

/-- What is written of children is canonical if their native nodes are bare. -/
theorem isCanonical_childrenToJson :
    ∀ children : List SpecChild, (∀ part ∈ partsOf children, part.IsBareNative) →
      ∀ value ∈ childrenToJson children, value.IsCanonical
  | [], _ => by simp [childrenToJson]
  | .hole :: rest, hparts => by
    rw [childrenToJson, List.forall_mem_cons]
    exact ⟨rfl, isCanonical_childrenToJson rest hparts⟩
  | .spec s :: rest, hparts => by
    rw [partsOf, List.forall_mem_append] at hparts
    rw [childrenToJson, List.forall_mem_cons]
    exact ⟨isCanonical_toJson s hparts.1, isCanonical_childrenToJson rest hparts.2⟩

end

/-- The type of a bare native node is the one that its object claims. -/
theorem nativeType_ofNative (nodeType : UInt16) :
  nativeType [(nativeMarker, .ofInt nodeType.toNat)] = nodeType
  := by
  have hlt : (nodeType.toNat : Int) < 65536 := by
    have := nodeType.toNat_lt
    omega
  simp [nativeType, Entries.find?, Json.ofInt, hlt]

/-- Nothing about a built spec itself is lost unless it has an attribute of the name that marks
native nodes. -/
theorem legible_iff {spec : OutputSpec} (hspec : spec.IsBareNative) :
  spec.Legible ↔ nativeMarker ∉ spec.attributeNames
  := by
  match spec with
  | .text s => simp [Legible, attributeNames]
  | .native nodeType raw =>
    obtain rfl : raw = .object [(nativeMarker, .ofInt nodeType.toNat)] := by
      simpa [IsBareNative, ofNative] using hspec
    have hmarked : isNative [(nativeMarker, .ofInt nodeType.toNat)] = true := by
      simp [isNative, Entries.find?, Json.ofInt, Json.isNull]
    simp [Legible, attributeNames, hmarked, nativeType_ofNative]
  | .element tag none children => simp [Legible, attributeNames]
  | .element tag (some attributes) children =>
    simp [Legible, attributeNames, Table.notMem_names_iff]

/-- A built spec is read back from its array form exactly if no tag in it has an attribute of the
name that marks native nodes. -/
theorem reads_back_iff_no_marker {spec : OutputSpec} (hspec : spec.Built) :
  ofJson spec.toJson = .ok spec ↔ ∀ part ∈ spec.parts, nativeMarker ∉ part.attributeNames
  := by
  have hnative := hspec.isBareNative
  have hlegible : (∀ part ∈ spec.parts, part.Legible)
      ↔ ∀ part ∈ spec.parts, nativeMarker ∉ part.attributeNames := by
    apply forall₂_congr
    intro part hpart
    apply legible_iff (hnative part hpart)
  rw [← hlegible]
  constructor
  · intro hread
    exact (rewrites_of_read.1 spec.toJson (isCanonical_toJson spec hnative) spec hread).legible
  · apply ofJson_toJson

/-- A paragraph of a class around a native node and a bold place for content. -/
def note : OutputSpec :=
  ofTag "p" |>.attr "class" "note" |>.child (ofNative 3) |>.child (ofTag "b" |>.hole)

/-- A paragraph around a bold place for content that claims to be a native node. -/
def disguised : OutputSpec := ofTag "p" |>.child (ofTag "b" |>.attr "nodeType" "1" |>.hole)

theorem note_reads_back_and_disguised_does_not :
  note.Built ∧ ofJson note.toJson = .ok note
    ∧ disguised.Built ∧ ofJson disguised.toJson ≠ .ok disguised
  := by
  have hnote : note.Built :=
    (((Built.tag "p").attr "class" "note").child (.native 3)).child (.hole (.tag "b"))
  have hdisguised : disguised.Built :=
    (Built.tag "p").child (((Built.tag "b").attr "nodeType" "1").hole)
  refine ⟨hnote, ?_, hdisguised, ?_⟩
  · apply (reads_back_iff_no_marker hnote).mpr
    decide
  · rw [Ne, reads_back_iff_no_marker hdisguised]
    decide

end RichText.OutputSpec
