import RichText.OutputSpec.Notation
import RichText.Proofs.CanonicalValues
import RichText.Proofs.Interpretation

/-!
# What reading and writing the array form keep

Writing a spec that was read from a canonical value gives that value again, but for attributes that
are `null` (`OutputSpec.withoutNulls`).  A spec can be read back from its array form if none of its
attributes makes an object of attributes look like a native node and every native node is one of an
object (`OutputSpec.Legible`), and every spec that was read is such a spec.
-/

namespace RichText.OutputSpec

/-! ### The rewritten value -/

/-- The fields of an object where attributes may stand, without those that are `null`; a native
node keeps all its fields. -/
def keptFields (fields : List (String × Json)) : List (String × Json) :=
  if isNative fields then fields else fields.filter fun field => !field.2.isNull

mutual

/-- The array form of a spec without the attributes that are `null`: those fields are taken out of
the object behind the tag of every array, unless it is a native node. -/
def withoutNulls : Json → Json
  | .array (tag :: .object fields :: rest) =>
    .array (tag :: .object (keptFields fields) :: withoutNullsAll rest)
  | .array (tag :: rest) => .array (tag :: withoutNullsAll rest)
  | value => value
termination_by structural value => value

/-- The array forms of children without the attributes that are `null`. -/
def withoutNullsAll : List Json → List Json
  | [] => []
  | value :: rest => withoutNulls value :: withoutNullsAll rest
termination_by structural values => values

end

/-! ### Specs that can be read back -/

/-- Nothing about the spec itself, apart from its children, is lost in its array form: no attribute
has the name that makes an object a native node, and a native node is one of an object, with the
type that the object claims. -/
def Legible : OutputSpec → Prop
  | .text _ => True
  | .native nodeType raw =>
    ∃ fields, raw = .object fields ∧ isNative fields = true ∧ nodeType = nativeType fields
  | .element _ attributes _ => ∀ table ∈ attributes, table.find? nativeMarker = none

/-- The values of attributes as they are written. -/
def attributesToJson (attributes : Table String) : List (String × Json) :=
  attributes.entries.map fun entry => (entry.1, .string entry.2)

/-- Written attributes are read back. -/
theorem attributesOf_attributesToJson (attributes : Table String) :
  attributesOf (attributesToJson attributes) = .ok attributes.entries
  := by
  rw [attributesToJson]
  induction attributes.entries with
  | nil => rfl
  | cons entry rest ih =>
    rw [List.map_cons, attributesOf, ih]
    rfl

/-- Written attributes look like a native node if one of them has the name of the marker. -/
theorem isNative_attributesToJson (attributes : Table String) :
  isNative (attributesToJson attributes) = (attributes.find? nativeMarker).isSome
  := by
  rw [isNative, attributesToJson, Entries.find?_map, Table.find?]
  cases Entries.find? nativeMarker attributes.entries with
  | none => rfl
  | some s => rfl

theorem toJson_attributed (tag : String) (attributes : Table String)
    (children : List SpecChild) :
  toJson (.element tag (some attributes) children)
    = .array (.string tag :: .object (attributesToJson attributes) :: childrenToJson children)
  := by
  rw [toJson, attributesToJson]

/-- An array whose second item is no object of attributes has no attributes. -/
theorem ofJson_plain {tag : String} {values : List Json}
    (hvalues : ∀ value ∈ values.head?, isAttributesObject value = false) :
  ofJson (.array (.string tag :: values))
    = childrenOf values >>= fun children => .ok (.element tag none children)
  := by
  cases values with
  | nil => rfl
  | cons value rest =>
    have hvalue := hvalues value rfl
    cases value with
    | object fields =>
      have hnative : isNative fields = true := by simpa [isAttributesObject] using hvalue
      simp only [ofJson, childrenOf, isHole, hnative, if_true, Bool.false_eq_true, if_false,
        bind_assoc, pure_bind]
      rfl
    | _ => rfl

/-- The values of children are holes where the children are, and never objects of attributes. -/
theorem isAttributesObject_childrenToJson {children : List SpecChild}
    (hchildren : ∀ part ∈ partsOf children, part.Legible) :
  ∀ value ∈ (childrenToJson children).head?, isAttributesObject value = false
  := by
  intro value hvalue
  match children with
  | [] => simp [childrenToJson] at hvalue
  | .hole :: rest =>
    obtain rfl : Json.ofInt 0 = value := by simpa [childrenToJson] using hvalue
    rfl
  | .spec (.text s) :: rest =>
    obtain rfl : Json.string s = value := by simpa [childrenToJson, toJson] using hvalue
    rfl
  | .spec (.native nodeType raw) :: rest =>
    obtain rfl : raw = value := by simpa [childrenToJson, toJson] using hvalue
    obtain ⟨fields, rfl, hnative, -⟩ := hchildren (.native nodeType raw) (by simp [partsOf, parts])
    simp [isAttributesObject, hnative]
  | .spec (.element tag attributes nested) :: rest =>
    cases attributes with
    | none =>
      obtain rfl : Json.array _ = value := by simpa [childrenToJson, toJson] using hvalue
      rfl
    | some attributes =>
      obtain rfl : Json.array _ = value := by simpa [childrenToJson, toJson] using hvalue
      rfl

/-- A spec that is no hole does not look like one. -/
theorem isHole_toJson {spec : OutputSpec} (hspec : spec.Legible) :
  isHole spec.toJson = false
  := by
  match spec with
  | .text s => rfl
  | .native nodeType raw =>
    obtain ⟨fields, rfl, -, -⟩ := hspec
    rfl
  | .element tag none children => simp [toJson, isHole]
  | .element tag (some attributes) children => simp [toJson, isHole]

mutual

/-- A legible spec is read back from its array form. -/
theorem ofJson_toJson :
    ∀ spec : OutputSpec, (∀ part ∈ spec.parts, part.Legible) → ofJson spec.toJson = .ok spec
  | .text s, _ => rfl
  | .native nodeType raw, hparts => by
    obtain ⟨fields, rfl, hnative, rfl⟩ := hparts (.native nodeType raw) (by simp [parts])
    rw [toJson, ofJson, if_pos hnative]
  | .element tag none children, hparts => by
    rw [parts, List.forall_mem_cons] at hparts
    rw [toJson, ofJson_plain (isAttributesObject_childrenToJson hparts.2),
      childrenOf_childrenToJson children hparts.2]
    rfl
  | .element tag (some attributes) children, hparts => by
    rw [parts, List.forall_mem_cons] at hparts
    have hnone := hparts.1 attributes rfl
    have hnative : isNative (attributesToJson attributes) = false := by
      rw [isNative_attributesToJson, hnone]
      rfl
    have htable : Table.ofList attributes.entries = attributes := by
      apply Table.ext
      apply Table.entries_ofList attributes.ascending
    rw [toJson_attributed, ofJson, hnative, attributesOf_attributesToJson,
      childrenOf_childrenToJson children hparts.2]
    simp only [Bool.false_eq_true, if_false, ok_bind, htable]
    rfl

/-- Legible children are read back from their array forms. -/
theorem childrenOf_childrenToJson :
    ∀ children : List SpecChild, (∀ part ∈ partsOf children, part.Legible) →
      childrenOf (childrenToJson children) = .ok children
  | [], _ => rfl
  | .hole :: rest, hparts => by
    rw [childrenToJson, childrenOf, childrenOf_childrenToJson rest hparts]
    rfl
  | .spec spec :: rest, hparts => by
    rw [partsOf, List.forall_mem_append] at hparts
    have hspec : spec.Legible := by
      apply hparts.1
      cases spec <;> simp [parts]
    rw [childrenToJson, childrenOf, isHole_toJson hspec, ofJson_toJson spec hparts.1,
      childrenOf_childrenToJson rest hparts.2]
    rfl

end

/-! ### What was read -/

/-- Attributes that were read are the fields that are not `null`. -/
theorem map_of_attributesOf {fields : List (String × Json)} {entries : List (String × String)}
    (h : attributesOf fields = .ok entries) :
  entries.map (fun entry => (entry.1, Json.string entry.2))
    = fields.filter fun field => !field.2.isNull
  := by
  induction fields using attributesOf.induct generalizing entries with
  | case1 =>
    obtain rfl := Except.ok.inj h
    rfl
  | case2 name rest ih =>
    rw [attributesOf] at h
    rw [ih h]
    rfl
  | case3 name s rest ih =>
    simp only [attributesOf, bind_eq_ok_iff, pure_eq_ok_iff] at h
    obtain ⟨others, hothers, rfl⟩ := h
    rw [List.map_cons, ih hothers]
    rfl
  | case4 name value rest hnull hstring =>
    simp [attributesOf] at h

/-- Attributes that were read from ascending fields ascend. -/
theorem ascending_of_attributesOf {fields : List (String × Json)}
    {entries : List (String × String)} (hfields : Entries.Ascending fields)
    (h : attributesOf fields = .ok entries) :
  Entries.Ascending entries
  := by
  have hkept : Entries.Ascending (fields.filter fun field => !field.2.isNull) := hfields.filter _
  rw [← map_of_attributesOf h, Entries.Ascending, List.pairwise_map] at hkept
  exact hkept

/-- Attributes that were read do not have the name that makes an object a native node. -/
theorem find?_marker_of_attributesOf {fields : List (String × Json)}
    {entries : List (String × String)} (hfields : Entries.Ascending fields)
    (hnative : isNative fields = false) (h : attributesOf fields = .ok entries) :
  Entries.find? nativeMarker entries = none
  := by
  cases hfind : Entries.find? nativeMarker entries with
  | none => rfl
  | some s =>
    have hkept : (nativeMarker, Json.string s)
        ∈ entries.map fun entry => (entry.1, Json.string entry.2) :=
      List.mem_map_of_mem (Entries.mem_of_find? hfind)
    rw [map_of_attributesOf h] at hkept
    have hfield := Entries.find?_eq_some_of_mem hfields (List.mem_filter.mp hkept).1
    rw [isNative, hfield] at hnative
    simp [Json.isNull] at hnative

/-- A value and a spec that was read from it: the spec is written as the value without null
attributes, and can be read back. -/
structure Rewrites (value : Json) (spec : OutputSpec) : Prop where
  toJson_eq : spec.toJson = withoutNulls value
  legible : ∀ part ∈ spec.parts, part.Legible

/-- Values and the children that were read from them: the children are written as the values
without null attributes, and can be read back. -/
structure RewritesAll (values : List Json) (children : List SpecChild) : Prop where
  toJson_eq : childrenToJson children = withoutNullsAll values
  legible : ∀ part ∈ partsOf children, part.Legible

theorem Rewrites.text (s : String) :
  Rewrites (.string s) (.text s)
  := by
  constructor
  · rw [toJson, withoutNulls] <;> simp
  · simp [parts, Legible]

theorem Rewrites.native {fields : List (String × Json)} (hnative : isNative fields = true) :
  Rewrites (.object fields) (.native (nativeType fields) (.object fields))
  := by
  constructor
  · rw [toJson, withoutNulls] <;> simp
  · simp [parts, Legible, hnative]

/-- A tag without attributes is written as it was read. -/
theorem Rewrites.plain {tag : String} {values : List Json} {children : List SpecChild}
    (hvalues : ∀ value ∈ values.head?, isAttributesObject value = false)
    (hchildren : RewritesAll values children) :
  Rewrites (.array (.string tag :: values)) (.element tag none children)
  := by
  constructor
  · rw [toJson, hchildren.toJson_eq]
    match values with
    | [] => rfl
    | .object fields :: rest =>
      have hnative : isNative fields = true := by
        simpa [isAttributesObject] using hvalues _ rfl
      have hobject : withoutNulls (.object fields) = .object fields := by
        rw [withoutNulls] <;> simp
      rw [withoutNulls, keptFields, if_pos hnative, withoutNullsAll, hobject]
    | .null :: rest | .bool _ :: rest | .number _ :: rest | .string _ :: rest
    | .array _ :: rest =>
      rw [withoutNulls]
      simp
  · rw [parts, List.forall_mem_cons]
    refine ⟨?_, hchildren.legible⟩
    simp [Legible]

/-- A tag with attributes is written without those that are `null`. -/
theorem Rewrites.attributed {tag : String} {fields : List (String × Json)} {rest : List Json}
    {entries : List (String × String)} {children : List SpecChild}
    (hfields : Entries.Ascending fields) (hnative : isNative fields = false)
    (hentries : attributesOf fields = .ok entries) (hchildren : RewritesAll rest children) :
  Rewrites (.array (.string tag :: .object fields :: rest))
    (.element tag (some (Table.ofList entries)) children)
  := by
  have hsorted := Table.entries_ofList (ascending_of_attributesOf hfields hentries)
  constructor
  · rw [toJson_attributed, attributesToJson, hsorted, map_of_attributesOf hentries,
      hchildren.toJson_eq, withoutNulls, keptFields, hnative]
    rfl
  · rw [parts, List.forall_mem_cons]
    refine ⟨?_, hchildren.legible⟩
    rintro _ ⟨⟩
    rw [Table.find?, hsorted]
    exact find?_marker_of_attributesOf hfields hnative hentries

theorem RewritesAll.nil :
  RewritesAll [] []
  := by
  constructor
  · rfl
  · simp [partsOf]

theorem RewritesAll.hole {value : Json} {rest : List Json} {children : List SpecChild}
    (hvalue : isHole value = true) (hrest : RewritesAll rest children) :
  RewritesAll (value :: rest) (.hole :: children)
  := by
  have hzero : withoutNulls value = .ofInt 0 := by
    match value with
    | .number (.integer n) =>
      obtain rfl : n = 0 := by simpa [isHole] using hvalue
      rw [withoutNulls] <;> simp [Json.ofInt]
    | .null | .bool _ | .number (.double _) | .string _ | .array _ | .object _ =>
      simp [isHole] at hvalue
  constructor
  · rw [childrenToJson, withoutNullsAll, hzero, hrest.toJson_eq]
  · exact hrest.legible

theorem RewritesAll.spec {value : Json} {rest : List Json} {spec : OutputSpec}
    {children : List SpecChild} (hvalue : Rewrites value spec) (hrest : RewritesAll rest children) :
  RewritesAll (value :: rest) (.spec spec :: children)
  := by
  constructor
  · rw [childrenToJson, withoutNullsAll, hvalue.toJson_eq, hrest.toJson_eq]
  · rw [partsOf, List.forall_mem_append]
    exact ⟨hvalue.legible, hrest.legible⟩

/-- What is read from canonical values is written without null attributes and read back. -/
theorem rewrites_of_read :
  (∀ value : Json, value.IsCanonical → ∀ spec, ofJson value = .ok spec → Rewrites value spec)
    ∧ ∀ values : List Json, (∀ value ∈ values, value.IsCanonical) →
        ∀ children, childrenOf values = .ok children → RewritesAll values children
  := by
  -- The cases are those of the two readers, in their order.
  apply ofJson.mutual_induct
  case case1 =>
    intro s _ spec h
    obtain rfl := Except.ok.inj h
    exact Rewrites.text s
  case case2 =>
    intro fields hnative _ spec h
    rw [ofJson, if_pos hnative] at h
    obtain rfl := Except.ok.inj h
    exact Rewrites.native hnative
  case case3 =>
    intro fields hnative _ spec h
    simp [ofJson, hnative] at h
  case case4 =>
    intro _ spec h
    simp [ofJson] at h
  case case5 =>
    -- A native node behind the tag is the first child.
    intro tag fields rest hnative ih hvalue spec h
    rw [Json.isCanonical_array, List.forall_mem_cons, List.forall_mem_cons] at hvalue
    simp only [ofJson, hnative, if_true, bind_eq_ok_iff, pure_eq_ok_iff] at h
    obtain ⟨children, hchildren, rfl⟩ := h
    apply Rewrites.plain
    · simp [isAttributesObject, hnative]
    · exact .spec (.native hnative) (ih hvalue.2.2 children hchildren)
  case case6 =>
    -- Another object behind the tag holds the attributes.
    intro tag fields rest hnative ih hvalue spec h
    have hnative : isNative fields = false := by simpa using hnative
    rw [Json.isCanonical_array, List.forall_mem_cons, List.forall_mem_cons] at hvalue
    rw [ofJson, hnative] at h
    simp only [Bool.false_eq_true, if_false, bind_eq_ok_iff, pure_eq_ok_iff] at h
    obtain ⟨entries, hentries, children, hchildren, rfl⟩ := h
    exact .attributed hvalue.2.1.ascending hnative hentries (ih hvalue.2.2 children hchildren)
  case case7 =>
    -- Behind the tag is no object, or nothing at all.
    intro tag values hvalues ih hvalue spec h
    rw [Json.isCanonical_array, List.forall_mem_cons] at hvalue
    have hplain : ∀ value ∈ values.head?, isAttributesObject value = false := by
      intro value hhead
      cases value with
      | object fields =>
        obtain ⟨rest, hrest⟩ := List.head?_eq_some_iff.mp hhead
        exact absurd hrest (hvalues fields rest)
      | _ => rfl
    rw [ofJson_plain hplain, bind_eq_ok_iff] at h
    obtain ⟨children, hchildren, h⟩ := h
    obtain rfl := Except.ok.inj h
    exact .plain hplain (ih hvalue.2 children hchildren)
  case case8 =>
    intro value rest hattributes htag _ spec h
    rw [ofJson] at h
    · simp at h
    · exact hattributes
    · exact htag
  case case9 =>
    -- What is left is no text, no object and no array.
    intro value hstring hobject hnil hattributes htag harray _ spec h
    cases value with
    | string s => exact absurd rfl (hstring s)
    | object fields => exact absurd rfl (hobject fields)
    | array items =>
      cases items with
      | nil => exact absurd rfl hnil
      | cons item rest => exact absurd rfl (harray item rest)
    | _ => simp [ofJson] at h
  case case10 =>
    intro _ children h
    obtain rfl := Except.ok.inj h
    exact .nil
  case case11 =>
    intro value rest hhole ih hvalues children h
    rw [List.forall_mem_cons] at hvalues
    simp only [childrenOf, hhole, if_true, bind_eq_ok_iff, pure_eq_ok_iff] at h
    obtain ⟨others, hothers, rfl⟩ := h
    exact .hole hhole (ih hvalues.2 others hothers)
  case case12 =>
    intro value rest hhole ihvalue ihrest hvalues children h
    have hhole : isHole value = false := by simpa using hhole
    rw [List.forall_mem_cons] at hvalues
    rw [childrenOf, hhole] at h
    simp only [Bool.false_eq_true, if_false, bind_eq_ok_iff, pure_eq_ok_iff] at h
    obtain ⟨spec, hspec, others, hothers, rfl⟩ := h
    exact .spec (ihvalue hvalues.1 spec hspec) (ihrest hvalues.2 others hothers)

/-- A spec that was read from a canonical value is written as that value without the attributes
that are `null`.  Reading what was written gives the spec again, so writing it once more changes
nothing.  All values that are read from texts are canonical. -/
theorem toJson_eq_withoutNulls :
  (∀ (value : Json) (spec : OutputSpec), value.IsCanonical → ofJson value = .ok spec →
      spec.toJson = withoutNulls value
        ∧ ofJson spec.toJson = .ok spec
        ∧ (ofJson spec.toJson).map toJson = .ok spec.toJson)
    ∧ ∀ (text : String) (value : Json), Json.parse text = .ok value → value.IsCanonical
  := by
  refine ⟨?_, fun _ _ => Json.isCanonical_of_parse⟩
  intro value spec hvalue hspec
  have hrewrites := rewrites_of_read.1 value hvalue spec hspec
  have hread := ofJson_toJson spec hrewrites.legible
  refine ⟨hrewrites.toJson_eq, hread, ?_⟩
  rw [hread]
  rfl

/-- A link with a null attribute, around a native node with a null field and around a tag whose
only attribute is null. -/
def linkNotation : Json :=
  .array [.string "a", .object [("href", .string "x"), ("title", .null)],
    .object [("nodeType", .ofInt 1), ("title", .null)],
    .array [.string "b", .object [("class", .null)], .ofInt 0]]

/-- The spec of the link. -/
def link : OutputSpec :=
  .element "a" (some (Table.ofList [("href", "x")]))
    [.spec (.native 1 (.object [("nodeType", .ofInt 1), ("title", .null)])),
      .spec (.element "b" (some Table.empty) [.hole])]

theorem link_toJson :
  linkNotation.IsCanonical ∧ ofJson linkNotation = .ok link
    ∧ link.toJson = .array [.string "a", .object [("href", .string "x")],
        .object [("nodeType", .ofInt 1), ("title", .null)],
        .array [.string "b", .object [], .ofInt 0]]
    ∧ ofJson link.toJson = .ok link
  := by
  have hcanonical : linkNotation.IsCanonical := by
    decide
  have hread : ofJson linkNotation = .ok link := by
    rfl
  obtain ⟨hwritten, hagain, -⟩ := toJson_eq_withoutNulls.1 linkNotation link hcanonical hread
  exact ⟨hcanonical, hread, hwritten.trans rfl, hagain⟩

end RichText.OutputSpec
