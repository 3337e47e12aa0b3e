import RichText.Proofs.Notation

/-!
# Which values are specs

A canonical value is read as a spec if it has one of the forms of `OutputSpec.IsNotation`: a string,
a marked object, or an array of a tag, perhaps an object of attributes, and children, which are
holes or such values again.  Every other value has one first fault (`OutputSpec.FirstFault`), and
that is the error of reading it.  The two relations say nothing of how values are read; they are
sound for the reader, and one of them holds of every value.
-/

namespace RichText.OutputSpec

/-! ### Forms of values -/

/-- The fields of an object that stands for a native node: the marker is there and not `null`. -/
def IsMarked (fields : List (String × Json)) : Prop :=
  ∃ value, (nativeMarker, value) ∈ fields ∧ value ≠ .null

/-- What an attribute may be: a string, or `null` for one that is left out. -/
def IsAttributeValue (value : Json) : Prop := value = .null ∨ ∃ s, value = .string s

/-- The field that cannot be an attribute while all smaller ones can. -/
structure SmallestUnfit (fields : List (String × Json)) (name : String) (value : Json) : Prop where
  mem : (name, value) ∈ fields
  unfit : ¬ IsAttributeValue value
  smallest : ∀ field ∈ fields, field.1 < name → IsAttributeValue field.2

/-- The items behind a tag, the fields of the attributes among them, and the children: an object in
front holds the attributes unless it is marked, and there are no attributes without one. -/
inductive Divides : (items : List Json) → (fields : List (String × Json)) →
    (children : List Json) → Prop where
  | attributed {fields : List (String × Json)} {children : List Json}
      (hfields : ¬ IsMarked fields) : Divides (.object fields :: children) fields children
  | bare {children : List Json}
      (hfront : ∀ fields, .object fields ∈ children.head? → IsMarked fields) :
      Divides children [] children

/-- The forms of values that stand for specs.  A child is the number zero or has one of these forms
again. -/
inductive IsNotation : Json → Prop where
  | text (s : String) : IsNotation (.string s)
  | native {fields : List (String × Json)} (hfields : IsMarked fields) :
      IsNotation (.object fields)
  | tagged (tag : String) {items children : List Json} {fields : List (String × Json)}
      (hitems : Divides items fields children)
      (hfields : ∀ field ∈ fields, IsAttributeValue field.2)
      (hchildren : ∀ child ∈ children, child ≠ .ofInt 0 → IsNotation child) :
      IsNotation (.array (.string tag :: items))

/-- The first fault of a value, from left to right and from the outside to the inside: of an array
that it is empty, that it begins with no string, the smallest attribute that is neither a string nor
`null`, or the first fault of the first child that has one; of another value that it is none of the
values that stand for specs. -/
inductive FirstFault : Json → SpecError → Prop where
  | empty : FirstFault (.array []) .emptySpec
  | tag {value : Json} {items : List Json} (hvalue : ∀ s, value ≠ .string s) :
      FirstFault (.array (value :: items)) (.invalidTag value)
  | unfit (tag : String) {items children : List Json} {fields : List (String × Json)}
      {name : String} {value : Json} (hitems : Divides items fields children)
      (hfield : SmallestUnfit fields name value) :
      FirstFault (.array (.string tag :: items)) (.invalidAttribute name value)
  | child (tag : String) {items before after : List Json} {fields : List (String × Json)}
      {value : Json} {error : SpecError}
      (hitems : Divides items fields (before ++ value :: after))
      (hfields : ∀ field ∈ fields, IsAttributeValue field.2)
      (hbefore : ∀ child ∈ before, child ≠ .ofInt 0 → IsNotation child)
      (hvalue : value ≠ .ofInt 0) (hfault : FirstFault value error) :
      FirstFault (.array (.string tag :: items)) error
  | other {value : Json} (hstring : ∀ s, value ≠ .string s)
      (hobject : ∀ fields, value = .object fields → ¬ IsMarked fields)
      (harray : ∀ items, value ≠ .array items) : FirstFault value (.invalidSpec value)

/-! ### The parts of the reader -/

/-- The fields of a native node are those that are marked. -/
theorem isNative_iff_isMarked {fields : List (String × Json)}
    (hfields : Entries.Ascending fields) :
  isNative fields = true ↔ IsMarked fields
  := by
  rw [isNative]
  constructor
  · intro hnative
    cases hfind : Entries.find? nativeMarker fields with
    | none => simp [hfind] at hnative
    | some value =>
      use value, Entries.mem_of_find? hfind
      rintro rfl
      simp [hfind, Json.isNull] at hnative
  · rintro ⟨value, hmem, hvalue⟩
    rw [Entries.find?_eq_some_of_mem hfields hmem]
    cases value with
    | null => exact absurd rfl hvalue
    | _ => rfl

/-- Only the number zero stands for the hole. -/
theorem isHole_iff {value : Json} :
  isHole value = true ↔ value = .ofInt 0
  := by
  match value with
  | .number (.integer n) => simp [isHole, Json.ofInt]
  | .number (.double x) => simp [isHole, Json.ofInt]
  | .null | .bool _ | .string _ | .array _ | .object _ => simp [isHole, Json.ofInt]

/-- The child that a value stands for. -/
def childOf (value : Json) : Except SpecError SpecChild :=
  if isHole value then .ok .hole else (ofJson value).map .spec

theorem childOf_zero :
  childOf (.ofInt 0) = .ok .hole
  := rfl

theorem childOf_of_ne {value : Json} (h : value ≠ .ofInt 0) :
  childOf value = (ofJson value).map .spec
  := by
  rw [childOf, if_neg]
  rwa [isHole_iff]

theorem childrenOf_eq_mapM (values : List Json) :
  childrenOf values = values.mapM childOf
  := by
  induction values with
  | nil => rfl
  | cons value rest ih =>
    rw [childrenOf, List.mapM_cons, childOf, ih]
    by_cases hhole : isHole value = true
    · rw [if_pos hhole, if_pos hhole]
      rfl
    · rw [if_neg hhole, if_neg hhole]
      cases ofJson value with
      | error error => rfl
      | ok spec => rfl

/-- A value stands for a child if it is the number zero or is read as a spec. -/
theorem exists_childOf_iff {value : Json} :
  (∃ child, childOf value = .ok child) ↔ (value ≠ .ofInt 0 → ∃ spec, ofJson value = .ok spec)
  := by
  by_cases hvalue : value = .ofInt 0
  · simp [hvalue, childOf_zero]
  · simp [hvalue, childOf_of_ne hvalue, map_eq_ok_iff]

/-- A value does not stand for a child if it is not the number zero and cannot be read. -/
theorem childOf_eq_error_iff {value : Json} {error : SpecError} :
  childOf value = .error error ↔ value ≠ .ofInt 0 ∧ ofJson value = .error error
  := by
  by_cases hvalue : value = .ofInt 0
  · simp [hvalue, childOf_zero]
  · simp [hvalue, childOf_of_ne hvalue, map_eq_error_iff]

/-- Values stand for children if each of them does. -/
theorem exists_childrenOf_iff {values : List Json} :
  (∃ children, childrenOf values = .ok children)
    ↔ ∀ value ∈ values, value ≠ .ofInt 0 → ∃ spec, ofJson value = .ok spec
  := by
  rw [childrenOf_eq_mapM, exists_mapM_eq_ok_iff]
  simp only [exists_childOf_iff]

/-- The error of values that do not stand for children is that of the first one that does not. -/
theorem childrenOf_eq_error_iff {values : List Json} {error : SpecError} :
  childrenOf values = .error error
    ↔ ∃ before value after, values = before ++ value :: after
      ∧ (∀ child ∈ before, child ≠ .ofInt 0 → ∃ spec, ofJson child = .ok spec)
      ∧ value ≠ .ofInt 0 ∧ ofJson value = .error error
  := by
  rw [childrenOf_eq_mapM, mapM_eq_error_iff]
  simp only [exists_childOf_iff, childOf_eq_error_iff]

theorem smallestUnfit_cons_of_fit {field : String × Json} {rest : List (String × Json)}
    {name : String} {value : Json} (hfield : IsAttributeValue field.2) :
  SmallestUnfit (field :: rest) name value ↔ SmallestUnfit rest name value
  := by
  constructor
  · rintro ⟨hmem, hunfit, hsmallest⟩
    rw [List.forall_mem_cons] at hsmallest
    refine ⟨?_, hunfit, hsmallest.2⟩
    rcases List.mem_cons.mp hmem with rfl | hmem
    · exact absurd hfield hunfit
    · exact hmem
  · rintro ⟨hmem, hunfit, hsmallest⟩
    refine ⟨List.mem_cons_of_mem _ hmem, hunfit, ?_⟩
    rw [List.forall_mem_cons]
    exact ⟨fun _ => hfield, hsmallest⟩

theorem smallestUnfit_cons_of_unfit {field : String × Json} {rest : List (String × Json)}
    {name : String} {value : Json} (hfields : Entries.Ascending (field :: rest))
    (hfield : ¬ IsAttributeValue field.2) :
  SmallestUnfit (field :: rest) name value ↔ field = (name, value)
  := by
  obtain ⟨hlt, -⟩ := List.pairwise_cons.mp hfields
  constructor
  · rintro ⟨hmem, -, hsmallest⟩
    rcases List.mem_cons.mp hmem with heq | hmem
    · exact heq.symm
    · exact absurd (hsmallest field List.mem_cons_self (hlt _ hmem)) hfield
  · rintro rfl
    refine ⟨List.mem_cons_self, hfield, ?_⟩
    rw [List.forall_mem_cons]
    constructor
    · intro hself
      exact absurd hself (String.lt_irrefl _)
    · intro other hother hbefore
      exact absurd (String.lt_trans hbefore (hlt other hother)) (String.lt_irrefl _)

theorem isAttributeValue_null : IsAttributeValue .null := .inl rfl

theorem isAttributeValue_string (s : String) : IsAttributeValue (.string s) := .inr ⟨s, rfl⟩

theorem not_isAttributeValue {value : Json} (hnull : value ≠ .null)
    (hstring : ∀ s, value ≠ .string s) :
  ¬ IsAttributeValue value
  := by
  rintro (rfl | ⟨s, rfl⟩)
  · exact hnull rfl
  · exact hstring s rfl

/-- Fields are attributes if all their values may be attributes. -/
theorem exists_attributesOf_iff {fields : List (String × Json)} :
  (∃ entries, attributesOf fields = .ok entries) ↔ ∀ field ∈ fields, IsAttributeValue field.2
  := by
  induction fields using attributesOf.induct with
  | case1 => simp [attributesOf]
  | case2 name rest ih =>
    rw [attributesOf, ih, List.forall_mem_cons]
    simp [isAttributeValue_null]
  | case3 name s rest ih =>
    rw [List.forall_mem_cons, ← ih]
    simp only [attributesOf, bind_eq_ok_iff, pure_eq_ok_iff, isAttributeValue_string, true_and]
    constructor
    · rintro ⟨_, entries, hentries, _⟩
      use entries
    · rintro ⟨entries, hentries⟩
      use (name, s) :: entries, entries
  | case4 name value rest hnull hstring =>
    simp [attributesOf, not_isAttributeValue hnull hstring]

/-- The error of fields that are no attributes is about the smallest one that cannot be one. -/
theorem attributesOf_eq_error_iff {fields : List (String × Json)} {error : SpecError}
    (hfields : Entries.Ascending fields) :
  attributesOf fields = .error error
    ↔ ∃ name value, error = .invalidAttribute name value ∧ SmallestUnfit fields name value
  := by
  induction fields using attributesOf.induct with
  | case1 =>
    constructor
    · simp [attributesOf]
    · rintro ⟨name, value, -, hfield⟩
      exact absurd hfield.mem List.not_mem_nil
  | case2 name rest ih =>
    have hfit : IsAttributeValue (name, Json.null).2 := isAttributeValue_null
    rw [attributesOf, ih (List.pairwise_cons.mp hfields).2]
    simp only [smallestUnfit_cons_of_fit hfit]
  | case3 name s rest ih =>
    have hfit : IsAttributeValue (name, Json.string s).2 := isAttributeValue_string s
    simp only [smallestUnfit_cons_of_fit hfit, ← ih (List.pairwise_cons.mp hfields).2]
    simp only [attributesOf, bind_eq_error_iff, pure_ne_error, and_false, exists_false, or_false]
  | case4 name value rest hnull hstring =>
    -- The fields ascend, so the first one that is unfit is the smallest one.
    have hunfit : ¬ IsAttributeValue (name, value).2 := not_isAttributeValue hnull hstring
    simp only [smallestUnfit_cons_of_unfit hfields hunfit]
    rw [attributesOf]
    · simp [eq_comm]
    · exact hnull
    · exact hstring

theorem exists_divides (items : List Json) :
  ∃ fields children, Divides items fields children
  := by
  by_cases hfront : ∀ fields, .object fields ∈ items.head? → IsMarked fields
  · use [], items, .bare hfront
  · push Not at hfront
    obtain ⟨fields, hhead, hfields⟩ := hfront
    obtain ⟨children, rfl⟩ := List.head?_eq_some_iff.mp hhead
    use fields, children, .attributed hfields

theorem Divides.subset {items children : List Json} {fields : List (String × Json)}
    (h : Divides items fields children) :
  children ⊆ items
  := by
  cases h with
  | attributed hfields => apply List.subset_cons_self
  | bare hfront => apply List.Subset.refl

theorem Divides.ascending {items children : List Json} {fields : List (String × Json)}
    (h : Divides items fields children) (hcanonical : ∀ item ∈ items, item.IsCanonical) :
  Entries.Ascending fields
  := by
  cases h with
  | attributed hfields => apply (hcanonical _ List.mem_cons_self).ascending
  | bare hfront => apply List.Pairwise.nil

/-- Behind a tag the attributes are read first, and then the children. -/
theorem ofJson_of_divides {items children : List Json} {fields : List (String × Json)}
    (hitems : Divides items fields children) (hcanonical : ∀ item ∈ items, item.IsCanonical)
    (tag : String) :
  ∃ table : List (String × String) → Option (Table String),
    ofJson (.array (.string tag :: items))
      = attributesOf fields >>= fun entries =>
        childrenOf children >>= fun nested => .ok (.element tag (table entries) nested)
  := by
  cases hitems with
  | attributed hfields =>
    rw [List.forall_mem_cons] at hcanonical
    have hnative : isNative fields = false := by
      apply Bool.eq_false_iff.mpr
      rwa [Ne, isNative_iff_isMarked hcanonical.1.ascending]
    use fun entries => some (Table.ofList entries)
    rw [ofJson, hnative]
    rfl
  | bare hfront =>
    use fun _ => none
    rw [attributesOf, ok_bind]
    apply ofJson_plain
    intro value hvalue
    cases value with
    | object fields =>
      have hmem := hcanonical _ (List.mem_of_mem_head? hvalue)
      rw [isAttributesObject, (isNative_iff_isMarked hmem.ascending).mpr (hfront fields hvalue)]
      rfl
    | _ => rfl

/-! ### Reading -/

/-- A value that has a form of specs is read. -/
theorem exists_ofJson {value : Json} (h : IsNotation value) (hcanonical : value.IsCanonical) :
  ∃ spec, ofJson value = .ok spec
  := by
  induction h with
  | text s =>
    use .text s
    rfl
  | @native fields hfields =>
    use .native (nativeType fields) (.object fields)
    rw [ofJson, if_pos]
    rwa [isNative_iff_isMarked hcanonical.ascending]
  | @tagged tag items children fields hitems hfields hchildren ih =>
    rw [Json.isCanonical_array, List.forall_mem_cons] at hcanonical
    obtain ⟨table, hread⟩ := ofJson_of_divides hitems hcanonical.2 tag
    obtain ⟨entries, hentries⟩ := exists_attributesOf_iff.mpr hfields
    obtain ⟨nested, hnested⟩ : ∃ nested, childrenOf children = .ok nested := by
      apply exists_childrenOf_iff.mpr
      intro child hchild hne
      apply ih child hchild hne (hcanonical.2 child (hitems.subset hchild))
    use .element tag (table entries) nested
    rw [hread, hentries, ok_bind, hnested, ok_bind]

/-- Reading a value with a fault gives the first one. -/
theorem ofJson_of_firstFault {value : Json} {error : SpecError} (h : FirstFault value error)
    (hcanonical : value.IsCanonical) :
  ofJson value = .error error
  := by
  induction h with
  | empty => rfl
  | @tag value items hvalue =>
    cases value with
    | string s => exact absurd rfl (hvalue s)
    | _ => rfl
  | unfit tag hitems hfield =>
    rw [Json.isCanonical_array, List.forall_mem_cons] at hcanonical
    obtain ⟨table, hread⟩ := ofJson_of_divides hitems hcanonical.2 tag
    have hentries := (attributesOf_eq_error_iff (hitems.ascending hcanonical.2)).mpr
      ⟨_, _, rfl, hfield⟩
    rw [hread, hentries, error_bind]
  | @child tag items before after fields value error hitems hfields hbefore hvalue hfault ih =>
    -- The children before the faulty one are read, since they have the forms of specs.
    rw [Json.isCanonical_array, List.forall_mem_cons] at hcanonical
    have hchildren : ∀ child ∈ before ++ value :: after, child.IsCanonical := by
      intro child hchild
      apply hcanonical.2 child (hitems.subset hchild)
    rw [List.forall_mem_append, List.forall_mem_cons] at hchildren
    obtain ⟨table, hread⟩ := ofJson_of_divides hitems hcanonical.2 tag
    obtain ⟨entries, hentries⟩ := exists_attributesOf_iff.mpr hfields
    have hnested : childrenOf (before ++ value :: after) = .error error := by
      apply childrenOf_eq_error_iff.mpr
      use before, value, after, rfl
      refine ⟨?_, hvalue, ih hchildren.2.1⟩
      intro child hchild hne
      apply exists_ofJson (hbefore child hchild hne) (hchildren.1 child hchild)
    rw [hread, hentries, ok_bind, hnested, error_bind]
  | @other value hstring hobject harray =>
    cases value with
    | string s => exact absurd rfl (hstring s)
    | array items => exact absurd rfl (harray items)
    | object fields =>
      have hnative : isNative fields = false := by
        apply Bool.eq_false_iff.mpr
        rw [Ne, isNative_iff_isMarked hcanonical.ascending]
        apply hobject fields rfl
      rw [ofJson, hnative]
      rfl
    | _ => rfl

/-- A value that is read has a form of specs if it has no fault instead. -/
theorem isNotation_of_ofJson {value : Json} {spec : OutputSpec}
    (hcases : IsNotation value ∨ ∃ error, FirstFault value error)
    (hcanonical : value.IsCanonical) (h : ofJson value = .ok spec) :
  IsNotation value
  := by
  rcases hcases with hvalue | ⟨error, hfault⟩
  · exact hvalue
  · rw [ofJson_of_firstFault hfault hcanonical] at h
    simp at h

/-- A value that cannot be read has that fault if it has no form of specs instead. -/
theorem firstFault_of_ofJson {value : Json} {error : SpecError}
    (hcases : IsNotation value ∨ ∃ error, FirstFault value error)
    (hcanonical : value.IsCanonical) (h : ofJson value = .error error) :
  FirstFault value error
  := by
  rcases hcases with hvalue | ⟨error', hfault⟩
  · obtain ⟨spec, hspec⟩ := exists_ofJson hvalue hcanonical
    rw [hspec] at h
    simp at h
  · rw [ofJson_of_firstFault hfault hcanonical] at h
    obtain rfl := Except.error.inj h
    exact hfault

/-- An array with a tag has a form of specs or a first fault if all items behind the tag have. -/
theorem isNotation_or_firstFault_tagged (tag : String) {items : List Json}
    (hcanonical : ∀ item ∈ items, item.IsCanonical)
    (hitems : ∀ item ∈ items, IsNotation item ∨ ∃ error, FirstFault item error) :
  IsNotation (.array (.string tag :: items))
    ∨ ∃ error, FirstFault (.array (.string tag :: items)) error
  := by
  obtain ⟨fields, children, hdivides⟩ := exists_divides items
  cases hentries : attributesOf fields with
  | error error =>
    obtain ⟨name, value, rfl, hfield⟩ :=
      (attributesOf_eq_error_iff (hdivides.ascending hcanonical)).mp hentries
    exact .inr ⟨_, .unfit tag hdivides hfield⟩
  | ok entries =>
    have hfields := exists_attributesOf_iff.mp ⟨entries, hentries⟩
    have hnotation : ∀ child ∈ children, (∃ spec, ofJson child = .ok spec) → IsNotation child := by
      rintro child hchild ⟨spec, hspec⟩
      have hmem := hdivides.subset hchild
      apply isNotation_of_ofJson (hitems child hmem) (hcanonical child hmem) hspec
    cases hnested : childrenOf children with
    | error error =>
      obtain ⟨before, child, after, rfl, hbefore, hne, hchild⟩ :=
        childrenOf_eq_error_iff.mp hnested
      have hmem : child ∈ items := hdivides.subset (by simp)
      right
      use error
      apply FirstFault.child tag hdivides hfields _ hne
      · apply firstFault_of_ofJson (hitems child hmem) (hcanonical child hmem) hchild
      · intro sibling hsibling hsibling'
        apply hnotation sibling (List.mem_append_left _ hsibling)
        apply hbefore sibling hsibling hsibling'
    | ok nested =>
      left
      apply IsNotation.tagged tag hdivides hfields
      intro child hchild hne
      apply hnotation child hchild (exists_childrenOf_iff.mp ⟨nested, hnested⟩ child hchild hne)

mutual

/-- Every canonical value has a form of specs or a first fault. -/
theorem isNotation_or_firstFault :
    ∀ value : Json, value.IsCanonical → IsNotation value ∨ ∃ error, FirstFault value error
  | .string s, _ => .inl (.text s)
  | .object fields, _ => by
    by_cases hfields : IsMarked fields
    · exact .inl (.native hfields)
    · right
      use .invalidSpec (.object fields)
      apply FirstFault.other
      · simp
      · rintro _ ⟨⟩
        exact hfields
      · simp
  | .array [], _ => .inr ⟨_, .empty⟩
  | .array (value :: items), hcanonical => by
    rw [Json.isCanonical_array, List.forall_mem_cons] at hcanonical
    by_cases htag : ∃ tag, value = .string tag
    · obtain ⟨tag, rfl⟩ := htag
      apply isNotation_or_firstFault_tagged tag hcanonical.2
      apply isNotation_or_firstFault_of_mem items hcanonical.2
    · push Not at htag
      exact .inr ⟨_, .tag htag⟩
  | .null, _ => .inr ⟨_, .other (by simp) (by simp) (by simp)⟩
  | .bool _, _ => .inr ⟨_, .other (by simp) (by simp) (by simp)⟩
  | .number _, _ => .inr ⟨_, .other (by simp) (by simp) (by simp)⟩

theorem isNotation_or_firstFault_of_mem :
    ∀ values : List Json, (∀ value ∈ values, value.IsCanonical) →
      ∀ value ∈ values, IsNotation value ∨ ∃ error, FirstFault value error
  | [], _ => by simp
  | value :: rest, hcanonical => by
    rw [List.forall_mem_cons] at hcanonical ⊢
    constructor
    · apply isNotation_or_firstFault value hcanonical.1
    · apply isNotation_or_firstFault_of_mem rest hcanonical.2

end

/-- A canonical value is read as a spec exactly if it has one of the forms of specs, and otherwise
the error is its first fault.  All values that are read from texts are canonical. -/
theorem reads_forms_of_specs :
  (∀ value : Json, value.IsCanonical →
      ((∃ spec, ofJson value = .ok spec) ↔ IsNotation value)
        ∧ ∀ error, ofJson value = .error error ↔ FirstFault value error)
    ∧ ∀ (text : String) (value : Json), Json.parse text = .ok value → value.IsCanonical
  := by
  refine ⟨?_, fun _ _ => Json.isCanonical_of_parse⟩
  intro value hcanonical
  have hcases := isNotation_or_firstFault value hcanonical
  refine ⟨⟨?_, ?_⟩, ?_⟩
  · rintro ⟨spec, hspec⟩
    apply isNotation_of_ofJson hcases hcanonical hspec
  · intro hvalue
    apply exists_ofJson hvalue hcanonical
  · intro error
    constructor
    · apply firstFault_of_ofJson hcases hcanonical
    · intro hfault
      apply ofJson_of_firstFault hfault hcanonical

/-- A paragraph whose second child has two attributes that are no strings, and whose third child is
an object that is not marked. -/
def faultyNotation : Json :=
  .array [.string "p", .array [.string "b", .ofInt 0],
    .array [.string "a", .object [("class", .string "x"), ("href", .bool true), ("rel", .ofInt 1)]],
    .object [("nodeType", .null)]]

theorem link_is_form_and_faulty_is_not :
  linkNotation.IsCanonical ∧ IsNotation linkNotation
    ∧ faultyNotation.IsCanonical
    ∧ FirstFault faultyNotation (.invalidAttribute "href" (.bool true))
    ∧ ¬ IsNotation faultyNotation
  := by
  have hlink : linkNotation.IsCanonical := by
    decide
  have hfaulty : faultyNotation.IsCanonical := by
    decide
  have herror : ofJson faultyNotation = .error (.invalidAttribute "href" (.bool true)) := by
    rfl
  obtain ⟨haccepts, -⟩ := reads_forms_of_specs.1 linkNotation hlink
  obtain ⟨hrefuses, herrors⟩ := reads_forms_of_specs.1 faultyNotation hfaulty
  refine ⟨hlink, haccepts.mp ⟨link, rfl⟩, hfaulty, (herrors _).mp herror, ?_⟩
  rw [← hrefuses, herror]
  simp

end RichText.OutputSpec
