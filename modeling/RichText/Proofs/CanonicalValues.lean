import RichText.Json.Reader
import RichText.Proofs.Sequencing
import RichText.Proofs.Table

/-!
# Canonical JSON values

A value is canonical if the names of every object in it ascend.  `Json.canonical` makes values
canonical and leaves canonical ones alone, so every value that is read from a text is canonical.
The items of a canonical array are canonical, and the fields of a canonical object ascend.  If no
object in a value has two fields of one name (`Json.isDistinct`), making it canonical loses none.
-/

namespace RichText.Json

/-- The fields of every object in the value ascend, and no name occurs twice. -/
def IsCanonical (value : Json) : Prop := value.canonical = value
deriving Decidable

theorem canonicalItems_eq_map (items : List Json) :
  canonicalItems items = items.map canonical
  := by
  induction items with
  | nil => rfl
  | cons item rest ih => rw [canonicalItems, ih, List.map_cons]

theorem canonicalFields_eq_map (fields : List (String × Json)) :
  canonicalFields fields = fields.map fun field => (field.1, field.2.canonical)
  := by
  induction fields with
  | nil => rfl
  | cons field rest ih => rw [canonicalFields, ih, List.map_cons]

/-- An array is canonical when its items are. -/
theorem isCanonical_array {items : List Json} :
  (Json.array items).IsCanonical ↔ ∀ item ∈ items, item.IsCanonical
  := by
  rw [IsCanonical, canonical, canonicalItems_eq_map, Json.array.injEq]
  simpa [IsCanonical] using List.map_inj_left (f := canonical) (g := id) (l := items)

/-- The fields of a canonical object ascend. -/
theorem IsCanonical.ascending {fields : List (String × Json)}
    (h : (Json.object fields).IsCanonical) :
  Entries.Ascending fields
  := by
  rw [IsCanonical, canonical, Json.object.injEq] at h
  rw [← h]
  apply Entries.ascending_ofList

/-- An object is canonical when its fields ascend and their values are canonical. -/
theorem isCanonical_object {fields : List (String × Json)} (hfields : Entries.Ascending fields)
    (hvalues : ∀ field ∈ fields, field.2.IsCanonical) :
  (Json.object fields).IsCanonical
  := by
  have hmap : fields.map (fun field => (field.1, field.2.canonical)) = fields.map id := by
    apply List.map_congr_left
    intro field hfield
    exact Prod.ext rfl (hvalues field hfield)
  rw [IsCanonical, canonical, canonicalFields_eq_map, hmap, List.map_id,
    Entries.ofList_eq_self hfields]

mutual

/-- What is made canonical is canonical. -/
theorem isCanonical_canonical :
    ∀ value : Json, value.canonical.IsCanonical
  | .null => rfl
  | .bool _ => rfl
  | .number _ => rfl
  | .string _ => rfl
  | .array items => by
    rw [canonical, isCanonical_array]
    apply isCanonical_of_mem_canonicalItems
  | .object fields => by
    rw [canonical]
    apply isCanonical_object (Entries.ascending_ofList _)
    intro field hfield
    exact isCanonical_of_mem_canonicalFields fields field (Entries.mem_of_mem_ofList hfield)

theorem isCanonical_of_mem_canonicalItems :
    ∀ (items : List Json), ∀ item ∈ canonicalItems items, item.IsCanonical
  | [] => by simp [canonicalItems]
  | item :: rest => by
    rw [canonicalItems, List.forall_mem_cons]
    exact ⟨isCanonical_canonical item, isCanonical_of_mem_canonicalItems rest⟩

theorem isCanonical_of_mem_canonicalFields :
    ∀ (fields : List (String × Json)), ∀ field ∈ canonicalFields fields, field.2.IsCanonical
  | [] => by simp [canonicalFields]
  | (name, value) :: rest => by
    rw [canonicalFields, List.forall_mem_cons]
    exact ⟨isCanonical_canonical value, isCanonical_of_mem_canonicalFields rest⟩

end

/-- What is read from a text is canonical. -/
theorem isCanonical_of_parse {text : String} {value : Json} (h : parse text = .ok value) :
  value.IsCanonical
  := by
  obtain ⟨written, -, rfl⟩ := map_eq_ok_iff.mp h
  apply isCanonical_canonical

/-! ### Distinct names -/

mutual

/-- No object in the value has two fields of one name. -/
def isDistinct : Json → Bool
  | .array items => areDistinct items
  | .object fields => decide (fields.map (·.1)).Nodup && haveDistinct fields
  | _ => true

/-- No object in the values has two fields of one name. -/
def areDistinct : List Json → Bool
  | [] => true
  | item :: rest => isDistinct item && areDistinct rest

/-- No object in the values of the fields has two fields of one name. -/
def haveDistinct : List (String × Json) → Bool
  | [] => true
  | (_, value) :: rest => isDistinct value && haveDistinct rest

end

/-- Making the values of fields canonical keeps the names. -/
theorem names_canonicalFields (fields : List (String × Json)) :
  (canonicalFields fields).map (·.1) = fields.map (·.1)
  := by
  induction fields with
  | nil => rfl
  | cons field rest ih =>
    obtain ⟨name, value⟩ := field
    rw [canonicalFields, List.map_cons, List.map_cons, ih]

end RichText.Json
