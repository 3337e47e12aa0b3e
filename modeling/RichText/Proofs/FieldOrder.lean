import RichText.Document.Source
import RichText.Proofs.Sequencing
import RichText.Proofs.Table

/-!
# The order of fields

A field of a node or a mark is read for itself: what is read goes to its own place in the draft
(`NodeDraft.put`, `MarkDraft.put`), whatever the draft has already.  Fields in different places can
be exchanged.  So if no name occurs twice, the fields of a value may stand in any order.
-/

namespace RichText

open Json (ReadError)

/-! ### Entries of objects -/

section

variable {δ φ : Type} {ofName? : String → Option φ} {nameOf : φ → String}
  {readField : δ → φ → Json → Except ReadError δ}

/-- The draft with an entry of an object, if its name is that of a field. -/
def readEntry (ofName? : String → Option φ) (readField : δ → φ → Json → Except ReadError δ)
    (draft : δ) (entry : String × Json) : Except ReadError δ :=
  match ofName? entry.1 with
  | some field => readField draft field entry.2
  | none => .ok draft

/-- Whoever reads the first entry and then the rest reads one entry after the other. -/
theorem eq_foldlM_readEntry {readFields : δ → List (String × Json) → Except ReadError δ}
    (hnil : ∀ draft, readFields draft [] = .ok draft)
    (hcons : ∀ draft entry rest, readFields draft (entry :: rest)
      = readEntry ofName? readField draft entry >>= (readFields · rest))
    (draft : δ) (entries : List (String × Json)) :
  readFields draft entries = entries.foldlM (readEntry ofName? readField) draft
  := by
  induction entries generalizing draft with
  | nil => exact hnil draft
  | cons entry rest ih => simp only [hcons, List.foldlM_cons, ih]

/-- Entries of different names may be read in any order, if what is read of a field goes to a place
of its own. -/
theorem readEntry_of_perm {put : δ → φ → δ → δ} {blank : δ}
    (hname : ∀ {name field}, ofName? name = some field → nameOf field = name)
    (hread : ∀ draft field value,
      readField draft field value = (readField blank field value).map (put draft field))
    (hput : ∀ draft part part' {field field'}, field ≠ field' →
      put (put draft field part) field' part' = put (put draft field' part') field part)
    {entries entries' : List (String × Json)} (hperm : entries.Perm entries')
    (hnames : (entries.map (·.1)).Nodup) (draft : δ) :
  (entries.foldlM (readEntry ofName? readField) draft).toOption
    = (entries'.foldlM (readEntry ofName? readField) draft).toOption
  := by
  apply toOption_foldlM_of_perm hperm
  intro entry hentry entry' hentry' draft
  by_cases hsame : entry.1 = entry'.1
  · rw [List.inj_on_of_nodup_map hnames hentry hentry' hsame]
  · cases hfield : ofName? entry.1 with
    | none => simp [readEntry, hfield]
    | some field =>
      cases hfield' : ofName? entry'.1 with
      | none => simp [readEntry, hfield, hfield']
      | some field' =>
        have hne : field ≠ field' := by
          rintro rfl
          exact hsame ((hname hfield).symm.trans (hname hfield'))
        simp only [readEntry, hfield, hfield']
        apply toOption_bind_comm (hread · field entry.2) (hread · field' entry'.2)
        intro part part' draft
        exact hput draft part part' hne

/-- Fields of other names than that of a field are still missing when the field is there. -/
theorem forall_has_eq_false {has has' : φ → Bool} {field : φ} {name : String} {names : List String}
    (hmissing : ∀ other, nameOf other ∈ name :: names → has other = false)
    (hothers : ∀ {other}, other ≠ field → has' other = has other) (hname : nameOf field = name)
    (hnew : name ∉ names) :
  ∀ other, nameOf other ∈ names → has' other = false
  := by
  intro other hmem
  have hne : other ≠ field := by
    rintro rfl
    exact hnew (hname ▸ hmem)
  rw [hothers hne, hmissing other (List.mem_cons_of_mem _ hmem)]

end

/-! ### Marks -/

/-- A field is found under its own name only. -/
theorem MarkField.name_of_ofName? {name : String} {field : MarkField}
    (h : ofName? name = some field) :
  field.name = name
  := by
  simpa using List.find?_some h

namespace MarkDraft

variable (draft part part' : MarkDraft) {field field' : MarkField}

/-- The draft with a field as it is in `part`. -/
def put (draft : MarkDraft) (field : MarkField) (part : MarkDraft) : MarkDraft :=
  match field with
  | .typeName => { draft with typeName := part.typeName }
  | .attributes => { draft with attributes := part.attributes }

/-- Different fields have different places. -/
theorem put_comm (h : field ≠ field') :
  (draft.put field part).put field' part' = (draft.put field' part').put field part
  := by
  cases field <;> cases field' <;> first | rfl | exact absurd rfl h

theorem has_put (h : field' ≠ field) :
  (draft.put field part).has field' = draft.has field'
  := by
  cases field <;> cases field' <;> first | rfl | exact absurd rfl h

/-- None of the fields with these names has been read. -/
def IsFree (draft : MarkDraft) (names : List String) : Prop :=
  ∀ field : MarkField, field.name ∈ names → draft.has field = false

variable {draft}

theorem isFree_empty (names : List String) :
  empty.IsFree names
  := by
  rintro (_ | _) _ <;> rfl

theorem IsFree.tail {name : String} {names : List String} (h : draft.IsFree (name :: names)) :
  draft.IsFree names
  := by
  intro field hmem
  exact h field (List.mem_cons_of_mem _ hmem)

/-- When the field of the first name is put, those of the other names are still free. -/
theorem IsFree.put {name : String} {names : List String} (h : draft.IsFree (name :: names))
    (hnew : name ∉ names) (hname : MarkField.ofName? name = some field) :
  (draft.put field part).IsFree names
  := forall_has_eq_false h (has_put draft part) (MarkField.name_of_ofName? hname) hnew

end MarkDraft

namespace SourceMark

/-- What is read of a field goes to its place. -/
theorem readField_eq (draft : MarkDraft) (value : Json) (field : MarkField) :
  readField draft value field = (readField .empty value field).map (draft.put field)
  := by
  cases field with
  | typeName =>
    rw [readField, readField]
    cases stringOf value <;> rfl
  | attributes =>
    rw [readField, readField]
    cases attributesOf value <;> rfl

theorem exists_put_of_readField {draft draft' : MarkDraft} {field : MarkField} {value : Json}
    (h : readField draft value field = .ok draft') :
  ∃ part, draft' = draft.put field part
  := by
  rw [readField_eq, map_eq_ok_iff] at h
  obtain ⟨part, -, rfl⟩ := h
  use part

theorem readFields_eq_foldlM (draft : MarkDraft) (entries : List (String × Json)) :
  readFields draft entries = entries.foldlM
    (readEntry MarkField.ofName? fun draft field value => readField draft value field) draft
  := by
  apply eq_foldlM_readEntry
  · exact fun _ => rfl
  · intro draft entry rest
    rw [readFields, readEntry]
    cases MarkField.ofName? entry.1 with
    | none => rfl
    | some field => rfl

/-- The fields of a mark may stand in any order. -/
theorem readFields_of_perm {entries entries' : List (String × Json)}
    (hperm : entries.Perm entries') (hnames : (entries.map (·.1)).Nodup) (draft : MarkDraft) :
  (readFields draft entries).toOption = (readFields draft entries').toOption
  := by
  rw [readFields_eq_foldlM, readFields_eq_foldlM]
  exact readEntry_of_perm MarkField.name_of_ofName?
    (fun draft field value => readField_eq draft value field) MarkDraft.put_comm hperm hnames draft

/-- Sorting the fields changes nothing, if their names are different. -/
theorem readFields_ofList {entries : List (String × Json)} (hnames : (entries.map (·.1)).Nodup)
    (draft : MarkDraft) :
  (readFields draft (Entries.ofList entries)).toOption = (readFields draft entries).toOption
  := by
  symm
  exact readFields_of_perm (Entries.perm_ofList hnames).symm hnames draft

end SourceMark

/-! ### Nodes -/

/-- A field is found under its own name only. -/
theorem NodeField.name_of_ofName? {name : String} {field : NodeField}
    (h : ofName? name = some field) :
  field.name = name
  := by
  simpa using List.find?_some h

namespace NodeDraft

variable (draft part part' : NodeDraft) {field field' : NodeField}

/-- The draft with a field as it is in `part`. -/
def put (draft : NodeDraft) (field : NodeField) (part : NodeDraft) : NodeDraft :=
  match field with
  | .typeName => { draft with typeName := part.typeName }
  | .attributes => { draft with attributes := part.attributes }
  | .content => { draft with content := part.content }
  | .marks => { draft with marks := part.marks }
  | .text => { draft with text := part.text }

/-- Different fields have different places. -/
theorem put_comm (h : field ≠ field') :
  (draft.put field part).put field' part' = (draft.put field' part').put field part
  := by
  cases field <;> cases field' <;> first | rfl | exact absurd rfl h

theorem has_put (h : field' ≠ field) :
  (draft.put field part).has field' = draft.has field'
  := by
  cases field <;> cases field' <;> first | rfl | exact absurd rfl h

/-- None of the fields with these names has been read. -/
def IsFree (draft : NodeDraft) (names : List String) : Prop :=
  ∀ field : NodeField, field.name ∈ names → draft.has field = false

variable {draft}

theorem isFree_empty (names : List String) :
  empty.IsFree names
  := by
  rintro (_ | _ | _ | _ | _) _ <;> rfl

theorem IsFree.tail {name : String} {names : List String} (h : draft.IsFree (name :: names)) :
  draft.IsFree names
  := by
  intro field hmem
  exact h field (List.mem_cons_of_mem _ hmem)

/-- When the field of the first name is put, those of the other names are still free. -/
theorem IsFree.put {name : String} {names : List String} (h : draft.IsFree (name :: names))
    (hnew : name ∉ names) (hname : NodeField.ofName? name = some field) :
  (draft.put field part).IsFree names
  := forall_has_eq_false h (has_put draft part) (NodeField.name_of_ofName? hname) hnew

end NodeDraft

namespace SourceNode

/-- What is read of a field goes to its place. -/
theorem readField_eq (draft : NodeDraft) (field : NodeField) (value : Json) :
  readField draft field value = (readField .empty field value).map (draft.put field)
  := by
  cases value with
  | array items =>
    cases field with
    | content =>
      rw [readField, readField]
      cases ofItems items <;> rfl
    | marks =>
      rw [readField, readField]
      cases SourceMark.listOf (.array items) <;> rfl
    | typeName | attributes | text => rfl
  | null | bool | number | string | object => cases field <;> rfl

theorem exists_put_of_readField {draft draft' : NodeDraft} {field : NodeField} {value : Json}
    (h : readField draft field value = .ok draft') :
  ∃ part, draft' = draft.put field part
  := by
  rw [readField_eq, map_eq_ok_iff] at h
  obtain ⟨part, -, rfl⟩ := h
  use part

theorem readFields_eq_foldlM (draft : NodeDraft) (entries : List (String × Json)) :
  readFields draft entries = entries.foldlM (readEntry NodeField.ofName? readField) draft
  := by
  apply eq_foldlM_readEntry
  · exact fun _ => rfl
  · intro draft entry rest
    rw [readFields, readEntry]
    cases NodeField.ofName? entry.1 with
    | none => rfl
    | some field => rfl

/-- The fields of a node may stand in any order. -/
theorem readFields_of_perm {entries entries' : List (String × Json)}
    (hperm : entries.Perm entries') (hnames : (entries.map (·.1)).Nodup) (draft : NodeDraft) :
  (readFields draft entries).toOption = (readFields draft entries').toOption
  := by
  rw [readFields_eq_foldlM, readFields_eq_foldlM]
  exact readEntry_of_perm NodeField.name_of_ofName? readField_eq NodeDraft.put_comm hperm hnames
    draft

/-- Sorting the fields changes nothing, if their names are different. -/
theorem readFields_ofList {entries : List (String × Json)} (hnames : (entries.map (·.1)).Nodup)
    (draft : NodeDraft) :
  (readFields draft (Entries.ofList entries)).toOption = (readFields draft entries).toOption
  := by
  symm
  exact readFields_of_perm (Entries.perm_ofList hnames).symm hnames draft

end SourceNode

end RichText
