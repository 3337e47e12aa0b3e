import RichText.Chat
import RichText.Proofs.CanonicalValues
import RichText.Proofs.FieldOrder
import RichText.Proofs.Outlines

/-!
# Reading a document from its text and from its value

A document can be decoded while its text is read, or from the value of the text.  The value has its
fields sorted; the text has them in any order, with blanks in between.  If the text has a value and
no object in it has two fields of one name, both ways give the same document, or the same reason why
the types do not fit, or both find that the value is not of the shape of a document.

What a reader of texts does with an outline that has a value is compared with what a reader of
values does with that value, part by part: `toOption` forgets the errors, which may differ.
-/

namespace RichText

open Json (Outline Quotation Close Fault ReadError)

/-! ### Strings and attributes -/

@[simp]
theorem toOption_unfitOutline {α : Type} (outline : Outline) (expected : Json.Expected) :
  (unfitOutline outline expected : Except ReadError α).toOption = none
  := by
  cases outline with
  | array | object => rfl
  | _ => simp [unfitOutline, unfit]

variable {depth : Nat} {outline : Outline} {value : Json}

/-- A string is read like its value. -/
theorem toOption_readString (hread : outline.read depth = .ok value) :
  (readString outline).toOption = (stringOf value.canonical).toOption
  := by
  cases Outline.reads_of_read hread with
  | word _ word => cases word <;> rfl
  | numeral => simp [readString, Json.canonical, stringOf, unfit]
  | quotation _ htext => simp [readString, faulty, htext, Json.canonical, stringOf]
  | array | object => rfl

/-- A string, or `null` in its place, is read like its value. -/
theorem toOption_readText (hread : outline.read depth = .ok value) :
  (readText outline).toOption = (textOf value.canonical).toOption
  := by
  have hstring := toOption_readString hread
  cases Outline.reads_of_read hread with
  | word _ word => cases word <;> rfl
  | numeral | quotation => simp [readText, hstring, Json.canonical, textOf]
  | array | object => rfl

/-- Attributes are read like their value. -/
theorem toOption_readAttributes (hread : outline.read depth = .ok value) :
  (readAttributes depth outline).toOption = (attributesOf value.canonical).toOption
  := by
  cases Outline.reads_of_read hread with
  | word _ word => cases word <;> rfl
  | numeral | quotation => simp [readAttributes, Json.canonical, attributesOf, unfit]
  | array => rfl
  | object => simp [readAttributes, faulty, hread]

@[simp]
theorem passing_none :
  passing none = .ok ()
  := rfl

/-- Whether values are too many for the fields does not depend on the first of each. -/
theorem toOption_checkLength_cons (value : Json) (rest : List Json) (fields : Nat) :
  (checkLength (value :: rest) (fields + 1)).toOption = (checkLength rest fields).toOption
  := by
  simp only [checkLength, List.length_cons, Nat.add_lt_add_iff_right]
  split
  · rfl
  · rfl

/-! ### Marks -/

namespace SourceMark

/-- A field of a mark is read like its value. -/
theorem toOption_readOutlineField (hread : outline.read depth = .ok value) (draft : MarkDraft)
    (field : MarkField) :
  (readOutlineField depth draft outline field).toOption
    = (readField draft value.canonical field).toOption
  := by
  cases field with
  | typeName => simp [readOutlineField, readField, toOption_readString hread]
  | attributes => simp [readOutlineField, readField, toOption_readAttributes hread]

/-- What a reader of texts does with the first field, if it has a name. -/
theorem readOutlineFields_cons {key : Quotation} {name : String} (hkey : key.text = .ok name)
    (draft : MarkDraft) (rest : List (Quotation × Outline)) :
  readOutlineFields depth draft ((key, outline) :: rest)
    = match MarkField.ofName? name with
      | some field =>
        if draft.has field then .error (.mismatch (.duplicateField field.name))
        else readOutlineField depth draft outline field >>= (readOutlineFields depth · rest)
      | none => faulty outline.skip >>= fun _ => readOutlineFields depth draft rest
  := by
  rw [readOutlineFields, hkey]
  rfl

/-- The fields of an object are read like their values, if none of them has been read before. -/
theorem toOption_readOutlineFields {fields : List (Quotation × Outline)}
    {values : List (String × Json)} (hread : Outline.readFields depth fields = .ok values)
    (hnames : (values.map (·.1)).Nodup) {draft : MarkDraft}
    (hfree : draft.IsFree (values.map (·.1))) :
  (readOutlineFields depth draft fields).toOption
    = (readFields draft (Json.canonicalFields values)).toOption
  := by
  induction fields generalizing draft values with
  | nil =>
    obtain rfl := Except.ok.inj hread
    rfl
  | cons entry rest ih =>
    obtain ⟨key, outline⟩ := entry
    obtain ⟨name, value, others, hkey, hvalue, hothers, rfl⟩ :=
      Outline.readFields_cons_eq_ok_iff.mp hread
    obtain ⟨hnew, hnames⟩ := List.nodup_cons.mp hnames
    rw [readOutlineFields_cons hkey, Json.canonicalFields, readFields]
    cases hname : MarkField.ofName? name with
    | none =>
      have hskip := Outline.skip_of_read outline depth value hvalue
      rw [hskip]
      exact ih hothers hnames hfree.tail
    | some field =>
      have hhas := hfree field (MarkField.name_of_ofName? hname ▸ List.mem_cons_self)
      simp only [hhas, Bool.false_eq_true, if_false, toOption_bind,
        toOption_readOutlineField hvalue]
      apply Option.bind_congr
      intro draft' hdraft'
      obtain ⟨part, rfl⟩ := exists_put_of_readField (toOption_eq_some_iff.mp hdraft')
      exact ih hothers hnames (hfree.put part hnew hname)

/-- The mark of the values of an array, for the given fields. -/
def readArray (draft : MarkDraft) (fields : List MarkField) (values : List Json) :
    Except ReadError SourceMark := do
  let mark ← (← readItems draft fields values).finishArray
  checkLength values fields.length
  return mark

theorem toOption_readArray_nil (draft : MarkDraft) (fields : List MarkField) :
  (readArray draft fields []).toOption = draft.finishArray.toOption
  := by
  have hitems : readItems draft fields [] = .ok draft := by
    cases fields <;> rfl
  simp [readArray, hitems, checkLength]

theorem toOption_readArray_full (draft : MarkDraft) (value : Json) (rest : List Json) :
  (readArray draft [] (value :: rest)).toOption = none
  := by
  simp [readArray, readItems, checkLength]

theorem toOption_readArray_cons (draft : MarkDraft) (field : MarkField) (fields : List MarkField)
    (value : Json) (rest : List Json) :
  (readArray draft (field :: fields) (value :: rest)).toOption
    = (readField draft value field).toOption.bind fun draft =>
        (readArray draft fields rest).toOption
  := by
  simp [readArray, readItems, toOption_checkLength_cons]

/-- The items of an array are read like their values: there may be no more than fields. -/
theorem toOption_readOutlineItems {items : List Outline} {values : List Json}
    (hread : Outline.readItems depth items = .ok values) (draft : MarkDraft)
    (fields : List MarkField) :
  (readOutlineItems depth .closed draft fields items).toOption
    = (readArray draft fields (Json.canonicalItems values)).toOption
  := by
  induction items generalizing draft fields values with
  | nil =>
    obtain rfl := Except.ok.inj hread
    rw [Json.canonicalItems, toOption_readArray_nil]
    cases fields with
    | nil => simp [readOutlineItems, behindFields]
    | cons field fields => simp [readOutlineItems, Close.arrayFault?]
  | cons outline rest ih =>
    obtain ⟨value, others, hvalue, hothers, rfl⟩ := Outline.readItems_cons_eq_ok_iff.mp hread
    rw [Json.canonicalItems]
    cases fields with
    | nil =>
      rw [toOption_readArray_full]
      simp [readOutlineItems, behindFields, passing, faulty, Json.unlessFault]
    | cons field fields =>
      rw [toOption_readArray_cons]
      simp [readOutlineItems, toOption_readOutlineField hvalue, ih hothers]

/-- A mark is read like its value. -/
theorem toOption_ofOutline (hread : outline.read depth = .ok value)
    (hdistinct : value.isDistinct = true) :
  (ofOutline depth outline).toOption = (ofJson value.canonical).toOption
  := by
  cases Outline.reads_of_read hread with
  | word _ word => cases word <;> rfl
  | numeral | quotation => simp [ofOutline, Json.canonical, ofJson, unfit]
  | array hitems =>
    have hread := toOption_readOutlineItems hitems .empty MarkField.all
    simpa [ofOutline, descend, Json.canonical, ofJson, readArray] using hread
  | @object depth fields values hfields =>
    rw [Json.isDistinct, Bool.and_eq_true, decide_eq_true_eq] at hdistinct
    have hnames : ((Json.canonicalFields values).map (·.1)).Nodup := by
      rw [Json.names_canonicalFields]
      exact hdistinct.1
    have hread := toOption_readOutlineFields hfields hdistinct.1 (MarkDraft.isFree_empty _)
    rw [← readFields_ofList hnames] at hread
    simp [ofOutline, descend, Close.objectFault?, Json.canonical, ofJson, hread]

/-- The marks of an array are read like their values. -/
theorem toOption_mapM_ofOutline {items : List Outline} {values : List Json}
    (hread : Outline.readItems depth items = .ok values)
    (hdistinct : Json.areDistinct values = true) :
  (items.mapM (ofOutline depth)).toOption = ((Json.canonicalItems values).mapM ofJson).toOption
  := by
  induction items generalizing values with
  | nil =>
    obtain rfl := Except.ok.inj hread
    rfl
  | cons outline rest ih =>
    obtain ⟨value, others, hvalue, hothers, rfl⟩ := Outline.readItems_cons_eq_ok_iff.mp hread
    rw [Json.areDistinct, Bool.and_eq_true] at hdistinct
    have hmark := toOption_ofOutline hvalue hdistinct.1
    have hrest := ih hothers hdistinct.2
    simp [Json.canonicalItems, List.mapM_cons, hmark, hrest]

/-- A list of marks is read like its value. -/
theorem toOption_listOfOutline (hread : outline.read depth = .ok value)
    (hdistinct : value.isDistinct = true) :
  (listOfOutline depth outline).toOption = (listOf value.canonical).toOption
  := by
  cases Outline.reads_of_read hread with
  | word _ word => cases word <;> rfl
  | numeral | quotation => simp [listOfOutline, Json.canonical, listOf, unfit]
  | array hitems =>
    have hmarks := toOption_mapM_ofOutline hitems hdistinct
    simp [listOfOutline, descend, Close.arrayFault?, Json.canonical, listOf, hmarks]
  | object => rfl

end SourceMark

/-! ### Nodes -/

namespace SourceNode

/-- What a reader of texts does with the first field, if it has a name. -/
theorem readOutlineFields_cons {key : Quotation} {name : String} (hkey : key.text = .ok name)
    (draft : NodeDraft) (rest : List (Quotation × Outline)) :
  readOutlineFields depth draft ((key, outline) :: rest)
    = match NodeField.ofName? name with
      | some field =>
        if draft.has field then .error (.mismatch (.duplicateField field.name))
        else readOutlineField depth draft field outline >>= (readOutlineFields depth · rest)
      | none => faulty outline.skip >>= fun _ => readOutlineFields depth draft rest
  := by
  rw [readOutlineFields, hkey]
  rfl

/-- The node of the values of an array, for the given fields. -/
def readArray (draft : NodeDraft) (fields : List NodeField) (values : List Json) :
    Except ReadError SourceNode := do
  let node ← (← readItems draft fields values).finishArray
  checkLength values fields.length
  return node

theorem toOption_readArray_nil (draft : NodeDraft) (fields : List NodeField) :
  (readArray draft fields []).toOption = draft.finishArray.toOption
  := by
  simp [readArray, readItems, checkLength]

theorem toOption_readArray_full (draft : NodeDraft) (value : Json) (rest : List Json) :
  (readArray draft [] (value :: rest)).toOption = none
  := by
  simp [readArray, readItems, checkLength]

theorem toOption_readArray_cons (draft : NodeDraft) (field : NodeField) (fields : List NodeField)
    (value : Json) (rest : List Json) :
  (readArray draft (field :: fields) (value :: rest)).toOption
    = (readField draft field value).toOption.bind fun draft =>
        (readArray draft fields rest).toOption
  := by
  simp [readArray, readItems, toOption_checkLength_cons]

/-- A field that is no array is read like its value. -/
theorem toOption_readOutlineField_flat (hread : outline.read depth = .ok value)
    (hflat : ∀ items close, outline ≠ .array items close) (draft : NodeDraft)
    (field : NodeField) :
  (readOutlineField depth draft field outline).toOption
    = (readField draft field value.canonical).toOption
  := by
  have hstring := toOption_readString hread
  have hattributes := toOption_readAttributes hread
  have htext := toOption_readText hread
  cases Outline.reads_of_read hread with
  | array => exact absurd rfl (hflat _ _)
  | word _ word =>
    cases field with
    | content | marks => cases word <;> rfl
    | typeName | attributes | text =>
      cases word <;>
        simp_all [readOutlineField, readField, Json.wordValue, Json.canonical]
  | numeral | quotation | object =>
    cases field with
    | content | marks =>
      simp [readOutlineField, readField, unfit, Json.canonical]
    | typeName | attributes | text =>
      simp_all [readOutlineField, readField, Json.canonical]

mutual

/-- A node is read like its value. -/
theorem toOption_ofOutline :
    ∀ (outline : Outline) (depth : Nat) (value : Json), outline.read depth = .ok value →
      value.isDistinct = true →
        (ofOutline depth outline).toOption = (ofJson value.canonical).toOption
  | .array items close, depth, value, hread, hdistinct => by
    obtain _ | _ | _ | hitems := Outline.reads_of_read hread
    have hnode := toOption_readOutlineItems items _ _ hitems hdistinct .empty NodeField.all
    simpa [ofOutline, descend, Json.canonical, ofJson, readArray] using hnode
  | .object fields close, depth, value, hread, hdistinct => by
    obtain _ | _ | _ | _ | @⟨depth, _, values, hfields⟩ := Outline.reads_of_read hread
    rw [Json.isDistinct, Bool.and_eq_true, decide_eq_true_eq] at hdistinct
    have hnames : ((Json.canonicalFields values).map (·.1)).Nodup := by
      rw [Json.names_canonicalFields]
      exact hdistinct.1
    have hdraft := toOption_readOutlineFields fields _ _ hfields hdistinct.1 hdistinct.2 .empty
      (NodeDraft.isFree_empty _)
    rw [← readFields_ofList hnames] at hdraft
    simp [ofOutline, descend, Close.objectFault?, Json.canonical, ofJson, hdraft]
  | .missing, _, _, hread, _ => nomatch Outline.reads_of_read hread
  | .stray, _, _, hread, _ => nomatch Outline.reads_of_read hread
  | .noColon _, _, _, hread, _ => nomatch Outline.reads_of_read hread
  | .word word _, _, _, hread, _ => by
    cases Outline.reads_of_read hread
    cases word <;> rfl
  | .numeral _, _, _, hread, _ => by
    cases Outline.reads_of_read hread
    simp [ofOutline, Json.canonical, ofJson, unfit]
  | .quotation _, _, _, hread, _ => by
    cases Outline.reads_of_read hread
    simp [ofOutline, Json.canonical, ofJson, unfit]

/-- The fields of an object are read like their values, if none of them has been read before. -/
theorem toOption_readOutlineFields :
    ∀ (fields : List (Quotation × Outline)) (depth : Nat) (values : List (String × Json)),
      Outline.readFields depth fields = .ok values → (values.map (·.1)).Nodup →
        Json.haveDistinct values = true → ∀ draft : NodeDraft, draft.IsFree (values.map (·.1)) →
          (readOutlineFields depth draft fields).toOption
            = (readFields draft (Json.canonicalFields values)).toOption
  | [], _, _, hread, _, _, _, _ => by
    obtain rfl := Except.ok.inj hread
    rfl
  | (key, outline) :: rest, depth, _, hread, hnames, hdistinct, draft, hfree => by
    obtain ⟨name, value, others, hkey, hvalue, hothers, rfl⟩ :=
      Outline.readFields_cons_eq_ok_iff.mp hread
    obtain ⟨hnew, hnames⟩ := List.nodup_cons.mp hnames
    rw [Json.haveDistinct, Bool.and_eq_true] at hdistinct
    rw [readOutlineFields_cons hkey, Json.canonicalFields, readFields]
    cases hname : NodeField.ofName? name with
    | none =>
      have hskip := Outline.skip_of_read outline depth value hvalue
      rw [hskip]
      exact toOption_readOutlineFields rest depth others hothers hnames hdistinct.2 draft
        hfree.tail
    | some field =>
      have hhas := hfree field (NodeField.name_of_ofName? hname ▸ List.mem_cons_self)
      simp only [hhas, Bool.false_eq_true, if_false, toOption_bind,
        toOption_readOutlineField outline depth value hvalue hdistinct.1]
      apply Option.bind_congr
      intro draft' hdraft'
      obtain ⟨part, rfl⟩ := exists_put_of_readField (toOption_eq_some_iff.mp hdraft')
      exact toOption_readOutlineFields rest depth others hothers hnames hdistinct.2 _
        (hfree.put part hnew hname)

/-- The items of an array are read like their values: there may be no more than fields. -/
theorem toOption_readOutlineItems :
    ∀ (items : List Outline) (depth : Nat) (values : List Json),
      Outline.readItems depth items = .ok values → Json.areDistinct values = true →
        ∀ (draft : NodeDraft) (fields : List NodeField),
          (readOutlineItems depth .closed draft fields items).toOption
            = (readArray draft fields (Json.canonicalItems values)).toOption
  | [], _, _, hread, _, draft, fields => by
    obtain rfl := Except.ok.inj hread
    rw [Json.canonicalItems, toOption_readArray_nil]
    cases fields with
    | nil => simp [readOutlineItems, behindFields]
    | cons field fields => simp [readOutlineItems, Close.arrayFault?]
  | outline :: rest, depth, _, hread, hdistinct, draft, fields => by
    obtain ⟨value, others, hvalue, hothers, rfl⟩ := Outline.readItems_cons_eq_ok_iff.mp hread
    rw [Json.areDistinct, Bool.and_eq_true] at hdistinct
    rw [Json.canonicalItems]
    cases fields with
    | nil =>
      rw [toOption_readArray_full]
      simp [readOutlineItems, behindFields, passing, faulty, Json.unlessFault]
    | cons field fields =>
      rw [toOption_readArray_cons]
      simp [readOutlineItems, toOption_readOutlineField outline depth value hvalue hdistinct.1,
        toOption_readOutlineItems rest depth others hothers hdistinct.2]

/-- A field of a node is read like its value. -/
theorem toOption_readOutlineField :
    ∀ (outline : Outline) (depth : Nat) (value : Json), outline.read depth = .ok value →
      value.isDistinct = true → ∀ (draft : NodeDraft) (field : NodeField),
        (readOutlineField depth draft field outline).toOption
          = (readField draft field value.canonical).toOption
  | .array items close, depth, value, hread, hdistinct, draft, field => by
    have hmarks := SourceMark.toOption_listOfOutline hread hdistinct
    obtain _ | _ | _ | @⟨depth, _, values, hitems⟩ := Outline.reads_of_read hread
    rw [Json.canonical] at hmarks ⊢
    cases field with
    | typeName | attributes | text => rfl
    | marks => simp [readOutlineField, readField, hmarks]
    | content =>
      have hcontent := toOption_ofOutlineItems items depth values hitems hdistinct
      cases hnodes : (ofItems (Json.canonicalItems values)).toOption with
      | none => simp [readOutlineField, readField, descend, hcontent, hnodes]
      | some nodes =>
        simp [readOutlineField, readField, descend, Close.arrayFault?, hcontent, hnodes]
  | .object _ _, _, _, hread, _, draft, field
  | .missing, _, _, hread, _, draft, field
  | .stray, _, _, hread, _, draft, field
  | .noColon _, _, _, hread, _, draft, field
  | .word _ _, _, _, hread, _, draft, field
  | .numeral _, _, _, hread, _, draft, field
  | .quotation _, _, _, hread, _, draft, field =>
    toOption_readOutlineField_flat hread (by simp) draft field

/-- The nodes of an array are read like their values. -/
theorem toOption_ofOutlineItems :
    ∀ (items : List Outline) (depth : Nat) (values : List Json),
      Outline.readItems depth items = .ok values → Json.areDistinct values = true →
        (ofOutlineItems depth items).toOption = (ofItems (Json.canonicalItems values)).toOption
  | [], _, _, hread, _ => by
    obtain rfl := Except.ok.inj hread
    rfl
  | outline :: rest, depth, _, hread, hdistinct => by
    obtain ⟨value, others, hvalue, hothers, rfl⟩ := Outline.readItems_cons_eq_ok_iff.mp hread
    rw [Json.areDistinct, Bool.and_eq_true] at hdistinct
    simp [ofOutlineItems, Json.canonicalItems, ofItems,
      toOption_ofOutline outline depth value hvalue hdistinct.1,
      toOption_ofOutlineItems rest depth others hothers hdistinct.2]

end

/-- A document is read from a text as from the value of the text, if no object in the text has two
fields of one name. -/
theorem toOption_ofText {text : String} {written : Json}
    (hread : Json.readWithin Json.depthLimit text = .ok written)
    (hdistinct : written.isDistinct = true) :
  (ofText text).toOption = (ofJson written.canonical).toOption
  := by
  obtain ⟨hvalue, htrailing⟩ := Json.readWithin_eq_ok_iff.mp hread
  rw [ofText, ← toOption_ofOutline _ _ _ hvalue hdistinct]
  simp [htrailing]

end SourceNode

/-! ### Documents -/

namespace Schema

/-- If a text has a value and no object in the text has two fields of one name, the document of the
text and that of the value are the same, or both are missing for the same reason, or neither text
nor value is of the shape of a document. -/
theorem documentOfText_agrees {text : String} {written value : Json}
    (hparse : Json.parse text = .ok value)
    (hwritten : Json.readWithin Json.depthLimit text = .ok written)
    (hdistinct : written.isDistinct = true) (schema : Schema) :
  (∃ document, schema.documentOfText text = .ok document
      ∧ schema.documentOfJson value = .ok document)
    ∨ (∃ error, (∀ fault, error ≠ .unreadable fault)
      ∧ schema.documentOfText text = .error error ∧ schema.documentOfJson value = .error error)
    ∨ ∃ fault fault', schema.documentOfText text = .error (.unreadable fault)
      ∧ schema.documentOfJson value = .error (.unreadable fault')
  := by
  have hvalue : value = written.canonical := by
    rw [Json.parse, Json.parseWithin, hwritten] at hparse
    exact (Except.ok.inj hparse).symm
  have hread := SourceNode.toOption_ofText hwritten hdistinct
  rw [← hvalue] at hread
  rw [documentOfText, documentOfJson]
  cases hjson : SourceNode.ofJson value with
  | ok source =>
    rw [hjson] at hread
    rw [toOption_eq_some_iff.mp hread, document]
    cases hresolve : schema.resolve source with
    | ok node => exact .inl ⟨node, rfl, rfl⟩
    | error error =>
      cases error with
      | unreadable fault => exact .inr (.inr ⟨fault, fault, rfl, rfl⟩)
      | _ => exact .inr (.inl ⟨_, by simp, rfl, rfl⟩)
  | error fault' =>
    rw [hjson] at hread
    cases htext : SourceNode.ofText text with
    | ok source => simp [htext] at hread
    | error fault => exact .inr (.inr ⟨fault, fault', rfl, rfl⟩)

/-- A document whose content is written in arrays, with a field that nobody knows and the type at
the end. -/
def arrayText : String :=
  " \x7b\"x\": [], \"content\": [[\"text\", \x7b\x7d, [], [[\"em\"]], \"hi\"]],\"type\":\"doc\"\x7d"

/-- The value of `arrayText`, with its fields as they are written. -/
def arrayWritten : Json :=
  .object [("x", .array []),
    ("content", .array [.array [.string "text", .object [], .array [],
      .array [.array [.string "em"]], .string "hi"]]),
    ("type", .string "doc")]

theorem readWithin_arrayText :
  Json.readWithin Json.depthLimit arrayText = .ok arrayWritten
  := by
  rw [Json.readWithin_eq_ok_iff, Outline.ofText_eq, arrayText]
  simp [Outline.skipBlanks, Outline.isBlank, List.dropWhile, Outline.scanQuotation, Quotation.scan,
    Outline.fieldsBehindName, Quotation.cons, Outline.fieldsBehind]
  rfl

theorem documentOfText_arrayText :
  Json.parse arrayText = .ok arrayWritten.canonical
    ∧ Json.readWithin Json.depthLimit arrayText = .ok arrayWritten
    ∧ arrayWritten.isDistinct = true
    ∧ ∃ document, Chat.schema.documentOfText arrayText = .ok document
      ∧ Chat.schema.documentOfJson arrayWritten.canonical = .ok document
  := by
  have hwritten := readWithin_arrayText
  have hparse : Json.parse arrayText = .ok arrayWritten.canonical := by
    rw [Json.parse, Json.parseWithin, hwritten]
    rfl
  have hdistinct : arrayWritten.isDistinct = true := by
    decide
  have hvalue : ∃ document, Chat.schema.documentOfJson arrayWritten.canonical = .ok document :=
    ⟨_, rfl⟩
  refine ⟨hparse, hwritten, hdistinct, ?_⟩
  obtain ⟨document, hdocument⟩ := hvalue
  obtain hsame | ⟨error, _, _, herror⟩ | ⟨_, fault, _, herror⟩ :=
    documentOfText_agrees hparse hwritten hdistinct Chat.schema
  · exact hsame
  · simp [hdocument] at herror
  · simp [hdocument] at herror

end Schema

end RichText
