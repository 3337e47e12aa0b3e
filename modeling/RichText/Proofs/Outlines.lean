import RichText.Json.Reader
import RichText.Proofs.Sequencing

/-!
# Outlines and their values

The functions that make an outline carry along that what is left of a text gets shorter.  Without
that, `Outline.valueOf`, `Outline.itemsOf` and `Outline.fieldsOf` give what they find in front of a
text and what is left behind it, and meet equations by which the outline of a text is worked out
from its first character on.

`Outline.Reads` tells what an outline with a value is like.  Whoever passes over it minds less than
whoever reads it, so an outline with a value can be skipped.
-/

namespace RichText.Json

/-! ### Making outlines -/

namespace Outline

/-- The outline of the value in front of a text, and what is left behind it. -/
def valueOf (cs : List Char) : Outline × Option (List Char) :=
  ((ofValue cs).1, (ofValue cs).2.map (·.1))

/-- The items of an array from where one is due, how they end, and what is left behind them. -/
def itemsOf (cs : List Char) (atFront : Bool) : List Outline × Close × Option (List Char) :=
  ((ofItems cs atFront).1, (ofItems cs atFront).2.1, (ofItems cs atFront).2.2.map (·.1))

/-- The fields of an object from where a name is due, how they end, and what is left behind
them. -/
def fieldsOf (cs : List Char) (atFront : Bool) :
    List (Quotation × Outline) × Close × Option (List Char) :=
  ((ofFields cs atFront).1, (ofFields cs atFront).2.1, (ofFields cs atFront).2.2.map (·.1))

theorem map_weaken {cs cs' : List Char} (h : cs'.length ≤ cs.length) (rest : Rest cs') :
  (rest.weaken h).map (·.1) = rest.map (·.1)
  := by
  cases rest <;> rfl

/-- The outline of a text is that of the value behind its first blanks. -/
theorem ofText_eq (text : String) :
  ofText text = ((valueOf (skipBlanks text.toList)).1,
    (valueOf (skipBlanks text.toList)).2.any fun rest => !(skipBlanks rest).isEmpty)
  := by
  rw [ofText, valueOf]
  obtain ⟨outline, _ | rest⟩ := ofValue (skipBlanks text.toList)
  · rfl
  · rfl

@[simp]
theorem valueOf_quotation (cs : List Char) :
  valueOf ('\"' :: cs)
    = (.quotation (Quotation.scan cs).1,
      if (Quotation.scan cs).1.stop = .closed then some (Quotation.scan cs).2 else none)
  := by
  rw [valueOf, ofValue]
  simp only [scanQuotation, behind]
  split
  · rfl
  · rfl

@[simp]
theorem valueOf_array (cs : List Char) :
  valueOf ('[' :: cs)
    = (.array (itemsOf (skipBlanks cs) true).1 (itemsOf (skipBlanks cs) true).2.1,
      (itemsOf (skipBlanks cs) true).2.2)
  := by
  rw [valueOf, ofValue, itemsOf]
  simp only [map_weaken]

@[simp]
theorem valueOf_object (cs : List Char) :
  valueOf ('{' :: cs)
    = (.object (fieldsOf (skipBlanks cs) true).1 (fieldsOf (skipBlanks cs) true).2.1,
      (fieldsOf (skipBlanks cs) true).2.2)
  := by
  rw [valueOf, ofValue, fieldsOf]
  simp only [map_weaken]

@[simp]
theorem itemsOf_bracket (cs : List Char) :
  itemsOf (']' :: cs) true = ([], .closed, some cs)
  := by
  rw [itemsOf, ofItems.eq_def]
  rfl

/-- The items from an item on: behind it and the blanks there stands the end of the array, or a
comma and further items. -/
@[simp]
theorem itemsOf_cons {c : Char} (cs : List Char) (hc : c ≠ ']') (atFront : Bool) :
  itemsOf (c :: cs) atFront
    = match valueOf (c :: cs) with
      | (item, none) => ([item], .broken, none)
      | (item, some rest) =>
        match skipBlanks rest with
        | [] => ([item], .cutOff, none)
        | ']' :: rest => ([item], .closed, some rest)
        | ',' :: rest =>
          (item :: (itemsOf (skipBlanks rest) false).1, (itemsOf (skipBlanks rest) false).2)
        | _ => ([item], .separatorExpected, none)
  := by
  rw [itemsOf, ofItems.eq_def, valueOf]
  simp only [if_neg hc]
  obtain ⟨item, _ | ⟨rest, hrest⟩⟩ := ofValue (c :: cs)
  · rfl
  · simp only [Option.map_some]
    split
    · rename_i hblank
      simp only [hblank, Option.map_none]
    · rename_i behind hblank
      simp only [hblank, Option.map_some]
    · rename_i behind hblank
      simp only [hblank, map_weaken, itemsOf]
    · simp only [Option.map_none]

/-- The fields from a field on whose value is behind us. -/
def fieldsBehind (field : Quotation × Outline) (cs : List Char) :
    List (Quotation × Outline) × Close × Option (List Char) :=
  match skipBlanks cs with
  | [] => ([field], .cutOff, none)
  | '}' :: rest => ([field], .closed, some rest)
  | ',' :: rest =>
    (field :: (fieldsOf (skipBlanks rest) false).1, (fieldsOf (skipBlanks rest) false).2)
  | _ => ([field], .separatorExpected, none)

/-- The fields from a field on whose name is behind us. -/
def fieldsBehindName (key : Quotation) (cs : List Char) :
    List (Quotation × Outline) × Close × Option (List Char) :=
  match skipBlanks cs with
  | [] => ([(key, .noColon true)], .broken, none)
  | ':' :: rest =>
    match valueOf (skipBlanks rest) with
    | (value, none) => ([(key, value)], .broken, none)
    | (value, some rest) => fieldsBehind (key, value) rest
  | _ => ([(key, .noColon false)], .broken, none)

@[simp]
theorem fieldsOf_brace (cs : List Char) :
  fieldsOf ('}' :: cs) true = ([], .closed, some cs)
  := by
  rw [fieldsOf, ofFields.eq_def]
  rfl

/-- The fields from a name on. -/
@[simp]
theorem fieldsOf_quotation (cs : List Char) (atFront : Bool) :
  fieldsOf ('\"' :: cs) atFront
    = match scanQuotation cs with
      | (key, none) => ([(key, .missing)], .broken, none)
      | (key, some rest) => fieldsBehindName key rest
  := by
  have hbrace : '\"' ≠ '}' := by
    decide
  rw [fieldsOf, ofFields.eq_def]
  simp only [if_neg hbrace, if_true]
  obtain ⟨key, _ | ⟨rest, hrest⟩⟩ := scanQuotation cs
  · rfl
  · simp only [fieldsBehindName]
    split
    · rename_i hblank
      simp only [hblank, Option.map_none]
    · rename_i behindColon hblank
      simp only [hblank, valueOf]
      obtain ⟨value, _ | ⟨rest, hrest⟩⟩ := ofValue (skipBlanks behindColon)
      · rfl
      · simp only [Option.map_some, fieldsBehind]
        split
        · rename_i hblank
          simp only [hblank, Option.map_none]
        · rename_i behind hblank
          simp only [hblank, Option.map_some]
        · rename_i behind hblank
          simp only [hblank, map_weaken, fieldsOf]
        · simp only [Option.map_none]
    · simp only [Option.map_none]

end Outline

/-! ### What outlines are read as -/

theorem unlessFault_eq_ok_iff {α : Type} {fault : Option Fault} {x a : α} :
  unlessFault fault x = .ok a ↔ fault = none ∧ x = a
  := by
  cases fault with
  | none => simp [unlessFault]
  | some fault => simp [unlessFault]

theorem Close.eq_closed_of_arrayFault? {close : Close} (h : close.arrayFault? = none) :
  close = .closed
  := by
  cases close with
  | closed => rfl
  | _ => simp [arrayFault?] at h

theorem Close.eq_closed_of_objectFault? {close : Close} (h : close.objectFault? = none) :
  close = .closed
  := by
  cases close with
  | closed => rfl
  | _ => simp [objectFault?] at h

/-- What an outline must be like to have a value. -/
inductive Outline.Reads : Nat → Outline → Json → Prop where
  | word (depth : Nat) (value : Option Bool) : Reads depth (.word value none) (wordValue value)
  | numeral (depth : Nat) {n : Numeral} {number : Number} (hvalue : n.value = .ok number) :
    Reads depth (.numeral (.ok n)) (.number number)
  | quotation (depth : Nat) {q : Quotation} {s : String} (htext : q.text = .ok s) :
    Reads depth (.quotation q) (.string s)
  | array {depth : Nat} {items : List Outline} {values : List Json}
    (hitems : Outline.readItems depth items = .ok values) :
    Reads (depth + 1) (.array items .closed) (.array values)
  | object {depth : Nat} {fields : List (Quotation × Outline)} {values : List (String × Json)}
    (hfields : Outline.readFields depth fields = .ok values) :
    Reads (depth + 1) (.object fields .closed) (.object values)

/-- An outline with a value is read like that. -/
theorem Outline.reads_of_read {depth : Nat} {outline : Outline} {value : Json}
    (h : outline.read depth = .ok value) :
  Reads depth outline value
  := by
  cases outline with
  | missing | stray | noColon => simp [read] at h
  | word word fault =>
    rw [read, unlessFault_eq_ok_iff] at h
    obtain ⟨rfl, rfl⟩ := h
    exact .word depth word
  | numeral spelling =>
    cases spelling with
    | error fault => simp [read] at h
    | ok n =>
      rw [read, map_eq_ok_iff] at h
      obtain ⟨number, hnumber, rfl⟩ := h
      exact .numeral depth hnumber
  | quotation q =>
    rw [read, map_eq_ok_iff] at h
    obtain ⟨s, hs, rfl⟩ := h
    exact .quotation depth hs
  | array items close =>
    cases depth with
    | zero => simp [read] at h
    | succ depth =>
      simp only [read, bind_eq_ok_iff, unlessFault_eq_ok_iff] at h
      obtain ⟨values, hvalues, hclose, rfl⟩ := h
      obtain rfl := Close.eq_closed_of_arrayFault? hclose
      exact .array hvalues
  | object fields close =>
    cases depth with
    | zero => simp [read] at h
    | succ depth =>
      simp only [read, bind_eq_ok_iff, unlessFault_eq_ok_iff] at h
      obtain ⟨values, hvalues, hclose, rfl⟩ := h
      obtain rfl := Close.eq_closed_of_objectFault? hclose
      exact .object hvalues

theorem Outline.readItems_cons_eq_ok_iff {depth : Nat} {outline : Outline} {rest : List Outline}
    {values : List Json} :
  readItems depth (outline :: rest) = .ok values
    ↔ ∃ value others, outline.read depth = .ok value ∧ readItems depth rest = .ok others
      ∧ values = value :: others
  := by
  simp only [readItems, bind_eq_ok_iff, pure_eq_ok_iff]
  constructor
  · rintro ⟨value, hvalue, others, hothers, rfl⟩
    exact ⟨value, others, hvalue, hothers, rfl⟩
  · rintro ⟨value, others, hvalue, hothers, rfl⟩
    exact ⟨value, hvalue, others, hothers, rfl⟩

theorem Outline.readFields_cons_eq_ok_iff {depth : Nat} {key : Quotation} {outline : Outline}
    {rest : List (Quotation × Outline)} {values : List (String × Json)} :
  readFields depth ((key, outline) :: rest) = .ok values
    ↔ ∃ name value others, key.text = .ok name ∧ outline.read depth = .ok value
      ∧ readFields depth rest = .ok others ∧ values = (name, value) :: others
  := by
  simp only [readFields, bind_eq_ok_iff, pure_eq_ok_iff]
  constructor
  · rintro ⟨name, hname, value, hvalue, others, hothers, rfl⟩
    exact ⟨name, value, others, hname, hvalue, hothers, rfl⟩
  · rintro ⟨name, value, others, hname, hvalue, hothers, rfl⟩
    exact ⟨name, hname, value, hvalue, others, hothers, rfl⟩

/-- A text has the value of its outline, if nothing but blanks follows it. -/
theorem readWithin_eq_ok_iff {depth : Nat} {text : String} {written : Json} :
  readWithin depth text = .ok written
    ↔ (Outline.ofText text).1.read depth = .ok written ∧ (Outline.ofText text).2 = false
  := by
  rw [readWithin]
  generalize Outline.ofText text = made
  obtain ⟨outline, trailing⟩ := made
  cases trailing with
  | true => simp [bind_eq_ok_iff, unlessFault_eq_ok_iff]
  | false => simp [bind_eq_ok_iff, unlessFault_eq_ok_iff]

/-! ### Skipping -/

/-- Where characters come out, reading has not stopped at a fault. -/
theorem Quotation.fault?_of_characters {stop : Stop} {pieces : List Piece} {chars : List Char}
    (h : characters stop pieces = .ok chars) :
  stop.fault? = none
  := by
  fun_induction characters stop pieces generalizing chars with
  | case1 hstop => exact hstop
  | case2 fault hstop => simp at h
  | case3 c rest ih =>
    obtain ⟨chars, hchars, -⟩ := map_eq_ok_iff.mp h
    exact ih hchars
  | case4 => simp at h
  | case5 => simp at h
  | case6 => simp at h
  | case7 code _ _ second rest _ ih =>
    obtain ⟨chars, hchars, -⟩ := map_eq_ok_iff.mp h
    exact ih hchars
  | case8 => simp at h
  | case9 code rest _ _ ih =>
    obtain ⟨chars, hchars, -⟩ := map_eq_ok_iff.mp h
    exact ih hchars

/-- A string that was written is closed. -/
theorem Quotation.fault?_of_text {q : Quotation} {s : String} (h : q.text = .ok s) :
  q.fault? = none
  := by
  obtain ⟨chars, hchars, -⟩ := map_eq_ok_iff.mp h
  exact fault?_of_characters hchars

mutual

/-- What has a value can be skipped. -/
theorem Outline.skip_of_read :
    ∀ (outline : Outline) (depth : Nat) (value : Json), outline.read depth = .ok value →
      outline.skip = .ok ()
  | .missing, depth, value, h => nomatch reads_of_read h
  | .stray, depth, value, h => nomatch reads_of_read h
  | .noColon _, depth, value, h => nomatch reads_of_read h
  | .word _ _, depth, value, h => by
    cases reads_of_read h
    rfl
  | .numeral _, depth, value, h => by
    cases reads_of_read h
    rfl
  | .quotation q, depth, value, h => by
    obtain _ | _ | ⟨_, htext⟩ := reads_of_read h
    rw [skip, Quotation.fault?_of_text htext, unlessFault]
  | .array items close, depth, value, h => by
    obtain _ | _ | _ | hitems := reads_of_read h
    rw [skip, skipItems_of_readItems items _ _ hitems]
    rfl
  | .object fields close, depth, value, h => by
    obtain _ | _ | _ | _ | hfields := reads_of_read h
    rw [skip, skipFields_of_readFields fields _ _ hfields]
    rfl

/-- Items that have values can be skipped. -/
theorem Outline.skipItems_of_readItems :
    ∀ (items : List Outline) (depth : Nat) (values : List Json),
      readItems depth items = .ok values → skipItems items = .ok ()
  | [], depth, values, h => rfl
  | outline :: rest, depth, values, h => by
    obtain ⟨value, others, hvalue, hothers, -⟩ := readItems_cons_eq_ok_iff.mp h
    rw [skipItems, skip_of_read outline depth value hvalue, ok_bind,
      skipItems_of_readItems rest depth others hothers]

/-- Fields that have names and values can be skipped. -/
theorem Outline.skipFields_of_readFields :
    ∀ (fields : List (Quotation × Outline)) (depth : Nat) (values : List (String × Json)),
      readFields depth fields = .ok values → skipFields fields = .ok ()
  | [], depth, values, h => rfl
  | (key, outline) :: rest, depth, values, h => by
    obtain ⟨name, value, others, hname, hvalue, hothers, -⟩ := readFields_cons_eq_ok_iff.mp h
    rw [skipFields, Quotation.fault?_of_text hname, unlessFault, ok_bind,
      skip_of_read outline depth value hvalue, ok_bind,
      skipFields_of_readFields rest depth others hothers]

end

end RichText.Json
