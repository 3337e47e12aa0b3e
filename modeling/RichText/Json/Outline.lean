import RichText.Json.Numeral
import RichText.Json.Quotation

/-!
# Outlines of JSON texts

An `Outline` is the structure of a JSON text up to the place where no reader can go on.  Making
one never fails: a fault is kept where it stands, and each reader of an outline meets the
faults in the order of the text and decides which of them it minds.  A reader that skips a
value, for instance, does not mind a number out of range or an unpaired surrogate.
-/

namespace RichText.Json

/-- How a list of items or fields ends: with its closing bracket, with the end of the text
behind a value or behind a comma, with a closing bracket behind a comma, with something that is
neither a comma nor the closing bracket, with something that is no name of a field, or with an
item that could not be read to its end. -/
inductive Close where
  | closed
  | cutOff
  | cutOffAtComma
  | comma
  | separatorExpected
  | keyExpected
  | broken
deriving DecidableEq

/-- The structure of the text of a value. -/
inductive Outline where
  /-- The text ends where a value is due. -/
  | missing
  /-- A character that begins no value. -/
  | stray
  /-- A colon is missing in front of the value; the text may end there. -/
  | noColon (atEnd : Bool)
  /-- A truth value, or `null`, with the fault of its spelling. -/
  | word (value : Option Bool) (fault : Option Fault)
  /-- A number, or the fault of its spelling. -/
  | numeral (spelling : Except Fault Numeral)
  | quotation (q : Quotation)
  | array (items : List Outline) (close : Close)
  | object (fields : List (Quotation × Outline)) (close : Close)

instance : Inhabited Outline := ⟨.missing⟩

namespace Outline

/-! ### Making an outline -/

/-- Whether a character is blank: a space, a tab, a line feed or a carriage return. -/
def isBlank (c : Char) : Bool := c == ' ' || c == '\t' || c == '\n' || c == '\r'

/-- The text without blanks in front. -/
def skipBlanks (cs : List Char) : List Char := cs.dropWhile isBlank

theorem skipBlanks_length_le (cs : List Char) :
  (skipBlanks cs).length ≤ cs.length
  := (List.dropWhile_sublist _).length_le

/-- What remains behind a part of the text `cs`; nothing if reading stops there. -/
abbrev Rest (cs : List Char) := Option { rest : List Char // rest.length < cs.length }

/-- The text that is left of a shorter text is left of a longer one. -/
def Rest.weaken {cs cs' : List Char} (h : cs'.length ≤ cs.length) : Rest cs' → Rest cs :=
  Option.map fun rest => ⟨rest.1, Nat.lt_of_lt_of_le rest.2 h⟩

/-- The fault of a text that should go on with `letters`, and what is left. -/
def expectWord : (letters cs : List Char) → Option Fault × List Char
  | [], cs => (none, cs)
  | _ :: _, [] => (some .endInValue, [])
  | l :: ls, c :: cs => if l = c then expectWord ls cs else (some .wordExpected, cs)

theorem expectWord_length_le (letters cs : List Char) :
  (expectWord letters cs).2.length ≤ cs.length
  := by
  fun_induction expectWord letters cs with
  | case1 => apply Nat.le_refl
  | case2 => apply Nat.le_refl
  | case3 ls c cs ih => exact Nat.le_succ_of_le ih
  | case4 => apply Nat.le_succ

/-- A truth value or `null` behind its first letter. -/
def ofWord (value : Option Bool) (letters cs : List Char) :
    Outline × Option { rest : List Char // rest.length ≤ cs.length } :=
  match h : expectWord letters cs with
  | (none, rest) =>
    (.word value none, some ⟨rest, by have := expectWord_length_le letters cs; simp_all⟩)
  | (some fault, _) => (.word value (some fault), none)

/-- A number. -/
def ofNumeral (cs : List Char) : Outline × Rest cs :=
  match h : Numeral.scan cs with
  | .ok (n, rest) => (.numeral (.ok n), some ⟨rest, Numeral.scan_length_lt h⟩)
  | .error fault => (.numeral (.error fault), none)

/-- A string behind its opening quote. -/
def scanQuotation (cs : List Char) :
    Quotation × Option { rest : List Char // rest.length ≤ cs.length } :=
  let scanned := Quotation.scan cs
  (scanned.1,
    if scanned.1.stop = .closed then some ⟨scanned.2, Quotation.scan_length_le cs⟩ else none)

/-- Text that is left behind the tail of `cs` is left behind `cs`. -/
def behind {c : Char} {cs : List Char} :
    Option { rest : List Char // rest.length ≤ cs.length } → Rest (c :: cs) :=
  Option.map fun rest => ⟨rest.1, Nat.lt_succ_of_le rest.2⟩

mutual

/-- The value in front of a text without blanks in front. -/
def ofValue (cs : List Char) : Outline × Rest cs :=
  match cs with
  | [] => (.missing, none)
  | 'n' :: cs =>
    let (outline, rest) := ofWord none ['u', 'l', 'l'] cs
    (outline, behind rest)
  | 't' :: cs =>
    let (outline, rest) := ofWord (some true) ['r', 'u', 'e'] cs
    (outline, behind rest)
  | 'f' :: cs =>
    let (outline, rest) := ofWord (some false) ['a', 'l', 's', 'e'] cs
    (outline, behind rest)
  | '\"' :: cs =>
    let (q, rest) := scanQuotation cs
    (.quotation q, behind rest)
  | '[' :: cs =>
    let (items, close, rest) := ofItems (skipBlanks cs) true
    (.array items close, rest.weaken (by
      have := skipBlanks_length_le cs
      simp only [List.length_cons]
      omega))
  | '{' :: cs =>
    let (fields, close, rest) := ofFields (skipBlanks cs) true
    (.object fields close, rest.weaken (by
      have := skipBlanks_length_le cs
      simp only [List.length_cons]
      omega))
  | c :: cs =>
    if c = '-' ∨ c.isDigit then ofNumeral (c :: cs) else (.stray, none)
termination_by (cs.length, 0)
decreasing_by
  all_goals
    have := skipBlanks_length_le cs
    apply Prod.Lex.left
    simp only [List.length_cons]
    omega

/-- The items of an array from where an item is due; at the front of the array it may close. -/
def ofItems (cs : List Char) (atFront : Bool) : List Outline × Close × Rest cs :=
  match hcs : cs with
  | [] => ([], if atFront then .cutOff else .cutOffAtComma, none)
  | c :: tail =>
    if c = ']' then
      if atFront then ([], .closed, some ⟨tail, by simp⟩) else ([], .comma, none)
    else
      match ofValue (c :: tail) with
      | (item, none) => ([item], .broken, none)
      | (item, some ⟨rest, hrest⟩) =>
        match hblank : skipBlanks rest with
        | [] => ([item], .cutOff, none)
        | ']' :: rest' =>
          ([item], .closed, some ⟨rest', by
            have := skipBlanks_length_le rest
            simp_all only [List.length_cons]
            omega⟩)
        | ',' :: rest' =>
          let (items, close, left) := ofItems (skipBlanks rest') false
          (item :: items, close, left.weaken (by
            have := skipBlanks_length_le rest
            have := skipBlanks_length_le rest'
            simp_all only [List.length_cons]
            omega))
        | _ => ([item], .separatorExpected, none)
termination_by (cs.length, 1)
decreasing_by
  · apply Prod.Lex.right
    decide
  · apply Prod.Lex.left
    have := skipBlanks_length_le rest
    have := skipBlanks_length_le rest'
    simp_all only [List.length_cons]
    omega

/-- The fields of an object from where a name is due; at the front of the object it may
close. -/
def ofFields (cs : List Char) (atFront : Bool) :
    List (Quotation × Outline) × Close × Rest cs :=
  match hcs : cs with
  | [] => ([], if atFront then .cutOff else .cutOffAtComma, none)
  | c :: tail =>
    if c = '}' then
      if atFront then ([], .closed, some ⟨tail, by simp⟩) else ([], .comma, none)
    else if c = '\"' then
      match scanQuotation tail with
      | (key, none) => ([(key, .missing)], .broken, none)
      | (key, some ⟨rest, hrest⟩) =>
        match hcolon : skipBlanks rest with
        | [] => ([(key, .noColon true)], .broken, none)
        | ':' :: behindColon =>
          match ofValue (skipBlanks behindColon) with
          | (value, none) => ([(key, value)], .broken, none)
          | (value, some ⟨behindValue, hvalue⟩) =>
            match hblank : skipBlanks behindValue with
            | [] => ([(key, value)], .cutOff, none)
            | '}' :: rest' =>
              ([(key, value)], .closed, some ⟨rest', by
                have := skipBlanks_length_le rest
                have := skipBlanks_length_le behindColon
                have := skipBlanks_length_le behindValue
                simp_all only [List.length_cons]
                omega⟩)
            | ',' :: rest' =>
              let (fields, close, left) := ofFields (skipBlanks rest') false
              ((key, value) :: fields, close, left.weaken (by
                have := skipBlanks_length_le rest
                have := skipBlanks_length_le behindColon
                have := skipBlanks_length_le behindValue
                have := skipBlanks_length_le rest'
                simp_all only [List.length_cons]
                omega))
            | _ => ([(key, value)], .separatorExpected, none)
        | _ => ([(key, .noColon false)], .broken, none)
    else ([], .keyExpected, none)
termination_by (cs.length, 1)
decreasing_by
  · apply Prod.Lex.left
    have := skipBlanks_length_le rest
    have := skipBlanks_length_le behindColon
    simp_all only [List.length_cons]
    omega
  · apply Prod.Lex.left
    have := skipBlanks_length_le rest
    have := skipBlanks_length_le behindColon
    have := skipBlanks_length_le behindValue
    have := skipBlanks_length_le rest'
    simp_all only [List.length_cons]
    omega

end

/-- The outline of a text, and whether something other than blanks follows its value. -/
def ofText (text : String) : Outline × Bool :=
  match ofValue (skipBlanks text.toList) with
  | (outline, none) => (outline, false)
  | (outline, some rest) => (outline, !(skipBlanks rest.1).isEmpty)

end Outline

end RichText.Json
