import RichText.Chat
import RichText.Json.Quotation
import RichText.Proofs.Decoding
import RichText.Proofs.Interpretation

/-!
# The click handlers of mentions

The click handler of a mention is a call in a script, with the username between double quotes as it
is.  Escaping the handler for HTML is undone when the HTML is read, and says nothing about the
script.  `Script.Denotes` tells which string the text between double quotes stands for, by the
rules of ECMAScript 2019 outside strict mode.  The username stands for itself exactly if it has
no double quote, no backslash and no line break; with any of these the handler is no call with the
username as its argument.
-/

namespace RichText

/-! ### String literals of scripts -/

namespace Script

/-- The 16-bit units of a code point. -/
def codeUnits (code : Nat) : List Nat :=
  if code < 0x10000 then [code]
  else [0xD800 + (code - 0x10000) / 0x400, 0xDC00 + (code - 0x10000) % 0x400]

/-- The units of a string; a script knows a string by them. -/
def unitsOf (chars : List Char) : List Nat := chars.flatMap fun c => codeUnits c.toNat

/-- The value of hexadecimal digits. -/
def hexNumber? (digits : List Char) : Option Nat :=
  digits.foldlM (fun n c => (Json.Quotation.hexDigit? c).map (n * 16 + ·)) 0

/-- The unit of hexadecimal digits, exactly `count` of them, and what is behind them. -/
def readUnit (count : Nat) (chars : List Char) : Option (List Nat × List Char) :=
  if chars.length < count then none
  else (hexNumber? (chars.take count)).map fun n => ([n], chars.drop count)

/-- The units of a code point in hexadecimal digits up to a closing brace, and what is behind it. -/
def readBraced (chars : List Char) : Option (List Nat × List Char) :=
  let digits := chars.takeWhile (· != '}')
  match chars.dropWhile (· != '}') with
  | [] => none
  | _ :: rest =>
    if digits.isEmpty then none
    else (hexNumber? digits).bind fun n =>
      if n ≤ 0x10FFFF then some (codeUnits n, rest) else none

/-- Whether a character is an octal digit. -/
def isOctal (c : Char) : Bool := '0' ≤ c ∧ c ≤ '7'

/-- The octal digits in front: up to three of them, or up to two if the first is above three. -/
def octalDigits (chars : List Char) : List Char :=
  (chars.take (if chars.head?.all (· ≤ '3') then 3 else 2)).takeWhile isOctal

/-- The unit of the octal digits in front, and what is behind them. -/
def readOctal (chars : List Char) : List Nat × List Char :=
  let digits := octalDigits chars
  ([digits.foldl (fun n c => n * 8 + (c.toNat - '0'.toNat)) 0], chars.drop digits.length)

/-- The control character that a letter behind a backslash stands for. -/
def control? : Char → Option Nat
  | 'b' => some 8
  | 't' => some 9
  | 'n' => some 10
  | 'v' => some 11
  | 'f' => some 12
  | 'r' => some 13
  | _ => none

/-- The characters that end a line of a script. -/
def lineBreaks : List Char := ['\n', '\r', '\u2028', '\u2029']

/-- The units that the characters behind a backslash stand for, and the characters behind those.
A line break stands for nothing, and a character without a meaning of its own for itself. -/
def readEscape : List Char → Option (List Nat × List Char)
  | [] => none
  | '\r' :: '\n' :: rest => some ([], rest)
  | 'x' :: rest => readUnit 2 rest
  | 'u' :: '{' :: rest => readBraced rest
  | 'u' :: rest => readUnit 4 rest
  | c :: rest =>
    if c ∈ lineBreaks then some ([], rest)
    else if isOctal c then some (readOctal (c :: rest))
    else some (((control? c).map ([·])).getD (codeUnits c.toNat), rest)

/-- A character that stands for itself in a string literal. -/
def IsPlain (c : Char) : Prop := c ∉ ['\"', '\\', '\n', '\r']
deriving Decidable

/-- The string that the text between the double quotes of a string literal denotes, as its units.
Other texts are not between the double quotes of one literal. -/
inductive Denotes : List Char → List Nat → Prop where
  | nil : Denotes [] []
  | plain {c : Char} {chars : List Char} {units : List Nat} (hc : IsPlain c)
    (hchars : Denotes chars units) : Denotes (c :: chars) (codeUnits c.toNat ++ units)
  | escape {chars rest : List Char} {units others : List Nat}
    (hread : readEscape chars = some (units, rest)) (hrest : Denotes rest others) :
    Denotes ('\\' :: chars) (units ++ others)

/-! ### Escapes take more units than they stand for -/

theorem length_codeUnits (code : Nat) :
  1 ≤ (codeUnits code).length ∧ (codeUnits code).length ≤ 2
  := by
  rw [codeUnits]
  split
  · simp
  · simp

theorem unitsOf_append (front rest : List Char) :
  unitsOf (front ++ rest) = unitsOf front ++ unitsOf rest
  := List.flatMap_append

theorem length_le_length_unitsOf (chars : List Char) :
  chars.length ≤ (unitsOf chars).length
  := by
  induction chars with
  | nil => exact Nat.le_refl 0
  | cons c rest ih =>
    have hcode := (length_codeUnits c.toNat).1
    rw [unitsOf] at ih ⊢
    rw [List.flatMap_cons, List.length_append, List.length_cons]
    omega

theorem length_unitsOf_cons (c : Char) (rest : List Char) :
  (unitsOf (c :: rest)).length = (codeUnits c.toNat).length + (unitsOf rest).length
  := List.length_append

/-- Characters that stand for no more units than they are may stand in front of others. -/
theorem length_add_le_of_front {front rest chars : List Char} {units : List Nat}
    (hchars : front ++ rest = chars) (hunits : units.length ≤ front.length) :
  units.length + (unitsOf rest).length ≤ (unitsOf chars).length
  := by
  have hfront := length_le_length_unitsOf front
  rw [← hchars, unitsOf_append, List.length_append]
  omega

theorem readUnit_length {count : Nat} {chars rest : List Char} {units : List Nat}
    (hcount : 1 ≤ count) (h : readUnit count chars = some (units, rest)) :
  units.length + (unitsOf rest).length ≤ (unitsOf chars).length
  := by
  rw [readUnit] at h
  split at h
  · simp at h
  · rename_i hlong
    obtain ⟨n, -, hn⟩ := Option.map_eq_some_iff.mp h
    obtain ⟨rfl, rfl⟩ := Prod.mk.inj hn
    apply length_add_le_of_front (List.take_append_drop count chars)
    rw [List.length_take, List.length_singleton]
    omega

theorem readBraced_length {chars rest : List Char} {units : List Nat}
    (h : readBraced chars = some (units, rest)) :
  units.length + (unitsOf rest).length ≤ (unitsOf ('{' :: chars)).length
  := by
  have hsplit := List.takeWhile_append_dropWhile (p := (· != '}')) (l := chars)
  simp only [readBraced] at h
  split at h
  · simp at h
  · rename_i brace behind hbehind
    rw [hbehind] at hsplit
    split at h
    · simp at h
    · obtain ⟨n, -, hn⟩ := Option.bind_eq_some_iff.mp h
      split at hn
      · obtain ⟨rfl, rfl⟩ := Prod.mk.inj (Option.some.inj hn)
        have hcode := (length_codeUnits n).2
        have hfront : '{' :: chars.takeWhile (· != '}') ++ [brace] ++ behind = '{' :: chars := by
          rw [List.append_assoc, List.singleton_append, List.cons_append, hsplit]
        apply length_add_le_of_front hfront
        rw [List.length_append, List.length_cons, List.length_singleton]
        omega
      · simp at hn

theorem readOctal_length {c : Char} (hc : isOctal c = true) {chars rest : List Char}
    {units : List Nat} (h : readOctal (c :: chars) = (units, rest)) :
  units.length + (unitsOf rest).length ≤ (unitsOf (c :: chars)).length
  := by
  obtain ⟨rfl, rfl⟩ := Prod.mk.inj h
  have hdigits : 1 ≤ (octalDigits (c :: chars)).length := by
    rw [octalDigits]
    split
    · simp [hc]
    · simp [hc]
  apply length_add_le_of_front (List.take_append_drop (octalDigits (c :: chars)).length _)
  rw [List.length_singleton, List.length_take, List.length_cons]
  omega

/-- An escape stands for no more units than there are behind its backslash. -/
theorem readEscape_length {chars rest : List Char} {units : List Nat}
    (h : readEscape chars = some (units, rest)) :
  units.length + (unitsOf rest).length ≤ (unitsOf chars).length
  := by
  rw [readEscape.eq_def] at h
  split at h
  · simp at h
  · obtain ⟨rfl, rfl⟩ := Prod.mk.inj (Option.some.inj h)
    rw [length_unitsOf_cons, length_unitsOf_cons, List.length_nil]
    omega
  · have hunit := readUnit_length (by decide) h
    rw [length_unitsOf_cons]
    omega
  · have hbraced := readBraced_length h
    rw [length_unitsOf_cons]
    omega
  · have hunit := readUnit_length (by decide) h
    rw [length_unitsOf_cons]
    omega
  · rename_i c behind _ _ _ _
    split at h
    · obtain ⟨rfl, rfl⟩ := Prod.mk.inj (Option.some.inj h)
      rw [length_unitsOf_cons, List.length_nil]
      omega
    · split at h
      · rename_i hoctal
        apply readOctal_length hoctal (Option.some.inj h)
      · obtain ⟨rfl, rfl⟩ := Prod.mk.inj (Option.some.inj h)
        have hcode := (length_codeUnits c.toNat).1
        rw [length_unitsOf_cons]
        cases control? c with
        | none => exact Nat.le_refl _
        | some n => simpa using hcode

example : readEscape ['u', '{', '6', '1', '}', 'b'] = some ([0x61], ['b']) := by decide

example : readEscape ['1', '0', '1', '8'] = some ([0x41], ['8']) := by decide

/-! ### Texts that denote themselves -/

/-- A text between double quotes denotes no more units than it has. -/
theorem Denotes.length_le {chars : List Char} {units : List Nat} (h : Denotes chars units) :
  units.length ≤ (unitsOf chars).length
  := by
  induction h with
  | nil => exact Nat.le_refl 0
  | plain hc hchars ih =>
    rw [length_unitsOf_cons, List.length_append]
    omega
  | escape hread hrest ih =>
    have hescape := readEscape_length hread
    rw [length_unitsOf_cons, List.length_append]
    omega

/-- A text that denotes itself is plain: with an escape it would denote fewer units. -/
theorem Denotes.isPlain {chars : List Char} {units : List Nat} (h : Denotes chars units)
    (hself : units = unitsOf chars) :
  ∀ c ∈ chars, IsPlain c
  := by
  induction h with
  | nil => simp
  | plain hc hchars ih =>
    rw [List.forall_mem_cons]
    exact ⟨hc, ih (List.append_cancel_left hself)⟩
  | @escape chars rest units others hread hrest ih =>
    have hescape := readEscape_length hread
    have hbackslash := (length_codeUnits '\\'.toNat).1
    have hlength := congrArg List.length hself
    rw [length_unitsOf_cons, List.length_append] at hlength
    have hothers := hrest.length_le
    omega

/-- A plain text denotes itself. -/
theorem denotes_self {chars : List Char} (h : ∀ c ∈ chars, IsPlain c) :
  Denotes chars (unitsOf chars)
  := by
  induction chars with
  | nil => exact .nil
  | cons c rest ih =>
    obtain ⟨hc, hrest⟩ := List.forall_mem_cons.mp h
    exact .plain hc (ih hrest)

/-- A text for between double quotes, with what is not plain behind backslashes. -/
def quote (chars : List Char) : List Char :=
  chars.flatMap fun c =>
    if IsPlain c then [c]
    else if c = '\n' then ['\\', 'n']
    else if c = '\r' then ['\\', 'r']
    else ['\\', c]

/-- Every string is denoted by some text. -/
theorem denotes_quote (chars : List Char) :
  Denotes (quote chars) (unitsOf chars)
  := by
  induction chars with
  | nil => exact .nil
  | cons c rest ih =>
    rw [quote, unitsOf, List.flatMap_cons, List.flatMap_cons]
    by_cases hc : IsPlain c
    · rw [if_pos hc]
      exact .plain hc ih
    · have hmem : c ∈ ['\"', '\\', '\n', '\r'] := Decidable.not_not.mp hc
      simp only [List.mem_cons, List.not_mem_nil, or_false] at hmem
      obtain rfl | rfl | rfl | rfl := hmem
      all_goals exact .escape rfl ih

end Script

/-! ### The handler of a mention -/

namespace Chat

/-- A handler is a call with a literal that denotes a string just if the username denotes it. -/
theorem clickHandler_denotes_iff {username : String} {units : List Nat} :
  (∃ body, clickHandler username = "openContact(\"" ++ body ++ "\")"
      ∧ Script.Denotes body.toList units)
    ↔ Script.Denotes username.toList units
  := by
  constructor
  · rintro ⟨body, hbody, hdenotes⟩
    have hsame : username = body := by
      rw [clickHandler] at hbody
      simpa using hbody
    rwa [hsame]
  · intro hdenotes
    exact ⟨username, rfl, hdenotes⟩

/-- A handler is a call with a literal that denotes the username just if the username is plain. -/
theorem clickHandler_safe_iff {username : String} :
  (∃ body, clickHandler username = "openContact(\"" ++ body ++ "\")"
      ∧ Script.Denotes body.toList (Script.unitsOf username.toList))
    ↔ ∀ c ∈ username.toList, Script.IsPlain c
  := by
  rw [clickHandler_denotes_iff]
  constructor
  · intro hdenotes
    exact hdenotes.isPlain rfl
  · intro hplain
    exact Script.denotes_self hplain

/-- The properties of the element of a mention. -/
def mentionProps (username : String) : Props where
  className := some "mention clickable"
  attributes :=
    Table.empty.insert "data-username" username |>.insert "onclick" (clickHandler username)

/-- Besides its class a mention has its username and its click handler. -/
theorem entries_mentionProps (username : String) :
  (mentionProps username).attributes.entries
    = [("data-username", username), ("onclick", clickHandler username)]
  := by
  have hlt : "data-username" < "onclick" := by
    decide
  apply Entries.insert_of_forall_lt
  intro kept hkept
  obtain rfl := List.mem_singleton.mp hkept
  exact hlt

/-- The element of a mention. -/
def mentionElement (username : String) : Element :=
  .node "span" (some (mentionProps username)) (some [.text ("@" ++ username)])

/-- The spec of a mention is interpreted as the element of the mention, whatever the content. -/
theorem interpret_mentionOf (username : String) (content : Element) :
  (mentionOf username).interpret content false = .ok ⟨mentionElement username, false⟩
  := rfl

theorem wellNamed_mentionElement (username : String) :
  (mentionElement username).WellNamed
  := by
  have hnames : (mentionProps username).attributes.names = ["data-username", "onclick"] := by
    rw [Table.names, entries_mentionProps]
    rfl
  have hprops : (mentionProps username).WellNamed := by
    rw [Props.WellNamed, hnames]
    decide
  have htag : Html.IsName "span" := by
    decide
  refine ⟨⟨htag, ?_⟩, trivial, trivial⟩
  intro props hmem
  obtain rfl := Option.some.inj hmem
  exact hprops

/-- The HTML of a mention is read as a tag with its properties around its text. -/
theorem read_mentionElement {encoder : Html.Encoder} (hencoder : encoder.Lawful)
    (username : String) :
  Forest.read ((mentionElement username).htmlWith encoder)
    = some (.paired "" "span" (mentionProps username) (.text ("@" ++ username)) .empty)
  := by
  have hempty : Forest.empty.WellNamed := trivial
  have hforest : (mentionElement username).forest
      = .paired "" "span" (mentionProps username) (.text ("@" ++ username)) .empty := by
    rw [mentionElement, Element.forest, Element.forestOnto, Element.forestOnto,
      Element.forestAllOnto, Forest.empty, Forest.prepend, String.append_empty]
    rfl
  rw [← Element.htmlWith_forest hencoder, ← hforest]
  apply Forest.read_htmlWith hencoder
  apply Element.wellNamed_forestOnto hempty (wellNamed_mentionElement username)

/-- A mention is rendered as a tag with a click handler, and the HTML gives the handler back.  The
handler is a call with one string literal as its argument that denotes the username, exactly if the
username has no double quote, no backslash and no line break. -/
theorem mention_onclick_safe_iff {node : Node} {username : String}
    (hname : (node.attributes.string? "username").getD "" = username) {encoder : Html.Encoder}
    (hencoder : encoder.Lawful) (content : Element) :
  ∃ outcome props, (mentionSpec node).value.interpret content false = .ok outcome
    ∧ Forest.read (outcome.element.htmlWith encoder)
      = some (.paired "" "span" props (.text ("@" ++ username)) .empty)
    ∧ props.attributes.find? "onclick" = some (clickHandler username)
    ∧ ((∃ body, clickHandler username = "openContact(\"" ++ body ++ "\")"
          ∧ Script.Denotes body.toList (Script.unitsOf username.toList))
        ↔ ∀ c ∈ username.toList, c ∉ ['\"', '\\', '\n', '\r'])
  := by
  subst hname
  refine ⟨_, _, interpret_mentionOf _ content, read_mentionElement hencoder _, ?_, ?_⟩
  · rw [Table.find?, entries_mentionProps]
    simp [Entries.find?]
  · exact clickHandler_safe_iff

/-- A mention of a user by name. -/
def mentionNode (username : String) : Node :=
  { Node.leaf "mention" with attributes := Table.empty.insert "username" (.string username) }

theorem mention_onclick_ada :
  Html.Encoder.standard.Lawful
    ∧ ((mentionNode "ada").attributes.string? "username").getD "" = "ada"
    ∧ ∃ body, clickHandler "ada" = "openContact(\"" ++ body ++ "\")"
      ∧ Script.Denotes body.toList (Script.unitsOf "ada".toList)
  := by
  have hname : ((mentionNode "ada").attributes.string? "username").getD "" = "ada" := by
    decide
  obtain ⟨_, _, _, _, _, hsafe⟩ :=
    mention_onclick_safe_iff hname Html.Encoder.lawful_standard (.fragment [])
  exact ⟨Html.Encoder.lawful_standard, hname, hsafe.mpr (by simp)⟩

/-- A username that ends the literal and the call begins another call, although there is a literal
that denotes it. -/
theorem mention_onclick_injected :
  (mentionSpec (mentionNode "\");alert(\"")).value = mentionOf "\");alert(\""
    ∧ clickHandler "\");alert(\"" = "openContact(\"\");alert(\"\")"
    ∧ (¬ ∃ body, clickHandler "\");alert(\"" = "openContact(\"" ++ body ++ "\")"
      ∧ Script.Denotes body.toList (Script.unitsOf "\");alert(\"".toList))
    ∧ Script.Denotes "\\\");alert(\\\"".toList (Script.unitsOf "\");alert(\"".toList)
  := by
  refine ⟨rfl, by decide, ?_, ?_⟩
  · rw [clickHandler_safe_iff]
    intro hplain
    have hquote : ¬ Script.IsPlain '\"' := by
      decide
    exact hquote (hplain '\"' (by decide))
  · exact Script.denotes_quote "\");alert(\"".toList

end Chat

end RichText
