import RichText.Proofs.Forests
import RichText.Proofs.Properties

/-!
# Decoding HTML

`Forest.read` reads a forest off its HTML.  Texts end at an angle bracket and values at a double
quote, which an encoder leaves in neither; names end at the first character that is none of a
name.  So the HTML of an element tells its forest, if tags and attributes have names and none of
the attributes is the class.
-/

namespace RichText

namespace Html

/-! ### Readers -/

/-- Characters with the entities of markup characters resolved. -/
def unescape : List Char → List Char
  | '&' :: 'a' :: 'm' :: 'p' :: ';' :: rest => '&' :: unescape rest
  | '&' :: 'l' :: 't' :: ';' :: rest => '<' :: unescape rest
  | '&' :: 'g' :: 't' :: ';' :: rest => '>' :: unescape rest
  | '&' :: 'q' :: 'u' :: 'o' :: 't' :: ';' :: rest => '\"' :: unescape rest
  | c :: rest => c :: unescape rest
  | [] => []

/-- The characters behind `word`, if `word` stands in front. -/
def expect (word : String) (chars : List Char) : Option (List Char) :=
  if word.toList <+: chars then some (chars.drop word.toList.length) else none

/-- Reads a name, which may be empty. -/
def readName (chars : List Char) : String × List Char :=
  (String.ofList (chars.takeWhile isNameChar), chars.dropWhile isNameChar)

/-- Reads an encoded string up to the character `stop`. -/
def readUntil (stop : Char) (chars : List Char) : String × List Char :=
  (String.ofList (unescape (chars.takeWhile (· != stop))), chars.dropWhile (· != stop))

/-- Reads an attribute with the blank in front of it. -/
def readAssignment (chars : List Char) : Option ((String × String) × List Char) := do
  let rest ← expect " " chars
  let (name, rest) := readName rest
  let rest ← expect "=\"" rest
  let (value, rest) := readUntil '\"' rest
  let rest ← expect "\"" rest
  return ((name, value), rest)

/-- Reads attributes, at most `limit` of them. -/
def readAssignments : Nat → List Char → List (String × String) × List Char
  | 0, chars => ([], chars)
  | limit + 1, chars =>
    match readAssignment chars with
    | none => ([], chars)
    | some (entry, rest) =>
      let (entries, rest) := readAssignments limit rest
      (entry :: entries, rest)

/-- Reads a start tag up to its closing bracket. -/
def readStartTag (chars : List Char) : Option ((String × Props) × List Char) := do
  let rest ← expect "<" chars
  let (tag, rest) := readName rest
  if tag = "" then none
  else
    let (entries, rest) := readAssignments rest.length rest
    return ((tag, Props.ofEntries entries), rest)

/-! ### What the readers read -/

/-- No character that `p` accepts stands in front. -/
def Stops (p : Char → Bool) (chars : List Char) : Prop := ∀ c ∈ chars.head?, p c = false

theorem takeWhile_append_of_stops {p : Char → Bool} {front rest : List Char}
    (hfront : ∀ c ∈ front, p c = true) (hrest : Stops p rest) :
  (front ++ rest).takeWhile p = front
  := by
  rw [List.takeWhile_append_of_pos hfront]
  cases rest with
  | nil => simp
  | cons c rest => simp [hrest c rfl]

theorem dropWhile_append_of_stops {p : Char → Bool} {front rest : List Char}
    (hfront : ∀ c ∈ front, p c = true) (hrest : Stops p rest) :
  (front ++ rest).dropWhile p = rest
  := by
  rw [List.dropWhile_append_of_pos hfront]
  cases rest with
  | nil => simp
  | cons c rest => simp [hrest c rfl]

@[simp]
theorem expect_append (word : String) (rest : List Char) :
  expect word (word.toList ++ rest) = some rest
  := by
  simp [expect]

@[simp]
theorem expect_closingBracket (rest : List Char) :
  expect "/>" (">".toList ++ rest) = none
  := by
  simp [expect]

theorem readName_append {name : String} {rest : List Char}
    (hname : ∀ c ∈ name.toList, isNameChar c = true) (hrest : Stops isNameChar rest) :
  readName (name.toList ++ rest) = (name, rest)
  := by
  rw [readName, takeWhile_append_of_stops hname hrest, dropWhile_append_of_stops hname hrest,
    String.ofList_toList]

theorem unescape_entity {c : Char} (hc : c ∈ Encoder.valueMarkup) (rest : List Char) :
  unescape (entity c ++ rest) = c :: unescape rest
  := by
  simp only [Encoder.valueMarkup, List.mem_cons, List.not_mem_nil, or_false] at hc
  rcases hc with rfl | rfl | rfl | rfl <;> rfl

theorem unescape_cons {c : Char} (hc : c ≠ '&') (rest : List Char) :
  unescape (c :: rest) = c :: unescape rest
  := by
  rw [unescape] <;> simp [hc]

/-- Reading an escaped string character by character gives the string, if the entity of a marked
character is read as that character. -/
theorem decode_escape {decode : List Char → List Char} {marked : List Char}
    (hnil : decode [] = [])
    (hmarked : ∀ c ∈ marked, ∀ rest, decode (entity c ++ rest) = c :: decode rest)
    (hplain : ∀ c, c ∉ marked → ∀ rest, decode (c :: rest) = c :: decode rest) (s : String) :
  String.ofList (decode (escape marked s).toList) = s
  := by
  -- What an entity is read as does not depend on what follows it, so the characters go one by one.
  have hchars : ∀ chars : List Char,
      decode (chars.flatMap fun c => if c ∈ marked then entity c else [c]) = chars := by
    intro chars
    induction chars with
    | nil => exact hnil
    | cons c chars ih =>
      rw [List.flatMap_cons]
      split
      · rename_i hc
        rw [hmarked c hc, ih]
      · rename_i hc
        rw [List.singleton_append, hplain c hc, ih]
  rw [escape, String.toList_ofList, hchars, String.ofList_toList]

/-- Resolving entities undoes escaping, if the ampersand is escaped. -/
theorem unescape_escape {marked : List Char} (hmarked : marked ⊆ Encoder.valueMarkup)
    (hampersand : '&' ∈ marked) (s : String) :
  String.ofList (unescape (escape marked s).toList) = s
  := by
  apply decode_escape rfl
  · intro c hc
    apply unescape_entity (hmarked hc)
  · intro c hc
    apply unescape_cons
    rintro rfl
    exact hc hampersand

/-- An escaped character other than the ampersand does not stand in an escaped string. -/
theorem ne_of_mem_escape {marked : List Char} (hmarked : marked ⊆ Encoder.valueMarkup)
    {stop : Char} (hstop : stop ∈ marked) (hampersand : stop ≠ '&') {s : String} :
  ∀ c ∈ (escape marked s).toList, (c != stop) = true
  := by
  have hentity : ∀ c ∈ Encoder.valueMarkup, ∀ m ∈ Encoder.valueMarkup,
      m ≠ '&' → m ∉ entity c := by
    intro c hc m hm
    simp only [Encoder.valueMarkup, List.mem_cons, List.not_mem_nil, or_false] at hc hm
    rcases hc with rfl | rfl | rfl | rfl <;> rcases hm with rfl | rfl | rfl | rfl <;> decide
  intro c hc
  rw [escape, String.toList_ofList, List.mem_flatMap] at hc
  obtain ⟨c', -, hmem⟩ := hc
  rw [bne_iff_ne]
  rintro rfl
  split at hmem
  · rename_i hc'
    exact hentity c' (hmarked hc') c (hmarked hstop) hampersand hmem
  · rename_i hc'
    rw [List.mem_singleton] at hmem
    exact hc' (hmem ▸ hstop)

/-- An encoded string is read up to a marked character that follows it. -/
theorem readUntil_escape {marked : List Char} (hmarked : marked ⊆ Encoder.valueMarkup)
    (hampersand : '&' ∈ marked) {stop : Char} (hstop : stop ∈ marked) (hne : stop ≠ '&')
    (s : String) {rest : List Char} (hrest : Stops (· != stop) rest) :
  readUntil stop ((escape marked s).toList ++ rest) = (s, rest)
  := by
  have hfront := ne_of_mem_escape hmarked hstop hne (s := s)
  rw [readUntil, takeWhile_append_of_stops hfront hrest, dropWhile_append_of_stops hfront hrest,
    unescape_escape hmarked hampersand]

/-! ### Attributes and start tags -/

/-- Every attribute takes a character at least. -/
theorem length_le_length_assignments (encoder : Encoder) (entries : List (String × String)) :
  entries.length ≤ (assignments encoder entries).toList.length
  := by
  induction entries with
  | nil => simp
  | cons entry entries ih =>
    simp [assignments, assignment] at ih ⊢
    omega

/-- The attributes of properties are written as their list is. -/
theorem props_eq_assignments (encoder : Encoder) (properties : Option Props) :
  props encoder properties = assignments encoder (properties.getD .empty).entries
  := by
  cases properties with
  | none => rfl
  | some properties =>
    cases hclass : properties.className <;> simp [props, Props.entries, assignments, hclass]

theorem length_startTag_pos (encoder : Encoder) (tag : String) (properties : Option Props) :
  0 < (startTag encoder tag properties).length
  := by
  rw [startTag, String.length_append, String.length_append]
  have hbracket : "<".length = 1 := rfl
  omega

variable {encoder : Encoder}

/-- The text in front of an angle bracket is read up to it. -/
theorem readUntil_text (hencoder : encoder.Lawful) (s : String) {rest : List Char}
    (hrest : Stops (· != '<') rest) :
  readUntil '<' ((encoder.text s).toList ++ rest) = (s, rest)
  := by
  rw [hencoder.text_eq]
  apply readUntil_escape (by decide) (by decide) (by decide) (by decide) s hrest

/-- The value in front of a double quote is read up to it. -/
theorem readUntil_value (hencoder : encoder.Lawful) (s : String) {rest : List Char}
    (hrest : Stops (· != '\"') rest) :
  readUntil '\"' ((encoder.value s).toList ++ rest) = (s, rest)
  := by
  obtain ⟨marked, hampersand, hquote, hmarked, hvalue⟩ := hencoder.value_eq
  rw [hvalue]
  apply readUntil_escape hmarked hampersand hquote (by decide) s hrest

theorem readAssignment_assignment (hencoder : encoder.Lawful) {name : String}
    (hname : ∀ c ∈ name.toList, isNameChar c = true) (value : String) (rest : List Char) :
  readAssignment ((assignment encoder name value).toList ++ rest) = some ((name, value), rest)
  := by
  have hquote : Stops (· != '\"') ("\"".toList ++ rest) := by
    simp [Stops]
  have hequals : Stops isNameChar
      ("=\"".toList ++ ((encoder.value value).toList ++ ("\"".toList ++ rest))) := by
    simp [Stops, isNameChar]
  simp only [assignment, String.toList_append, List.append_assoc, readAssignment, expect_append,
    Option.bind_eq_bind, Option.bind_some, readName_append hname hequals,
    readUntil_value hencoder value hquote]
  rfl

theorem readAssignments_assignments (hencoder : encoder.Lawful)
    {entries : List (String × String)}
    (hnames : ∀ entry ∈ entries, ∀ c ∈ entry.1.toList, isNameChar c = true)
    {limit : Nat} (hlimit : entries.length ≤ limit) {rest : List Char}
    (hrest : readAssignment rest = none) :
  readAssignments limit ((assignments encoder entries).toList ++ rest) = (entries, rest)
  := by
  induction entries generalizing limit with
  | nil =>
    cases limit <;> simp [assignments, readAssignments, hrest]
  | cons entry entries ih =>
    obtain ⟨name, value⟩ := entry
    obtain _ | limit := limit
    · simp at hlimit
    · have hname := hnames _ List.mem_cons_self
      have ih := ih (fun entry hentry => hnames entry (List.mem_cons_of_mem _ hentry))
        (Nat.le_of_succ_le_succ hlimit)
      have hcons : assignments encoder ((name, value) :: entries)
          = assignment encoder name value ++ assignments encoder entries := by
        simp [assignments]
      rw [hcons, String.toList_append, List.append_assoc, readAssignments,
        readAssignment_assignment hencoder hname]
      simp [ih]

/-- A start tag is read up to its closing bracket. -/
theorem readStartTag_startTag (hencoder : encoder.Lawful) {tag : String} (htag : IsName tag)
    {props : Props} (hprops : props.WellNamed) {rest : List Char}
    (hstops : Stops isNameChar rest) (hrest : readAssignment rest = none) :
  readStartTag ((startTag encoder tag (some props)).toList ++ rest) = some ((tag, props), rest)
  := by
  have hne := htag.1
  obtain ⟨hnames, hclass⟩ := hprops
  have hentries : Html.props encoder (some props) = assignments encoder props.entries := by
    apply props_eq_assignments
  have hentry : ∀ entry ∈ props.entries, ∀ c ∈ entry.1.toList, isNameChar c = true := by
    intro entry hentry
    rw [Props.entries, List.mem_append, Option.mem_toList, Option.map_eq_some_iff] at hentry
    obtain ⟨className, -, rfl⟩ | hentry := hentry
    · have hname : IsName Props.classAttribute := by
        decide
      apply hname.isNameChar
    · apply (hnames entry.1 (List.mem_map_of_mem hentry)).isNameChar
  -- Behind the tag stands the blank of the first attribute, or the rest if there is none.
  have hfront : Stops isNameChar ((assignments encoder props.entries).toList ++ rest) := by
    cases hcases : props.entries with
    | nil => simpa [assignments] using hstops
    | cons entry entries => simp [Stops, assignments, assignment, isNameChar]
  have hlimit : props.entries.length
      ≤ ((assignments encoder props.entries).toList ++ rest).length := by
    have hle := length_le_length_assignments encoder props.entries
    rw [List.length_append]
    omega
  rw [startTag, hentries]
  simp only [String.toList_append, List.append_assoc, readStartTag, expect_append,
    Option.bind_eq_bind, Option.bind_some, readName_append htag.isNameChar hfront,
    readAssignments_assignments hencoder hentry hlimit hrest, Props.ofEntries_entries hclass,
    if_neg hne, pure]

end Html

namespace Forest

open Html

/-- Reads a forest, up to the end or to an end tag that has no start tag in it.  At most `depth`
tags may stand one inside or behind another. -/
def readFront (depth : Nat) (chars : List Char) : Option (Forest × List Char) :=
  match depth with
  | 0 => none
  | depth + 1 =>
    let (before, rest) := readUntil '<' chars
    match readStartTag rest with
    | none => some (text before, rest)
    | some ((tag, props), rest) =>
      match expect "/>" rest with
      | some rest => do
        let (behind, rest) ← readFront depth rest
        return (closed before tag props behind, rest)
      | none => do
        let rest ← expect ">" rest
        let (children, rest) ← readFront depth rest
        let rest ← expect (endTag tag) rest
        let (behind, rest) ← readFront depth rest
        return (paired before tag props children behind, rest)

/-- The forest that a whole string is the HTML of. -/
def read (html : String) : Option Forest :=
  match readFront (html.length + 1) html.toList with
  | some (forest, []) => some forest
  | _ => none

/-! ### Reading forests -/

variable {encoder : Encoder}

/-- A start tag stops a text. -/
theorem stops_startTag (tag : String) (properties : Option Props) (rest : List Char) :
  Stops (· != '<') ((startTag encoder tag properties).toList ++ rest)
  := by
  simp [Stops, startTag]

/-- An end tag stops a text and is no start tag. -/
theorem stops_endTag (tag : String) (rest : List Char) :
  Stops (· != '<') ((endTag tag).toList ++ rest)
    ∧ readStartTag ((endTag tag).toList ++ rest) = none
  := by
  constructor
  · simp [Stops, endTag]
  · simp [endTag, readStartTag, expect, readName, isNameChar]

/-- A closing bracket stops the names and the attributes in front of it. -/
theorem stops_bracket {bracket : String} (hbracket : bracket = "/>" ∨ bracket = ">")
    (rest : List Char) :
  Stops isNameChar (bracket.toList ++ rest) ∧ readAssignment (bracket.toList ++ rest) = none
  := by
  obtain rfl | rfl := hbracket
  all_goals
    constructor
    · simp [Stops, isNameChar]
    · simp [readAssignment, expect]

/-- A forest is read off its HTML up to the end or an end tag. -/
theorem readFront_htmlWith (hencoder : encoder.Lawful) {forest : Forest}
    (hforest : forest.WellNamed) {rest : List Char} (hstops : Stops (· != '<') rest)
    (hrest : readStartTag rest = none) {depth : Nat}
    (hdepth : (forest.htmlWith encoder).length < depth) :
  readFront depth ((forest.htmlWith encoder).toList ++ rest) = some (forest, rest)
  := by
  induction forest generalizing rest depth with
  | text s =>
    obtain _ | depth := depth
    · simp at hdepth
    · rw [htmlWith, readFront, readUntil_text hencoder s hstops]
      simp [hrest]
  | closed before tag props behind ih =>
    obtain _ | depth := depth
    · simp at hdepth
    · obtain ⟨htag, hprops, hbehind⟩ := hforest
      have hlt : (behind.htmlWith encoder).length < depth := by
        have hpos := length_startTag_pos encoder tag (some props)
        simp only [htmlWith, String.length_append] at hdepth
        omega
      obtain ⟨hname, hassignment⟩ :=
        stops_bracket (.inl rfl) ((behind.htmlWith encoder).toList ++ rest)
      simp only [htmlWith, String.toList_append, List.append_assoc]
      rw [readFront, readUntil_text hencoder before (stops_startTag tag (some props) _)]
      simp only [readStartTag_startTag hencoder htag hprops hname hassignment, expect_append,
        ih hbehind hstops hrest hlt]
      rfl
  | paired before tag props children behind ihchildren ihbehind =>
    obtain _ | depth := depth
    · simp at hdepth
    · obtain ⟨htag, hprops, hchildren, hbehind⟩ := hforest
      have hlt : (children.htmlWith encoder).length < depth
          ∧ (behind.htmlWith encoder).length < depth := by
        have hpos := length_startTag_pos encoder tag (some props)
        simp only [htmlWith, String.length_append] at hdepth
        omega
      -- The children are read up to the end tag, and what is behind it up to the rest.
      obtain ⟨hend, hendTag⟩ := stops_endTag tag ((behind.htmlWith encoder).toList ++ rest)
      obtain ⟨hname, hassignment⟩ := stops_bracket (.inr rfl)
        ((children.htmlWith encoder).toList
          ++ ((endTag tag).toList ++ ((behind.htmlWith encoder).toList ++ rest)))
      simp only [htmlWith, String.toList_append, List.append_assoc]
      rw [readFront, readUntil_text hencoder before (stops_startTag tag (some props) _)]
      simp only [readStartTag_startTag hencoder htag hprops hname hassignment, expect_append,
        expect_closingBracket, Option.bind_eq_bind, Option.bind_some,
        ihchildren hchildren hend hendTag hlt.1, ihbehind hbehind hstops hrest hlt.2]
      rfl

/-- A forest with names is read off its HTML. -/
theorem read_htmlWith (hencoder : encoder.Lawful) {forest : Forest}
    (hforest : forest.WellNamed) :
  read (forest.htmlWith encoder) = some forest
  := by
  have hstops : Stops (· != '<') [] := by
    simp [Stops]
  have hend : readStartTag [] = none := by
    simp [readStartTag, expect]
  have hread := readFront_htmlWith hencoder hforest hstops hend (Nat.lt_succ_self _)
  rw [List.append_nil] at hread
  rw [read, hread]

end Forest

/-! ### Elements -/

namespace Element

variable {encoder : Html.Encoder}

/-- With names, the HTML of an element tells its forest, and nothing else: two elements have the
same HTML exactly when they have the same forest.  Properties that are made of attributes never
have the class among them. -/
theorem html_decodable (hencoder : encoder.Lawful) :
  (∀ element : Element, element.WellNamed
      → Forest.read (element.htmlWith encoder) = some element.forest)
    ∧ (∀ a b : Element, a.WellNamed → b.WellNamed
      → (a.htmlWith encoder = b.htmlWith encoder ↔ a.forest = b.forest))
    ∧ ∀ attributes : Table String,
      Props.classAttribute ∉ (Props.ofAttributes attributes).attributes.names
  := by
  have hread : ∀ element : Element, element.WellNamed
      → Forest.read (element.htmlWith encoder) = some element.forest := by
    intro element helement
    rw [← htmlWith_forest hencoder element]
    apply Forest.read_htmlWith hencoder
    have hempty : Forest.empty.WellNamed := trivial
    apply wellNamed_forestOnto hempty helement
  refine ⟨hread, ?_, Props.classAttribute_notMem_names_ofAttributes⟩
  intro a b ha hb
  constructor
  · intro heq
    apply Option.some.inj
    rw [← hread a ha, ← hread b hb, heq]
  · intro heq
    rw [← htmlWith_forest hencoder a, ← htmlWith_forest hencoder b, heq]

/-- A mention whose text and whose attribute need entities. -/
def mention : Element :=
  .node "span"
    (some (Props.ofEntries [("class", "mention"), ("onclick", "openContact(\"bob\")")]))
    (some [.fragment [.text "<b>", .text ""], .text "&", .node "br" none none])

/-- The mention with its texts in one. -/
def joinedMention : Element :=
  .node "span"
    (some (Props.ofEntries [("class", "mention"), ("onclick", "openContact(\"bob\")")]))
    (some [.text "<b>&", .node "br" (some .empty) (some [])])

theorem mention_decodable :
  Html.Encoder.standard.Lawful ∧ mention.WellNamed ∧ joinedMention.WellNamed
    ∧ Forest.read mention.html = some mention.forest
    ∧ mention.html = joinedMention.html ∧ mention.forest = joinedMention.forest
  := by
  have hmention : mention.WellNamed := by
    decide
  have hjoined : joinedMention.WellNamed := by
    decide
  have hforest : mention.forest = joinedMention.forest := by
    decide
  obtain ⟨hread, hiff, -⟩ := html_decodable Html.Encoder.lawful_standard
  exact ⟨Html.Encoder.lawful_standard, hmention, hjoined, hread mention hmention,
    (hiff mention joinedMention hmention hjoined).mpr hforest, hforest⟩

end Element

end RichText
