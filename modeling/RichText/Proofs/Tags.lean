import RichText.Proofs.Decoding

/-!
# The tags of HTML

A `Scanner` goes through HTML from left to right.  It takes for a tag what stands from an opening
angle bracket to the first closing one outside double quotes, and every other character for text.
It does not match tags, so what it finds depends on no tree.  Through the HTML of an element it
stays in step with the element: an encoded text holds no bracket that begins a tag, and an encoded
value no double quote that ends it.  So the tags of the HTML are those of the element.
-/

namespace RichText

namespace Html

/-! ### Scanning -/

/-- What a scanner finds: a character of a text, or a tag, by its characters outside double
quotes. -/
inductive Token where
  | char (c : Char)
  | tag (inside : List Char)
deriving DecidableEq

/-- Where a scanner is: between tags, in a tag, or between double quotes in a tag, with the
characters of the tag outside double quotes so far. -/
inductive Scanner where
  | outside
  | inTag (inside : List Char)
  | inValue (inside : List Char)
deriving DecidableEq

namespace Scanner

/-- Where a scanner is behind a character, and what it has found with it. -/
def step : Scanner → Char → Scanner × List Token
  | outside, c => if c = '<' then (inTag [], []) else (outside, [.char c])
  | inTag inside, c =>
    if c = '>' then (outside, [.tag inside])
    else if c = '\"' then (inValue inside, [])
    else (inTag (inside ++ [c]), [])
  | inValue inside, c => if c = '\"' then (inTag inside, []) else (inValue inside, [])

/-- Where a scanner is behind a text, and what it has found in it. -/
def run (scanner : Scanner) : List Char → Scanner × List Token
  | [] => (scanner, [])
  | c :: rest =>
    let (scanner, found) := scanner.step c
    let (scanner, others) := run scanner rest
    (scanner, found ++ others)

/-- Going through a text comes from `scanner` to `scanner'` and finds `tokens`. -/
def Finds (scanner : Scanner) (chars : List Char) (scanner' : Scanner) (tokens : List Token) :
    Prop :=
  scanner.run chars = (scanner', tokens)

variable {scanner scanner' scanner'' : Scanner} {front rest : List Char}
  {tokens tokens' : List Token}

theorem Finds.nil (scanner : Scanner) :
  scanner.Finds [] scanner []
  := rfl

/-- A text is gone through from its first character. -/
theorem run_cons (scanner : Scanner) (c : Char) (rest : List Char) :
  scanner.run (c :: rest)
    = (((scanner.step c).1.run rest).1, (scanner.step c).2 ++ ((scanner.step c).1.run rest).2)
  := rfl

/-- One text behind the other is gone through in two runs. -/
theorem Finds.append (hfront : scanner.Finds front scanner' tokens)
    (hrest : scanner'.Finds rest scanner'' tokens') :
  scanner.Finds (front ++ rest) scanner'' (tokens ++ tokens')
  := by
  induction front generalizing scanner tokens with
  | nil =>
    obtain ⟨rfl, rfl⟩ := Prod.mk.inj hfront
    exact hrest
  | cons c front ih =>
    rw [Finds, run_cons, Prod.mk.injEq] at hfront
    obtain ⟨hscanner, rfl⟩ := hfront
    have hfront : (scanner.step c).1.Finds front scanner' ((scanner.step c).1.run front).2 := by
      rw [Finds, ← hscanner]
    have hbehind := ih hfront
    rw [Finds] at hbehind ⊢
    rw [List.cons_append, run_cons, hbehind, List.append_assoc]

/-- Characters behind which a scanner is where it was are gone through one by one. -/
theorem finds_of_step {found : Char → List Token} {chars : List Char}
    (h : ∀ c ∈ chars, scanner.step c = (scanner, found c)) :
  scanner.Finds chars scanner (chars.flatMap found)
  := by
  induction chars with
  | nil => rfl
  | cons c rest ih =>
    obtain ⟨hc, hrest⟩ := List.forall_mem_cons.mp h
    have hbehind := ih hrest
    rw [Finds] at hbehind ⊢
    rw [run_cons, hc, hbehind, List.flatMap_cons]

/-- Between tags, characters other than the opening bracket are those of a text. -/
theorem finds_text {chars : List Char} (h : ∀ c ∈ chars, c ≠ '<') :
  outside.Finds chars outside (chars.map .char)
  := by
  rw [List.map_eq_flatMap]
  apply finds_of_step
  intro c hc
  rw [step, if_neg (h c hc)]

/-- Between double quotes, characters other than the double quote are passed over. -/
theorem finds_value (inside : List Char) {chars : List Char} (h : ∀ c ∈ chars, c ≠ '\"') :
  (inValue inside).Finds chars (inValue inside) []
  := by
  have hnone : chars.flatMap (fun _ => ([] : List Token)) = [] := by
    simp
  rw [← hnone]
  apply finds_of_step
  intro c hc
  rw [step, if_neg (h c hc)]

/-- In a tag, characters other than the closing bracket and the double quote are kept. -/
theorem finds_inside (inside : List Char) {chars : List Char}
    (h : ∀ c ∈ chars, c ≠ '>' ∧ c ≠ '\"') :
  (inTag inside).Finds chars (inTag (inside ++ chars)) []
  := by
  induction chars generalizing inside with
  | nil => simp [Finds, run]
  | cons c rest ih =>
    obtain ⟨⟨hbracket, hquote⟩, hrest⟩ := List.forall_mem_cons.mp h
    have hbehind := ih (inside ++ [c]) hrest
    rw [Finds] at hbehind ⊢
    simp [run, step, hbracket, hquote, hbehind]

/-- A double quote in a tag begins a value. -/
theorem finds_quote_inTag (inside : List Char) :
  (inTag inside).Finds ['\"'] (inValue inside) []
  := rfl

/-- A double quote in a value ends it. -/
theorem finds_quote_inValue (inside : List Char) :
  (inValue inside).Finds ['\"'] (inTag inside) []
  := rfl

/-- A closing bracket ends a tag. -/
theorem finds_bracket (inside : List Char) :
  (inTag inside).Finds ['>'] outside [.tag inside]
  := rfl

end Scanner

/-! ### Tags -/

/-- A tag, with the names of its attributes. -/
inductive Tag where
  | opening (name : String) (attributes : List String)
  | closing (name : String)
  | selfClosing (name : String) (attributes : List String)
deriving DecidableEq

namespace Tag

/-- The name of a tag and the names of its attributes. -/
def names : Tag → List String
  | opening name attributes => name :: attributes
  | closing name => [name]
  | selfClosing name attributes => name :: attributes

/-- The first word of a tag, and what stands in front of the equality signs of the others. -/
def words (inside : List Char) : String × List String :=
  match inside.splitOn ' ' with
  | [] => ("", [])
  | name :: assignments =>
    (String.ofList name, assignments.map fun chars => String.ofList (chars.takeWhile (· != '=')))

/-- The tag with these characters outside double quotes: one that begins with a slash is closing,
and one that ends with a slash is closed in itself. -/
def ofInside (inside : List Char) : Tag :=
  if inside.head? = some '/' then .closing (String.ofList inside.tail)
  else if inside.getLast? = some '/' then
    .selfClosing (words inside.dropLast).1 (words inside.dropLast).2
  else .opening (words inside).1 (words inside).2

/-- The tag of a token, if it is one. -/
def ofToken : Token → Option Tag
  | .char _ => none
  | .tag inside => some (ofInside inside)

end Tag

/-- All names in a list of tags have the property `P`. -/
def AllNames (P : String → Prop) (tags : List Tag) : Prop :=
  ∀ tag ∈ tags, ∀ name ∈ tag.names, P name

instance {P : String → Prop} [DecidablePred P] (tags : List Tag) : Decidable (AllNames P tags) :=
  inferInstanceAs (Decidable (∀ tag ∈ tags, ∀ name ∈ tag.names, P name))

theorem allNames_append {P : String → Prop} {front rest : List Tag} :
  AllNames P (front ++ rest) ↔ AllNames P front ∧ AllNames P rest
  := List.forall_mem_append

/-- The tags of HTML, from left to right. -/
def tags (html : String) : List Tag :=
  (Scanner.outside.run html.toList).2.filterMap Tag.ofToken

example :
  tags "a<p class=\"x > y\">&lt;b&gt;<br/></p>" = [.opening "p" ["class"], .selfClosing "br" [],
    .closing "p"]
  := by decide

/-! ### Names in tags -/

/-- A name that does not begin or end a tag or a value. -/
def IsInert (name : String) : Prop := ∀ c ∈ name.toList, c ≠ '<' ∧ c ≠ '>' ∧ c ≠ '\"'

instance : DecidablePred IsInert := fun name =>
  List.decidableBAll (fun c => c ≠ '<' ∧ c ≠ '>' ∧ c ≠ '\"') name.toList

/-- A character that is none of names does not stand in one. -/
theorem IsName.ne {name : String} (h : IsName name) {c c' : Char} (hc : c ∈ name.toList)
    (hc' : Html.isNameChar c' = false) :
  c ≠ c'
  := by
  rintro rfl
  rw [h.isNameChar c hc] at hc'
  simp at hc'

theorem IsName.isInert {name : String} (h : IsName name) :
  IsInert name
  := by
  intro c hc
  exact ⟨h.ne hc (by decide), h.ne hc (by decide), h.ne hc (by decide)⟩

/-- The names of the attributes of properties, the class first. -/
def attributeNames (properties : Option Props) : List String :=
  (properties.getD .empty).entries.map (·.1)

/-- The characters of attributes outside double quotes. -/
def namesText (names : List String) : List Char :=
  names.flatMap fun name => ' ' :: (name.toList ++ ['='])

/-- The characters of a start tag outside double quotes. -/
def startText (tag : String) (properties : Option Props) : List Char :=
  tag.toList ++ namesText (attributeNames properties)

/-- Without a slash in the names there is none in a start tag. -/
theorem ne_slash_of_mem_startText {tag : String} {properties : Option Props} (htag : IsName tag)
    (hnames : ∀ name ∈ attributeNames properties, IsName name) :
  ∀ c ∈ startText tag properties, c ≠ '/'
  := by
  intro c hc
  rw [startText, namesText, List.mem_append, List.mem_flatMap] at hc
  obtain hc | ⟨name, hname, hc⟩ := hc
  · exact htag.ne hc (by decide)
  · simp only [List.mem_cons, List.mem_append, List.not_mem_nil, or_false] at hc
    obtain rfl | hc | rfl := hc
    · decide
    · exact (hnames name hname).ne hc (by decide)
    · decide

/-- The words of a start tag are separated by blanks. -/
theorem append_namesText (word : List Char) (names : List String) :
  word ++ namesText names
    = [' '].intercalate (word :: names.map fun name => name.toList ++ ['='])
  := by
  induction names generalizing word with
  | nil => simp [namesText]
  | cons name rest ih =>
    have hrest := ih (name.toList ++ ['='])
    rw [namesText] at hrest ⊢
    rw [List.map_cons, List.intercalate_cons_cons, ← hrest]
    simp

/-- The words of a start tag are the tag and the names of the attributes. -/
theorem words_startText {tag : String} {properties : Option Props} (htag : IsName tag)
    (hnames : ∀ name ∈ attributeNames properties, IsName name) :
  Tag.words (startText tag properties) = (tag, attributeNames properties)
  := by
  have hblank : ∀ word ∈ tag.toList :: (attributeNames properties).map
      fun name => name.toList ++ ['='], ' ' ∉ word := by
    intro word hword hmem
    obtain rfl | hword := List.mem_cons.mp hword
    · exact htag.ne hmem (by decide) rfl
    · obtain ⟨name, hname, rfl⟩ := List.mem_map.mp hword
      obtain hmem | hmem := List.mem_append.mp hmem
      · exact (hnames name hname).ne hmem (by decide) rfl
      · simp at hmem
  have htake : ∀ name ∈ attributeNames properties,
      String.ofList ((name.toList ++ ['=']).takeWhile (· != '=')) = name := by
    intro name hname
    rw [List.takeWhile_append_of_pos]
    · simp
    · intro c hc
      exact bne_iff_ne.mpr ((hnames name hname).ne hc (by decide))
  have hwords : (startText tag properties).splitOn ' '
      = tag.toList :: (attributeNames properties).map fun name => name.toList ++ ['='] := by
    rw [startText, append_namesText, List.splitOn_intercalate ' ' hblank (by simp)]
  simp only [Tag.words, hwords, List.map_map, String.ofList_toList, Prod.mk.injEq, true_and]
  apply (List.map_congr_left htake).trans
  apply List.map_id'

theorem ofInside_opening {tag : String} {properties : Option Props} (htag : IsName tag)
    (hnames : ∀ name ∈ attributeNames properties, IsName name) :
  Tag.ofInside (startText tag properties) = .opening tag (attributeNames properties)
  := by
  have hslash := ne_slash_of_mem_startText htag hnames
  have hhead : (startText tag properties).head? ≠ some '/' := by
    intro hhead
    exact hslash '/' (List.mem_of_head? hhead) rfl
  have hlast : (startText tag properties).getLast? ≠ some '/' := by
    intro hlast
    exact hslash '/' (List.mem_of_getLast? hlast) rfl
  rw [Tag.ofInside, if_neg hhead, if_neg hlast, words_startText htag hnames]

theorem ofInside_selfClosing {tag : String} {properties : Option Props} (htag : IsName tag)
    (hnames : ∀ name ∈ attributeNames properties, IsName name) :
  Tag.ofInside (startText tag properties ++ ['/'])
    = .selfClosing tag (attributeNames properties)
  := by
  have hhead : (startText tag properties ++ ['/']).head? ≠ some '/' := by
    cases hchars : tag.toList with
    | nil => exact absurd (String.toList_eq_nil_iff.mp hchars) htag.1
    | cons c rest =>
      have hc : c ∈ tag.toList := by
        simp [hchars]
      simpa [startText, hchars] using htag.ne hc (by decide)
  rw [Tag.ofInside, if_neg hhead, if_pos (by simp), List.dropLast_concat,
    words_startText htag hnames]

theorem ofInside_closing (tag : String) :
  Tag.ofInside ('/' :: tag.toList) = .closing tag
  := by
  simp [Tag.ofInside]

/-! ### Tokens of the pieces of HTML -/

open Scanner

variable {encoder : Encoder}

/-- What a scanner relies on of an encoder: no encoded text has an opening bracket, which would begin
a tag, and no encoded value a double quote, which would end the value. -/
structure Encoder.Tight (encoder : Encoder) : Prop where
  ne_of_mem_text : ∀ s, ∀ c ∈ (encoder.text s).toList, c ≠ '<'
  ne_of_mem_value : ∀ s, ∀ c ∈ (encoder.value s).toList, c ≠ '\"'

/-- Texts with entities for all markup characters have no opening bracket. -/
theorem Encoder.tight_of_text_eq (htext : encoder.text = escape Encoder.textMarkup)
    (hvalue : ∀ s, ∀ c ∈ (encoder.value s).toList, c ≠ '\"') :
  encoder.Tight
  where
  ne_of_mem_text := by
    rw [htext]
    intro s c hc
    apply bne_iff_ne.mp
    apply ne_of_mem_escape (by decide) (by decide) (by decide) c hc
  ne_of_mem_value := hvalue

theorem Encoder.Lawful.tight (hencoder : encoder.Lawful) :
  encoder.Tight
  := by
  obtain ⟨marked, -, hquote, hmarked, hvalue⟩ := hencoder.value_eq
  apply Encoder.tight_of_text_eq hencoder.text_eq
  rw [hvalue]
  intro s c hc
  apply bne_iff_ne.mp
  apply ne_of_mem_escape hmarked hquote (by decide) c hc

/-- Of an attribute a scanner keeps the name, and passes over the value. -/
theorem finds_assignment (hencoder : encoder.Tight) (inside : List Char) {name : String}
    (hname : IsInert name) (value : String) :
  (inTag inside).Finds (assignment encoder name value).toList
    (inTag (inside ++ ' ' :: (name.toList ++ ['=']))) []
  := by
  have hfront : ∀ c ∈ ' ' :: (name.toList ++ ['=']), c ≠ '>' ∧ c ≠ '\"' := by
    intro c hc
    simp only [List.mem_cons, List.mem_append, List.not_mem_nil, or_false] at hc
    obtain rfl | hc | rfl := hc
    · decide
    · exact (hname c hc).2
    · decide
  have hfinds := (finds_inside inside hfront).append ((finds_quote_inTag _).append
    ((finds_value _ (hencoder.ne_of_mem_value value)).append (finds_quote_inValue _)))
  simpa [assignment] using hfinds

/-- Of attributes a scanner keeps the names, and passes over the values. -/
theorem finds_assignments (hencoder : encoder.Tight) {entries : List (String × String)}
    (hnames : ∀ name ∈ entries.map (·.1), IsInert name) (inside : List Char) :
  (inTag inside).Finds (assignments encoder entries).toList
    (inTag (inside ++ namesText (entries.map (·.1)))) []
  := by
  induction entries generalizing inside with
  | nil => simp [Finds, run, assignments, namesText]
  | cons entry rest ih =>
    obtain ⟨hentry, hrest⟩ := List.forall_mem_cons.mp hnames
    have hfinds := (finds_assignment hencoder inside hentry entry.2).append (ih hrest _)
    simpa [assignments, namesText] using hfinds

/-- A start tag is kept up to its closing bracket, without the values. -/
theorem finds_startTag (hencoder : encoder.Tight) {tag : String} (htag : IsInert tag)
    {properties : Option Props} (hnames : ∀ name ∈ attributeNames properties, IsInert name) :
  outside.Finds (startTag encoder tag properties).toList (inTag (startText tag properties)) []
  := by
  have hbracket : outside.Finds ['<'] (inTag []) [] := rfl
  have hfinds := hbracket.append ((finds_inside [] fun c hc => (htag c hc).2).append
    (finds_assignments hencoder hnames _))
  simpa [startTag, startText, props_eq_assignments, attributeNames] using hfinds

/-- An end tag is a token. -/
theorem finds_endTag {tag : String} (htag : IsInert tag) :
  outside.Finds (endTag tag).toList outside [.tag ('/' :: tag.toList)]
  := by
  have hbracket : outside.Finds ['<', '/'] (inTag ['/']) [] := rfl
  have hfinds := hbracket.append ((finds_inside ['/'] fun c hc => (htag c hc).2).append
    (finds_bracket _))
  simpa [endTag] using hfinds

/-- The tokens of an element without children: a void one is closed in itself. -/
def childlessTokens (tag : String) (properties : Option Props) : List Token :=
  if tag ∈ voidTags then [.tag (startText tag properties ++ ['/'])]
  else [.tag (startText tag properties), .tag ('/' :: tag.toList)]

/-- An element without children is gone through as its tokens. -/
theorem finds_childless (hencoder : encoder.Tight) {tag : String} (htag : IsInert tag)
    {properties : Option Props} (hnames : ∀ name ∈ attributeNames properties, IsInert name) :
  outside.Finds (childless encoder tag properties).toList outside (childlessTokens tag properties)
  := by
  have hstart := finds_startTag hencoder htag hnames
  rw [childless, childlessTokens]
  split
  · have hslash : (inTag (startText tag properties)).Finds ['/', '>'] outside
        [.tag (startText tag properties ++ ['/'])] := rfl
    have hfinds := hstart.append hslash
    simpa using hfinds
  · have hfinds := hstart.append ((finds_bracket _).append (finds_endTag htag))
    simpa using hfinds

end Html

/-! ### The tags of elements -/

namespace Element

open Html Scanner

mutual

/-- The tokens of an element: the characters of its encoded texts, and its tags. -/
def tokens (encoder : Encoder) : Element → List Token
  | .text s => (encoder.text s).toList.map .char
  | .fragment children => tokensAll encoder children
  | .node tag props none => childlessTokens tag props
  | .node tag props (some []) => childlessTokens tag props
  | .node tag props (some (child :: rest)) =>
    .tag (startText tag props) :: (tokens encoder child ++ tokensAll encoder rest)
      ++ [.tag ('/' :: tag.toList)]

/-- The tokens of a list of elements. -/
def tokensAll (encoder : Encoder) : List Element → List Token
  | [] => []
  | child :: rest => tokens encoder child ++ tokensAll encoder rest

end

/-- The tags of an element without children. -/
def childlessTags (tag : String) (props : Option Props) : List Tag :=
  if tag ∈ voidTags then [.selfClosing tag (attributeNames props)]
  else [.opening tag (attributeNames props), .closing tag]

mutual

/-- The tags of an element, from left to right. -/
def tags : Element → List Tag
  | .text _ => []
  | .fragment children => tagsAll children
  | .node tag props none => childlessTags tag props
  | .node tag props (some []) => childlessTags tag props
  | .node tag props (some (child :: rest)) =>
    .opening tag (attributeNames props) :: (tags child ++ tagsAll rest) ++ [.closing tag]

/-- The tags of a list of elements, from left to right. -/
def tagsAll : List Element → List Tag
  | [] => []
  | child :: rest => tags child ++ tagsAll rest

end

variable {encoder : Encoder} {P : String → Prop}

theorem allNames_childlessTags {tag : String} {props : Option Props} :
  AllNames P (childlessTags tag props) ↔ P tag ∧ ∀ name ∈ attributeNames props, P name
  := by
  rw [childlessTags]
  split
  · simp [AllNames, Tag.names]
  · simp only [AllNames, Tag.names, List.mem_cons, List.not_mem_nil, or_false, forall_eq_or_imp,
      forall_eq, and_iff_left_iff_imp]
    exact And.left

theorem allNames_paired {tag : String} {attributes : List String} {inner : List Tag} :
  AllNames P (.opening tag attributes :: inner ++ [.closing tag])
    ↔ (P tag ∧ ∀ name ∈ attributes, P name) ∧ AllNames P inner
  := by
  simp only [AllNames, List.cons_append, List.forall_mem_cons, List.forall_mem_append, Tag.names,
    List.not_mem_nil, false_imp_iff, implies_true, and_true]
  constructor
  · rintro ⟨htag, hinner, -⟩
    exact ⟨htag, hinner⟩
  · rintro ⟨htag, hinner⟩
    exact ⟨htag, hinner, htag.1⟩

mutual

/-- A scanner finds the tokens of an element in its HTML, and comes out between tags. -/
theorem finds_htmlWith (hencoder : encoder.Tight) :
    ∀ element : Element, AllNames IsInert element.tags →
      outside.Finds (element.htmlWith encoder).toList outside (element.tokens encoder)
  | .text s, _ => by
    rw [htmlWith, tokens]
    apply finds_text (hencoder.ne_of_mem_text s)
  | .fragment children, h => by
    rw [htmlWith, tokens]
    apply finds_htmlAllWith hencoder children h
  | .node tag props none, h => by
    obtain ⟨htag, hprops⟩ := allNames_childlessTags.mp h
    rw [htmlWith, tokens]
    apply finds_childless hencoder htag hprops
  | .node tag props (some []), h => by
    obtain ⟨htag, hprops⟩ := allNames_childlessTags.mp h
    rw [htmlWith, tokens]
    apply finds_childless hencoder htag hprops
  | .node tag props (some (child :: rest)), h => by
    obtain ⟨⟨htag, hprops⟩, hinner⟩ := allNames_paired.mp h
    obtain ⟨hchild, hrest⟩ := allNames_append.mp hinner
    have hstart := (finds_startTag hencoder htag hprops).append (finds_bracket _)
    have hinside := (finds_htmlWith hencoder child hchild).append
      (finds_htmlAllWith hencoder rest hrest)
    have hfinds := hstart.append (hinside.append (finds_endTag htag))
    rw [htmlWith, tokens]
    simpa using hfinds

/-- A scanner finds the tokens of elements in their HTML, and comes out between tags. -/
theorem finds_htmlAllWith (hencoder : encoder.Tight) :
    ∀ elements : List Element, AllNames IsInert (tagsAll elements) →
      outside.Finds (htmlAllWith encoder elements).toList outside (tokensAll encoder elements)
  | [], _ => rfl
  | child :: rest, h => by
    obtain ⟨hchild, hrest⟩ := allNames_append.mp h
    have hfinds := (finds_htmlWith hencoder child hchild).append
      (finds_htmlAllWith hencoder rest hrest)
    rw [htmlAllWith, tokensAll]
    simpa using hfinds

end

theorem ofToken_childlessTokens {tag : String} {props : Option Props} (htag : IsName tag)
    (hprops : ∀ name ∈ attributeNames props, IsName name) :
  (childlessTokens tag props).filterMap Tag.ofToken = childlessTags tag props
  := by
  rw [childlessTokens, childlessTags]
  split
  · simp [Tag.ofToken, ofInside_selfClosing htag hprops]
  · simp [Tag.ofToken, ofInside_opening htag hprops, ofInside_closing]

mutual

/-- The tags among the tokens of an element are its tags. -/
theorem ofToken_tokens :
    ∀ element : Element, AllNames IsName element.tags →
      (element.tokens encoder).filterMap Tag.ofToken = element.tags
  | .text s, _ => by
    rw [tokens, tags, List.filterMap_map, List.filterMap_eq_nil_iff]
    intro c _
    rfl
  | .fragment children, h => ofToken_tokensAll children h
  | .node tag props none, h => by
    obtain ⟨htag, hprops⟩ := allNames_childlessTags.mp h
    apply ofToken_childlessTokens htag hprops
  | .node tag props (some []), h => by
    obtain ⟨htag, hprops⟩ := allNames_childlessTags.mp h
    apply ofToken_childlessTokens htag hprops
  | .node tag props (some (child :: rest)), h => by
    obtain ⟨⟨htag, hprops⟩, hinner⟩ := allNames_paired.mp h
    obtain ⟨hchild, hrest⟩ := allNames_append.mp hinner
    rw [tokens, tags]
    simp [Tag.ofToken, ofInside_opening htag hprops, ofInside_closing,
      ofToken_tokens child hchild, ofToken_tokensAll rest hrest]

/-- The tags among the tokens of elements are their tags. -/
theorem ofToken_tokensAll :
    ∀ elements : List Element, AllNames IsName (tagsAll elements) →
      (tokensAll encoder elements).filterMap Tag.ofToken = tagsAll elements
  | [], _ => rfl
  | child :: rest, h => by
    obtain ⟨hchild, hrest⟩ := allNames_append.mp h
    rw [tokensAll, tagsAll, List.filterMap_append, ofToken_tokens child hchild,
      ofToken_tokensAll rest hrest]

end

/-- With names, the tags of the HTML of elements are those of the elements, whatever their texts
and values are. -/
theorem tags_htmlAllWith (hencoder : encoder.Lawful) {elements : List Element}
    (hnames : AllNames IsName (tagsAll elements)) :
  Html.tags (htmlAllWith encoder elements) = tagsAll elements
  := by
  have hinert : AllNames IsInert (tagsAll elements) := by
    intro tag htag name hname
    exact (hnames tag htag name hname).isInert
  have hfinds := finds_htmlAllWith hencoder.tight elements hinert
  rw [Html.tags, hfinds]
  apply ofToken_tokensAll elements hnames

end Element

end RichText
