import RichText.Proofs.Tags

/-!
# The text of HTML

HTML without its tags, and with the entities of texts resolved, is a text.  For the HTML of an
element it is the text of the element: what a scanner finds outside tags are the characters of the
encoded texts, one text behind the other, and an encoded text is resolved to the text, whatever
entities the text itself seems to contain.
-/

namespace RichText

namespace Html

/-! ### Without tags and entities -/

/-- The character of a token that is not a tag. -/
def Token.char? : Token → Option Char
  | .char c => some c
  | .tag _ => none

/-- HTML with all tags deleted. -/
def stripTags (html : String) : String :=
  String.ofList ((Scanner.outside.run html.toList).2.filterMap Token.char?)

/-- Characters with the entities of texts resolved. -/
def resolve : List Char → List Char
  | '&' :: 'l' :: 't' :: ';' :: rest => '<' :: resolve rest
  | '&' :: 'g' :: 't' :: ';' :: rest => '>' :: resolve rest
  | '&' :: 'a' :: 'm' :: 'p' :: ';' :: rest => '&' :: resolve rest
  | c :: rest => c :: resolve rest
  | [] => []

/-- The text of HTML: all tags are deleted, and the entities in what remains are resolved. -/
def plainText (html : String) : String := String.ofList (resolve (stripTags html).toList)

example : plainText "a<p title=\"x > y\">&lt;b&gt;<br/>&amp;lt;</p>" = "a<b>&lt;" := by decide

theorem resolve_entity {c : Char} (hc : c ∈ Encoder.textMarkup) (rest : List Char) :
  resolve (entity c ++ rest) = c :: resolve rest
  := by
  simp only [Encoder.textMarkup, List.mem_cons, List.not_mem_nil, or_false] at hc
  obtain rfl | rfl | rfl := hc <;> rfl

theorem resolve_cons {c : Char} (hc : c ∉ Encoder.textMarkup) (rest : List Char) :
  resolve (c :: rest) = c :: resolve rest
  := by
  have hne : c ≠ '&' := by
    rintro rfl
    exact hc (by decide)
  rw [resolve] <;> simp [hne]

/-- HTML has the text `s` if the characters outside its tags are those of the encoded `s`. -/
theorem plainText_of_finds {html s : String} {tokens : List Token}
    (hfinds : Scanner.outside.Finds html.toList .outside tokens)
    (htokens : tokens.filterMap Token.char? = (escape Encoder.textMarkup s).toList) :
  plainText html = s
  := by
  rw [plainText, stripTags, hfinds, htokens, String.ofList_toList]
  apply decode_escape rfl
  · intro c hc
    apply resolve_entity hc
  · intro c hc
    apply resolve_cons hc

end Html

/-! ### The text of elements -/

namespace Element

open Html

/-- The text of a list of elements is that of its members. -/
theorem textContentAll_eq_join (elements : List Element) :
  textContentAll elements = String.join (elements.map textContent)
  := by
  induction elements with
  | nil => rfl
  | cons child rest ih => rw [textContentAll, List.map_cons, String.join_cons, ih]

/-- An element without children has only tags. -/
theorem char?_childlessTokens (tag : String) (props : Option Props) :
  (childlessTokens tag props).filterMap Token.char? = []
  := by
  rw [childlessTokens]
  split <;> rfl

variable {encoder : Encoder}

mutual

/-- The characters among the tokens of an element are those of its encoded text. -/
theorem char?_tokens (htext : encoder.text = escape Encoder.textMarkup) :
    ∀ element : Element, (element.tokens encoder).filterMap Token.char?
      = (escape Encoder.textMarkup element.textContent).toList
  | .text s => by
    have hsome : Token.char? ∘ Token.char = some := rfl
    rw [tokens, textContent, htext, List.filterMap_map, hsome, List.filterMap_some]
  | .fragment children => char?_tokensAll htext children
  | .node tag props none => char?_childlessTokens tag props
  | .node tag props (some []) => char?_childlessTokens tag props
  | .node tag props (some (child :: rest)) => by
    rw [tokens, textContent, List.cons_append, List.filterMap_cons_none rfl, List.filterMap_append]
    apply (List.append_nil _).trans
    apply char?_tokensAll htext (child :: rest)

/-- The characters among the tokens of elements are those of their encoded text. -/
theorem char?_tokensAll (htext : encoder.text = escape Encoder.textMarkup) :
    ∀ elements : List Element, (tokensAll encoder elements).filterMap Token.char?
      = (escape Encoder.textMarkup (textContentAll elements)).toList
  | [] => rfl
  | child :: rest => by
    rw [tokensAll, textContentAll, List.filterMap_append, char?_tokens htext child,
      char?_tokensAll htext rest, escape_append, String.toList_append]

end

/-- If no tag and no name of an attribute has an angle bracket or a double quote, the HTML of an
element has the text of the element, and that of elements has their texts, joined.  An encoder need
only put entities for the markup characters of texts, and leave no double quote in values. -/
theorem plainText_html (htext : encoder.text = escape Encoder.textMarkup)
    (hvalue : ∀ s, ∀ c ∈ (encoder.value s).toList, c ≠ '\"') :
  (∀ element : Element, AllNames IsInert element.tags →
      plainText (element.htmlWith encoder) = element.textContent)
    ∧ ∀ elements : List Element, AllNames IsInert (tagsAll elements) →
      plainText (htmlAllWith encoder elements) = String.join (elements.map textContent)
  := by
  have hencoder := Encoder.tight_of_text_eq htext hvalue
  constructor
  · intro element hnames
    apply plainText_of_finds (finds_htmlWith hencoder element hnames)
    apply char?_tokens htext
  · intro elements hnames
    rw [← textContentAll_eq_join]
    apply plainText_of_finds (finds_htmlAllWith hencoder elements hnames)
    apply char?_tokensAll htext

/-- A paragraph with values that look like tags and a text that looks like entities. -/
def lookalike : Element :=
  node "p" (some ⟨some "a > b", Table.ofList [("title", "\"</p>&lt;")]⟩) (some
    [text "&lt;b&gt; <i>", fragment [create "br" none [], node "em" none (some [])], text "&"])

theorem plainText_lookalike :
  AllNames IsInert lookalike.tags
    ∧ lookalike.html = "<p class=\"a &gt; b\" title=\"&quot;&lt;/p&gt;&amp;lt;\">"
      ++ "&amp;lt;b&amp;gt; &lt;i&gt;<br/><em></em>&amp;</p>"
    ∧ plainText lookalike.html = "&lt;b&gt; <i>&"
    ∧ plainText (htmlAll [lookalike, text "<"]) = "&lt;b&gt; <i>&<"
  := by
  have hnames : AllNames IsInert lookalike.tags := by
    decide
  have hboth : AllNames IsInert (tagsAll [lookalike, text "<"]) := by
    decide
  obtain ⟨hone, hall⟩ := plainText_html Encoder.lawful_standard.text_eq
    Encoder.lawful_standard.tight.ne_of_mem_value
  refine ⟨hnames, by decide, ?_, ?_⟩
  · rw [html, hone lookalike hnames]
    decide
  · rw [htmlAll, hall [lookalike, text "<"] hboth]
    decide

end Element

end RichText
