import RichText.Html

/-!
# Forests

A `Forest` is what siblings say besides how they are put together: texts and tags in turn, with
one text in front of every tag and one at the end, any of which may be empty.  `Element.forest`
is the forest of an element.  It flattens fragments, joins adjacent texts and drops empty ones,
and takes missing properties for empty ones.  An element has the HTML of its forest.

`Element.WellNamed` says that tags and attributes have names that can be told from the markup
around them; the forest of an element keeps them.
-/

namespace RichText

/-- Texts and tags in turn.  A tag is closed in itself or has an end tag, with children in
between. -/
inductive Forest where
  | text (s : String)
  | closed (before tag : String) (props : Props) (rest : Forest)
  | paired (before tag : String) (props : Props) (children rest : Forest)
deriving DecidableEq, Inhabited

namespace Forest

/-- The forest without texts and tags. -/
def empty : Forest := text ""

/-- The forest with `s` in front, joined to its first text. -/
def prepend (s : String) : Forest → Forest
  | text t => text (s ++ t)
  | closed before tag props rest => closed (s ++ before) tag props rest
  | paired before tag props children rest => paired (s ++ before) tag props children rest

/-- A tag without children in front of `rest`; a void one is closed in itself. -/
def childless (tag : String) (props : Props) (rest : Forest) : Forest :=
  if tag ∈ Html.voidTags then closed "" tag props rest else paired "" tag props empty rest

/-- The HTML of a forest. -/
def htmlWith (encoder : Html.Encoder) : Forest → String
  | text s => encoder.text s
  | closed before tag props rest =>
    encoder.text before ++ (Html.startTag encoder tag (some props) ++ "/>")
      ++ htmlWith encoder rest
  | paired before tag props children rest =>
    encoder.text before
      ++ (Html.startTag encoder tag (some props) ++ ">" ++ htmlWith encoder children
        ++ Html.endTag tag)
      ++ htmlWith encoder rest

end Forest

namespace Element

mutual

/-- The forest of an element in front of `rest`. -/
def forestOnto : Element → Forest → Forest
  | .text s, rest => rest.prepend s
  | .fragment children, rest => forestAllOnto children rest
  | .node tag props none, rest => Forest.childless tag (props.getD .empty) rest
  | .node tag props (some []), rest => Forest.childless tag (props.getD .empty) rest
  | .node tag props (some (child :: children)), rest =>
    .paired "" tag (props.getD .empty) (forestOnto child (forestAllOnto children .empty)) rest

/-- The forest of a list of elements in front of `rest`. -/
def forestAllOnto : List Element → Forest → Forest
  | [], rest => rest
  | child :: children, rest => forestOnto child (forestAllOnto children rest)

end

/-- The forest of an element. -/
def forest (element : Element) : Forest := element.forestOnto .empty

end Element

/-! ### Encoders -/

namespace Html

@[simp]
theorem escape_empty (marked : List Char) :
  escape marked "" = ""
  := rfl

theorem escape_append (marked : List Char) (s t : String) :
  escape marked (s ++ t) = escape marked s ++ escape marked t
  := by
  simp [escape]

/-- What is relied on of an encoder: it puts entities for all markup characters of a text, and
for the characters of a value that it marks, which are markup characters with the ampersand and
the double quote among them. -/
structure Encoder.Lawful (encoder : Encoder) : Prop where
  text_eq : encoder.text = escape Encoder.textMarkup
  value_eq : ∃ marked, '&' ∈ marked ∧ '\"' ∈ marked ∧ marked ⊆ Encoder.valueMarkup
    ∧ encoder.value = escape marked

theorem Encoder.lawful_standard :
  Encoder.standard.Lawful
  where
  text_eq := rfl
  value_eq := ⟨Encoder.valueMarkup, by decide, by decide, List.Subset.refl _, rfl⟩

/-- Missing properties are written like empty ones. -/
theorem startTag_getD (encoder : Encoder) (tag : String) (properties : Option Props) :
  startTag encoder tag (some (properties.getD .empty)) = startTag encoder tag properties
  := by
  cases properties <;> simp [startTag, props, assignments, Props.empty, Table.empty]

end Html

/-! ### The HTML of a forest -/

namespace Forest

variable {encoder : Html.Encoder}

theorem htmlWith_prepend (hencoder : encoder.Lawful) (s : String) (forest : Forest) :
  (forest.prepend s).htmlWith encoder = encoder.text s ++ forest.htmlWith encoder
  := by
  cases forest <;>
    simp [prepend, htmlWith, hencoder.text_eq, Html.escape_append, String.append_assoc]

theorem htmlWith_childless (hencoder : encoder.Lawful) (tag : String) (props : Option Props)
    (rest : Forest) :
  (childless tag (props.getD .empty) rest).htmlWith encoder
    = Html.childless encoder tag props ++ rest.htmlWith encoder
  := by
  rw [childless, Html.childless]
  split <;>
    simp [htmlWith, empty, hencoder.text_eq, Html.startTag_getD, String.append_assoc]

end Forest

namespace Element

variable {encoder : Html.Encoder}

mutual

/-- The forest of an element in front of `rest` has the HTML of both. -/
theorem htmlWith_forestOnto (hencoder : encoder.Lawful) (rest : Forest) :
  ∀ element : Element, (element.forestOnto rest).htmlWith encoder
    = element.htmlWith encoder ++ rest.htmlWith encoder
  | .text s => by
    rw [forestOnto, Forest.htmlWith_prepend hencoder, htmlWith]
  | .fragment children => by
    rw [forestOnto, htmlWith_forestAllOnto hencoder rest children, htmlWith]
  | .node tag props none => by
    rw [forestOnto, Forest.htmlWith_childless hencoder, htmlWith]
  | .node tag props (some []) => by
    rw [forestOnto, Forest.htmlWith_childless hencoder, htmlWith]
  | .node tag props (some (child :: children)) => by
    have hchildren := htmlWith_forestAllOnto hencoder .empty children
    have hchild := htmlWith_forestOnto hencoder (forestAllOnto children .empty) child
    rw [forestOnto, Forest.htmlWith, hchild, hchildren, htmlWith, Html.startTag_getD]
    simp [Forest.empty, Forest.htmlWith, hencoder.text_eq]

/-- The forest of a list of elements in front of `rest` has the HTML of both. -/
theorem htmlWith_forestAllOnto (hencoder : encoder.Lawful) (rest : Forest) :
  ∀ elements : List Element, (forestAllOnto elements rest).htmlWith encoder
    = htmlAllWith encoder elements ++ rest.htmlWith encoder
  | [] => by
    simp [forestAllOnto, htmlAllWith]
  | child :: children => by
    rw [forestAllOnto, htmlWith_forestOnto hencoder _ child,
      htmlWith_forestAllOnto hencoder rest children, htmlAllWith, String.append_assoc]

end

/-- The forest of an element has its HTML. -/
theorem htmlWith_forest (hencoder : encoder.Lawful) (element : Element) :
  element.forest.htmlWith encoder = element.htmlWith encoder
  := by
  rw [forest, htmlWith_forestOnto hencoder]
  simp [Forest.empty, Forest.htmlWith, hencoder.text_eq]

end Element

/-! ### Names -/

namespace Html

/-- The characters of names. -/
def isNameChar (c : Char) : Bool := c.isAlphanum || c ∈ ['-', '_', ':', '.']

/-- Names are not empty and have characters of names only. -/
def IsName (s : String) : Prop := s ≠ "" ∧ s.toList.all isNameChar = true
deriving Decidable

theorem IsName.isNameChar {s : String} (h : IsName s) :
  ∀ c ∈ s.toList, isNameChar c = true
  := List.all_eq_true.mp h.2

end Html

/-- The names of attributes are names, and the class is not among them. -/
def Props.WellNamed (props : Props) : Prop :=
  (∀ name ∈ props.attributes.names, Html.IsName name)
    ∧ Props.classAttribute ∉ props.attributes.names
deriving Decidable

namespace Forest

/-- All tags and all attributes of a forest have names. -/
def WellNamed : Forest → Prop
  | text _ => True
  | closed _ tag props rest => Html.IsName tag ∧ props.WellNamed ∧ WellNamed rest
  | paired _ tag props children rest =>
    Html.IsName tag ∧ props.WellNamed ∧ WellNamed children ∧ WellNamed rest

end Forest

namespace Element

mutual

/-- All tags and all attributes of an element have names, and no attribute is the class. -/
def WellNamed : Element → Prop
  | .text _ => True
  | .fragment children => WellNamedAll children
  | .node tag props none => Html.IsName tag ∧ ∀ props' ∈ props, props'.WellNamed
  | .node tag props (some children) =>
    (Html.IsName tag ∧ ∀ props' ∈ props, props'.WellNamed) ∧ WellNamedAll children

/-- All tags and all attributes of a list of elements have names, and no attribute is the
class. -/
def WellNamedAll : List Element → Prop
  | [] => True
  | child :: children => WellNamed child ∧ WellNamedAll children

end

mutual

/-- Whether an element is well-named is decided tag by tag. -/
instance decidableWellNamed : ∀ element : Element, Decidable element.WellNamed
  | .text _ => .isTrue trivial
  | .fragment children => decidableWellNamedAll children
  | .node tag props none =>
    inferInstanceAs (Decidable (Html.IsName tag ∧ ∀ props' ∈ props, props'.WellNamed))
  | .node tag props (some children) =>
    have := decidableWellNamedAll children
    inferInstanceAs (Decidable
      ((Html.IsName tag ∧ ∀ props' ∈ props, props'.WellNamed) ∧ WellNamedAll children))

instance decidableWellNamedAll : ∀ elements : List Element, Decidable (WellNamedAll elements)
  | [] => .isTrue trivial
  | child :: children =>
    have := decidableWellNamed child
    have := decidableWellNamedAll children
    inferInstanceAs (Decidable (WellNamed child ∧ WellNamedAll children))

end

theorem wellNamed_getD {props : Option Props} (h : ∀ props' ∈ props, props'.WellNamed) :
  (props.getD .empty).WellNamed
  := by
  cases props with
  | none => decide
  | some props => exact h props rfl

theorem wellNamed_childless {tag : String} {props : Option Props} {rest : Forest}
    (htag : Html.IsName tag) (hprops : ∀ props' ∈ props, props'.WellNamed)
    (hrest : rest.WellNamed) :
  (Forest.childless tag (props.getD .empty) rest).WellNamed
  := by
  rw [Forest.childless]
  split
  · exact ⟨htag, wellNamed_getD hprops, hrest⟩
  · exact ⟨htag, wellNamed_getD hprops, trivial, hrest⟩

mutual

theorem wellNamed_forestOnto {rest : Forest} (hrest : rest.WellNamed) :
  ∀ {element : Element}, element.WellNamed → (element.forestOnto rest).WellNamed
  | .text s, _ => by
    cases rest <;> exact hrest
  | .fragment children, h => wellNamed_forestAllOnto hrest h
  | .node tag props none, h => wellNamed_childless h.1 h.2 hrest
  | .node tag props (some []), h => wellNamed_childless h.1.1 h.1.2 hrest
  | .node tag props (some (child :: children)), h => by
    obtain ⟨⟨htag, hprops⟩, hchild, hchildren⟩ := h
    have hempty : Forest.empty.WellNamed := trivial
    exact ⟨htag, wellNamed_getD hprops,
      wellNamed_forestOnto (wellNamed_forestAllOnto hempty hchildren) hchild, hrest⟩

theorem wellNamed_forestAllOnto {rest : Forest} (hrest : rest.WellNamed) :
  ∀ {elements : List Element}, WellNamedAll elements → (forestAllOnto elements rest).WellNamed
  | [], _ => hrest
  | _ :: _, h => wellNamed_forestOnto (wellNamed_forestAllOnto hrest h.2) h.1

end

end Element

end RichText
