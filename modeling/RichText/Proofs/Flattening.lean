import RichText.Proofs.Composition

/-!
# Fragments flatten

`Element.flatten` puts the members of a fragment in its place wherever it stands among the children
of something, and stores no empty list of children.  Both elements have the same HTML, up to hollow
parts: a void tag whose children are fragments without any members.  Such a tag has a child, so it
gets an end tag, and when the fragment is gone it closes itself.  Every hollow part makes the HTML
longer than that of the flattened element, so it is the same only if there are none.  For the same
reason siblings can be put into a fragment at every `Place`, but an empty fragment cannot be put into
a void tag without children.
-/

namespace RichText

namespace Element

/-! ### Flattening -/

/-- What an element adds to a list of children: a fragment adds its members. -/
def members : Element → List Element
  | .fragment children => children
  | element => [element]

mutual

/-- The element with the members of fragments in their places in all lists of children, and no empty
list of children. -/
def flatten : Element → Element
  | .text s => .text s
  | .fragment children => .fragment (flattenAll children)
  | .node tag props none => .node tag props none
  | .node tag props (some children) => create tag props (flattenAll children)

/-- The members of flattened elements. -/
def flattenAll : List Element → List Element
  | [] => []
  | child :: rest => (flatten child).members ++ flattenAll rest

end

mutual

/-- An element and all elements in it. -/
def parts : Element → List Element
  | .text s => [.text s]
  | .fragment children => .fragment children :: partsAll children
  | .node tag props none => [.node tag props none]
  | .node tag props (some children) => .node tag props (some children) :: partsAll children

/-- Elements and all elements in them. -/
def partsAll : List Element → List Element
  | [] => []
  | child :: rest => parts child ++ partsAll rest

end

/-- A void tag that has children, none of which has a member. -/
def IsHollow : Element → Prop
  | .node tag _ (some children) => tag ∈ Html.voidTags ∧ children ≠ [] ∧ flattenAll children = []
  | _ => False

instance : DecidablePred IsHollow
  | .node tag _ (some children) => inferInstanceAs
    (Decidable (tag ∈ Html.voidTags ∧ children ≠ [] ∧ flattenAll children = []))
  | .node _ _ none => inferInstanceAs (Decidable False)
  | .fragment _ => inferInstanceAs (Decidable False)
  | .text _ => inferInstanceAs (Decidable False)

variable (encoder : Html.Encoder)

theorem htmlAllWith_members (element : Element) :
  htmlAllWith encoder element.members = element.htmlWith encoder
  := by
  cases element with
  | fragment children => rfl
  | text s => apply String.append_empty
  | node tag props children => apply String.append_empty

theorem htmlWith_create (tag : String) (props : Option Props) (children : List Element) :
  (create tag props children).htmlWith encoder
    = (node tag props (some children)).htmlWith encoder
  := by
  cases children <;> rfl

/-! ### Two lists of children with the same HTML -/

/-- A void tag without children closes itself. -/
theorem htmlWith_void {tag : String} (h : tag ∈ Html.voidTags) (props : Option Props) :
  (node tag props (some [])).htmlWith encoder = Html.startTag encoder tag props ++ "/>"
  := if_pos h

/-- A tag that is not void, or has children, is written with an end tag. -/
theorem htmlWith_paired {tag : String} {children : List Element}
    (h : ¬ (tag ∈ Html.voidTags ∧ children = [])) (props : Option Props) :
  (node tag props (some children)).htmlWith encoder
    = Html.opening encoder (tag, props) ++ htmlAllWith encoder children
      ++ Html.closing (tag, props)
  := by
  by_cases hchildren : children = []
  · subst hchildren
    have htag : tag ∉ Html.voidTags := by
      simpa using h
    rw [htmlWith, Html.childless, if_neg htag, htmlAllWith, String.append_empty]
    rfl
  · apply htmlWith_node encoder hchildren

/-- The length of a tag with its children, where the one that closes itself saves an end tag. -/
theorem length_htmlWith_node (tag : String) (props : Option Props) (children : List Element) :
  ((node tag props (some children)).htmlWith encoder).length
      + (if tag ∈ Html.voidTags ∧ children = [] then tag.length + 2 else 0)
    = (Html.startTag encoder tag props).length + (htmlAllWith encoder children).length
      + tag.length + 4
  := by
  have hslash : "/>".length = 2 := rfl
  have hbracket : ">".length = 1 := rfl
  have hend : "</".length = 2 := rfl
  split
  case isTrue h =>
    obtain ⟨htag, rfl⟩ := h
    rw [htmlWith_void encoder htag, htmlAllWith, String.length_append, String.length_empty]
    omega
  case isFalse h =>
    rw [htmlWith_paired encoder h]
    simp only [Html.opening, Html.closing, Html.endTag, String.length_append]
    omega

/-- Another list of children with the same HTML makes no difference to a tag that has children, but
for a void tag that loses them all. -/
theorem htmlWith_node_eq_iff {children others : List Element} (hchildren : children ≠ [])
    (hinside : htmlAllWith encoder children = htmlAllWith encoder others) (tag : String)
    (props : Option Props) :
  (node tag props (some children)).htmlWith encoder
      = (node tag props (some others)).htmlWith encoder
    ↔ ¬ (tag ∈ Html.voidTags ∧ others = [])
  := by
  constructor
  · intro heq hothers
    have hlength := length_htmlWith_node encoder tag props others
    have hlength' := length_htmlWith_node encoder tag props children
    rw [if_pos hothers] at hlength
    rw [if_neg (fun h => hchildren h.2), heq, hinside] at hlength'
    omega
  · intro hothers
    rw [htmlWith_paired encoder hothers, htmlWith_node encoder hchildren, hinside]

theorem htmlAllWith_flattenAll_cons (child : Element) (rest : List Element) :
  htmlAllWith encoder (flattenAll (child :: rest))
    = child.flatten.htmlWith encoder ++ htmlAllWith encoder (flattenAll rest)
  := by
  rw [flattenAll, htmlAllWith_append, htmlAllWith_members]

/-! ### Elements without hollow parts -/

mutual

/-- Without hollow parts an element has the HTML of the flattened one. -/
theorem htmlWith_flatten :
    ∀ element : Element, (∀ part ∈ element.parts, ¬ part.IsHollow) →
      element.htmlWith encoder = element.flatten.htmlWith encoder
  | .text _, _ => rfl
  | .fragment children, h => by
    obtain ⟨-, hchildren⟩ := List.forall_mem_cons.mp h
    apply htmlAllWith_flattenAll children hchildren
  | .node _ _ none, _ => rfl
  | .node tag props (some children), h => by
    obtain ⟨hself, hinside⟩ := List.forall_mem_cons.mp h
    rw [flatten, htmlWith_create]
    by_cases hchildren : children = []
    · subst hchildren
      rfl
    · apply (htmlWith_node_eq_iff encoder hchildren
        (htmlAllWith_flattenAll children hinside) tag props).mpr
      rintro ⟨htag, hnone⟩
      exact hself ⟨htag, hchildren, hnone⟩

/-- Without hollow parts elements have the HTML of the flattened ones. -/
theorem htmlAllWith_flattenAll :
    ∀ elements : List Element, (∀ part ∈ partsAll elements, ¬ part.IsHollow) →
      htmlAllWith encoder elements = htmlAllWith encoder (flattenAll elements)
  | [], _ => rfl
  | child :: rest, h => by
    obtain ⟨hchild, hrest⟩ := List.forall_mem_append.mp h
    rw [htmlAllWith, htmlAllWith_flattenAll_cons, htmlWith_flatten child hchild,
      htmlAllWith_flattenAll rest hrest]

end

/-! ### What hollow parts have too much -/

mutual

/-- The HTML of an element is longer than that of the flattened one, by a character at least for
each hollow part. -/
theorem length_htmlWith_flatten_le :
    ∀ element : Element, (element.flatten.htmlWith encoder).length
        + element.parts.countP (fun part => part.IsHollow)
      ≤ (element.htmlWith encoder).length
  | .text _ => Nat.le_refl _
  | .fragment children => by
    have hself : ¬ (fragment children).IsHollow := not_false
    rw [parts, List.countP_cons_of_neg (by simpa using hself)]
    apply length_htmlAllWith_flattenAll_le
  | .node _ _ none => Nat.le_refl _
  | .node tag props (some children) => by
    have hinside := length_htmlAllWith_flattenAll_le children
    have hlength := length_htmlWith_node encoder tag props children
    have hflat := length_htmlWith_node encoder tag props (flattenAll children)
    rw [flatten, htmlWith_create, parts]
    by_cases hhollow : (node tag props (some children)).IsHollow
    · rw [List.countP_cons_of_pos (by simpa using hhollow)]
      obtain ⟨htag, hchildren, hnone⟩ := hhollow
      rw [if_neg fun h => hchildren h.2] at hlength
      rw [if_pos ⟨htag, hnone⟩] at hflat
      omega
    · rw [List.countP_cons_of_neg (by simpa using hhollow)]
      -- without being hollow, the tag closes itself before and after or neither time
      have hsame : (tag ∈ Html.voidTags ∧ flattenAll children = [])
          = (tag ∈ Html.voidTags ∧ children = []) := by
        apply propext
        constructor
        · rintro ⟨htag, hnone⟩
          by_contra hchildren
          exact hhollow ⟨htag, fun h => hchildren ⟨htag, h⟩, hnone⟩
        · rintro ⟨htag, rfl⟩
          exact ⟨htag, rfl⟩
      simp only [hsame] at hflat
      omega

/-- The HTML of elements is longer than that of the flattened ones, by a character at least for each
hollow part. -/
theorem length_htmlAllWith_flattenAll_le :
    ∀ elements : List Element, (htmlAllWith encoder (flattenAll elements)).length
        + (partsAll elements).countP (fun part => part.IsHollow)
      ≤ (htmlAllWith encoder elements).length
  | [] => Nat.le_refl _
  | child :: rest => by
    have hchild := length_htmlWith_flatten_le child
    have hrest := length_htmlAllWith_flattenAll_le rest
    rw [htmlAllWith, htmlAllWith_flattenAll_cons, partsAll, List.countP_append,
      String.length_append, String.length_append]
    omega

end

/-- An element has the HTML of the flattened one exactly if it has no hollow part. -/
theorem htmlWith_eq_flatten_iff (element : Element) :
  element.htmlWith encoder = element.flatten.htmlWith encoder
    ↔ ∀ part ∈ element.parts, ¬ part.IsHollow
  := by
  constructor
  · intro heq part hpart
    have hlength := length_htmlWith_flatten_le encoder element
    rw [heq] at hlength
    have hcount : element.parts.countP (fun part => part.IsHollow) = 0 := by
      omega
    simpa using List.countP_eq_zero.mp hcount part hpart
  · apply htmlWith_flatten

mutual

/-- An element that adds no members when it is flattened is not seen in HTML. -/
theorem htmlWith_of_members_nil :
    ∀ element : Element, element.flatten.members = [] → element.htmlWith encoder = ""
  | .text s, h => by simp [flatten, members] at h
  | .fragment children, h => htmlAllWith_of_flattenAll_nil children h
  | .node tag props none, h => by simp [flatten, members] at h
  | .node tag props (some children), h => by simp [flatten, create, members] at h

/-- Elements that add no members when they are flattened are not seen in HTML. -/
theorem htmlAllWith_of_flattenAll_nil :
    ∀ elements : List Element, flattenAll elements = [] → htmlAllWith encoder elements = ""
  | [], _ => rfl
  | child :: rest, h => by
    obtain ⟨hchild, hrest⟩ := List.append_eq_nil_iff.mp h
    rw [htmlAllWith, htmlWith_of_members_nil child hchild, htmlAllWith_of_flattenAll_nil rest hrest,
      String.append_empty]

end

/-! ### Siblings in a fragment -/

/-- A place for siblings in a list of elements, at any depth. -/
inductive Place where
  | among (before behind : List Element)
  | inFragment (before : List Element) (place : Place) (behind : List Element)
  | inTag (before : List Element) (tag : String) (props : Option Props) (place : Place)
      (behind : List Element)

namespace Place

/-- The elements with siblings at the place. -/
def plug (siblings : List Element) : Place → List Element
  | among before behind => before ++ siblings ++ behind
  | inFragment before place behind => before ++ fragment (place.plug siblings) :: behind
  | inTag before tag props place behind =>
    before ++ node tag props (some (place.plug siblings)) :: behind

/-- Whether the siblings at the place are all the children of a void tag. -/
def FillsVoid : Place → Prop
  | among _ _ => False
  | inFragment _ place _ => place.FillsVoid
  | inTag _ tag _ place _ => (tag ∈ Html.voidTags ∧ place.plug [] = []) ∨ place.FillsVoid

/-- If nothing comes of a place, there are no siblings at it and there is nothing around it. -/
theorem of_plug_eq_nil {place : Place} {siblings : List Element}
    (h : place.plug siblings = []) :
  siblings = [] ∧ ¬ place.FillsVoid
  := by
  cases place with
  | among before behind =>
    rw [plug, List.append_eq_nil_iff, List.append_eq_nil_iff] at h
    exact ⟨h.1.2, not_false⟩
  | inFragment before place behind => simp [plug] at h
  | inTag before tag props place behind => simp [plug] at h

/-- Siblings can be put into a fragment, but if there are none in a void tag without children. -/
theorem htmlAllWith_plug_fragment_iff (place : Place) (siblings : List Element) :
  htmlAllWith encoder (place.plug [fragment siblings])
      = htmlAllWith encoder (place.plug siblings)
    ↔ ¬ (place.FillsVoid ∧ siblings = [])
  := by
  induction place with
  | among before behind =>
    simp [plug, FillsVoid, htmlAllWith_append, htmlAllWith, htmlWith]
  | inFragment before place behind ih =>
    simp only [plug, htmlAllWith_append, htmlAllWith, htmlWith, String.append_right_inj,
      String.append_left_inj]
    exact ih
  | inTag before tag props place behind ih =>
    have hwrapped : place.plug [fragment siblings] ≠ [] := by
      intro h
      exact List.cons_ne_nil _ _ (of_plug_eq_nil h).1
    simp only [plug, htmlAllWith_append, htmlAllWith, String.append_right_inj,
      String.append_left_inj]
    by_cases hplug : place.plug siblings = []
    · -- nothing is at the place, so the tag loses its only child with the fragment
      obtain ⟨rfl, hfills⟩ := of_plug_eq_nil hplug
      have hinside := ih.mpr fun h => hfills h.1
      rw [htmlWith_node_eq_iff encoder hwrapped hinside]
      simp [FillsVoid, hfills]
    · have hvoid : siblings = [] → place.plug [] ≠ [] := by
        rintro rfl
        exact hplug
      rw [htmlWith_node encoder hwrapped, htmlWith_node encoder hplug, String.append_left_inj,
        String.append_right_inj, ih, FillsVoid]
      tauto

end Place

/-- An element has the HTML of the flattened one exactly if it has no hollow part.  Siblings can be
put into a fragment, at any depth, except where there are none in a void tag without children.  A
void tag with nothing in it closes itself exactly if it has no children at all, not even
fragments. -/
theorem html_flattens :
  (∀ element : Element, element.htmlWith encoder = element.flatten.htmlWith encoder
      ↔ ∀ part ∈ element.parts, ¬ part.IsHollow)
    ∧ (∀ (place : Place) (siblings : List Element),
      htmlAllWith encoder (place.plug [fragment siblings])
          = htmlAllWith encoder (place.plug siblings)
        ↔ ¬ (place.FillsVoid ∧ siblings = []))
    ∧ ∀ (tag : String) (props : Option Props) (children : List Element),
      tag ∈ Html.voidTags → flattenAll children = [] →
      (node tag props (some children)).htmlWith encoder
        = if children = [] then Html.startTag encoder tag props ++ "/>"
          else Html.opening encoder (tag, props) ++ Html.closing (tag, props)
  := by
  refine ⟨htmlWith_eq_flatten_iff encoder, Place.htmlAllWith_plug_fragment_iff encoder, ?_⟩
  intro tag props children htag hnone
  split
  case isTrue hchildren =>
    rw [hchildren, htmlWith_void encoder htag]
  case isFalse hchildren =>
    rw [htmlWith_node encoder hchildren, htmlAllWith_of_flattenAll_nil encoder children hnone,
      String.append_empty]

/-- A paragraph with fragments at two depths, and a line break. -/
def fragmented : Element :=
  node "p" none (some [fragment [text "a", fragment [], node "em" none (some [fragment [text "b"]])],
    node "br" none (some [])])

theorem fragmented_flattens :
  (∀ part ∈ fragmented.parts, ¬ part.IsHollow)
    ∧ fragmented.flatten
      = node "p" none (some [text "a", node "em" none (some [text "b"]), node "br" none none])
    ∧ fragmented.html = fragmented.flatten.html
    ∧ (node "br" none (some [fragment [fragment []]])).html = "<br></br>"
  := by
  obtain ⟨hflattens, -, hvoid⟩ := html_flattens .standard
  have hnone : ∀ part ∈ fragmented.parts, ¬ part.IsHollow := by
    decide
  refine ⟨hnone, rfl, (hflattens fragmented).mpr hnone, ?_⟩
  exact hvoid "br" none [fragment [fragment []]] (by decide) rfl

/-- A schema of line breaks that have a hole for their content. -/
def breakSchema : Schema :=
  Schema.empty
    |>.declareNode "break" { NodeSpec.plain with
        outputSpec := some fun _ => .silent (OutputSpec.ofTag "br" |>.hole) }

/-- The element of a line break without content, which has the empty fragment in it. -/
def hollowBreak : Element := node "br" none (some [fragment []])

/-- A line break without content is rendered to a hollow element.  It gets an end tag, while the
flattened element closes itself. -/
theorem hollowBreak_html :
  ((Renderer.ofSchema breakSchema none .default).renderNode Table.empty
        (Node.block "break" [])).result
      = .ok hollowBreak
    ∧ hollowBreak.html = "<br></br>" ∧ hollowBreak.flatten.html = "<br/>"
    ∧ ¬ ∀ element : Element, element.html = element.flatten.html
  := by
  have hhtml : hollowBreak.html = "<br></br>" := rfl
  have hflat : hollowBreak.flatten.html = "<br/>" := rfl
  refine ⟨rfl, hhtml, hflat, ?_⟩
  intro h
  have heq := h hollowBreak
  rw [hhtml, hflat] at heq
  exact absurd heq (by decide)

end Element

end RichText
