import RichText.Table

/-!
# Rendered elements

An `Element` is a description of what is displayed: a text, a fragment of siblings without a
wrapper, or a tag with properties and children.  Elements with a tag are made by
`Element.create`, which stores no empty list of children.  Equality of elements is decidable.
-/

namespace RichText

/-- The properties of an element.  The class has its own place, so it is not among the
attributes that `Props.ofAttributes` makes. -/
@[ext]
structure Props where
  className : Option String
  attributes : Table String
deriving DecidableEq, Inhabited

namespace Props

/-- The name of the attribute that goes to the place of the class. -/
def classAttribute : String := "class"

/-- The properties without class and attributes. -/
def empty : Props := ⟨none, Table.empty⟩

/-- The properties with one more attribute; the class goes to its own place. -/
def add (props : Props) (name value : String) : Props :=
  if name = classAttribute then { props with className := some value }
  else { props with attributes := props.attributes.insert name value }

/-- The properties of a table of attributes. -/
def ofAttributes (attributes : Table String) : Props :=
  attributes.entries.foldl (fun props entry => props.add entry.1 entry.2) empty

end Props

/-- A rendered element. -/
inductive Element where
  | text (s : String)
  | fragment (children : List Element)
  | node (tag : String) (props : Option Props) (children : Option (List Element))
deriving Inhabited

namespace Element

/-- An element with a tag; an empty list of children is not stored. -/
def create (tag : String) (props : Option Props) (children : List Element) : Element :=
  .node tag props (if children.isEmpty then none else some children)

/-- Whether nothing is displayed: an empty text or an empty fragment. -/
def isEmpty : Element → Bool
  | .text s => s.isEmpty
  | .fragment children => children.isEmpty
  | .node .. => false

/-- The tag, if the element has one. -/
def tag? : Element → Option String
  | .node tag _ _ => some tag
  | _ => none

/-- The class of an element with a tag. -/
def className? : Element → Option String
  | .node _ props _ => props.bind (·.className)
  | _ => none

/-- The value of an attribute of an element with a tag. -/
def attribute? (name : String) : Element → Option String
  | .node _ props _ => props.bind (·.attributes.find? name)
  | _ => none

/-- The children of an element with a tag. -/
def children : Element → List Element
  | .node _ _ children => children.getD []
  | _ => []

mutual

/-- The texts of an element, joined. -/
def textContent : Element → String
  | .text s => s
  | .fragment children => textContentAll children
  | .node _ _ none => ""
  | .node _ _ (some children) => textContentAll children

/-- The texts of a list of elements, joined. -/
def textContentAll : List Element → String
  | [] => ""
  | child :: rest => textContent child ++ textContentAll rest

end

/-! ### Equality -/

mutual

/-- Whether two elements are equal. -/
def same : Element → Element → Bool
  | .text a, .text b => a == b
  | .fragment a, .fragment b => sameAll a b
  | .node tag props none, .node tag' props' none => tag == tag' && props == props'
  | .node tag props (some a), .node tag' props' (some b) =>
    tag == tag' && props == props' && sameAll a b
  | _, _ => false

/-- Whether two lists of elements are equal. -/
def sameAll : List Element → List Element → Bool
  | [], [] => true
  | a :: as, b :: bs => same a b && sameAll as bs
  | _, _ => false

end

mutual

theorem same_iff : ∀ a b : Element, same a b = true ↔ a = b
  | .text _, b => by cases b <;> simp [same]
  | .fragment children, b => by cases b <;> simp [same, sameAll_iff children]
  | .node _ _ none, .node _ _ none => by simp [same]
  | .node _ _ none, .node _ _ (some _) => by simp [same]
  | .node _ _ (some _), .node _ _ none => by simp [same]
  | .node _ _ (some children), .node _ _ (some _) => by
    simp [same, sameAll_iff children, and_assoc]
  | .node _ _ none, .text _ => by simp [same]
  | .node _ _ none, .fragment _ => by simp [same]
  | .node _ _ (some _), .text _ => by simp [same]
  | .node _ _ (some _), .fragment _ => by simp [same]

theorem sameAll_iff : ∀ a b : List Element, sameAll a b = true ↔ a = b
  | [], b => by cases b <;> simp [sameAll]
  | a :: as, b => by cases b <;> simp [sameAll, same_iff a, sameAll_iff as]

end

instance : DecidableEq Element := fun a b => decidable_of_iff _ (same_iff a b)

end Element

end RichText
