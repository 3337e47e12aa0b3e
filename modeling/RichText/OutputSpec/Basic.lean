import RichText.Json.Basic

/-!
# Output specs

An `OutputSpec` describes one rendered element declaratively: a text, or a tag with attributes
and children, where a hole among the children marks the place of content that is rendered
already.  A native spec stands for a node of some foreign tree and cannot be rendered.  Specs are
built step by step: adding an attribute, a child or a hole changes specs with a tag only.
-/

namespace RichText

mutual

/-- A declarative description of a rendered element. -/
inductive OutputSpec where
  | text (s : String)
  /-- A node of a foreign tree, with the type it claims and the value it was read from. -/
  | native (nodeType : UInt16) (raw : Json)
  | element (tag : String) (attributes : Option (Table String)) (children : List SpecChild)

/-- A child of a spec: the place of the content, or a nested spec. -/
inductive SpecChild where
  | hole
  | spec (s : OutputSpec)

end

instance : Inhabited OutputSpec := ⟨.text ""⟩

namespace SpecChild

/-- Whether the child is the hole. -/
def isHole : SpecChild → Bool
  | hole => true
  | spec _ => false

/-- Whether the child is a spec with a tag. -/
def isElement : SpecChild → Bool
  | spec (.element ..) => true
  | _ => false

end SpecChild

namespace OutputSpec

/-- The name of the field by which an object is a native node. -/
def nativeMarker : String := "nodeType"

/-- A spec with a tag and nothing else. -/
def ofTag (tag : String) : OutputSpec := .element tag none []

/-- A native node of the given type. -/
def ofNative (nodeType : UInt16) : OutputSpec :=
  .native nodeType (.object [(nativeMarker, .ofInt nodeType.toNat)])

/-- The spec with one more attribute. -/
def attr (spec : OutputSpec) (name value : String) : OutputSpec :=
  match spec with
  | .element tag attributes children =>
    .element tag (some ((attributes.getD Table.empty).insert name value)) children
  | spec => spec

/-- The spec with one more child at the end. -/
def child (spec nested : OutputSpec) : OutputSpec :=
  match spec with
  | .element tag attributes children => .element tag attributes (children ++ [.spec nested])
  | spec => spec

/-- The spec with a hole at the end. -/
def hole (spec : OutputSpec) : OutputSpec :=
  match spec with
  | .element tag attributes children => .element tag attributes (children ++ [.hole])
  | spec => spec

/-- Whether a direct child is a hole. -/
def hasHole : OutputSpec → Bool
  | .element _ _ children => children.any SpecChild.isHole
  | _ => false

/-- Whether a direct child has a tag. -/
def hasNestedElement : OutputSpec → Bool
  | .element _ _ children => children.any SpecChild.isElement
  | _ => false

/-! ### Equality -/

mutual

/-- Whether two specs are equal. -/
def same : OutputSpec → OutputSpec → Bool
  | .text a, .text b => a == b
  | .native a x, .native b y => a == b && x == y
  | .element tag attributes a, .element tag' attributes' b =>
    tag == tag' && attributes == attributes' && sameAll a b
  | _, _ => false

/-- Whether two children of specs are equal. -/
def sameChild : SpecChild → SpecChild → Bool
  | .hole, .hole => true
  | .spec a, .spec b => same a b
  | _, _ => false

/-- Whether two lists of children are equal. -/
def sameAll : List SpecChild → List SpecChild → Bool
  | [], [] => true
  | a :: as, b :: bs => sameChild a b && sameAll as bs
  | _, _ => false

end

mutual

theorem same_iff : ∀ a b : OutputSpec, same a b = true ↔ a = b
  | .text _, b => by cases b <;> simp [same]
  | .native _ _, b => by cases b <;> simp [same]
  | .element _ _ children, b => by cases b <;> simp [same, sameAll_iff children, and_assoc]

theorem sameChild_iff : ∀ a b : SpecChild, sameChild a b = true ↔ a = b
  | .hole, b => by cases b <;> simp [sameChild]
  | .spec a, b => by cases b <;> simp [sameChild, same_iff a]

theorem sameAll_iff : ∀ a b : List SpecChild, sameAll a b = true ↔ a = b
  | [], b => by cases b <;> simp [sameAll]
  | a :: as, b => by cases b <;> simp [sameAll, sameChild_iff a, sameAll_iff as]

end

instance : DecidableEq OutputSpec := fun a b => decidable_of_iff _ (same_iff a b)

end OutputSpec

end RichText
