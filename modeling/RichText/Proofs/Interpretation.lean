import RichText.OutputSpec.Interpret
import RichText.Proofs.Properties
import RichText.Proofs.Sequencing
import Mathlib.Tactic.Use

/-!
# What interpreting a spec gives

A spec can be interpreted when no part of it is native, every hole of it is the only child of its
parent, and it has at most one hole, or none at all if a hole around it has been used already
(`OutputSpec.Interpretable`).  The element is then the spec with the content put at the hole
(`OutputSpec.fill`).  The slot holds the content as long as no hole has been used, so no hole
finds it empty.  As a function of the content, the element does not depend on it or is a
`Element.Frame` around it.
-/

namespace RichText

namespace Element

/-- An element with a place in it that is open for one further element. -/
inductive Frame where
  | here
  | within (tag : String) (props : Option Props) (before : List Element) (frame : Frame)
      (behind : List Element)

/-- The element of a frame with `content` in the open place. -/
def Frame.plug (content : Element) : Frame → Element
  | here => content
  | within tag props before frame behind =>
    .node tag props (some (before ++ frame.plug content :: behind))

end Element

namespace OutputSpec

/-! ### Parts, holes and faults of specs -/

/-- Whether the spec is a native node. -/
def isForeign : OutputSpec → Bool
  | .native _ _ => true
  | _ => false

/-- Whether the spec has a tag. -/
def isTagged : OutputSpec → Bool
  | .element _ _ _ => true
  | _ => false

/-- The direct children of a spec. -/
def children : OutputSpec → List SpecChild
  | .element _ _ children => children
  | _ => []

mutual

/-- The spec and the specs in it, at any depth. -/
def parts : OutputSpec → List OutputSpec
  | .text s => [.text s]
  | .native nodeType raw => [.native nodeType raw]
  | .element tag attributes children => .element tag attributes children :: partsOf children

/-- The specs among children and the specs in them, at any depth. -/
def partsOf : List SpecChild → List OutputSpec
  | [] => []
  | .hole :: rest => partsOf rest
  | .spec s :: rest => parts s ++ partsOf rest

end

mutual

/-- The number of holes of a spec, at any depth. -/
def holes : OutputSpec → Nat
  | .text _ => 0
  | .native _ _ => 0
  | .element _ _ children => holesOf children

/-- The number of holes among children and in them, at any depth. -/
def holesOf : List SpecChild → Nat
  | [] => 0
  | .hole :: rest => holesOf rest + 1
  | .spec s :: rest => holes s + holesOf rest

end

/-- Nothing about a spec stops its interpretation; `consumed` says whether a hole around the spec
has been used already. -/
structure Interpretable (consumed : Bool) (spec : OutputSpec) : Prop where
  noForeign : ∀ part ∈ spec.parts, part.isForeign = false
  holeAlone : ∀ part ∈ spec.parts, part.hasHole = true → part.children.length = 1
  holes_le : spec.holes ≤ if consumed then 0 else 1

/-- Nothing about children stops their interpretation; `sole` says whether their parent has no
other children. -/
structure InterpretableAll (sole consumed : Bool) (children : List SpecChild) : Prop where
  noForeign : ∀ part ∈ partsOf children, part.isForeign = false
  holeAlone : ∀ part ∈ partsOf children, part.hasHole = true → part.children.length = 1
  sole_of_hole : children.any SpecChild.isHole = true → sole = true
  holes_le : holesOf children ≤ if consumed then 0 else 1

/-! ### Filling holes -/

mutual

/-- The element that a spec describes, with `content` at every hole. -/
def fill (content : Element) : OutputSpec → Element
  | .text s => .text s
  -- No element stands for a native node, and none is ever asked for.
  | .native _ _ => .fragment []
  | .element tag attributes [] => .node tag (attributes.map Props.withClassApart) none
  | .element tag attributes (child :: rest) =>
    .node tag (attributes.map Props.withClassApart)
      (some (fillChild content child :: fillAll content rest))

/-- The element of a child of a spec, with `content` at every hole. -/
def fillChild (content : Element) : SpecChild → Element
  | .hole => content
  | .spec s => fill content s

/-- The elements of the children of a spec, with `content` at every hole. -/
def fillAll (content : Element) : List SpecChild → List Element
  | [] => []
  | child :: rest => fillChild content child :: fillAll content rest

end

/-- Whether a hole has been used behind a spec; a text does not tell of holes before it. -/
def usesHole (consumed : Bool) (spec : OutputSpec) : Bool :=
  spec.isTagged && (consumed || spec.holes != 0)

/-- What is left in a slot after a number of holes. -/
def leftover (slot : Option Element) (holes : Nat) : Option Element :=
  if holes = 0 then slot else none

/-- The element of a spec with a tag is made of the elements of its children. -/
theorem fill_element (content : Element) (tag : String) (attributes : Option (Table String))
    (children : List SpecChild) :
  fill content (.element tag attributes children)
    = .create tag (attributes.map Props.ofAttributes) (fillAll content children)
  := by
  have hprops : Props.ofAttributes = Props.withClassApart := by
    funext attributes
    apply Props.ofAttributes_eq
  rw [hprops]
  cases children with
  | nil => rfl
  | cons child rest => rfl

/-! ### Interpretation and faults -/

/-- Direct holes are holes. -/
theorem holeCount_le (children : List SpecChild) :
  holeCount children ≤ holesOf children
  := by
  induction children with
  | nil => simp [holeCount, holesOf]
  | cons child rest ih =>
    cases child with
    | hole =>
      simp only [holeCount, List.countP_cons, SpecChild.isHole, holesOf, if_true] at ih ⊢
      omega
    | spec s =>
      simp only [holeCount, List.countP_cons, SpecChild.isHole, holesOf] at ih ⊢
      simp only [Bool.false_eq_true, if_false]
      omega

@[simp]
theorem interpretable_text (consumed : Bool) (s : String) :
  Interpretable consumed (.text s)
  := by
  constructor
  · simp [parts, isForeign]
  · simp [parts, hasHole]
  · simp [holes]

@[simp]
theorem not_interpretable_native (consumed : Bool) (nodeType : UInt16) (raw : Json) :
  ¬ Interpretable consumed (.native nodeType raw)
  := by
  intro hspec
  have hforeign := hspec.noForeign (.native nodeType raw) (by simp [parts])
  simp [isForeign] at hforeign

@[simp]
theorem interpretableAll_nil (sole consumed : Bool) :
  InterpretableAll sole consumed []
  := by
  constructor
  · simp [partsOf]
  · simp [partsOf]
  · simp
  · simp [holesOf]

/-- A spec with a tag can be interpreted when its children can. -/
@[simp]
theorem interpretable_element {consumed : Bool} {tag : String}
    {attributes : Option (Table String)} {children : List SpecChild} :
  Interpretable consumed (.element tag attributes children)
    ↔ InterpretableAll (children.length == 1) consumed children
  := by
  constructor
  · rintro ⟨hforeign, halone, hholes⟩
    simp only [parts, List.forall_mem_cons] at hforeign halone
    refine ⟨hforeign.2, halone.2, ?_, hholes⟩
    intro hhole
    exact beq_iff_eq.mpr (halone.1 hhole)
  · rintro ⟨hforeign, halone, hsole, hholes⟩
    refine ⟨?_, ?_, hholes⟩
    · simp only [parts, List.forall_mem_cons]
      exact ⟨rfl, hforeign⟩
    · simp only [parts, List.forall_mem_cons]
      refine ⟨?_, halone⟩
      intro hhole
      exact beq_iff_eq.mp (hsole hhole)

/-- Children behind a hole can be interpreted when no hole has been used before it, it is the only
child, and there is no hole behind it. -/
@[simp]
theorem interpretableAll_hole {sole consumed : Bool} {rest : List SpecChild} :
  InterpretableAll sole consumed (.hole :: rest)
    ↔ consumed = false ∧ sole = true ∧ InterpretableAll sole true rest
  := by
  constructor
  · rintro ⟨hforeign, halone, hsole, hholes⟩
    have hsole : sole = true := hsole rfl
    cases consumed with
    | true => simp [holesOf] at hholes
    | false =>
      refine ⟨rfl, hsole, hforeign, halone, fun _ => hsole, ?_⟩
      simp only [holesOf, Bool.false_eq_true, if_false, if_true] at hholes ⊢
      omega
  · rintro ⟨rfl, rfl, hforeign, halone, _, hholes⟩
    refine ⟨hforeign, halone, fun _ => rfl, ?_⟩
    simp only [holesOf, Bool.false_eq_true, if_false, if_true] at hholes ⊢
    omega

/-- Behind a spec a hole has been used if one has been used before it or the spec has one. -/
theorem or_usesHole (consumed : Bool) (spec : OutputSpec) :
  (consumed || spec.usesHole consumed) = (consumed || spec.holes != 0)
  := by
  cases spec with
  | text s => simp [usesHole, isTagged, holes]
  | native nodeType raw => simp [usesHole, isTagged, holes]
  | element tag attributes children => simp [usesHole, isTagged]

/-- Children that begin with a spec can be interpreted when the spec can, and the others can behind
its holes. -/
@[simp]
theorem interpretableAll_spec {sole consumed : Bool} {spec : OutputSpec} {rest : List SpecChild} :
  InterpretableAll sole consumed (.spec spec :: rest)
    ↔ Interpretable consumed spec
      ∧ InterpretableAll sole (consumed || spec.usesHole consumed) rest
  := by
  have hholes : holes spec + holesOf rest ≤ (if consumed then 0 else 1)
      ↔ holes spec ≤ (if consumed then 0 else 1)
        ∧ holesOf rest ≤ if (consumed || spec.usesHole consumed) then 0 else 1 := by
    rw [or_usesHole]
    cases consumed with
    | true => simp
    | false =>
      by_cases hzero : spec.holes = 0
      · simp [hzero]
      · simp [hzero]
        omega
  constructor
  · rintro ⟨hforeign, halone, hsole, hle⟩
    simp only [partsOf, List.forall_mem_append] at hforeign halone
    obtain ⟨hspec, hrest⟩ := hholes.mp hle
    exact ⟨⟨hforeign.1, halone.1, hspec⟩, ⟨hforeign.2, halone.2, hsole, hrest⟩⟩
  · rintro ⟨⟨hforeign, halone, hspec⟩, ⟨hforeign', halone', hsole, hrest⟩⟩
    refine ⟨?_, ?_, hsole, hholes.mpr ⟨hspec, hrest⟩⟩
    · simp only [partsOf, List.forall_mem_append]
      exact ⟨hforeign, hforeign'⟩
    · simp only [partsOf, List.forall_mem_append]
      exact ⟨halone, halone'⟩

/-- A spec with a hole has a tag and uses its hole. -/
theorem usesHole_of_hole {consumed : Bool} {spec : OutputSpec} (hholes : spec.holes = 1) :
  spec.usesHole consumed = true
  := by
  cases spec with
  | text s => simp [holes] at hholes
  | native nodeType raw => simp [holes] at hholes
  | element tag attributes children => simp [usesHole, isTagged, hholes]

/-- Behind children that begin with a spec a hole has been used if one has been used behind that
spec or the others have one. -/
theorem or_usesHole_or (consumed : Bool) (spec : OutputSpec) (rest : List SpecChild) :
  (consumed || spec.usesHole consumed || holesOf rest != 0)
    = (consumed || holesOf (.spec spec :: rest) != 0)
  := by
  have hholes : (spec.holes != 0 || holesOf rest != 0) = (spec.holes + holesOf rest != 0) := by
    rw [Bool.eq_iff_iff]
    simp only [Bool.or_eq_true, bne_iff_ne]
    omega
  rw [or_usesHole, Bool.or_assoc, hholes, holesOf]

/-- A slot is left for the children behind a spec as it is for all children together. -/
theorem leftover_leftover (slot : Option Element) (m n : Nat) :
  leftover (leftover slot m) n = leftover slot (m + n)
  := by
  by_cases hm : m = 0
  · simp [leftover, hm]
  · simp [leftover, hm]

mutual

/-- The invariant of interpretation: while no hole has been used, the slot holds the content.
Under it a spec is interpreted exactly when nothing stops it, and the element is the spec filled
with the content. -/
theorem interpretIn_eq_ok_iff {content : Element} {slot : Option Element} {consumed : Bool}
    (hslot : consumed = false → slot = some content) :
    ∀ (spec : OutputSpec) (outcome : Interpreted × Option Element),
      spec.interpretIn slot consumed = .ok outcome
        ↔ spec.Interpretable consumed
          ∧ outcome = (⟨spec.fill content, spec.usesHole consumed⟩, leftover slot spec.holes)
  | .text s, outcome => by
    simp [interpretIn, fill, usesHole, isTagged, holes, leftover, eq_comm]
  | .native nodeType raw, outcome => by simp [interpretIn]
  | .element tag attributes children, outcome => by
    rw [interpretable_element, fill_element, interpretIn]
    split
    · rename_i hmany
      constructor
      · simp
      · rintro ⟨hchildren, -⟩
        have hle := hchildren.holes_le
        have hcount := holeCount_le children
        split at hle
        · omega
        · omega
    · simp only [bind_eq_ok_iff, pure_eq_ok_iff, interpretChildren_eq_ok_iff hslot]
      constructor
      · rintro ⟨_, ⟨hchildren, rfl⟩, rfl⟩
        exact ⟨hchildren, by simp [usesHole, isTagged, holes]⟩
      · rintro ⟨hchildren, rfl⟩
        refine ⟨_, ⟨hchildren, rfl⟩, ?_⟩
        simp [usesHole, isTagged, holes]

/-- Children are interpreted exactly when nothing stops them, and their elements are the children
filled with the content. -/
theorem interpretChildren_eq_ok_iff {content : Element} {slot : Option Element}
    {consumed : Bool} (hslot : consumed = false → slot = some content) {sole : Bool} :
    ∀ (children : List SpecChild) (outcome : List Element × Bool × Option Element),
      interpretChildren sole slot consumed children = .ok outcome
        ↔ InterpretableAll sole consumed children
          ∧ outcome = (fillAll content children, consumed || holesOf children != 0,
              leftover slot (holesOf children))
  | [], outcome => by
    simp [interpretChildren, fillAll, holesOf, leftover, eq_comm]
  | .hole :: rest, outcome => by
    rw [interpretableAll_hole, interpretChildren]
    split
    · rename_i hconsumed
      simp [hconsumed]
    · rename_i hconsumed
      obtain rfl := Bool.eq_false_iff.mpr hconsumed
      obtain rfl := hslot rfl
      split
      · rename_i hsole
        have hsole : sole = false := by simpa using hsole
        simp [hsole]
      · rename_i hsole
        have hsole : sole = true := by simpa using hsole
        have hused : true = false → (none : Option Element) = some content := by simp
        simp only [bind_eq_ok_iff, pure_eq_ok_iff, interpretChildren_eq_ok_iff hused]
        constructor
        · rintro ⟨_, ⟨hrest, rfl⟩, rfl⟩
          refine ⟨⟨trivial, hsole, hrest⟩, ?_⟩
          simp [fillAll, fillChild, taken, holesOf, leftover]
        · rintro ⟨⟨_, _, hrest⟩, rfl⟩
          refine ⟨_, ⟨hrest, rfl⟩, ?_⟩
          simp [fillAll, fillChild, taken, holesOf, leftover]
  | .spec s :: rest, outcome => by
    have hslot' : (consumed || s.usesHole consumed) = false →
        leftover slot s.holes = some content := by
      rw [or_usesHole]
      intro hunused
      obtain ⟨hconsumed, hholes⟩ := Bool.or_eq_false_iff.mp hunused
      rw [leftover, if_pos (by simpa using hholes)]
      apply hslot hconsumed
    rw [interpretableAll_spec, interpretChildren]
    simp only [bind_eq_ok_iff, pure_eq_ok_iff, interpretIn_eq_ok_iff hslot]
    constructor
    · rintro ⟨_, ⟨hspec, rfl⟩, _, hchildren, rfl⟩
      obtain ⟨hrest, rfl⟩ := (interpretChildren_eq_ok_iff hslot' rest _).mp hchildren
      refine ⟨⟨hspec, hrest⟩, ?_⟩
      rw [or_usesHole_or, leftover_leftover]
      rfl
    · rintro ⟨⟨hspec, hrest⟩, rfl⟩
      refine ⟨_, ⟨hspec, rfl⟩, _, (interpretChildren_eq_ok_iff hslot' rest _).mpr ⟨hrest, rfl⟩, ?_⟩
      rw [or_usesHole_or, leftover_leftover]
      rfl

end

/-! ### The content in the element -/

mutual

/-- A spec without a hole is filled alike with all contents. -/
theorem fill_eq_fill (content content' : Element) :
    ∀ spec : OutputSpec, spec.holes = 0 → spec.fill content = spec.fill content'
  | .text _, _ => rfl
  | .native _ _, _ => rfl
  | .element tag attributes children, hholes => by
    rw [fill_element, fill_element, fillAll_eq_fillAll content content' children hholes]

/-- Children without a hole are filled alike with all contents. -/
theorem fillAll_eq_fillAll (content content' : Element) :
    ∀ children : List SpecChild, holesOf children = 0 →
      fillAll content children = fillAll content' children
  | [], _ => rfl
  | .hole :: _, hholes => by simp [holesOf] at hholes
  | .spec s :: rest, hholes => by
    obtain ⟨hspec, hrest⟩ := Nat.add_eq_zero_iff.mp hholes
    rw [fillAll, fillAll, fillAll_eq_fillAll content content' rest hrest, fillChild, fillChild,
      fill_eq_fill content content' s hspec]

end

mutual

/-- A spec with one hole is filled by plugging the content into a frame. -/
theorem exists_fill_eq_plug :
    ∀ spec : OutputSpec, spec.holes = 1 →
      ∃ frame : Element.Frame, ∀ content, spec.fill content = frame.plug content
  | .text _, hholes => by simp [holes] at hholes
  | .native _ _, hholes => by simp [holes] at hholes
  | .element tag attributes children, hholes => by
    obtain ⟨before, frame, behind, hfill⟩ := exists_fillAll_eq_plug children hholes
    use .within tag (attributes.map Props.ofAttributes) before frame behind
    intro content
    rw [fill_element, hfill content, Element.create, Element.Frame.plug]
    simp

/-- Children with one hole are filled by plugging the content into a frame among elements that do
not depend on it. -/
theorem exists_fillAll_eq_plug :
    ∀ children : List SpecChild, holesOf children = 1 →
      ∃ (before : List Element) (frame : Element.Frame) (behind : List Element),
        ∀ content, fillAll content children = before ++ frame.plug content :: behind
  | [], hholes => by simp [holesOf] at hholes
  | .hole :: rest, hholes => by
    have hrest : holesOf rest = 0 := by simpa [holesOf] using hholes
    use [], .here, fillAll (.fragment []) rest
    intro content
    rw [fillAll, fillAll_eq_fillAll content (.fragment []) rest hrest]
    rfl
  | .spec s :: rest, hholes => by
    by_cases hspec : s.holes = 0
    · have hrest : holesOf rest = 1 := by simpa [holesOf, hspec] using hholes
      obtain ⟨before, frame, behind, hfill⟩ := exists_fillAll_eq_plug rest hrest
      use fill (.fragment []) s :: before, frame, behind
      intro content
      rw [fillAll, hfill content, fillChild, fill_eq_fill content (.fragment []) s hspec]
      rfl
    · have hone : s.holes = 1 ∧ holesOf rest = 0 := by
        rw [holesOf] at hholes
        omega
      obtain ⟨frame, hfill⟩ := exists_fill_eq_plug s hone.1
      use [], frame, fillAll (.fragment []) rest
      intro content
      rw [fillAll, fillChild, hfill content,
        fillAll_eq_fillAll content (.fragment []) rest hone.2]
      rfl

end

/-! ### Interpretation -/

/-- A spec is interpreted exactly when nothing stops it, whatever the content, and the element is
the spec filled with the content. -/
theorem interpret_eq_ok_iff {content : Element} {consumed : Bool} {spec : OutputSpec}
    {outcome : Interpreted} :
  spec.interpret content consumed = .ok outcome
    ↔ spec.Interpretable consumed ∧ outcome = ⟨spec.fill content, spec.usesHole consumed⟩
  := by
  have hslot : consumed = false → some content = some content := fun _ => rfl
  simp only [interpret, bind_eq_ok_iff, pure_eq_ok_iff, interpretIn_eq_ok_iff hslot]
  constructor
  · rintro ⟨_, ⟨hspec, rfl⟩, rfl⟩
    exact ⟨hspec, rfl⟩
  · rintro ⟨hspec, rfl⟩
    exact ⟨_, ⟨hspec, rfl⟩, rfl⟩

mutual

/-- Interpreting a spec asks for no factory. -/
theorem interpretIn_ne_unknownType {kind : TypeKind} {name : String} {slot : Option Element}
    {consumed : Bool} :
    ∀ spec : OutputSpec, spec.interpretIn slot consumed ≠ .error (.unknownType kind name)
  | .text s => by simp [interpretIn]
  | .native nodeType raw => by simp [interpretIn]
  | .element tag attributes children => by
    rw [interpretIn]
    split
    · simp
    · rw [Ne, bind_eq_error_iff]
      rintro (h | ⟨_, _, h⟩)
      · exact interpretChildren_ne_unknownType children h
      · exact pure_ne_error h

/-- Interpreting children asks for no factory. -/
theorem interpretChildren_ne_unknownType {kind : TypeKind} {name : String}
    {slot : Option Element} {sole consumed : Bool} :
    ∀ children : List SpecChild,
      interpretChildren sole slot consumed children ≠ .error (.unknownType kind name)
  | [] => by simp [interpretChildren]
  | .hole :: rest => by
    rw [interpretChildren]
    split
    · simp
    · split
      · simp
      · rw [Ne, bind_eq_error_iff]
        rintro (h | ⟨_, _, h⟩)
        · exact interpretChildren_ne_unknownType rest h
        · exact pure_ne_error h
  | .spec s :: rest => by
    rw [interpretChildren, Ne, bind_eq_error_iff]
    rintro (h | ⟨_, _, h⟩)
    · exact interpretIn_ne_unknownType s h
    · rw [bind_eq_error_iff] at h
      rcases h with h | ⟨_, _, h⟩
      · exact interpretChildren_ne_unknownType rest h
      · exact pure_ne_error h

end

/-- No error of interpretation is about a type. -/
theorem interpret_ne_unknownType (spec : OutputSpec) (content : Element) (consumed : Bool)
    (kind : TypeKind) (name : String) :
  spec.interpret content consumed ≠ .error (.unknownType kind name)
  := by
  rw [interpret, Ne, bind_eq_error_iff]
  rintro (h | ⟨_, _, h⟩)
  · exact interpretIn_ne_unknownType spec h
  · exact pure_ne_error h

/-- Interpretation succeeds exactly if no part of the spec is native, every hole is the only child
of its parent, and there is at most one hole, or none if one has been used already; the content
does not matter for that.  The element is then the spec filled with the content, and a spec with a
tag tells whether a hole has been used.  The element is the same for all contents if there is no
hole, and else there is one place in it, the same for all contents, that holds the content. -/
theorem interpret_fills_hole_once (spec : OutputSpec) (consumed : Bool) :
  (∀ content,
      (∃ outcome, spec.interpret content consumed = .ok outcome) ↔
        (∀ part ∈ spec.parts, part.isForeign = false)
        ∧ (∀ part ∈ spec.parts, part.hasHole = true → part.children.length = 1)
        ∧ spec.holes ≤ if consumed then 0 else 1)
    ∧ (∀ content outcome, spec.interpret content consumed = .ok outcome →
        outcome.element = spec.fill content
          ∧ outcome.holeConsumed = (spec.isTagged && (consumed || spec.holes != 0)))
    ∧ (∀ content outcome, spec.interpret content consumed = .ok outcome →
        (spec.holes = 0 ∧ ∀ content', spec.interpret content' consumed = .ok outcome)
          ∨ (spec.holes = 1 ∧ ∃ frame : Element.Frame, ∀ content',
              spec.interpret content' consumed = .ok ⟨frame.plug content', true⟩))
  := by
  refine ⟨?_, ?_, ?_⟩
  · intro content
    constructor
    · rintro ⟨outcome, houtcome⟩
      obtain ⟨hspec, -⟩ := interpret_eq_ok_iff.mp houtcome
      exact ⟨hspec.noForeign, hspec.holeAlone, hspec.holes_le⟩
    · rintro ⟨hforeign, halone, hholes⟩
      use ⟨spec.fill content, spec.usesHole consumed⟩
      apply interpret_eq_ok_iff.mpr
      exact ⟨⟨hforeign, halone, hholes⟩, rfl⟩
  · intro content outcome houtcome
    obtain ⟨-, rfl⟩ := interpret_eq_ok_iff.mp houtcome
    exact ⟨rfl, rfl⟩
  · intro content outcome houtcome
    obtain ⟨hspec, rfl⟩ := interpret_eq_ok_iff.mp houtcome
    have hle : spec.holes ≤ 1 := by
      have hholes := hspec.holes_le
      split at hholes
      · omega
      · exact hholes
    by_cases hzero : spec.holes = 0
    · left
      use hzero
      intro content'
      rw [fill_eq_fill content content' spec hzero]
      exact interpret_eq_ok_iff.mpr ⟨hspec, rfl⟩
    · right
      have hone : spec.holes = 1 := by omega
      obtain ⟨frame, hframe⟩ := exists_fill_eq_plug spec hone
      use hone, frame
      intro content'
      apply interpret_eq_ok_iff.mpr
      use hspec
      rw [hframe content', usesHole_of_hole hone]

end OutputSpec

end RichText
