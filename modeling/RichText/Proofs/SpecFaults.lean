import RichText.Proofs.Interpretation

/-!
# Which fault stops an interpretation

Whoever reads a spec from left to right meets tags, native nodes and holes (`OutputSpec.sights`).
Whether one of them is at fault depends on nothing but itself and the holes met before it
(`Sight.fault?`).  To interpret a spec is to run past its sights, so an interpretation that fails
gives the error of the earliest fault, whatever the content is.
-/

namespace RichText

/-- What is met in a spec: a tag with so many holes among its children, a native node, or a hole,
which is the only child of its tag or has siblings.  There is nothing to mind about a text. -/
inductive Sight where
  | tag (holes : Nat)
  | foreign
  | hole (sole : Bool)
deriving DecidableEq

namespace Sight

/-- Whether a hole is met. -/
def isHole : Sight → Bool
  | hole _ => true
  | _ => false

/-- What is wrong with what is met; `consumed` says whether a hole has been met before. -/
def fault? (consumed : Bool) : Sight → Option RenderError
  | tag holes => if 2 ≤ holes then some .duplicateHole else none
  | foreign => some .unsupportedSpec
  -- A hole that comes second is a second one before it is a misplaced one.
  | hole sole =>
    if consumed then some .duplicateHole
    else if sole then none
    else some .holeNotSoleChild

/-! ### Faults among sights -/

/-- The sight behind those of `before` is at fault; `consumed` says whether a hole has been met
before all of them. -/
def FaultAt (consumed : Bool) (sights before : List Sight) (error : RenderError) : Prop :=
  ∃ sight after, sights = before ++ sight :: after
    ∧ sight.fault? (consumed || before.any isHole) = some error

/-- There is a fault, and no other one comes before it. -/
def EarliestFault (consumed : Bool) (sights : List Sight) (error : RenderError) : Prop :=
  ∃ before, FaultAt consumed sights before error
    ∧ ∀ earlier other, FaultAt consumed sights earlier other → before.length ≤ earlier.length

theorem not_faultAt_nil {consumed : Bool} {before : List Sight} {error : RenderError} :
  ¬ FaultAt consumed [] before error
  := by
  rintro ⟨sight, after, hsplit, -⟩
  simp at hsplit

/-- A fault is that of the first sight, or stands behind it. -/
theorem faultAt_cons_iff {consumed : Bool} {sight : Sight} {rest before : List Sight}
    {error : RenderError} :
  FaultAt consumed (sight :: rest) before error
    ↔ (before = [] ∧ sight.fault? consumed = some error)
      ∨ ∃ behind, before = sight :: behind
        ∧ FaultAt (consumed || sight.isHole) rest behind error
  := by
  constructor
  · rintro ⟨found, after, hsplit, hfault⟩
    cases before with
    | nil =>
      obtain ⟨rfl, rfl⟩ := List.cons.inj hsplit
      left
      constructor
      · rfl
      · simpa using hfault
    | cons first behind =>
      obtain ⟨rfl, rfl⟩ := List.cons.inj hsplit
      right
      use behind, rfl, found, after, rfl
      rwa [List.any_cons, ← Bool.or_assoc] at hfault
  · rintro (⟨rfl, hfault⟩ | ⟨behind, rfl, found, after, rfl, hfault⟩)
    · use sight, rest, rfl
      simpa using hfault
    · use found, after, rfl
      rwa [List.any_cons, ← Bool.or_assoc]

/-- The earliest fault is that of the first sight, or the earliest one behind it. -/
theorem earliestFault_cons_iff {consumed : Bool} {sight : Sight} {rest : List Sight}
    {error : RenderError} :
  EarliestFault consumed (sight :: rest) error
    ↔ sight.fault? consumed = some error
      ∨ (sight.fault? consumed = none ∧ EarliestFault (consumed || sight.isHole) rest error)
  := by
  constructor
  · rintro ⟨before, hfault, hearliest⟩
    rcases faultAt_cons_iff.mp hfault with ⟨-, hfirst⟩ | ⟨behind, rfl, hbehind⟩
    · exact .inl hfirst
    · right
      constructor
      · apply Option.eq_none_iff_forall_ne_some.mpr
        intro other hother
        have hle := hearliest [] other (faultAt_cons_iff.mpr (.inl ⟨rfl, hother⟩))
        simp at hle
      · use behind, hbehind
        intro earlier other hother
        have hle := hearliest (sight :: earlier) other
          (faultAt_cons_iff.mpr (.inr ⟨earlier, rfl, hother⟩))
        simpa using hle
  · rintro (hfirst | ⟨hnone, behind, hbehind, hearliest⟩)
    · use [], faultAt_cons_iff.mpr (.inl ⟨rfl, hfirst⟩)
      intro earlier other _
      apply Nat.zero_le
    · use sight :: behind, faultAt_cons_iff.mpr (.inr ⟨behind, rfl, hbehind⟩)
      intro earlier other hother
      rcases faultAt_cons_iff.mp hother with ⟨-, hfirst⟩ | ⟨between, rfl, hbetween⟩
      · simp [hnone] at hfirst
      · simpa using hearliest between other hbetween

/-! ### Runs past sights -/

/-- Passes by what is met: a fault ends the run, and behind a hole a hole has been met. -/
def pass (consumed : Bool) (sight : Sight) : Except RenderError Bool :=
  match sight.fault? consumed with
  | some error => .error error
  | none => .ok (consumed || sight.isHole)

theorem pass_of_fault {consumed : Bool} {sight : Sight} {error : RenderError}
    (h : sight.fault? consumed = some error) :
  pass consumed sight = .error error
  := by
  rw [pass, h]

theorem pass_of_none {consumed : Bool} {sight : Sight} (h : sight.fault? consumed = none) :
  pass consumed sight = .ok (consumed || sight.isHole)
  := by
  rw [pass, h]

/-- A run ends with the earliest fault. -/
theorem run_eq_error_iff {sights : List Sight} {consumed : Bool} {error : RenderError} :
  sights.foldlM pass consumed = .error error ↔ EarliestFault consumed sights error
  := by
  induction sights generalizing consumed with
  | nil =>
    constructor
    · intro h
      exact absurd h pure_ne_error
    · rintro ⟨before, hfault, -⟩
      exact absurd hfault not_faultAt_nil
  | cons sight rest ih =>
    rw [List.foldlM_cons, earliestFault_cons_iff]
    cases hfault : sight.fault? consumed with
    | some fault => simp [pass_of_fault hfault, error_bind]
    | none => simp [pass_of_none hfault, ih]

/-- Behind a run a hole has been met if one has been met before it. -/
theorem consumed_of_run {sights : List Sight} {consumed behind : Bool}
    (h : sights.foldlM pass consumed = .ok behind) (hconsumed : consumed = true) :
  behind = true
  := by
  induction sights generalizing consumed with
  | nil =>
    obtain rfl := pure_eq_ok_iff.mp h
    exact hconsumed
  | cons sight rest ih =>
    obtain ⟨between, hpass, hrest⟩ := bind_eq_ok_iff.mp h
    apply ih hrest
    cases hfault : sight.fault? consumed with
    | some fault => simp [pass_of_fault hfault] at hpass
    | none =>
      rw [pass_of_none hfault, hconsumed] at hpass
      simpa using hpass.symm

end Sight

namespace OutputSpec

open Sight (pass pass_of_fault pass_of_none EarliestFault)

/-! ### The sights of a spec -/

/-- How many holes stand among children themselves, not further inside. -/
def directHoles : List SpecChild → Nat
  | [] => 0
  | .hole :: rest => directHoles rest + 1
  | .spec _ :: rest => directHoles rest

/-- An interpretation counts the holes among the children of a tag as a reading does. -/
theorem holeCount_eq_directHoles (children : List SpecChild) :
  holeCount children = directHoles children
  := by
  induction children with
  | nil => rfl
  | cons child rest ih =>
    rw [holeCount] at ih ⊢
    cases child with
    | hole => rw [List.countP_cons_of_pos rfl, ih, directHoles]
    | spec s => rw [List.countP_cons_of_neg Bool.false_ne_true, ih, directHoles]

theorem directHoles_append (before after : List SpecChild) :
  directHoles (before ++ after) = directHoles before + directHoles after
  := by
  simp only [← holeCount_eq_directHoles, holeCount, List.countP_append]

mutual

/-- What is met in a spec, from left to right. -/
def sights : OutputSpec → List Sight
  | .text _ => []
  | .native _ _ => [.foreign]
  | .element _ _ children =>
    .tag (directHoles children) :: sightsOf (children.length == 1) children

/-- What is met in children, from left to right; `sole` says whether there is just one child. -/
def sightsOf (sole : Bool) : List SpecChild → List Sight
  | [] => []
  | .hole :: rest => .hole sole :: sightsOf sole rest
  | .spec s :: rest => sights s ++ sightsOf sole rest

end

mutual

/-- To interpret a spec is to run past its sights, whatever is in the slot. -/
theorem map_interpretIn (slot : Option Element) (consumed : Bool) :
    ∀ spec : OutputSpec,
      (spec.interpretIn slot consumed).map (fun outcome => consumed || outcome.1.holeConsumed)
        = spec.sights.foldlM pass consumed
  | .text s => by
    rw [interpretIn, sights, List.foldlM_nil, Except.map, Bool.or_false]
    rfl
  | .native nodeType raw => by
    rw [interpretIn, sights, List.foldlM_cons]
    rfl
  | .element tag attributes children => by
    have hchildren := map_interpretChildren (children.length == 1) slot consumed children
    rw [interpretIn, sights, List.foldlM_cons, holeCount_eq_directHoles]
    by_cases hmany : 1 < directHoles children
    · have hfault : (Sight.tag (directHoles children)).fault? consumed = some .duplicateHole :=
        if_pos hmany
      rw [if_pos hmany, pass_of_fault hfault]
      rfl
    · have hnone : (Sight.tag (directHoles children)).fault? consumed = none := if_neg hmany
      have hpass : pass consumed (.tag (directHoles children)) = .ok consumed := by
        rw [pass_of_none hnone]
        simp [Sight.isHole]
      rw [if_neg hmany, hpass, ok_bind, ← hchildren]
      cases hrun : interpretChildren (children.length == 1) slot consumed children with
      | error error => rfl
      | ok outcome =>
        obtain ⟨elements, behind, left⟩ := outcome
        rw [hrun] at hchildren
        -- The children are read with the holes before the tag in mind, so none of them is lost.
        have hbehind : consumed = true → behind = true := Sight.consumed_of_run hchildren.symm
        have hor : (consumed || behind) = behind := by
          rwa [Bool.or_eq_right_iff_imp]
        exact congrArg Except.ok hor

/-- To interpret children is to run past their sights, whatever is in the slot. -/
theorem map_interpretChildren (sole : Bool) (slot : Option Element) (consumed : Bool) :
    ∀ children : List SpecChild,
      (interpretChildren sole slot consumed children).map (·.2.1)
        = (sightsOf sole children).foldlM pass consumed
  | [] => by
    rw [interpretChildren, sightsOf, List.foldlM_nil]
    rfl
  | .hole :: rest => by
    have hrest := map_interpretChildren sole none true rest
    rw [interpretChildren, sightsOf, List.foldlM_cons]
    cases consumed with
    | true => rfl
    | false =>
      cases sole with
      | false => rfl
      | true =>
        have hpass : pass false (.hole true) = .ok true := rfl
        rw [hpass, ok_bind, ← hrest]
        cases interpretChildren true none true rest with
        | error error => rfl
        | ok outcome => rfl
  | .spec s :: rest => by
    have hspec := map_interpretIn slot consumed s
    rw [interpretChildren, sightsOf, List.foldlM_append, ← hspec]
    cases s.interpretIn slot consumed with
    | error error => rfl
    | ok outcome =>
      obtain ⟨inner, left⟩ := outcome
      have hrest := map_interpretChildren sole left (consumed || inner.holeConsumed) rest
      rw [Except.map, ok_bind, ok_bind, ← hrest]
      dsimp only
      cases interpretChildren sole left (consumed || inner.holeConsumed) rest with
      | error error => rfl
      | ok outcome => rfl

end

/-- An interpretation that fails gives the error of the earliest fault that is met in the spec,
whatever the content is: a tag with two holes or more is one hole too many, a native node is not
supported, a hole is one too many if there was another one before it or around the spec, and
otherwise has to be an only child. -/
theorem interpret_error_of_earliest_fault (spec : OutputSpec) (content : Element)
    (consumed : Bool) (error : RenderError) :
  spec.interpret content consumed = .error error ↔ EarliestFault consumed spec.sights error
  := by
  rw [← Sight.run_eq_error_iff, ← map_interpretIn (some content), map_eq_error_iff,
    interpret, bind_eq_error_iff]
  constructor
  · rintro (h | ⟨outcome, -, h⟩)
    · exact h
    · exact absurd h pure_ne_error
  · exact .inl

/-- A hole behind a nested hole has siblings, too, but is one hole too many in the first place. -/
example (content : Element) :
  (ofTag "p" |>.child (ofTag "b" |>.hole) |>.hole).interpret content false
    = .error .duplicateHole
  := rfl

end OutputSpec

end RichText
