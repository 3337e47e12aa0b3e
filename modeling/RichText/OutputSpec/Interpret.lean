import RichText.Element
import RichText.OutputSpec.Basic
import RichText.Render.Error

/-!
# Interpreting specs

`OutputSpec.interpret` makes the element that a spec describes and puts content at its hole.
Whether a hole has been used is passed along from left to right, into nested specs and out of
them again, so a second hole anywhere is an error, as is a hole with siblings.  The content itself
is passed along in a slot, from which the hole takes it.
-/

namespace RichText

/-- What interpreting a spec gives: an element, and whether a hole has been used so far. -/
structure Interpreted where
  element : Element
  holeConsumed : Bool
deriving DecidableEq

namespace OutputSpec

/-- The number of direct holes among children. -/
def holeCount (children : List SpecChild) : Nat := children.countP SpecChild.isHole

/-- What a hole puts in its place: the content, or an empty fragment if the slot is empty. -/
def taken (slot : Option Element) : Element := slot.getD (.fragment [])

mutual

/-- The element of a spec, and what is left in the slot; `consumed` says whether a hole around the
spec has been used already. -/
def interpretIn (slot : Option Element) (consumed : Bool) :
    OutputSpec → Except RenderError (Interpreted × Option Element)
  | .text s => .ok (⟨.text s, false⟩, slot)
  | .native _ _ => .error .unsupportedSpec
  | .element tag attributes children =>
    -- Two holes side by side are two holes before they are misplaced.
    if 1 < holeCount children then .error .duplicateHole
    else do
      let (elements, consumed, slot) ←
        interpretChildren (children.length == 1) slot consumed children
      return (⟨.create tag (attributes.map Props.ofAttributes) elements, consumed⟩, slot)

/-- The elements of the children of a spec, whether a hole has been used behind them, and what is
left in the slot; `sole` says whether there is just one child. -/
def interpretChildren (sole : Bool) (slot : Option Element) (consumed : Bool) :
    List SpecChild → Except RenderError (List Element × Bool × Option Element)
  | [] => .ok ([], consumed, slot)
  | .hole :: rest =>
    if consumed then .error .duplicateHole
    else if !sole then .error .holeNotSoleChild
    else do
      let (elements, consumed, left) ← interpretChildren sole none true rest
      return (taken slot :: elements, consumed, left)
  | .spec nested :: rest => do
    let (inner, slot) ← interpretIn slot consumed nested
    let (elements, consumed, slot) ←
      interpretChildren sole slot (consumed || inner.holeConsumed) rest
    return (inner.element :: elements, consumed, slot)

end

/-- The element of a spec with `content` at its hole; `consumed` says whether a hole around the
spec has been used already. -/
def interpret (content : Element) (consumed : Bool) (spec : OutputSpec) :
    Except RenderError Interpreted := do
  let (interpreted, _) ← spec.interpretIn (some content) consumed
  return interpreted

end OutputSpec

end RichText
