/-!
# Sets of characters

A set of characters is given by its boundaries: the ascending list of the code points at which
membership changes, beginning outside the set.
-/

namespace RichText.Text

/-- Whether a code point is in the set with the given boundaries. -/
def within (boundaries : List Nat) (code : Nat) : Bool :=
  (boundaries.takeWhile (· ≤ code)).length % 2 == 1

end RichText.Text
