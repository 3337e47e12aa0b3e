import RichText.Binary64.Basic

/-!
# Shortest decimal text of a double

`Binary64.toDecimal` finds the fewest decimal digits that read back as a given double, and
among those the ones nearest to it.  `Binary64.text` writes them: positionally, with at least
one digit after the point, while the leading digit stands between five places after the point
and sixteen before it, and with a signed exponent otherwise.
-/

namespace RichText

namespace Binary64

/-- The decimal number `digits * 10 ^ exponent`. -/
structure Decimal where
  digits : Nat
  exponent : Int
deriving DecidableEq

namespace Decimal

/-- The same number without zeros at the end of its digits; `fuel` bounds their count. -/
def strip : Nat → Decimal → Decimal
  | 0, x => x
  | fuel + 1, x =>
    if x.digits % 10 = 0 ∧ x.digits ≠ 0 then strip fuel ⟨x.digits / 10, x.exponent + 1⟩ else x

end Decimal

/-- The numbers that round to a double, times `4 / 2 ^ exponent`: their two ends, the double
itself, and whether the ends belong to them. -/
structure Interval where
  low : Nat
  middle : Nat
  high : Nat
  closed : Bool

/-- The interval of a nonzero double.  The gap below a power of two is half as wide. -/
def interval (x : Binary64) : Interval where
  low :=
    if x.significand = Nat.pow 2 52 ∧ leastExponent < x.exponent then 4 * x.significand - 1
    else 4 * x.significand - 2
  middle := 4 * x.significand
  high := 4 * x.significand + 2
  closed := x.significand % 2 == 0

/-- Whether `p / q` lies in the interval. -/
def Interval.mem (i : Interval) (p q : Nat) : Bool :=
  if i.closed then i.low * q ≤ p && p ≤ i.high * q else i.low * q < p && p < i.high * q

/-- An exponent `e` with `num / den < 10 ^ e`, at most one more than the least such. -/
def decimalOrder (num den : Nat) : Int :=
  if den ≤ num then ((Nat.toDigits 10 (num / den)).length : Int)
  else 2 - ((Nat.toDigits 10 (den / num)).length : Int)

/-- The better of the two numbers around the double `x` whose digits end at `10 ^ exponent`,
if one of them reads back: the nearer one, or the even one at equal distance. -/
def roundTo (x : Binary64) (exponent : Int) : Option Decimal :=
  let i := x.interval
  -- The double is `middle / unit`, and a number `n` of the grid is `n * p / q` of the same unit.
  let (num, den) := unscale i.middle 1 (2 - x.exponent)
  let (p, q) :=
    if 0 ≤ exponent then (Nat.pow 10 exponent.toNat, 1) else (1, Nat.pow 10 (-exponent).toNat)
  let below := num * q / (den * p)
  let inside (n : Nat) : Bool :=
    let (u, v) := unscale (n * p) q (x.exponent - 2)
    i.mem u v
  let twice := 2 * (num * q - below * (den * p))
  let preferAbove := den * p < twice ∨ (twice = den * p ∧ below % 2 = 1)
  if inside below && (!inside (below + 1) || !preferAbove) then some ⟨below, exponent⟩
  else if inside (below + 1) then some ⟨below + 1, exponent⟩
  else none

/-- The first grid, from coarse to fine, on which `x` has a number that reads back. -/
def firstGrid (x : Binary64) : Nat → Int → Decimal
  | 0, exponent => ⟨x.significand, exponent⟩
  | count + 1, exponent =>
    match x.roundTo exponent with
    | some decimal => decimal
    | none => firstGrid x count (exponent - 1)

/-- The fewest digits that read back as the magnitude of `x`; seventeen always do. -/
def toDecimal (x : Binary64) : Decimal :=
  if x.isZero then ⟨0, 0⟩
  else
    let (num, den) := x.toRatio
    Decimal.strip 20 (firstGrid x 20 (decimalOrder num den))

/-- The text of `count` zeros. -/
def zeros (count : Nat) : String := String.ofList (List.replicate count '0')

/-- The text of a decimal magnitude. -/
def Decimal.text (x : Decimal) : String :=
  let digits := toString x.digits
  let point : Int := (digits.length : Int) + x.exponent
  if x.digits = 0 then "0.0"
  else if 0 ≤ x.exponent ∧ point ≤ 16 then digits ++ zeros x.exponent.toNat ++ ".0"
  else if 0 < point ∧ point ≤ 16 then
    (digits.take point.toNat).toString ++ "." ++ (digits.drop point.toNat).toString
  else if -5 < point ∧ point ≤ 0 then "0." ++ zeros (-point).toNat ++ digits
  else
    let mantissa :=
      if digits.length = 1 then digits
      else (digits.take 1).toString ++ "." ++ (digits.drop 1).toString
    let power := point - 1
    mantissa ++ (if power < 0 then "e-" else "e+") ++ toString power.natAbs

/-- The shortest text that reads back as `x`. -/
def text (x : Binary64) : String :=
  (if x.negative then "-" else "") ++ x.toDecimal.text

end Binary64

end RichText
