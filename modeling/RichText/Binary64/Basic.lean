/-!
# Finite doubles

A `Binary64` is a finite double precision number, given by its sign, its significand and its
binary exponent.  Arithmetic on magnitudes is exact rational arithmetic followed by one
rounding to the nearest double, ties going to the even significand; a result that is too
large for a finite double is `none`.  `ofDecimal` scales an integer significand by a power
of ten one double operation at a time, so its result can differ in the last bit from the
double nearest to the decimal number.
-/

namespace RichText

/-- The double `significand * 2 ^ exponent` with a sign.  The significand is below `2 ^ 53`, and
at least `2 ^ 52` unless the exponent is the least one, `-1074`. -/
structure Binary64 where
  negative : Bool
  significand : Nat
  exponent : Int
deriving DecidableEq, Inhabited

namespace Binary64

/-- The least exponent, that of zero and of the subnormal numbers. -/
def leastExponent : Int := -1074

/-- The greatest exponent of a finite double. -/
def greatestExponent : Int := 971

/-- Zero with the given sign. -/
def zero (negative : Bool) : Binary64 := ⟨negative, 0, leastExponent⟩

/-- The same magnitude with the given sign. -/
def withSign (x : Binary64) (negative : Bool) : Binary64 :=
  { x with negative := negative }

/-- Whether the magnitude is zero. -/
def isZero (x : Binary64) : Bool := x.significand == 0

/-- The integer nearest to `num / den`, a tie going to the even one. -/
def roundQuotient (num den : Nat) : Nat :=
  let quotient := num / den
  let twice := 2 * (num % den)
  if den < twice ∨ (twice = den ∧ quotient % 2 = 1) then quotient + 1 else quotient

/-- The numerator and denominator of `num / den / 2 ^ exponent`. -/
def unscale (num den : Nat) (exponent : Int) : Nat × Nat :=
  if 0 ≤ exponent then (num, den * Nat.pow 2 exponent.toNat)
  else (num * Nat.pow 2 (-exponent).toNat, den)

/-- The exponent of the doubles around the positive number `num / den`. -/
def exponentOf (num den : Nat) : Int :=
  let guess : Int := (num.log2 : Int) - (den.log2 : Int) - 52
  let (n, d) := unscale num den guess
  max leastExponent (if n < d * Nat.pow 2 52 then guess - 1 else guess)

/-- The double nearest to `num / den`, unless that is too large. -/
def ofRatio (num den : Nat) : Option Binary64 :=
  if num = 0 then some (zero false)
  else
    let exponent := exponentOf num den
    let (n, d) := unscale num den exponent
    let rounded := roundQuotient n d
    let (significand, exponent) :=
      if rounded = Nat.pow 2 53 then (Nat.pow 2 52, exponent + 1) else (rounded, exponent)
    if greatestExponent < exponent then none else some ⟨false, significand, exponent⟩

/-- The double nearest to `n`, unless that is too large. -/
def ofNat (n : Nat) : Option Binary64 := ofRatio n 1

/-- The numerator and denominator of the magnitude of `x`. -/
def toRatio (x : Binary64) : Nat × Nat := unscale x.significand 1 (-x.exponent)

/-- The double nearest to the product of two magnitudes, unless that is too large. -/
def mul (x y : Binary64) : Option Binary64 :=
  let (a, b) := x.toRatio
  let (c, d) := y.toRatio
  ofRatio (a * c) (b * d)

/-- The double nearest to the quotient of two magnitudes, unless that is too large. -/
def div (x y : Binary64) : Option Binary64 :=
  let (a, b) := x.toRatio
  let (c, d) := y.toRatio
  ofRatio (a * d) (b * c)

/-- The double nearest to `10 ^ n`, unless that is too large. -/
def powerOfTen (n : Nat) : Option Binary64 := ofNat (Nat.pow 10 n)

/-- The greatest exponent whose power of ten is a finite double. -/
def greatestPower : Nat := 308

/-- The magnitude of `x` divided `steps` times by the double `y`; zero needs no division. -/
def divideRepeatedly (y : Binary64) : Nat → Binary64 → Option Binary64
  | 0, x => some x
  | steps + 1, x => if x.isZero then some x else (div x y).bind (divideRepeatedly y steps)

/-- The magnitude of `x` divided by `10 ^ n`: first by the greatest power of ten while the
exponent exceeds it, then by the rest. -/
def divideByTens (x : Binary64) (n : Nat) : Option Binary64 := do
  let steps := (n - 1) / greatestPower
  let y ← divideRepeatedly (← powerOfTen greatestPower) steps x
  div y (← powerOfTen (n - greatestPower * steps))

/-- The magnitude of `x` times `10 ^ exponent`, unless that is too large. -/
def scaleByTens (x : Binary64) (exponent : Int) : Option Binary64 :=
  if exponent < 0 then divideByTens x (-exponent).toNat
  else if (greatestPower : Int) < exponent then if x.isZero then some x else none
  else (powerOfTen exponent.toNat).bind (mul x)

/-- The double of `significand * 10 ^ exponent` with the given sign: the significand is rounded
to a double first, then scaled. -/
def ofDecimal (negative : Bool) (significand : Nat) (exponent : Int) : Option Binary64 := do
  let x ← ofNat significand
  let y ← scaleByTens x exponent
  return y.withSign negative

end Binary64

end RichText
