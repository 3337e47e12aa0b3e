import RichText.Json.Basic
import RichText.Json.Fault

/-!
# Numbers in JSON text

`Numeral.scan` takes a number off the front of a text, and `Numeral.value` says which number
its digits denote.  A numeral without fraction and exponent that fits a 64-bit word is an
integer; every other numeral is a double.  The digits of a double are gathered in one unsigned
word: of the integer digits that no longer fit only the count is kept, and of the fraction
digits nothing.
-/

namespace RichText.Json

/-- A number as it is spelt: its sign, its digits, and the sign and digits of its exponent. -/
structure Numeral where
  negative : Bool
  whole : List Nat
  fraction : Option (List Nat)
  exponent : Option (Bool × List Nat)
deriving DecidableEq

namespace Numeral

/-! ### Spelling -/

/-- The value of a decimal digit. -/
def digit (c : Char) : Nat := c.toNat - '0'.toNat

/-- The digits in front of a text, and what follows them. -/
def takeDigits (cs : List Char) : List Nat × List Char :=
  ((cs.takeWhile Char.isDigit).map digit, cs.dropWhile Char.isDigit)

/-- One or more digits; where there is none, the text has ended or the number is malformed. -/
def scanDigits (cs : List Char) : Except Fault (List Nat × List Char) :=
  match cs with
  | [] => .error .endInValue
  | c :: _ => if c.isDigit then .ok (takeDigits cs) else .error .invalidNumber

/-- The digits before the point: a zero stands alone. -/
def scanWhole (cs : List Char) : Except Fault (List Nat × List Char) :=
  match cs with
  | '0' :: c :: rest => if c.isDigit then .error .invalidNumber else .ok ([0], c :: rest)
  | _ => scanDigits cs

/-- The point and the digits after it, if there is a point. -/
def scanFraction (cs : List Char) : Except Fault (Option (List Nat) × List Char) :=
  match cs with
  | '.' :: rest => (scanDigits rest).map fun (digits, rest) => (some digits, rest)
  | _ => .ok (none, cs)

/-- The sign in front of an exponent, if there is one. -/
def scanSign (cs : List Char) : Bool × List Char :=
  match cs with
  | '-' :: rest => (true, rest)
  | '+' :: rest => (false, rest)
  | _ => (false, cs)

/-- The exponent, if there is one. -/
def scanExponent (cs : List Char) : Except Fault (Option (Bool × List Nat) × List Char) :=
  match cs with
  | c :: rest =>
    if c = 'e' ∨ c = 'E' then
      let (negative, rest) := scanSign rest
      (scanDigits rest).map fun (digits, rest) => (some (negative, digits), rest)
    else .ok (none, cs)
  | [] => .ok (none, [])

/-- The number in front of a text and what follows it. -/
def scan (cs : List Char) : Except Fault (Numeral × List Char) := do
  let (negative, cs) :=
    match cs with
    | '-' :: rest => (true, rest)
    | _ => (false, cs)
  let (whole, cs) ← scanWhole cs
  let (fraction, cs) ← scanFraction cs
  let (exponent, cs) ← scanExponent cs
  return (⟨negative, whole, fraction, exponent⟩, cs)

/-! ### Value -/

/-- The greatest unsigned 64-bit word. -/
def greatestWord : Nat := Nat.pow 2 64 - 1

/-- The greatest exponent that is kept as it is. -/
def greatestExponent : Nat := Nat.pow 2 31 - 1

/-- Appends digits to `n` while the result fits a word; the rest stays over. -/
def gather : Nat → List Nat → Nat × List Nat
  | n, [] => (n, [])
  | n, d :: rest => if greatestWord < n * 10 + d then (n, d :: rest) else gather (n * 10 + d) rest

/-- The number that a list of digits denotes. -/
def ofDigits (digits : List Nat) : Nat :=
  digits.foldl (fun n d => n * 10 + d) 0

/-- The double of a sign, a significand and an exponent of ten. -/
def double (negative : Bool) (significand : Nat) (exponent : Int) : Except Fault Number :=
  match Binary64.ofDecimal negative significand exponent with
  | some x => .ok (.double x)
  | none => .error .numberOutOfRange

/-- The number without fraction and exponent whose digits were gathered into `n`: an integer,
unless it is negative zero or too far below zero for a word. -/
def whole? (negative : Bool) (n : Nat) : Except Fault Number :=
  if negative then
    if n = 0 ∨ Nat.pow 2 63 < n then double true n 0 else .ok (.integer (-n))
  else .ok (.integer n)

/-- The number that a numeral denotes, unless it is too large. -/
def value (numeral : Numeral) : Except Fault Number :=
  let (n, surplus) := gather 0 numeral.whole
  match numeral.fraction, numeral.exponent with
  | none, none =>
    if surplus.isEmpty then whole? numeral.negative n
    else double numeral.negative n surplus.length
  | fraction, exponent =>
    let digits := fraction.getD []
    let (n, unused) := gather n digits
    let start : Int := (surplus.length : Int) - ((digits.length - unused.length : Nat) : Int)
    match exponent with
    | none => double numeral.negative n start
    | some (negative, power) =>
      let power := ofDigits power
      if greatestExponent < power then
        if n ≠ 0 ∧ !negative then .error .numberOutOfRange
        else .ok (.double (Binary64.zero numeral.negative))
      else double numeral.negative n (if negative then start - power else start + power)

/-! ### Progress -/

theorem scanDigits_length_lt {cs : List Char} {found : List Nat × List Char}
    (h : scanDigits cs = .ok found) :
  found.2.length < cs.length
  := by
  cases cs with
  | nil => simp [scanDigits] at h
  | cons c cs =>
    simp only [scanDigits] at h
    split at h
    · rename_i hc
      obtain rfl := Except.ok.inj h
      simpa [takeDigits, List.dropWhile_cons, hc] using
        Nat.lt_succ_of_le (List.dropWhile_sublist Char.isDigit (l := cs)).length_le
    · simp at h

theorem scanWhole_length_lt {cs : List Char} {found : List Nat × List Char}
    (h : scanWhole cs = .ok found) :
  found.2.length < cs.length
  := by
  unfold scanWhole at h
  split at h
  · split at h
    · simp at h
    · obtain rfl := Except.ok.inj h
      simp
  · exact scanDigits_length_lt h

theorem scanFraction_length_le {cs : List Char} {found : Option (List Nat) × List Char}
    (h : scanFraction cs = .ok found) :
  found.2.length ≤ cs.length
  := by
  unfold scanFraction at h
  split at h
  · rename_i tail
    cases hd : scanDigits tail with
    | error => simp [hd, Except.map] at h
    | ok digits =>
      obtain rfl : (some digits.1, digits.2) = found := by simpa [hd, Except.map] using h
      have := scanDigits_length_lt hd
      simp only [List.length_cons]
      omega
  · obtain rfl := Except.ok.inj h
    exact Nat.le_refl _

theorem scanSign_length_le (cs : List Char) :
  (scanSign cs).2.length ≤ cs.length
  := by
  unfold scanSign
  split <;> simp

theorem scanExponent_length_le {cs : List Char} {found : Option (Bool × List Nat) × List Char}
    (h : scanExponent cs = .ok found) :
  found.2.length ≤ cs.length
  := by
  unfold scanExponent at h
  split at h
  · rename_i c tail
    split at h
    · cases hd : scanDigits (scanSign tail).2 with
      | error => simp [hd, Except.map] at h
      | ok digits =>
        have hlt := scanDigits_length_lt hd
        have hle := scanSign_length_le tail
        have hfound : digits.2 = found.2 := by
          simp only [hd, Except.map, Except.ok.injEq] at h
          rw [← h]
        simp only [List.length_cons, ← hfound]
        omega
    · obtain rfl := Except.ok.inj h
      exact Nat.le_refl _
  · obtain rfl := Except.ok.inj h
    exact Nat.le_refl _

/-- A number has at least one character. -/
theorem scan_length_lt {cs : List Char} {found : Numeral × List Char}
    (h : scan cs = .ok found) :
  found.2.length < cs.length
  := by
  unfold scan at h
  generalize hcs : (match cs with | '-' :: rest => (true, rest) | _ => (false, cs)) = signed at h
  have hsigned : signed.2.length ≤ cs.length := by
    subst hcs
    split <;> simp
  simp only [bind, Except.bind, pure, Except.pure] at h
  cases hw : scanWhole signed.2 with
  | error => simp [hw] at h
  | ok whole =>
    cases hf : scanFraction whole.2 with
    | error => simp [hw, hf] at h
    | ok fraction =>
      cases he : scanExponent fraction.2 with
      | error => simp [hw, hf, he] at h
      | ok exponent =>
        have hfound : exponent.2 = found.2 := by
          simp only [hw, hf, he, Except.ok.injEq] at h
          rw [← h]
        have := scanWhole_length_lt hw
        have := scanFraction_length_le hf
        have := scanExponent_length_le he
        rw [← hfound]
        omega

end Numeral

end RichText.Json
