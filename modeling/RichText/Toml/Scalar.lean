import RichText.Binary64.Basic
import RichText.Toml.Quoted

/-!
# Scalars in configuration files

Values without quotes and brackets: truth values, integers, floats, dates and times.
`Toml.Scalar.read` recognises a word as one of them.  Of floats and dates only the kind is
kept; a float too large for a double and an integer of more than 128 bits are refused.
-/

namespace RichText.Toml

/-- A value without quotes and brackets. -/
inductive Scalar where
  | boolean (b : Bool)
  | integer (n : Int)
  | float
  | dateTime
deriving DecidableEq

namespace Scalar

/-! ### Digits -/

/-- The digits of a number in which single underscores may stand between digits. -/
def groupedDigits? (isDigit : Char → Bool) : List Char → Option (List Char)
  | [] => none
  | [c] => if isDigit c then some [c] else none
  | c :: '_' :: rest =>
    if isDigit c then (groupedDigits? isDigit rest).map (c :: ·) else none
  | c :: rest => if isDigit c then (groupedDigits? isDigit rest).map (c :: ·) else none

/-- The number that digits denote in a base. -/
def number (base : Nat) (digits : List Char) : Nat :=
  digits.foldl (fun n c => n * base + (hexDigit? c).getD 0) 0

/-- The digits of a decimal number; a zero in front stands alone. -/
def decimalDigits? (cs : List Char) : Option (List Char) :=
  match cs with
  | '0' :: _ :: _ => none
  | _ => groupedDigits? Char.isDigit cs

/-- The sign in front of a number, and what follows it. -/
def sign (cs : List Char) : Bool × List Char :=
  match cs with
  | '-' :: rest => (true, rest)
  | '+' :: rest => (false, rest)
  | _ => (false, cs)

/-- The text before the first character that satisfies `p`, and the text from there on. -/
def cutAt (p : Char → Bool) (cs : List Char) : List Char × List Char :=
  (cs.takeWhile (!p ·), cs.dropWhile (!p ·))

/-! ### Integers -/

/-- An integer of at most 128 bits. -/
def bounded (n : Int) : Option Scalar :=
  if -Int.ofNat (Nat.pow 2 127) ≤ n ∧ n < Int.ofNat (Nat.pow 2 128) then some (.integer n)
  else none

/-- An integer, in decimal or with the mark of another base. -/
def integer? (cs : List Char) : Option Scalar :=
  match cs with
  | '0' :: 'x' :: rest =>
    (groupedDigits? (fun c => (hexDigit? c).isSome) rest).bind (bounded <| number 16 ·)
  | '0' :: 'o' :: rest =>
    (groupedDigits? (fun c => '0' ≤ c ∧ c ≤ '7') rest).bind (bounded <| number 8 ·)
  | '0' :: 'b' :: rest =>
    (groupedDigits? (fun c => c == '0' || c == '1') rest).bind (bounded <| number 2 ·)
  | cs =>
    let (negative, digits) := sign cs
    (decimalDigits? digits).bind fun digits =>
      let n : Int := number 10 digits
      bounded (if negative then -n else n)

/-! ### Floats -/

/-- Whether `digits * 10 ^ exponent` is less than every infinite double. -/
def isFinite (digits : List Char) (exponent : Int) : Bool :=
  let digits := digits.dropWhile (· == '0')
  let order : Int := (digits.length : Int) + exponent
  if digits.isEmpty ∨ order < 300 then true
  else if 310 < order then false
  else
    let n := number 10 digits
    (if 0 ≤ exponent then Binary64.ofRatio (n * Nat.pow 10 exponent.toNat) 1
      else Binary64.ofRatio n (Nat.pow 10 (-exponent).toNat)).isSome

/-- The exponent behind its mark. -/
def exponent? (cs : List Char) : Option Int :=
  let (negative, digits) := sign cs
  (groupedDigits? Char.isDigit digits).map fun digits =>
    let n : Int := number 10 digits
    if negative then -n else n

/-- A float: an infinity, no number, or a decimal number with a fraction or an exponent. -/
def float? (cs : List Char) : Option Scalar :=
  let (_, rest) := sign cs
  if rest = "inf".toList ∨ rest = "nan".toList then some .float
  else
    let (mantissa, power) := cutAt (fun c => c == 'e' || c == 'E') rest
    let (whole, fraction) := cutAt (· == '.') mantissa
    if fraction.isEmpty ∧ power.isEmpty then none
    else do
      let whole ← decimalDigits? whole
      let fraction ←
        if fraction.isEmpty then some [] else groupedDigits? Char.isDigit (fraction.drop 1)
      let exponent ← if power.isEmpty then some 0 else exponent? (power.drop 1)
      if isFinite (whole ++ fraction) (exponent - fraction.length) then some .float else none

/-! ### Dates and times -/

/-- The number of two digits. -/
def twoDigits? (a b : Char) : Option Nat :=
  if a.isDigit ∧ b.isDigit then some (number 10 [a, b]) else none

/-- The days of a month of a year. -/
def daysOf (year month : Nat) : Nat :=
  if month = 2 then
    if year % 4 = 0 ∧ (year % 100 ≠ 0 ∨ year % 400 = 0) then 29 else 28
  else if month = 4 ∨ month = 6 ∨ month = 9 ∨ month = 11 then 30
  else 31

/-- What follows a date in front of a text. -/
def afterDate? (cs : List Char) : Option (List Char) :=
  match cs with
  | y :: y' :: y'' :: y''' :: '-' :: m :: m' :: '-' :: d :: d' :: rest => do
    let century ← twoDigits? y y'
    let year ← twoDigits? y'' y'''
    let month ← twoDigits? m m'
    let day ← twoDigits? d d'
    if 1 ≤ month ∧ month ≤ 12 ∧ 1 ≤ day ∧ day ≤ daysOf (century * 100 + year) month then
      some rest
    else none
  | _ => none

/-- What follows a fraction of a second. -/
def afterFraction? (cs : List Char) : Option (List Char) :=
  match cs with
  | '.' :: d :: rest => if d.isDigit then some (rest.dropWhile Char.isDigit) else none
  | '.' :: _ => none
  | cs => some cs

/-- What follows a time in front of a text; its seconds may be missing. -/
def afterTime? (cs : List Char) : Option (List Char) :=
  match cs with
  | h :: h' :: ':' :: m :: m' :: rest => do
    let hour ← twoDigits? h h'
    let minute ← twoDigits? m m'
    if 23 < hour ∨ 59 < minute then none
    else
      match rest with
      | ':' :: s :: s' :: rest => do
        let second ← twoDigits? s s'
        if 60 < second then none else afterFraction? rest
      | rest => some rest
  | _ => none

/-- Whether a text is an offset from universal time, or nothing. -/
def isOffset (cs : List Char) : Bool :=
  match cs with
  | [] => true
  | ['Z'] => true
  | ['z'] => true
  | [mark, h, h', ':', m, m'] =>
    (mark == '+' || mark == '-') &&
      match twoDigits? h h', twoDigits? m m' with
      | some hour, some minute => decide (hour ≤ 23 ∧ minute ≤ 59)
      | _, _ => false
  | _ => false

/-- Whether a character stands between a date and a time. -/
def isSeparator (c : Char) : Bool := c == 'T' || c == 't' || c == ' '

/-- A date, a time, or both with an offset. -/
def dateTime? (cs : List Char) : Option Scalar :=
  match afterDate? cs with
  | some [] => some .dateTime
  | some (c :: rest) =>
    if isSeparator c && ((afterTime? rest).map isOffset).getD false then some .dateTime else none
  | none => if afterTime? cs = some [] then some .dateTime else none

/-! ### Words -/

/-- The scalar that a word is. -/
def read (cs : List Char) : Option Scalar :=
  if cs = "true".toList then some (.boolean true)
  else if cs = "false".toList then some (.boolean false)
  else integer? cs <|> float? cs <|> dateTime? cs

/-- Whether a character ends a word. -/
def endsWord (c : Char) : Bool :=
  c == ' ' || c == '\t' || c == '\n' || c == '\r' || c == ',' || c == ']' || c == '}' || c == '#'

/-- The word in front of a text; a date goes on behind a space if two digits follow. -/
def takeWord (cs : List Char) : List Char × List Char :=
  let (word, rest) := cutAt endsWord cs
  match afterDate? word, rest with
  | some [], ' ' :: h :: h' :: _ =>
    if h.isDigit && h'.isDigit then
      let (time, rest) := cutAt endsWord (rest.drop 1)
      (word ++ ' ' :: time, rest)
    else (word, rest)
  | _, _ => (word, rest)

end Scalar

end RichText.Toml
