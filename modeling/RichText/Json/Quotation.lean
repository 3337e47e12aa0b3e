import RichText.Json.Fault

/-!
# Strings in JSON text

`Quotation.scan` takes a string off a text, from behind its opening quote to where reading it
stops, without joining surrogates.  `Quotation.text` joins them and gives the string or its
first fault; `Quotation.fault?` gives the fault that also a reader meets which does not want
the string.  `quote` writes a string, escaping quotes, backslashes and control characters only.
-/

namespace RichText.Json

/-- A part of a string: a character as it stands or by its short escape, or a 16-bit unit
written with four hexadecimal digits. -/
inductive Piece where
  | char (c : Char)
  | unit (code : Nat)
deriving DecidableEq

/-- Where reading a string stops: at its closing quote, at the end of the text, at a control
character, at an escape of an unknown letter, or at four characters that are not hexadecimal. -/
inductive Stop where
  | closed
  | cutOff
  | control
  | unknownEscape
  | badDigits
deriving DecidableEq

namespace Stop

/-- The fault of a string that stops before its closing quote. -/
def fault? : Stop → Option Fault
  | closed => none
  | cutOff => some .endInString
  | control => some .controlCharacter
  | unknownEscape => some .invalidEscape
  | badDigits => some .invalidEscape

end Stop

/-- A string of a JSON text: what it holds, and where reading it stops. -/
structure Quotation where
  pieces : List Piece
  stop : Stop
deriving DecidableEq

namespace Quotation

/-! ### Scanning -/

/-- The value of a hexadecimal digit. -/
def hexDigit? (c : Char) : Option Nat :=
  if '0' ≤ c ∧ c ≤ '9' then some (c.toNat - '0'.toNat)
  else if 'a' ≤ c ∧ c ≤ 'f' then some (c.toNat - 'a'.toNat + 10)
  else if 'A' ≤ c ∧ c ≤ 'F' then some (c.toNat - 'A'.toNat + 10)
  else none

/-- The value of four hexadecimal digits. -/
def hexUnit? (a b c d : Char) : Option Nat := do
  return (((← hexDigit? a) * 16 + (← hexDigit? b)) * 16 + (← hexDigit? c)) * 16 + (← hexDigit? d)

/-- The character that a short escape stands for. -/
def shortEscape? : Char → Option Char
  | '\"' => some '\"'
  | '\\' => some '\\'
  | '/' => some '/'
  | 'b' => some '\x08'
  | 'f' => some '\x0c'
  | 'n' => some '\n'
  | 'r' => some '\r'
  | 't' => some '\t'
  | _ => none

/-- What stops a text that does not go on with four hexadecimal digits: it may be too short for
them, counted in bytes. -/
def stopAtDigits (cs : List Char) : Stop :=
  if (String.ofList (cs.take 4)).utf8ByteSize < 4 then .cutOff else .badDigits

/-- Puts a piece in front of what was scanned behind it. -/
def cons (piece : Piece) (scanned : Quotation × List Char) : Quotation × List Char :=
  (⟨piece :: scanned.1.pieces, scanned.1.stop⟩, scanned.2)

/-- The string in front of a text whose opening quote has been taken off, and what follows
the place where reading it stops. -/
def scan : List Char → Quotation × List Char
  | [] => (⟨[], .cutOff⟩, [])
  | '\"' :: rest => (⟨[], .closed⟩, rest)
  | ['\\'] => (⟨[], .cutOff⟩, [])
  | '\\' :: 'u' :: rest =>
    match rest with
    | a :: b :: c :: d :: rest' =>
      match hexUnit? a b c d with
      | some code => cons (.unit code) (scan rest')
      | none => (⟨[], stopAtDigits rest⟩, rest)
    | _ => (⟨[], stopAtDigits rest⟩, rest)
  | '\\' :: c :: rest =>
    match shortEscape? c with
    | some c => cons (.char c) (scan rest)
    | none => (⟨[], .unknownEscape⟩, rest)
  | c :: rest =>
    if c.toNat < 0x20 then (⟨[], .control⟩, rest)
    else cons (.char c) (scan rest)

/-- Scanning a string leaves no more than there was. -/
theorem scan_length_le (cs : List Char) :
  (scan cs).2.length ≤ cs.length
  := by
  fun_induction scan cs <;> simp_all [cons] <;> omega

/-! ### Contents -/

/-- Whether a unit is the first half of a surrogate pair. -/
def isLeading (code : Nat) : Bool := 0xD800 ≤ code && code ≤ 0xDBFF

/-- Whether a unit is the second half of a surrogate pair. -/
def isTrailing (code : Nat) : Bool := 0xDC00 ≤ code && code ≤ 0xDFFF

/-- The character of a surrogate pair. -/
def joinPair (leading trailing : Nat) : Char :=
  Char.ofNat (0x10000 + (leading - 0xD800) * 0x400 + (trailing - 0xDC00))

/-- The fault of a leading surrogate that nothing is written behind. -/
def unpaired : Stop → Fault
  | .cutOff => .endInString
  | .badDigits => .invalidEscape
  | _ => .unfinishedSurrogatePair

/-- The characters of a string, or its first fault. -/
def characters (stop : Stop) : List Piece → Except Fault (List Char)
  | [] =>
    match stop.fault? with
    | none => .ok []
    | some fault => .error fault
  | .char c :: rest => (characters stop rest).map (c :: ·)
  | .unit code :: rest =>
    if isTrailing code then .error .loneSurrogate
    else if isLeading code then
      match rest with
      | [] => .error (unpaired stop)
      | .char _ :: _ => .error .unfinishedSurrogatePair
      | .unit second :: rest =>
        if isTrailing second then (characters stop rest).map (joinPair code second :: ·)
        else .error .loneSurrogate
    else (characters stop rest).map (Char.ofNat code :: ·)

/-- The string that was written, or its first fault. -/
def text (quotation : Quotation) : Except Fault String :=
  (characters quotation.stop quotation.pieces).map String.ofList

/-- The fault that reading stops at, if the string is not closed. -/
def fault? (quotation : Quotation) : Option Fault :=
  quotation.stop.fault?

end Quotation

/-! ### Writing -/

/-- The lower-case hexadecimal digit of a number below sixteen. -/
def hexDigit (n : Nat) : Char := Nat.digitChar n

/-- A character as it stands in a written string. -/
def escape (c : Char) : List Char :=
  match c with
  | '\"' => ['\\', '\"']
  | '\\' => ['\\', '\\']
  | '\x08' => ['\\', 'b']
  | '\x0c' => ['\\', 'f']
  | '\n' => ['\\', 'n']
  | '\r' => ['\\', 'r']
  | '\t' => ['\\', 't']
  | c =>
    if c.toNat < 0x20 then ['\\', 'u', '0', '0', hexDigit (c.toNat / 16), hexDigit (c.toNat % 16)]
    else [c]

/-- A string in quotes. -/
def quote (s : String) : String :=
  "\"" ++ String.ofList (s.toList.flatMap escape) ++ "\""

end RichText.Json
