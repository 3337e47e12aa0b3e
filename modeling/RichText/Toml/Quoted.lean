/-!
# Strings in configuration files

A string of a TOML text stands on one line or on several, in double quotes with escapes or in
single quotes without.  `Toml.readString` reads all four forms; `Toml.writeString` picks the
plainest form that can hold a string: double quotes where nothing needs an escape, then single
quotes, then the forms over several lines, and else double quotes with escapes.
-/

namespace RichText.Toml

/-- What is left of a text after a part of it that may be empty. -/
abbrev Left (cs : List Char) := { rest : List Char // rest.length ≤ cs.length }

/-- What is left of a text after a part of it that is not empty. -/
abbrev Shorter (cs : List Char) := { rest : List Char // rest.length < cs.length }

/-- Text that is left of the tail is less than the text. -/
def Left.behind {c : Char} {cs : List Char} (rest : Left cs) : Shorter (c :: cs) :=
  ⟨rest.1, Nat.lt_succ_of_le rest.2⟩

/-- What is left of a shorter text is left of a text. -/
def Left.weaken {cs cs' : List Char} (h : cs'.length ≤ cs.length) (rest : Left cs') : Left cs :=
  ⟨rest.1, Nat.le_trans rest.2 h⟩

/-! ### Characters -/

/-- Whether a character may stand in a text as it is: a tab, or no control character. -/
def isPlain (c : Char) : Bool := c == '\t' || (0x20 ≤ c.toNat && c.toNat != 0x7F)

/-- The value of a hexadecimal digit. -/
def hexDigit? (c : Char) : Option Nat :=
  if '0' ≤ c ∧ c ≤ '9' then some (c.toNat - '0'.toNat)
  else if 'a' ≤ c ∧ c ≤ 'f' then some (c.toNat - 'a'.toNat + 10)
  else if 'A' ≤ c ∧ c ≤ 'F' then some (c.toNat - 'A'.toNat + 10)
  else none

/-- The number that hexadecimal digits denote. -/
def hexNumber? (digits : List Char) : Option Nat :=
  digits.foldlM (fun n c => (hexDigit? c).map (n * 16 + ·)) 0

/-- The character of a code point that is no surrogate. -/
def charOf? (code : Nat) : Option Char :=
  if code.isValidChar then some (Char.ofNat code) else none

/-- The character of `count` hexadecimal digits, and what follows them. -/
def codeEscape? (count : Nat) (cs : List Char) : Option (Char × Left cs) :=
  if (cs.take count).length = count then
    ((hexNumber? (cs.take count)).bind charOf?).map
      (·, ⟨cs.drop count, by simp⟩)
  else none

/-- The character of an escape behind its backslash, and what follows it. -/
def escape? : (cs : List Char) → Option (Char × Shorter cs)
  | [] => none
  | c :: cs =>
    let short (c' : Char) : Option (Char × Shorter (c :: cs)) :=
      some (c', ⟨cs, Nat.lt_succ_self _⟩)
    match c with
    | '\"' => short '\"'
    | '\\' => short '\\'
    | 'b' => short '\x08'
    | 'e' => short '\x1b'
    | 'f' => short '\x0c'
    | 'n' => short '\n'
    | 'r' => short '\r'
    | 't' => short '\t'
    | 'x' => (codeEscape? 2 cs).map fun found => (found.1, found.2.behind)
    | 'u' => (codeEscape? 4 cs).map fun found => (found.1, found.2.behind)
    | 'U' => (codeEscape? 8 cs).map fun found => (found.1, found.2.behind)
    | _ => none

/-! ### Strings on one line -/

/-- The string up to a double quote, with escapes. -/
def readBasic (cs : List Char) : Option (List Char × List Char) :=
  match cs with
  | [] => none
  | '\"' :: rest => some ([], rest)
  | '\\' :: rest =>
    match escape? rest with
    | some (c, ⟨rest', _⟩) => (readBasic rest').map fun (s, left) => (c :: s, left)
    | none => none
  | c :: rest =>
    if isPlain c then (readBasic rest).map fun (s, left) => (c :: s, left) else none
termination_by cs.length
decreasing_by all_goals simp_all only [List.length_cons]; omega

/-- The string up to a single quote, without escapes. -/
def readLiteral : List Char → Option (List Char × List Char)
  | [] => none
  | '\'' :: rest => some ([], rest)
  | c :: rest =>
    if isPlain c then (readLiteral rest).map fun (s, left) => (c :: s, left) else none

/-! ### Strings on several lines -/

/-- The text without a line break in front. -/
def dropLineBreak : List Char → List Char
  | '\n' :: rest => rest
  | '\r' :: '\n' :: rest => rest
  | cs => cs

/-- Whether a character is a blank of a line. -/
def isBlank (c : Char) : Bool := c == ' ' || c == '\t'

/-- The text without blanks and line breaks in front. -/
def dropSpace (cs : List Char) : List Char :=
  match cs with
  | ' ' :: rest => dropSpace rest
  | '\t' :: rest => dropSpace rest
  | '\n' :: rest => dropSpace rest
  | '\r' :: '\n' :: rest => dropSpace rest
  | cs => cs

theorem dropSpace_length_le (cs : List Char) :
  (dropSpace cs).length ≤ cs.length
  := by
  fun_induction dropSpace cs <;> simp_all <;> omega

/-- What follows a backslash at the end of a line: the rest of the line must be blank, and the
space in front of the next character does not count. -/
def continuation? (cs : List Char) : Option (Left cs) :=
  let broken :=
    match cs.dropWhile isBlank with
    | '\n' :: _ => true
    | '\r' :: '\n' :: _ => true
    | _ => false
  if broken then some ⟨dropSpace cs, dropSpace_length_le cs⟩ else none

/-- The quotes in front of a text, if they do not end a string, or those that still belong to a
string that they end: a run of three to five quotes ends it. -/
def closing (quote : Char) (cs : List Char) : Option (List Char × List Char) :=
  let run := cs.takeWhile (· == quote)
  if 3 ≤ run.length then
    let kept := min (run.length - 3) 2
    some (List.replicate kept quote, cs.drop (kept + 3))
  else none

/-- The string up to three double quotes, with escapes. -/
def readBasicLines (cs : List Char) : Option (List Char × List Char) :=
  match closing '\"' cs with
  | some (quotes, rest) => some (quotes, rest)
  | none =>
    match cs with
    | [] => none
    | '\\' :: rest =>
      match escape? rest with
      | some (c, ⟨rest', _⟩) => (readBasicLines rest').map fun (s, left) => (c :: s, left)
      | none =>
        match continuation? rest with
        | some ⟨rest', _⟩ => readBasicLines rest'
        | none => none
    | '\r' :: '\n' :: rest =>
      (readBasicLines rest).map fun (s, left) => ('\r' :: '\n' :: s, left)
    | c :: rest =>
      if c == '\n' || isPlain c then (readBasicLines rest).map fun (s, left) => (c :: s, left)
      else none
termination_by cs.length
decreasing_by all_goals simp_all only [List.length_cons]; omega

/-- The string up to three single quotes, without escapes. -/
def readLiteralLines (cs : List Char) : Option (List Char × List Char) :=
  match closing '\'' cs with
  | some (quotes, rest) => some (quotes, rest)
  | none =>
    match cs with
    | [] => none
    | '\r' :: '\n' :: rest =>
      (readLiteralLines rest).map fun (s, left) => ('\r' :: '\n' :: s, left)
    | c :: rest =>
      if c == '\n' || isPlain c then
        (readLiteralLines rest).map fun (s, left) => (c :: s, left)
      else none

/-- The string in front of a text that begins with a quote. -/
def readString (cs : List Char) : Option (List Char × List Char) :=
  match cs with
  | '\"' :: '\"' :: '\"' :: rest => readBasicLines (dropLineBreak rest)
  | '\'' :: '\'' :: '\'' :: rest => readLiteralLines (dropLineBreak rest)
  | '\"' :: rest => readBasic rest
  | '\'' :: rest => readLiteral rest
  | _ => none

/-! ### Writing -/

/-- The longest run of a character. -/
def longestRun (c : Char) (cs : List Char) : Nat :=
  (cs.foldl (fun (run, longest) c' =>
    let run := if c' = c then run + 1 else 0
    (run, max longest run)) (0, 0)).2

/-- Whether a character can only be written by an escape. -/
def needsCode (c : Char) : Bool := c != '\t' && c != '\n' && (c.toNat < 0x20 || c.toNat == 0x7F)

/-- The four upper-case hexadecimal digits of a code point below `0x10000`. -/
def fourDigits (code : Nat) : List Char :=
  [code / 4096 % 16, code / 256 % 16, code / 16 % 16, code % 16].map
    fun digit => (Nat.digitChar digit).toUpper

/-- A string between double quotes.  Of quotes in a row, `quotes` may stand as they are before
one has an escape; `lines` says whether line breaks may stand. -/
def escapeAll (lines : Bool) (quotes : Nat) : (run : Nat) → List Char → List Char
  | _, [] => []
  | run, c :: rest =>
    let plain := c :: escapeAll lines quotes 0 rest
    let escaped (text : List Char) := text ++ escapeAll lines quotes 0 rest
    match c with
    | '\"' =>
      if run < quotes then c :: escapeAll lines quotes (run + 1) rest else escaped ['\\', '\"']
    | '\\' => escaped ['\\', '\\']
    | '\n' => if lines then plain else escaped ['\\', 'n']
    | '\t' => escaped ['\\', 't']
    | '\r' => escaped ['\\', 'r']
    | '\x08' => escaped ['\\', 'b']
    | '\x0c' => escaped ['\\', 'f']
    | c => if needsCode c then escaped ('\\' :: 'u' :: fourDigits c.toNat) else plain

/-- The form in which a string is written. -/
inductive Form where
  | basic
  | literal
  | basicLines
  | literalLines
deriving DecidableEq

/-- The plainest form that can hold a string. -/
def formOf (cs : List Char) : Form :=
  let lines := cs.contains '\n'
  let codes := cs.any needsCode
  let backslash := cs.contains '\\'
  let doubles := longestRun '\"' cs
  let singles := longestRun '\'' cs
  if !codes && !backslash && doubles = 0 && !lines then .basic
  else if !codes && singles = 0 && !lines then .literal
  else if !codes && !backslash && doubles ≤ 2 then .basicLines
  else if !codes && singles ≤ 2 then .literalLines
  else if lines then .basicLines
  else .basic

/-- The line break behind the opening quotes of a string that has line breaks. -/
def opening (cs : List Char) : List Char := if cs.contains '\n' then ['\n'] else []

/-- A string in quotes. -/
def writeChars (cs : List Char) : List Char :=
  match formOf cs with
  | .basic => "\"".toList ++ escapeAll false 0 0 cs ++ "\"".toList
  | .literal => "'".toList ++ cs ++ "'".toList
  | .basicLines => "\"\"\"".toList ++ opening cs ++ escapeAll true 2 0 cs ++ "\"\"\"".toList
  | .literalLines => "'''".toList ++ opening cs ++ cs ++ "'''".toList

/-- A string in quotes. -/
def writeString (s : String) : String := String.ofList (writeChars s.toList)

end RichText.Toml
