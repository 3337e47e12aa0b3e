import RichText.Text.Visible

/-!
# Quoted text

`Text.quoted` shows a text in double quotes so that each of its characters can be told:
quotes, backslashes and common controls have short escapes, and every other character that does
not show on its own is written by its code point.
-/

namespace RichText.Text

/-- A character by its hexadecimal code point. -/
def codeEscape (c : Char) : List Char :=
  ['\\', 'u', '\x7b'] ++ Nat.toDigits 16 c.toNat ++ ['\x7d']

/-- A character as it stands in quoted text. -/
def quotedChar (c : Char) : List Char :=
  match c with
  | '\"' => ['\\', '\"']
  | '\\' => ['\\', '\\']
  | '\n' => ['\\', 'n']
  | '\r' => ['\\', 'r']
  | '\t' => ['\\', 't']
  | '\x00' => ['\\', '0']
  | c => if isVisible c then [c] else codeEscape c

/-- A text in quotes. -/
def quoted (s : String) : String :=
  "\"" ++ String.ofList (s.toList.flatMap quotedChar) ++ "\""

end RichText.Text
