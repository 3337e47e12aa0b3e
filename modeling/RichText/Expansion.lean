import RichText.Text.Alphanumeric

/-!
# Expansion of paths

A path may name the home directory by a tilde in front, and variables of the environment by a
dollar sign.  `Expansion.full` puts their values in; a path with a variable that is not set has no
expansion.
-/

namespace RichText.Expansion

/-- Whether a character may stand in the name of a variable. -/
def isNameChar (c : Char) : Bool := c == '_' || Text.isAlphanumeric c

/-- The text before the first `:-`, and the text behind it. -/
def splitDefault : List Char → List Char × Option (List Char)
  | [] => ([], none)
  | ':' :: '-' :: rest => ([], some rest)
  | c :: rest =>
    let (name, fallback) := splitDefault rest
    (c :: name, fallback)

/-- The name of a variable in braces, and the value to take if it is not set.  A name cannot be
empty in front of such a value. -/
def braced (cs : List Char) : List Char × Option (List Char) :=
  match splitDefault cs with
  | ([], some _) => (cs, none)
  | split => split

/-- The text with the values of its variables.  Two dollar signs are one; a dollar sign before
anything but a name stays. -/
def expandVariables (lookup : String → Option String) (cs : List Char) : Option (List Char) :=
  match cs with
  | [] => some []
  | '$' :: '$' :: rest => (expandVariables lookup rest).map ('$' :: ·)
  | '$' :: '{' :: rest =>
    if rest.contains '}' then do
      let (name, fallback) := braced (rest.takeWhile (· ≠ '}'))
      let value ← ((lookup (String.ofList name)).map String.toList) <|> fallback
      let others ← expandVariables lookup ((rest.dropWhile (· ≠ '}')).drop 1)
      return value ++ others
    else (expandVariables lookup rest).map ('$' :: '{' :: ·)
  | '$' :: c :: rest =>
    if isNameChar c then do
      let value ← lookup (String.ofList (c :: rest.takeWhile isNameChar))
      let others ← expandVariables lookup (rest.dropWhile isNameChar)
      return value.toList ++ others
    else (expandVariables lookup (c :: rest)).map ('$' :: ·)
  | c :: rest => (expandVariables lookup rest).map (c :: ·)
termination_by cs.length
decreasing_by
  · simp only [List.length_cons]; omega
  · have := (List.dropWhile_sublist (· ≠ '}') (l := rest)).length_le
    simp only [List.length_drop, List.length_cons]
    omega
  · simp only [List.length_cons]; omega
  · have := (List.dropWhile_sublist isNameChar (l := rest)).length_le
    simp only [List.length_cons]
    omega
  · simp only [List.length_cons]; omega
  · simp only [List.length_cons]; omega

/-- The text with the home directory in place of a tilde that stands alone in front. -/
def expandTilde (home : String) (cs : List Char) : List Char :=
  match cs with
  | ['~'] => home.toList
  | '~' :: '/' :: rest => home.toList ++ '/' :: rest
  | cs => cs

/-- A path with its variables and its tilde expanded.  A tilde that comes from a variable
stays. -/
def full (home : String) (lookup : String → Option String) (path : String) : Option String :=
  (expandVariables lookup path.toList).map fun cs =>
    String.ofList (if path.startsWith "~" then expandTilde home cs else cs)

/-! ### The variables of a path -/

/-- The name of a variable at the start of a text. -/
def nameAtStart? : List Char → Option String
  | '$' :: '{' :: rest => some (String.ofList (braced (rest.takeWhile (· ≠ '}'))).1)
  | '$' :: rest => some (String.ofList (rest.takeWhile isNameChar))
  | _ => none

/-- The names that follow the dollar signs of a text. -/
def namesIn : List Char → List String
  | [] => []
  | c :: cs => (nameAtStart? (c :: cs)).toList ++ namesIn cs

/-- The names that follow the dollar signs of a path: no others are looked up for it. -/
def names (path : String) : List String := namesIn path.toList

end RichText.Expansion
