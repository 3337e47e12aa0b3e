import RichText.Toml.Tree

/-!
# Reading configuration files

`Toml.parse` reads a file line by line: headers of tables, and keys with values.  A file that is
malformed in any way, or that gives a key twice, has no value.
-/

namespace RichText.Toml

/-! ### Space -/

/-- The text without blanks in front. -/
def skipBlanks (cs : List Char) : List Char := cs.dropWhile isBlank

theorem skipBlanks_length_le (cs : List Char) :
  (skipBlanks cs).length ≤ cs.length
  := (List.dropWhile_sublist _).length_le

/-- The text from the end of a line on, behind the mark of a comment.  A comment holds no control
characters. -/
def skipComment : List Char → Option (List Char)
  | [] => some []
  | '\n' :: rest => some ('\n' :: rest)
  | '\r' :: '\n' :: rest => some ('\r' :: '\n' :: rest)
  | c :: rest => if isPlain c then skipComment rest else none

theorem skipComment_length_le {cs rest : List Char} (h : skipComment cs = some rest) :
  rest.length ≤ cs.length
  := by
  fun_induction skipComment cs with
  | case1 => simp_all
  | case2 => simp_all
  | case3 => simp_all
  | case4 c tail _ _ _ ih =>
    have := ih h
    simp only [List.length_cons]
    omega
  | case5 => simp at h

/-- The text without blanks, line breaks and comments in front. -/
def skipSpace (cs : List Char) : Option (Left cs) :=
  match cs with
  | [] => some ⟨[], by simp⟩
  | '#' :: rest =>
    match h : skipComment rest with
    | some rest' =>
      have := skipComment_length_le h
      (skipSpace rest').map (Left.weaken (Nat.le_succ_of_le this))
    | none => none
  | '\r' :: '\n' :: rest => (skipSpace rest).map (Left.weaken (Nat.le_add_right _ 2))
  | c :: rest =>
    if c == '\n' || isBlank c then (skipSpace rest).map (Left.weaken (Nat.le_succ _))
    else some ⟨c :: rest, by simp⟩
termination_by cs.length
decreasing_by all_goals simp only [List.length_cons]; omega

/-! ### Keys -/

/-- Whether a character may stand in a key without quotes. -/
def isBare (c : Char) : Bool := c.isAlphanum || c == '_' || c == '-'

/-- One key, quoted or bare, in front of a text. -/
def readKey (cs : List Char) : Option (String × List Char) :=
  match cs with
  | '\"' :: rest => (readBasic rest).map fun (key, rest) => (String.ofList key, rest)
  | '\'' :: rest => (readLiteral rest).map fun (key, rest) => (String.ofList key, rest)
  | cs =>
    let key := cs.takeWhile isBare
    if key.isEmpty then none else some (String.ofList key, cs.dropWhile isBare)

/-- The number of keys that may stand with dots between them. -/
def keyLimit : Nat := 80

/-- At most `count` keys with dots between them in front of a text, and the text behind the blanks
that follow them. -/
def readKeys : (count : Nat) → List Char → Option ((String × List String) × List Char)
  | 0, _ => none
  | count + 1, cs => do
    let (key, rest) ← readKey (skipBlanks cs)
    match skipBlanks rest with
    | '.' :: rest =>
      let ((next, others), rest) ← readKeys count rest
      return ((key, next :: others), rest)
    | rest => return ((key, []), rest)

/-- A text with what is left of it, if that is less. -/
def shorten {α : Type} (cs : List Char) (found : α × List Char) : Option (α × Shorter cs) :=
  if h : found.2.length < cs.length then some (found.1, ⟨found.2, h⟩) else none

/-- A dotted key and the equals sign behind it in front of a text; `skip` takes away what may stand
on both sides of the sign. -/
def readAssigned (skip : List Char → Option (List Char)) (cs : List Char) :
    Option ((String × List String) × Shorter cs) := do
  let (keys, rest) ← readKeys keyLimit cs
  match ← skip rest with
  | '=' :: rest => shorten cs (keys, ← skip rest)
  | _ => none

/-- The text without blanks in front; nothing else may stand around an equals sign on a line. -/
def skipOnLine (cs : List Char) : Option (List Char) := some (skipBlanks cs)

/-- The text without space in front; in braces an equals sign may stand on a line of its own. -/
def skipInBraces (cs : List Char) : Option (List Char) := (skipSpace cs).map (·.1)

/-! ### Values -/

/-- The number of brackets that may be open at once. -/
def depthLimit : Nat := 80

/-- Whether a comma follows or the bracket `close`, behind space, and the text behind it. -/
def readSeparator (close : Char) (cs : List Char) : Option (Bool × Shorter cs) :=
  match skipSpace cs with
  | some ⟨c :: next, hnext⟩ =>
    if c = ',' then some (true, ⟨next, hnext⟩)
    else if c = close then some (false, ⟨next, hnext⟩)
    else none
  | _ => none

mutual

/-- The value in front of a text, with at most `depth` brackets open at once. -/
def readValue (depth : Nat) (cs : List Char) : Option (Toml × Shorter cs) :=
  match cs with
  | [] => none
  | '[' :: rest =>
    match depth with
    | 0 => none
    | depth + 1 =>
      match readItems depth rest with
      | some (items, left) => some (.array items, left.behind)
      | none => none
  | '{' :: rest =>
    match depth with
    | 0 => none
    | depth + 1 =>
      match readPairs depth [] rest with
      | some (entries, left) =>
        some (.table (Branch.entriesToToml entries), left.behind)
      | none => none
  | '\"' :: rest =>
    (readString ('\"' :: rest)).bind fun (s, left) =>
      shorten _ (.string (String.ofList s), left)
  | '\'' :: rest =>
    (readString ('\'' :: rest)).bind fun (s, left) =>
      shorten _ (.string (String.ofList s), left)
  | c :: rest =>
    let (word, left) := Scalar.takeWord (c :: rest)
    (Scalar.read word).bind fun scalar => shorten _ (.scalar scalar, left)
termination_by (cs.length, 0)
decreasing_by all_goals apply Prod.Lex.left; simp

/-- The items of an array behind its opening bracket or a comma, up to the closing bracket. -/
def readItems (depth : Nat) (cs : List Char) : Option (List Toml × Left cs) :=
  match skipSpace cs with
  | none => none
  | some ⟨[], _⟩ => none
  | some ⟨c :: rest, hspace⟩ =>
    if c = ']' then
      some ([], ⟨rest, by simp only [List.length_cons] at hspace; omega⟩)
    else
      match readValue depth (c :: rest) with
      | none => none
      | some (item, ⟨behind, hvalue⟩) =>
        match readSeparator ']' behind with
        | none => none
        | some (true, next) =>
          match readItems depth next.1 with
          | some (items, left) =>
            some (item :: items, ⟨left.1, by
              have := left.2
              have := next.2
              simp only [List.length_cons] at hspace hvalue
              omega⟩)
          | none => none
        | some (false, next) =>
          some ([item], ⟨next.1, by
            have := next.2
            simp only [List.length_cons] at hspace hvalue
            omega⟩)
termination_by (cs.length, 1)
decreasing_by
  · rcases Nat.lt_or_ge (c :: rest).length cs.length with h | h
    · exact Prod.Lex.left _ _ h
    · have : (c :: rest).length = cs.length := by omega
      rw [this]
      exact Prod.Lex.right _ (by decide)
  · apply Prod.Lex.left
    have := next.2
    simp only [List.length_cons] at hspace hvalue
    omega

/-- The pairs of an inline table behind its opening brace or a comma, up to the closing brace,
added to the `entries` before them. -/
def readPairs (depth : Nat) (entries : Branch.Entries) (cs : List Char) :
    Option (Branch.Entries × Left cs) :=
  match skipSpace cs with
  | none => none
  | some ⟨[], _⟩ => none
  | some ⟨c :: rest, hspace⟩ =>
    if c = '}' then
      some (entries, ⟨rest, by simp only [List.length_cons] at hspace; omega⟩)
    else
      match readAssigned skipInBraces (c :: rest) with
      | none => none
      | some ((key, path), ⟨text, hkey⟩) =>
        match readValue depth text with
        | none => none
        | some (v, ⟨behind, hvalue⟩) =>
          match Branch.assign v key path entries with
          | none => none
          | some entries =>
            match readSeparator '}' behind with
            | none => none
            | some (true, next) =>
              match readPairs depth entries next.1 with
              | some (entries, left) =>
                some (entries, ⟨left.1, by
                  have := left.2
                  have := next.2
                  simp only [List.length_cons] at hspace hkey hvalue
                  omega⟩)
              | none => none
            | some (false, next) =>
              some (entries, ⟨next.1, by
                have := next.2
                simp only [List.length_cons] at hspace hkey hvalue
                omega⟩)
termination_by (cs.length, 1)
decreasing_by
  · apply Prod.Lex.left
    simp only [List.length_cons] at hspace hkey
    omega
  · apply Prod.Lex.left
    have := next.2
    simp only [List.length_cons] at hspace hkey hvalue
    omega

end

/-! ### Lines -/

/-- What a line says: it opens a table, or one more table of a list, or gives a key a value. -/
inductive Line where
  | table (key : String) (path : List String)
  | element (key : String) (path : List String)
  | pair (key : String) (path : List String) (value : Toml)

/-- The line in front of a text. -/
def readLine (cs : List Char) : Option (Line × List Char) :=
  match cs with
  | '[' :: '[' :: rest => do
    let ((key, path), rest) ← readKeys keyLimit rest
    match rest with
    | ']' :: ']' :: rest => return (.element key path, rest)
    | _ => none
  | '[' :: rest => do
    let ((key, path), rest) ← readKeys keyLimit rest
    match rest with
    | ']' :: rest => return (.table key path, rest)
    | _ => none
  | cs => do
    let ((key, path), text) ← readAssigned skipOnLine cs
    let (v, left) ← readValue depthLimit text.1
    return (.pair key path v, left.1)

/-- The text behind the end of a line: only blanks and a comment may stand in front of it. -/
def endLine (cs : List Char) : Option (List Char) := do
  let rest ←
    match skipBlanks cs with
    | '#' :: rest => skipComment rest
    | rest => some rest
  match rest with
  | [] => return []
  | '\n' :: _ => return rest
  | '\r' :: '\n' :: _ => return rest
  | _ => none

/-- The lines of a text, of which there are at most `fuel`. -/
def readLines : (fuel : Nat) → List Char → Option (List Line)
  | 0, _ => none
  | fuel + 1, cs => do
    let ⟨rest, _⟩ ← skipSpace cs
    if rest.isEmpty then return []
    else
      let (line, rest) ← readLine rest
      let rest ← endLine rest
      let lines ← readLines fuel rest
      return line :: lines

/-! ### Files -/

/-- The keys of a path up to its last one, and the last one. -/
def splitLast : String → List String → List String × String
  | key, [] => ([], key)
  | key, next :: rest =>
    let (path, last) := splitLast next rest
    (key :: path, last)

/-- Adds a line to a tree; `header` is the path of the table that pairs belong to. -/
def addLine (header : List String) (tree : Branch.Entries) :
    Line → Option (List String × Branch.Entries)
  | .table key path => do
    let (above, last) := splitLast key path
    let tree ← Branch.within (Branch.openTable last) above tree
    return (key :: path, tree)
  | .element key path => do
    let (above, last) := splitLast key path
    let tree ← Branch.within (Branch.openElement last) above tree
    return (key :: path, tree)
  | .pair key path v => do
    let tree ← Branch.within (Branch.assign v key path) header tree
    return (header, tree)

/-- Adds lines to a tree. -/
def addLines (header : List String) (tree : Branch.Entries) : List Line → Option Branch.Entries
  | [] => some tree
  | line :: rest => do
    let (header, tree) ← addLine header tree line
    addLines header tree rest

/-- The text without a byte order mark in front. -/
def dropMark : List Char → List Char
  | '\uFEFF' :: rest => rest
  | cs => cs

/-- The table that a text describes. -/
def parse (text : String) : Option Toml := do
  let cs := dropMark text.toList
  let lines ← readLines (cs.length + 1) cs
  let tree ← addLines [] [] lines
  return .table (Branch.entriesToToml tree)

end RichText.Toml
