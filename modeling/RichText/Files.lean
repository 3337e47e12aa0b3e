/-!
# Files

What reading and writing files can give: a text, or a fault worded as the system words it.  A
`FileTree` is a tree of directories and files in memory.  Paths are followed through it step by
step, so every directory on the way must be there, also in front of `..`.
-/

namespace RichText

/-- Why a file cannot be read or written. -/
inductive FileFault where
  | notFound
  | alreadyExists
  | notDirectory
  | isDirectory
  /-- A name in the path, or the path as a whole, is too long. -/
  | nameTooLong
  /-- Too many symbolic links are on the way, as when they lead in a circle. -/
  | tooManyLinks
  /-- The path holds the character zero, at which paths end. -/
  | zeroInPath
  /-- The file holds no Unicode text. -/
  | notText
  /-- Another reason, in the words of the system. -/
  | other (message : String)
deriving DecidableEq

/-- The wording of a fault. -/
def FileFault.message : FileFault → String
  | notFound => "No such file or directory (os error 2)"
  | alreadyExists => "File exists (os error 17)"
  | notDirectory => "Not a directory (os error 20)"
  | isDirectory => "Is a directory (os error 21)"
  | nameTooLong => "File name too long (os error 36)"
  | tooManyLinks => "Too many levels of symbolic links (os error 40)"
  | zeroInPath => "file name contained an unexpected NUL byte"
  | notText => "stream did not contain valid UTF-8"
  | other message => message

/-- What reading a file gives. -/
abbrev FileText := Except FileFault String

namespace FileText

/-- Whether there is anything at the path that was read.  A reason in the words of the system is
taken to lie in what is there.  This goes too far where a directory on the way may not be searched:
the reason is then the same as for a file that may not be read, so the file counts as present
although it cannot be told whether it is. -/
def isPresent : FileText → Bool
  | .ok _ => true
  | .error .isDirectory => true
  | .error .notText => true
  | .error (.other _) => true
  | .error _ => false

end FileText

/-! ### Paths -/

namespace FilePath

/-- The greatest number of bytes of a name in a directory. -/
def nameLimit : Nat := 255

/-- The greatest number of bytes of a path. -/
def pathLimit : Nat := 4095

/-- What is wrong with a path whatever files there are. -/
def fault? (path : String) : Option FileFault :=
  if path.contains '\x00' then some .zeroInPath
  else if path = "" then some .notFound
  else if pathLimit < path.utf8ByteSize then some .nameTooLong
  else none

/-- The names of a path between its slashes. -/
def steps (path : String) : List String := (path.splitOn "/").filter (· ≠ "")

/-- The names of a path but for those that stand for the directory that they are in. -/
def components (path : String) : List String := (steps path).filter (· ≠ ".")

/-- Whether a path starts at the root. -/
def isAbsolute (path : String) : Bool := path.startsWith "/"

/-- Whether a path can only lead to a directory. -/
def isForDirectory (path : String) : Bool := path.endsWith "/"

end FilePath

/-! ### Trees -/

/-- A directory, or a file, which may hold no text. -/
inductive FileTree where
  | file (text : Option String)
  | directory (entries : List (String × FileTree))

namespace FileTree

/-- What stands at a place, which is given by the names from the root down to it. -/
def at? (root : FileTree) : (place : List String) → Option FileTree
  | [] => some root
  | name :: rest =>
    match root with
    | file _ => none
    | directory entries => (entries.lookup name).bind fun entry => entry.at? rest

/-- The place to which steps lead from a place. -/
def follow (root : FileTree) : (place steps : List String) → Except FileFault (List String)
  | place, [] => .ok place
  | place, step :: rest =>
    match root.at? place with
    | some (directory entries) =>
      if step = "." then follow root place rest
      else if step = ".." then follow root place.dropLast rest
      else if FilePath.nameLimit < step.utf8ByteSize then .error .nameTooLong
      else if (entries.lookup step).isSome then follow root (place ++ [step]) rest
      else .error .notFound
    | some (file _) => .error .notDirectory
    | none => .error .notFound

/-- The place where a path starts: the root, or the working directory. -/
def origin (working : List String) (path : String) : List String :=
  if FilePath.isAbsolute path then [] else working

/-- What reading the file at a path gives. -/
def read (root : FileTree) (working : List String) (path : String) : FileText :=
  match FilePath.fault? path with
  | some fault => .error fault
  | none => do
    let place ← root.follow (origin working path) (FilePath.steps path)
    match root.at? place with
    | none => .error .notFound
    | some (directory _) => .error .isDirectory
    | some (file text) =>
      if FilePath.isForDirectory path then .error .notDirectory
      else
        match text with
        | some text => .ok text
        | none => .error .notText

/-! ### Writing -/

/-- The entries with one of a name, in place of the entry of that name. -/
def putEntry (name : String) (entry : FileTree) :
    List (String × FileTree) → List (String × FileTree)
  | [] => [(name, entry)]
  | (name', entry') :: rest =>
    if name = name' then (name, entry) :: rest else (name', entry') :: putEntry name entry rest

/-- The tree with an entry at a place whose directory is there. -/
def put (root : FileTree) (entry : FileTree) : (place : List String) → FileTree
  | [] => entry
  | name :: rest =>
    match root with
    | file text => file text
    | directory entries =>
      directory (putEntry name (((entries.lookup name).getD (directory [])).put entry rest) entries)

/-- The place of the directory to which steps lead. -/
def directoryAt (root : FileTree) (working steps : List String) :
    Except FileFault (List String) := do
  let place ← root.follow working steps
  match root.at? place with
  | some (directory _) => .ok place
  | _ => .error .notDirectory

/-- The place of the entry of a name in the directory at a place. -/
def entryAt (place : List String) (name : String) : Except FileFault (List String) :=
  if FilePath.nameLimit < name.utf8ByteSize then .error .nameTooLong else .ok (place ++ [name])

/-- Whether steps lead to a directory. -/
def leadsToDirectory (root : FileTree) (working steps : List String) : Bool :=
  (root.directoryAt working steps).toBool

/-- The tree with a new directory, whose own directory must be there. -/
def createDirectory (root : FileTree) (working steps : List String) (name : String) :
    Except FileFault FileTree := do
  let place ← entryAt (← root.directoryAt working steps) name
  if name = ".." ∨ (root.at? place).isSome then .error .alreadyExists
  else .ok (root.put (directory []) place)

/-- The tree with the directory at the end of steps, given from the last one to the first; those
that are missing on the way are made first. -/
def createDirectories (root : FileTree) (working : List String) :
    (reversed : List String) → Except FileFault FileTree
  | [] => .ok root
  | name :: above =>
    match root.createDirectory working above.reverse name with
    | .ok root => .ok root
    | .error .notFound => do
      let root ← createDirectories root working above
      match root.createDirectory working above.reverse name with
      | .ok root => .ok root
      | .error fault =>
        if root.leadsToDirectory working (above.reverse ++ [name]) then .ok root else .error fault
    | .error fault =>
      if root.leadsToDirectory working (above.reverse ++ [name]) then .ok root else .error fault

/-- The tree with a file at a path, in place of a file that was there. -/
def write (root : FileTree) (working : List String) (path : String) (text : Option String) :
    Except FileFault FileTree :=
  match FilePath.fault? path, (FilePath.steps path).reverse with
  | some fault, _ => .error fault
  | none, [] => .error .isDirectory
  | none, name :: above => do
    let above ← root.directoryAt (origin working path) above.reverse
    if name = "." ∨ name = ".." ∨ FilePath.isForDirectory path then .error .isDirectory
    else
      let place ← entryAt above name
      match root.at? place with
      | some (directory _) => .error .isDirectory
      | _ => .ok (root.put (file text) place)

/-- The tree with a file at a path whose directories are made first. -/
def save (root : FileTree) (working : List String) (path : String) (text : Option String) :
    Except FileFault FileTree := do
  let root ← root.createDirectories (origin working path) (FilePath.components path).reverse.tail
  root.write working path text

end FileTree

end RichText
