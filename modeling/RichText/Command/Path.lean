/-!
# Paths of documents

A relative path of a document starts at the directory of documents, if one is configured.
-/

namespace RichText.Command

/-- The parts of a relative path between its slashes; empty parts do not count. -/
def components (path : String) : List String :=
  (path.splitOn "/").filter (· ≠ "")

/-- A path with one more part, behind a slash unless the path is empty. -/
def append (path part : String) : String :=
  if path = "" then part else path ++ "/" ++ part

/-- The path of a document below the directory of documents. -/
def resolvePath (document : String) (root : Option String) : String :=
  match root with
  | some root =>
    if document.startsWith "/" then document else (components document).foldl append root
  | none => document

end RichText.Command
