import RichText.Render.Error

/-!
# Diagnostics

A `Diagnostic` points at a type whose spec is well formed and still almost certainly wrong.
Reporting one does not stop a render.
-/

namespace RichText

/-- Something suspicious about how a type renders. -/
inductive Diagnostic where
  /-- The spec of a leaf has put content at a hole. -/
  | leafRenderedContent (typeName : String)
  /-- The spec of a node with content has no place for it. -/
  | contentNotRendered (typeName : String)
  /-- The element is empty. -/
  | noElementRendered (kind : TypeKind) (typeName : String)
  | markSpecNotElement (typeName : String)
  | markSpecNested (typeName : String)
  /-- The spec of a mark has a hole of its own, although every mark gets one. -/
  | markSpecHasHole (typeName : String)
  | markContentNotRendered (typeName : String)
deriving DecidableEq, Repr

namespace Diagnostic

/-- The name of the type that a diagnostic points at. -/
def typeName : Diagnostic → String
  | leafRenderedContent name => name
  | contentNotRendered name => name
  | noElementRendered _ name => name
  | markSpecNotElement name => name
  | markSpecNested name => name
  | markSpecHasHole name => name
  | markContentNotRendered name => name

/-- The wording of a diagnostic. -/
def message : Diagnostic → String
  | leafRenderedContent name => "leaf node `" ++ name ++ "` rendered content"
  | contentNotRendered name => "content node `" ++ name ++ "` rendered no content"
  | noElementRendered kind name => kind.word ++ " `" ++ name ++ "` rendered no element"
  | markSpecNotElement name => "mark `" ++ name ++ "` spec is not an element spec"
  | markSpecNested name => "mark `" ++ name ++ "` spec has nested elements"
  | markSpecHasHole name =>
    "mark `" ++ name ++ "` spec has a content hole, which is invalid for marks"
  | markContentNotRendered name => "mark `" ++ name ++ "` rendered no content"

end Diagnostic

end RichText
