import RichText.Renderer
import RichText.Text.Quoted

/-!
# Descriptions

Short texts that describe the parts of a schema and of a renderer to a developer.  Functions
cannot be shown, so only their presence is told.
-/

namespace RichText

/-- A truth value in words. -/
def describeBool (b : Bool) : String := if b then "true" else "false"

/-- An optional text. -/
def describeText? : Option String → String
  | some s => "Some(" ++ Text.quoted s ++ ")"
  | none => "None"

/-- A set of names. -/
def describeNames (names : List String) : String :=
  "\x7b" ++ ", ".intercalate (names.map Text.quoted) ++ "\x7d"

/-- A record of named parts; `isOpen` says that there is more that is not told. -/
def describeRecord (name : String) (parts : List (String × String)) (isOpen : Bool) : String :=
  let told := parts.map fun part => part.1 ++ ": " ++ part.2
  name ++ " \x7b " ++ ", ".intercalate (told ++ if isOpen then [".."] else []) ++ " \x7d"

/-- The description of a type of nodes. -/
def NodeSpec.describe (spec : NodeSpec) : String :=
  describeRecord "NodeSpec"
    [("content", describeText? spec.content), ("inline", describeBool spec.isInline),
      ("to_factory", describeBool spec.factory.isSome),
      ("to_output_spec", describeBool spec.outputSpec.isSome)] false

/-- The description of a type of marks. -/
def MarkSpec.describe (spec : MarkSpec) : String :=
  describeRecord "MarkSpec"
    [("to_factory", describeBool spec.factory.isSome),
      ("to_output_spec", describeBool spec.outputSpec.isSome)] false

/-- The description of a renderer. -/
def Renderer.describe (renderer : Renderer) : String :=
  describeRecord "Renderer"
    [("display_name", Text.quoted renderer.displayName),
      ("nodes", describeNames renderer.nodes.names),
      ("marks", describeNames renderer.marks.names)] false

/-- The description of the settings of a renderer; where diagnostics go is not told. -/
def RendererOptions.describe (options : RendererOptions) : String :=
  describeRecord "RendererOptions" [("diagnostics", describeBool options.diagnostics)] true

end RichText
