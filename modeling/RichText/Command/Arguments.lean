/-!
# Arguments

The command takes the path of one document, and options: diagnostics on or off, and a name for the
renderer.  Later options replace earlier ones; the argument behind `--name` is a name whatever it
looks like.
-/

namespace RichText.Command

/-- What the arguments of the command say. -/
structure Arguments where
  document : String
  diagnostics : Option Bool
  name : Option String
deriving DecidableEq

/-- Why arguments cannot be understood. -/
inductive ArgumentError where
  | nameWithoutValue
  | unknownOption (option : String)
  | secondDocument
  | noDocument
deriving DecidableEq

/-- How the command is used. -/
def usage : String := "Usage: proseview-cli <document.json> [--no-diagnostics] [--name <label>]"

/-- The wording of an error. -/
def ArgumentError.message : ArgumentError → String
  | nameWithoutValue => "--name needs a value"
  | unknownOption option => "Unknown option: " ++ option
  | secondDocument => "Only one document can be rendered at a time"
  | noDocument => usage

namespace Arguments

/-- Reads the arguments after those that have been read. -/
def readFrom (document : Option String) (diagnostics : Option Bool) (name : Option String) :
    List String → Except ArgumentError Arguments
  | [] =>
    match document with
    | some document => .ok ⟨document, diagnostics, name⟩
    | none => .error .noDocument
  | argument :: rest =>
    if argument = "--no-diagnostics" then readFrom document (some false) name rest
    else if argument = "--diagnostics" then readFrom document (some true) name rest
    else if argument = "--name" then
      match rest with
      | [] => .error .nameWithoutValue
      | value :: rest => readFrom document diagnostics (some value) rest
    else if argument.startsWith "--" then .error (.unknownOption argument)
    else if document.isSome then .error .secondDocument
    else readFrom (some argument) diagnostics name rest

/-- What a list of arguments says. -/
def read (arguments : List String) : Except ArgumentError Arguments :=
  readFrom none none none arguments

end Arguments

end RichText.Command
