import RichText.Chat
import RichText.Command.Arguments
import RichText.Command.Path
import RichText.Config
import RichText.Text.Terminal

/-!
# The command

The command reads its arguments, its configuration and a chat document, and prints the document as
HTML.  The first of these that fails ends it, and then nothing is printed but the log and the
reason.  `Command.run` is the whole command as a function of the files that it reads.
-/

namespace RichText.Command

/-! ### Rendering a document -/

/-- Why a document is not rendered. -/
inductive DocumentError where
  | unreadable (error : SchemaError)
  | unrenderable (error : RenderError)
deriving DecidableEq

/-- The reasons of an error of a document, from the outermost one to the innermost one. -/
def DocumentError.reasons : DocumentError → List String
  | unreadable (.unreadable error) =>
    ["Failed to read document", (SchemaError.unreadable error).message, error.message]
  | unreadable error => ["Failed to read document", error.message]
  | unrenderable error => ["Failed to render document", error.message]

/-- The HTML of the content of a chat document, with the events of rendering it. -/
def renderDocument (renderer : Renderer) (text : String) :
    List Event × Except DocumentError String :=
  match Chat.schema.documentOfText text with
  | .error error => ([], .error (.unreadable error))
  | .ok document =>
    let outcome := renderer.renderHtml Table.empty document.content
    (outcome.events, outcome.result.mapError .unrenderable)

/-! ### Running -/

/-- Why the command fails. -/
inductive CommandError where
  | arguments (error : ArgumentError)
  | config (error : ConfigError)
  | file (path : String) (fault : FileFault)
  | document (error : DocumentError)
deriving DecidableEq

namespace CommandError

/-- The reasons of an error, from the outermost one to the innermost one. -/
def reasons : CommandError → List String
  | arguments error => [error.message]
  | config (.unreadable path fault) => [(ConfigError.unreadable path fault).message, fault.message]
  | config (.malformed path) => [(ConfigError.malformed path).message]
  | file path fault => ["Failed to read " ++ path, fault.message]
  | document error => error.reasons

/-- The wording of an error. -/
def message (error : CommandError) : String := ": ".intercalate error.reasons

end CommandError

/-- What the command gives: its log, and HTML or an error. -/
structure Outcome where
  records : List LogRecord
  result : Except CommandError String

/-- The part of the program that notes what the command does. -/
def logTarget : String := "proseview_cli"

/-- A note about what the command does. -/
def note (text : String) : LogRecord := ⟨.info, logTarget, text⟩

/-- What the command will do once arguments and configuration are read. -/
structure Plan where
  renderer : Renderer
  path : String

/-- The plan for arguments and configuration: the arguments count before the configuration. -/
def plan (arguments : Arguments) (config : Config) : Plan where
  renderer :=
    let options := config.rendererOptions
    Renderer.ofSchema Chat.schema (arguments.name <|> config.rendererName)
      { options with diagnostics := arguments.diagnostics.getD options.diagnostics }
  path := resolvePath arguments.document config.documentsPath

/-- The log up to the reading of the document, and the plan or an error. -/
def prepare (surroundings : Surroundings) (configFile : FileText) (arguments : List String) :
    List LogRecord × Except CommandError Plan :=
  match Arguments.read arguments with
  | .error error => ([], .error (.arguments error))
  | .ok arguments =>
    let configPath := Config.path surroundings.home
    let started := [note ("Config path: " ++ configPath)]
    match Config.load surroundings configPath configFile with
    | .error error => (started, .error (.config error))
    | .ok config =>
      let plan := plan arguments (config.getD Config.default)
      (started ++ [note ("Rendering " ++ plan.path ++ " with " ++ plan.renderer.displayName)],
        .ok plan)

/-- The command, with the configuration file and a way to read other files. -/
def run (surroundings : Surroundings) (configFile : FileText) (read : String → FileText)
    (arguments : List String) : Outcome :=
  match prepare surroundings configFile arguments with
  | (records, .error error) => ⟨records, .error error⟩
  | (records, .ok plan) =>
    match read plan.path with
    | .error fault => ⟨records, .error (.file plan.path fault)⟩
    | .ok text =>
      let (events, result) := renderDocument plan.renderer text
      ⟨records ++ Event.records events, result.mapError .document⟩

/-! ### Printing -/

namespace Outcome

/-- The exit code. -/
def code (outcome : Outcome) : Nat :=
  match outcome.result with
  | .ok _ => 0
  | .error _ => 1

/-- What is printed. -/
def output (outcome : Outcome) : String :=
  match outcome.result with
  | .ok html => html ++ "\n"
  | .error _ => ""

end Outcome

/-- The name of a severity in five characters. -/
def levelText : LogLevel → String
  | .info => "INFO "
  | .warn => "WARN "
  | .error => "ERROR"

/-- A record as it is written: one line, and an indented line for each further line of its text.
Of the whole only what a terminal shows is written, so a record whose text begins a control string
and does not end it loses the end of its line. -/
def recordText (record : LogRecord) : String :=
  Text.shown ("[" ++ levelText record.level ++ " " ++ record.target ++ "] "
    ++ "\n    ".intercalate (record.text.splitOn "\n") ++ "\n")

/-- What is printed besides the output: the log, and the error if there is one. -/
def Outcome.errorOutput (outcome : Outcome) : String :=
  String.join (outcome.records.map recordText)
    ++ match outcome.result with
      | .ok _ => ""
      | .error error => "Error: " ++ error.message ++ "\n"

end RichText.Command
