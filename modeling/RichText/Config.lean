import RichText.Expansion
import RichText.Files
import RichText.Render.Event
import RichText.Toml.Reader

/-!
# Configuration

A `Config` says whether diagnostics are wanted, how renderers are called, and where documents are.
It is read from a file, whose unknown keys are ignored, and written back by `Config.text`.
-/

namespace RichText

/-- What a program knows about the place where it runs: the home directory and the variables. -/
structure Surroundings where
  home : String
  lookup : String → Option String

/-- The surroundings with the variables of an environment.  A variable is kept as its name, an
equals sign and its value, and is found by what stands in front of any of the equals signs, so the
name that is looked up may reach into the value. -/
def Surroundings.ofEnvironment (home : String) (environment : List (String × String)) :
    Surroundings where
  home := home
  lookup name :=
    environment.findSome? fun (key, value) =>
      let entry := key ++ "=" ++ value
      if entry.startsWith (name ++ "=") then some (entry.drop (name.length + 1)).toString else none

/-- The settings of the program. -/
structure Config where
  diagnostics : Bool
  rendererName : Option String
  /-- Where relative paths of documents start. -/
  documentsPath : Option String
deriving DecidableEq

/-- Why there is no configuration. -/
inductive ConfigError where
  | unreadable (path : String) (fault : FileFault)
  | malformed (path : String)
deriving DecidableEq

/-- The wording of an error; what is malformed is not told. -/
def ConfigError.message : ConfigError → String
  | unreadable path fault => "Failed to read config file at " ++ path ++ ": " ++ fault.message
  | malformed path => "Failed to parse config file at " ++ path ++ ":"

namespace Config

/-- The settings without a file. -/
def default : Config := ⟨true, none, none⟩

/-- The path of the configuration file in a home directory. -/
def path (home : String) : String := home ++ "/.config/proseview/config.toml"

/-- The settings of a renderer; diagnostics go to the log. -/
def rendererOptions (config : Config) : RendererOptions :=
  { RendererOptions.default with diagnostics := config.diagnostics }

/-! ### Reading -/

/-- The truth value of a key, or what holds without the key. -/
def booleanAt (key : String) (without : Bool) (table : Toml) : Option Bool :=
  match table.get? key with
  | none => some without
  | some (.scalar (.boolean b)) => some b
  | some _ => none

/-- The string of a key, if the key is there. -/
def stringAt (key : String) (table : Toml) : Option (Option String) :=
  match table.get? key with
  | none => some none
  | some (.string s) => some (some s)
  | some _ => none

/-- The settings of a table, which may not have values of other types. -/
def ofToml (table : Toml) : Option Config := do
  let diagnostics ← booleanAt "diagnostics" default.diagnostics table
  let rendererName ← stringAt "renderer_name" table
  let documentsPath ← stringAt "documents_path" table
  return ⟨diagnostics, rendererName, documentsPath⟩

/-- The path with its variables and its tilde expanded, or as it is if that is impossible. -/
def expandPath (surroundings : Surroundings) (path : String) : String :=
  (Expansion.full surroundings.home surroundings.lookup path).getD path

/-- The settings with the path of documents expanded. -/
def expand (surroundings : Surroundings) (config : Config) : Config :=
  { config with documentsPath := config.documentsPath.map (expandPath surroundings) }

/-- The settings of a file at a path, if there is a file, with the path of documents as it is
written. -/
def read (path : String) (file : FileText) : Except ConfigError (Option Config) :=
  if !file.isPresent then .ok none
  else
    match file with
    | .error fault => .error (.unreadable path fault)
    | .ok text =>
      match (Toml.parse text).bind ofToml with
      | some config => .ok (some config)
      | none => .error (.malformed path)

/-- The settings of a file at a path, if there is a file, with the path of documents expanded. -/
def load (surroundings : Surroundings) (path : String) (file : FileText) :
    Except ConfigError (Option Config) :=
  (read path file).map fun config => config.map (expand surroundings)

/-! ### Writing -/

/-- A line that gives a key a value. -/
def line (key value : String) : String := key ++ " = " ++ value ++ "\n"

/-- The line of a key with a string, if there is one. -/
def stringLine (key : String) : Option String → String
  | some s => line key (Toml.writeString s)
  | none => ""

/-- The text of a configuration file. -/
def text (config : Config) : String :=
  line "diagnostics" (if config.diagnostics then "true" else "false")
    ++ stringLine "renderer_name" config.rendererName
    ++ stringLine "documents_path" config.documentsPath

end Config

end RichText
