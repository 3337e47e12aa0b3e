import RichText.Command.Run

/-!
# The program

The program around `Command.run`: it reads the arguments, the files and the variables of the
environment, and prints the log and the HTML.
-/

namespace RichText.Program

/-- The number of an error of the system, which may come with its sign changed. -/
def errorNumber (code : UInt32) : Nat := min code.toNat (-code).toNat

/-- The fault of an error of the system that has a number and a wording. -/
def numberedFault (code : UInt32) (details : String) : FileFault :=
  match errorNumber code with
  | 2 => .notFound
  | 13 => .other "Permission denied (os error 13)"
  | 20 => .notDirectory
  | 21 => .isDirectory
  | 36 => .nameTooLong
  | 40 => .tooManyLinks
  | number => .other (details ++ " (os error " ++ toString number ++ ")")

/-- The fault that an error of the system stands for. -/
def fault : IO.Error → FileFault
  | .noFileOrDirectory _ code details => numberedFault code details
  | .inappropriateType _ code details => numberedFault code details
  | .invalidArgument _ code details => numberedFault code details
  | .permissionDenied _ code details => numberedFault code details
  | .otherError code details => numberedFault code details
  | error => .other (toString error)

/-- What reading the file at a path gives. -/
def readText (path : String) : IO FileText := do
  if let some fault := FilePath.fault? path then return .error fault
  try
    let bytes ← IO.FS.readBinFile path
    return match String.fromUTF8? bytes with
      | some text => .ok text
      | none => .error .notText
  catch error => return .error (fault error)

/-- The home directory; without one a tilde stays as it is. -/
def homeDirectory : IO String := do
  match ← IO.getEnv "HOME" with
  | some home => return if home.isEmpty then "~" else home
  | none => return "~"

/-- The surroundings with the values of the given variables, as far as they are set. -/
def surroundings (home : String) (names : List String) : IO Surroundings := do
  let values ← names.filterMapM fun name => do
    return (← IO.getEnv name).map fun value => (name, value)
  return ⟨home, fun name => values.lookup name⟩

/-- The variables that a configuration file asks for. -/
def variablesOf (path : String) (file : FileText) : List String :=
  match Config.read path file with
  | .ok (some config) => (config.documentsPath.map Expansion.names).getD []
  | _ => []

/-- Runs the command with the given arguments; gives its exit code. -/
def run (arguments : List String) : IO UInt32 := do
  let home ← homeDirectory
  let configPath := Config.path home
  let configFile ← readText configPath
  let surroundings ← surroundings home (variablesOf configPath configFile)
  let document ← match (Command.prepare surroundings configFile arguments).2 with
    | .ok plan => readText plan.path
    | .error _ => pure (.error .notFound)
  let outcome := Command.run surroundings configFile (fun _ => document) arguments
  IO.eprint outcome.errorOutput
  IO.print outcome.output
  return outcome.code.toUInt32

end RichText.Program

/-- The program. -/
def main (arguments : List String) : IO UInt32 :=
  RichText.Program.run arguments
