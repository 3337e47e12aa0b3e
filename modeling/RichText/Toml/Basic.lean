import RichText.Toml.Scalar

/-!
# Configuration values

A `Toml` is a value of a configuration file.  A whole file is a table.
-/

namespace RichText

/-- A value of a configuration file. -/
inductive Toml where
  | string (s : String)
  | scalar (s : Toml.Scalar)
  | array (items : List Toml)
  | table (entries : List (String × Toml))
deriving Inhabited

namespace Toml

/-- The value of a key of a table; every other value has no keys. -/
def get? (key : String) : Toml → Option Toml
  | .table entries => entries.lookup key
  | _ => none

end Toml

end RichText
