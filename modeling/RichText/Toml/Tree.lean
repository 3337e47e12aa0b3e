import RichText.Toml.Basic

/-!
# Building tables

The lines of a configuration file build up one tree of tables.  A table is named by a header, or
arises on the way to one, or is filled by dotted keys; which of these decides how later lines may
extend it.  No key is given twice, and values in brackets cannot be extended from outside.
-/

namespace RichText.Toml

/-- How a table came about: on the way to another table, by a header, or by dotted keys. -/
inductive Origin where
  | implied
  | header
  | dotted
deriving DecidableEq

/-- A part of the tree: a value, a table, or a list of tables that share a header, the last of
which can be extended. -/
inductive Branch where
  | value (v : Toml)
  | table (origin : Origin) (entries : List (String × Branch))
  | tables (elements : List (List (String × Branch)))

namespace Branch

/-- The entries of a table. -/
abbrev Entries := List (String × Branch)

/-- The entries with `f` applied at a key, which is added at the end if it is not there. -/
def alter (key : String) (f : Option Branch → Option Branch) : Entries → Option Entries
  | [] => (f none).map fun branch => [(key, branch)]
  | (key', branch) :: rest =>
    if key = key' then (f (some branch)).map fun branch => (key', branch) :: rest
    else (alter key f rest).map ((key', branch) :: ·)

/-- The elements of a list of tables with `f` applied to the last one. -/
def alterLast (f : Entries → Option Entries) : List Entries → Option (List Entries)
  | [] => none
  | [last] => (f last).map ([·])
  | first :: rest => (alterLast f rest).map (first :: ·)

/-- The entries with `f` applied to the table at the end of a path; tables on the way that are
not there are implied. -/
def within (f : Entries → Option Entries) : List String → Entries → Option Entries
  | [], entries => f entries
  | key :: path, entries =>
    alter key (fun
      | none => (within f path []).map (table .implied)
      | some (table origin inner) => (within f path inner).map (table origin)
      | some (tables elements) => (alterLast (within f path) elements).map tables
      | some (value _) => none) entries

/-- Opens the table of a header.  A table has one header, and none if dotted keys fill it. -/
def openTable (key : String) : Entries → Option Entries :=
  alter key fun
    | none => some (table .header [])
    | some (table .implied inner) => some (table .header inner)
    | some _ => none

/-- Opens one more table of a list of tables. -/
def openElement (key : String) : Entries → Option Entries :=
  alter key fun
    | none => some (tables [[]])
    | some (tables elements) => some (tables (elements ++ [[]]))
    | some _ => none

/-- Puts a value at a dotted key.  The last table on the way must be one that dotted keys fill,
and none of them has a header, except that the way may lead through the last table of a list. -/
def assign (v : Toml) (key : String) : List String → Entries → Option Entries
  | [], entries =>
    alter key (fun
      | none => some (value v)
      | some _ => none) entries
  | key' :: path, entries =>
    alter key (fun
      | none => (assign v key' path []).map (table .dotted)
      | some (table .dotted inner) => (assign v key' path inner).map (table .dotted)
      | some (table .implied inner) =>
        if path.isEmpty then none else (assign v key' path inner).map (table .implied)
      | some (tables elements) =>
        if path.isEmpty then none else (alterLast (assign v key' path) elements).map tables
      | some _ => none) entries

mutual

/-- The value of a part of a tree. -/
def toToml : Branch → Toml
  | value v => v
  | table _ entries => .table (entriesToToml entries)
  | tables elements => .array (elementsToToml elements)

/-- The values of the entries of a table. -/
def entriesToToml : List (String × Branch) → List (String × Toml)
  | [] => []
  | (key, branch) :: rest => (key, toToml branch) :: entriesToToml rest

/-- The values of a list of tables. -/
def elementsToToml : List (List (String × Branch)) → List Toml
  | [] => []
  | entries :: rest => .table (entriesToToml entries) :: elementsToToml rest

end

end Branch

end RichText.Toml
