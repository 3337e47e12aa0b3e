/-!
# Tables by name

`Entries` operations work on lists of named values: `insert` keeps the names in ascending
order and replaces the value of a name that is already there, `find?` looks a name up, and
`ofList` sorts a list in which a later value of a name replaces an earlier one.  A `Table`
is such a list together with the fact that its names ascend, so a table holds each name at
most once and two tables with the same entries are equal.
-/

namespace RichText

universe u v

namespace Entries

variable {α : Type u} {β : Type v}

/-- The names of `entries` ascend strictly, by code points. -/
def Ascending (entries : List (String × α)) : Prop :=
  entries.Pairwise fun a b => a.1 < b.1

/-- The list `entries` with `value` under `name`, put before the first greater name. -/
def insert (name : String) (value : α) : List (String × α) → List (String × α)
  | [] => [(name, value)]
  | (name', value') :: rest =>
    if name < name' then (name, value) :: (name', value') :: rest
    else if name = name' then (name, value) :: rest
    else (name', value') :: insert name value rest

/-- The first value under `name`. -/
def find? (name : String) : List (String × α) → Option α
  | [] => none
  | (name', value) :: rest => if name = name' then some value else find? name rest

/-- The entries in ascending order; of two values under one name the later one stays. -/
def ofList (entries : List (String × α)) : List (String × α) :=
  entries.foldl (fun sorted entry => insert entry.1 entry.2 sorted) []

/-- Every entry of an insertion is the new one or an old one. -/
theorem mem_insert {name : String} {value : α} {entry : String × α}
    {entries : List (String × α)} (h : entry ∈ insert name value entries) :
  entry = (name, value) ∨ entry ∈ entries
  := by
  induction entries with
  | nil => simpa [insert] using h
  | cons head rest ih =>
    simp only [insert] at h
    split at h
    · simpa using h
    · split at h
      · rcases List.mem_cons.mp h with h | h
        · exact .inl h
        · exact .inr (List.mem_cons_of_mem _ h)
      · rcases List.mem_cons.mp h with h | h
        · exact .inr (h ▸ List.mem_cons_self)
        · exact (ih h).imp_right (List.mem_cons_of_mem _)

/-- Insertion keeps the names ascending. -/
theorem Ascending.insert {entries : List (String × α)} (h : Ascending entries)
    (name : String) (value : α) :
  Ascending (insert name value entries)
  := by
  induction entries with
  | nil => simp [Entries.insert, Ascending]
  | cons head rest ih =>
    obtain ⟨hhead, hrest⟩ := List.pairwise_cons.mp h
    simp only [Entries.insert]
    split
    · rename_i hlt
      refine List.pairwise_cons.mpr ⟨fun entry hentry => ?_, h⟩
      rcases List.mem_cons.mp hentry with rfl | hentry
      · exact hlt
      · exact String.lt_trans hlt (hhead _ hentry)
    · split
      · rename_i heq
        exact List.pairwise_cons.mpr ⟨fun entry hentry => heq ▸ hhead entry hentry, hrest⟩
      · rename_i hnlt hne
        refine List.pairwise_cons.mpr ⟨fun entry hentry => ?_, ih hrest⟩
        rcases mem_insert hentry with rfl | hentry
        · apply Decidable.byContradiction
          intro hle
          exact hne (String.le_antisymm (String.not_lt.mp hle) (String.not_lt.mp hnlt))
        · exact hhead entry hentry

/-- The names of a list built by insertions ascend. -/
theorem ascending_ofList (entries : List (String × α)) :
  Ascending (ofList entries)
  := by
  have step : ∀ sorted : List (String × α), Ascending sorted →
      Ascending (entries.foldl (fun sorted entry => insert entry.1 entry.2 sorted) sorted) := by
    induction entries with
    | nil => exact fun _ h => h
    | cons head rest ih => exact fun sorted h => ih _ (h.insert head.1 head.2)
  exact step [] List.Pairwise.nil

/-- An inserted value is found under its name. -/
theorem find?_insert_self (name : String) (value : α) (entries : List (String × α)) :
  find? name (insert name value entries) = some value
  := by
  induction entries with
  | nil => simp [insert, find?]
  | cons head rest ih =>
    simp only [insert]
    split
    · simp [find?]
    · split
      · simp [find?]
      · rename_i hne
        simp [find?, hne, ih]

/-- An insertion changes nothing under the other names. -/
theorem find?_insert_ne {name other : String} (h : other ≠ name) (value : α)
    (entries : List (String × α)) :
  find? other (insert name value entries) = find? other entries
  := by
  induction entries with
  | nil => simp [insert, find?, h]
  | cons head rest ih =>
    simp only [insert]
    split
    · simp [find?, h]
    · split
      · rename_i heq
        simp [find?, h, ← heq]
      · simp [find?, ih]

end Entries

/-- Values by name, in ascending order of the names. -/
@[ext]
structure Table (α : Type u) where
  entries : List (String × α)
  ascending : Entries.Ascending entries
deriving DecidableEq

namespace Table

variable {α : Type u} {β : Type v}

/-- The table without entries. -/
def empty : Table α := ⟨[], List.Pairwise.nil⟩

instance : EmptyCollection (Table α) := ⟨empty⟩

instance : Inhabited (Table α) := ⟨empty⟩

/-- The table with `value` under `name`, in place of any value that was there. -/
def insert (table : Table α) (name : String) (value : α) : Table α :=
  ⟨Entries.insert name value table.entries, table.ascending.insert name value⟩

/-- The value under `name`. -/
def find? (table : Table α) (name : String) : Option α :=
  Entries.find? name table.entries

/-- Whether there is a value under `name`. -/
def contains (table : Table α) (name : String) : Bool :=
  (table.find? name).isSome

/-- The names, in ascending order. -/
def names (table : Table α) : List String :=
  table.entries.map (·.1)

/-- The number of names. -/
def size (table : Table α) : Nat :=
  table.entries.length

/-- Whether there are no names. -/
def isEmpty (table : Table α) : Bool :=
  table.entries.isEmpty

/-- The table of a list of entries; of two values under one name the later one stays. -/
def ofList (entries : List (String × α)) : Table α :=
  ⟨Entries.ofList entries, Entries.ascending_ofList entries⟩

/-- The table of the values that `f` makes of some of the entries, under the same names. -/
def filterMap (f : String → α → Option β) (table : Table α) : Table β where
  entries := table.entries.filterMap fun entry => (f entry.1 entry.2).map (entry.1, ·)
  ascending := by
    refine List.Pairwise.filterMap _ ?_ table.ascending
    intro a b hlt a' ha b' hb
    obtain ⟨x, -, rfl⟩ := Option.map_eq_some_iff.mp ha
    obtain ⟨y, -, rfl⟩ := Option.map_eq_some_iff.mp hb
    exact hlt

@[simp]
theorem find?_insert_self (table : Table α) (name : String) (value : α) :
  (table.insert name value).find? name = some value
  := Entries.find?_insert_self name value table.entries

theorem find?_insert_ne (table : Table α) {name other : String} (h : other ≠ name) (value : α) :
  (table.insert name value).find? other = table.find? other
  := Entries.find?_insert_ne h value table.entries

end Table

end RichText
