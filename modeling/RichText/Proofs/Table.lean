import RichText.Table
import Mathlib.Data.List.Nodup

/-!
# Tables and their entries

Looking a name up in a table finds the value of its only entry under that name.  So a table of the
values that a function makes of some entries is looked up by looking the name up first and
applying the function then.  An entry whose name is greater than all others is inserted at the
end, and sorting entries of different names loses none of them.  A table lists its names by their
code points (`Table.Lists`).
-/

namespace RichText

universe u v

namespace Entries

variable {α : Type u} {β : Type v}

/-- What is found under a name is the value of an entry of that name. -/
theorem mem_of_find? {name : String} {value : α} {entries : List (String × α)}
    (h : find? name entries = some value) :
  (name, value) ∈ entries
  := by
  induction entries with
  | nil => simp [find?] at h
  | cons head rest ih =>
    simp only [find?] at h
    split at h
    · rename_i heq
      obtain rfl := Option.some.inj h
      rw [heq]
      apply List.mem_cons_self
    · apply List.mem_cons_of_mem
      apply ih h

/-- Under a name that no entry has, nothing is found. -/
theorem find?_eq_none {name : String} {entries : List (String × α)}
    (h : ∀ entry ∈ entries, entry.1 ≠ name) :
  find? name entries = none
  := by
  cases hfound : find? name entries with
  | none => rfl
  | some value => exact absurd rfl (h _ (mem_of_find? hfound))

/-- The name of the first entry is found in no other, if the names ascend. -/
theorem find?_rest_eq_none {head : String × α} {rest : List (String × α)}
    (h : Ascending (head :: rest)) :
  find? head.1 rest = none
  := by
  obtain ⟨hhead, -⟩ := List.pairwise_cons.mp h
  apply find?_eq_none
  intro entry hmem heq
  have hlt := hhead entry hmem
  rw [heq] at hlt
  exact absurd hlt (String.lt_irrefl _)

/-- In ascending entries a name is looked up as the value of its entry. -/
theorem find?_eq_some_of_mem {name : String} {value : α} {entries : List (String × α)}
    (hentries : Ascending entries) (hmem : (name, value) ∈ entries) :
  find? name entries = some value
  := by
  induction entries with
  | nil => simp at hmem
  | cons head rest ih =>
    obtain ⟨hhead, hrest⟩ := List.pairwise_cons.mp hentries
    rcases List.mem_cons.mp hmem with rfl | hmem
    · simp [find?]
    · have hne : name ≠ head.1 := by
        rintro rfl
        exact absurd (hhead _ hmem) (String.lt_irrefl _)
      rw [find?, if_neg hne, ih hrest hmem]

/-- A name is looked up among the values made of some entries by looking it up first. -/
theorem find?_filterMap (f : String → α → Option β) (name : String)
    {entries : List (String × α)} (hascending : Ascending entries) :
  find? name (entries.filterMap fun entry => (f entry.1 entry.2).map (entry.1, ·))
    = (find? name entries).bind (f name)
  := by
  induction entries with
  | nil => rfl
  | cons head rest ih =>
    obtain ⟨-, hrest⟩ := List.pairwise_cons.mp hascending
    have hnone := find?_rest_eq_none hascending
    obtain ⟨name', value⟩ := head
    by_cases hname : name = name'
    · subst hname
      cases hvalue : f name value with
      | none => simp [find?, hvalue, ih hrest, hnone]
      | some made => simp [find?, hvalue]
    · cases hvalue : f name' value with
      | none => simp [find?, hvalue, hname, ih hrest]
      | some made => simp [find?, hvalue, hname, ih hrest]

/-- A name is looked up among values that are all changed alike by looking it up first. -/
theorem find?_map (f : α → β) (name : String) (entries : List (String × α)) :
  find? name (entries.map fun entry => (entry.1, f entry.2)) = (find? name entries).map f
  := by
  induction entries with
  | nil => rfl
  | cons head rest ih =>
    rw [List.map_cons, find?, find?, ih]
    split
    · rfl
    · rfl

/-- An insertion under a name greater than all others puts the entry at the end. -/
theorem insert_of_forall_lt {name : String} (value : α) {entries : List (String × α)}
    (h : ∀ entry ∈ entries, entry.1 < name) :
  insert name value entries = entries ++ [(name, value)]
  := by
  induction entries with
  | nil => rfl
  | cons head rest ih =>
    obtain ⟨hhead, hrest⟩ := List.forall_mem_cons.mp h
    have hne : name ≠ head.1 := by
      intro heq
      exact absurd (heq ▸ hhead) (String.lt_irrefl _)
    simp only [insert, if_neg (String.lt_asymm hhead), if_neg hne, ih hrest, List.cons_append]

/-- Ascending entries are put one by one behind entries whose names are smaller. -/
private theorem foldl_insert {sorted entries : List (String × α)}
    (hsorted : ∀ kept ∈ sorted, ∀ entry ∈ entries, kept.1 < entry.1)
    (hentries : Ascending entries) :
  entries.foldl (fun sorted entry => insert entry.1 entry.2 sorted) sorted = sorted ++ entries
  := by
  induction entries generalizing sorted with
  | nil => simp
  | cons head rest ih =>
    obtain ⟨hhead, hrest⟩ := List.pairwise_cons.mp hentries
    have hinsert : insert head.1 head.2 sorted = sorted ++ [head] := by
      apply insert_of_forall_lt
      intro kept hkept
      exact hsorted kept hkept head List.mem_cons_self
    have hsmaller : ∀ kept ∈ sorted ++ [head], ∀ entry ∈ rest, kept.1 < entry.1 := by
      intro kept hkept entry hentry
      rw [List.mem_append, List.mem_singleton] at hkept
      rcases hkept with hkept | rfl
      · exact hsorted kept hkept entry (List.mem_cons_of_mem _ hentry)
      · exact hhead entry hentry
    rw [List.foldl_cons, hinsert, ih hsmaller hrest, List.append_assoc, List.singleton_append]

/-- Entries that ascend already are sorted as they are. -/
theorem ofList_eq_self {entries : List (String × α)} (h : Ascending entries) :
  ofList entries = entries
  := by
  have hnone : ∀ kept ∈ ([] : List (String × α)), ∀ entry ∈ entries, kept.1 < entry.1 := by
    simp
  rw [ofList, foldl_insert hnone h, List.nil_append]

/-- Every sorted entry is one of the entries. -/
theorem mem_of_mem_ofList {entry : String × α} {entries : List (String × α)}
    (h : entry ∈ ofList entries) :
  entry ∈ entries
  := by
  have hfold : ∀ sorted : List (String × α),
      entry ∈ entries.foldl (fun sorted entry => insert entry.1 entry.2 sorted) sorted →
        entry ∈ sorted ∨ entry ∈ entries := by
    clear h
    induction entries with
    | nil => exact fun _ hmem => .inl hmem
    | cons head rest ih =>
      intro sorted hmem
      rcases ih _ hmem with hmem | hmem
      · rcases mem_insert hmem with rfl | hmem
        · exact .inr List.mem_cons_self
        · exact .inl hmem
      · exact .inr (List.mem_cons_of_mem _ hmem)
  simpa using hfold [] h

/-- An insertion under a new name adds an entry. -/
theorem perm_insert {name : String} (value : α) {entries : List (String × α)}
    (h : ∀ entry ∈ entries, entry.1 ≠ name) :
  (insert name value entries).Perm ((name, value) :: entries)
  := by
  induction entries with
  | nil => exact .refl _
  | cons head rest ih =>
    obtain ⟨hhead, hrest⟩ := List.forall_mem_cons.mp h
    rw [insert]
    split
    · exact .refl _
    · rw [if_neg hhead.symm]
      exact ((ih hrest).cons head).trans (.swap _ _ _)

/-- Sorting entries of different names puts them into another order. -/
theorem perm_ofList {entries : List (String × α)} (h : (entries.map (·.1)).Nodup) :
  (ofList entries).Perm entries
  := by
  have hfold : ∀ sorted : List (String × α), ((sorted ++ entries).map (·.1)).Nodup →
      (entries.foldl (fun sorted entry => insert entry.1 entry.2 sorted) sorted).Perm
        (sorted ++ entries) := by
    clear h
    induction entries with
    | nil => simp
    | cons head rest ih =>
      intro sorted hnodup
      have hne : ∀ entry ∈ sorted, entry.1 ≠ head.1 := by
        rw [List.map_append, List.nodup_append] at hnodup
        intro entry hentry
        exact hnodup.2.2 _ (List.mem_map_of_mem hentry) _ List.mem_cons_self
      have hmiddle : (insert head.1 head.2 sorted ++ rest).Perm (sorted ++ head :: rest) :=
        ((perm_insert head.2 hne).append_right rest).trans List.perm_middle.symm
      rw [List.foldl_cons]
      apply (ih _ ?_).trans hmiddle
      exact ((hmiddle.map _).nodup_iff).mpr hnodup
  exact hfold [] h

end Entries

namespace Table

variable {α : Type u} {β : Type v}

theorem find?_filterMap (f : String → α → Option β) (table : Table α) (name : String) :
  (table.filterMap f).find? name = (table.find? name).bind (f name)
  := Entries.find?_filterMap f name table.ascending

theorem contains_eq_false_iff {table : Table α} {name : String} :
  table.contains name = false ↔ table.find? name = none
  := by
  rw [contains, Option.isSome_eq_false_iff, Option.isNone_iff_eq_none]

/-- A name that is not among those of a table is not found. -/
theorem notMem_names_iff {table : Table α} {name : String} :
  name ∉ table.names ↔ table.find? name = none
  := by
  constructor
  · intro hnames
    apply Entries.find?_eq_none
    rintro entry hentry rfl
    exact hnames (List.mem_map_of_mem hentry)
  · intro hnone hmem
    obtain ⟨⟨_, value⟩, hentry, rfl⟩ := List.mem_map.mp hmem
    rw [find?, Entries.find?_eq_some_of_mem table.ascending hentry] at hnone
    simp at hnone

theorem entries_ofList {entries : List (String × α)} (h : Entries.Ascending entries) :
  (ofList entries).entries = entries
  := Entries.ofList_eq_self h

/-! ### Insertions -/

/-- An insertion changes what is found under its name and nothing else. -/
theorem find?_insert (table : Table α) (name other : String) (value : α) :
  (table.insert name value).find? other
    = if other = name then some value else table.find? other
  := by
  by_cases hname : other = name
  · rw [if_pos hname, hname, find?_insert_self]
  · rw [if_neg hname, find?_insert_ne _ hname]

/-- Behind an insertion the inserted value is found, or else what was found before. -/
theorem find?_insert_eq_or (table : Table α) (name other : String) (value : α) :
  (table.insert name value).find? other
    = (if name = other then some value else none).or (table.find? other)
  := by
  rw [find?_insert]
  by_cases hname : name = other
  · rw [if_pos hname, if_pos hname.symm, Option.some_or]
  · rw [if_neg hname, if_neg (Ne.symm hname), Option.none_or]

/-- What a function makes of what is found changes under the name of an insertion only. -/
theorem bind_find?_insert (table : Table α) (name other : String) (value : α)
    (f : α → Option β) :
  ((table.insert name value).find? other).bind f
    = if other = name then f value else (table.find? other).bind f
  := by
  rw [find?_insert]
  split
  · rfl
  · rfl

section

variable {P : String → α → Prop}

/-- Anything holds of all values of the table without entries. -/
theorem forall_find?_empty :
  ∀ name value, (empty : Table α).find? name = some value → P name value
  := by
  intro name value hfind
  simp [find?, empty, Entries.find?] at hfind

/-- What holds of all values of a table and of one more holds when that one is inserted. -/
theorem forall_find?_insert {table : Table α}
    (h : ∀ name value, table.find? name = some value → P name value) {name : String} {value : α}
    (hvalue : P name value) :
  ∀ other found, (table.insert name value).find? other = some found → P other found
  := by
  intro other found hfind
  rw [find?_insert] at hfind
  split at hfind
  · rename_i hname
    obtain rfl := Option.some.inj hfind
    rwa [hname]
  · exact h other found hfind

end

/-! ### Names -/

/-- The code points of the characters of a name. -/
def codePoints (name : String) : List Nat := name.toList.map Char.toNat

/-- Smaller names have smaller code points. -/
theorem codePoints_lt_codePoints {name name' : String} (h : name < name') :
  codePoints name < codePoints name'
  := by
  apply List.map_lt _ (String.lt_iff.mp h)
  intro c c' hlt
  exact UInt32.lt_iff_toNat_lt.mp (Char.lt_def.mp hlt)

/-- The names of the table are those with `P`.  They are listed once each, in ascending order of
their code points, and counted. -/
structure Lists (table : Table α) (P : String → Prop) : Prop where
  contains : ∀ name, table.contains name = true ↔ P name
  mem_names : ∀ name, name ∈ table.names ↔ P name
  nodup : table.names.Nodup
  ascending : (table.names.map codePoints).Pairwise (· < ·)
  size : table.size = table.names.length

/-- A table lists the names under which something is found. -/
theorem lists_of_contains {table : Table α} {P : String → Prop}
    (h : ∀ name, table.contains name = true ↔ P name) :
  table.Lists P
  := by
  have hascending : table.names.Pairwise (· < ·) := List.pairwise_map.mpr table.ascending
  constructor
  case contains => exact h
  case mem_names =>
    intro name
    rw [← h, ← not_iff_not, notMem_names_iff, Bool.not_eq_true, contains_eq_false_iff]
  case nodup =>
    apply hascending.imp
    rintro name _ hlt rfl
    exact String.lt_irrefl name hlt
  case ascending =>
    apply hascending.map
    intro name name'
    exact codePoints_lt_codePoints
  case size => rw [size, names, List.length_map]

end Table

end RichText
