import RichText.Element
import RichText.Proofs.Table

/-!
# Properties of attributes

`Props.ofAttributes` adds attributes one by one.  What it makes of a table is the table without
the class, and the class in its own place.  `Props.entries` lists properties as they are written,
with the class first, and `Props.ofEntries` makes properties of such a list.
-/

namespace RichText

namespace Props

/-- The properties of attributes with the class apart from the others. -/
def withClassApart (attributes : Table String) : Props where
  className := attributes.find? classAttribute
  attributes := attributes.filterMap fun name value =>
    if name = classAttribute then none else some value

/-- The entries that are not the class, as they stand in `withClassApart`. -/
private def besidesClass (entries : List (String × String)) : List (String × String) :=
  entries.filterMap fun entry =>
    (if entry.1 = classAttribute then none else some entry.2).map (entry.1, ·)

/-- Adding ascending attributes one by one to properties whose names are smaller puts all but the
class behind those that are there. -/
private theorem foldl_add (props : Props) {entries : List (String × String)}
    (hprops : ∀ kept ∈ props.attributes.entries, ∀ entry ∈ entries, kept.1 < entry.1)
    (hentries : Entries.Ascending entries) :
  (entries.foldl (fun props entry => props.add entry.1 entry.2) props).className
      = (Entries.find? classAttribute entries <|> props.className)
    ∧ (entries.foldl (fun props entry => props.add entry.1 entry.2) props).attributes.entries
      = props.attributes.entries ++ besidesClass entries
  := by
  induction entries generalizing props with
  | nil => simp [Entries.find?, besidesClass]
  | cons head rest ih =>
    obtain ⟨hhead, hrest⟩ := List.pairwise_cons.mp hentries
    have hnone := Entries.find?_rest_eq_none hentries
    obtain ⟨name, value⟩ := head
    rw [List.foldl_cons]
    by_cases hname : name = classAttribute
    · rw [hname] at hnone
      have hsmaller : ∀ kept ∈ (props.add name value).attributes.entries,
          ∀ entry ∈ rest, kept.1 < entry.1 := by
        intro kept hkept entry hentry
        rw [add, if_pos hname] at hkept
        exact hprops kept hkept entry (List.mem_cons_of_mem _ hentry)
      obtain ⟨hclass, hattributes⟩ := ih _ hsmaller hrest
      rw [hclass, hattributes, hnone]
      simp [add, hname, Entries.find?, besidesClass]
    · have hinsert : (props.attributes.insert name value).entries
          = props.attributes.entries ++ [(name, value)] := by
        apply Entries.insert_of_forall_lt
        intro kept hkept
        exact hprops kept hkept (name, value) List.mem_cons_self
      have hsmaller : ∀ kept ∈ (props.add name value).attributes.entries,
          ∀ entry ∈ rest, kept.1 < entry.1 := by
        intro kept hkept entry hentry
        rw [add, if_neg hname, hinsert, List.mem_append, List.mem_singleton] at hkept
        rcases hkept with hkept | rfl
        · exact hprops kept hkept entry (List.mem_cons_of_mem _ hentry)
        · exact hhead entry hentry
      obtain ⟨hclass, hattributes⟩ := ih _ hsmaller hrest
      rw [hclass, hattributes]
      constructor
      · simp [add, hname, Entries.find?, Ne.symm hname]
      · simp [add, hname, hinsert, besidesClass]

/-- The properties of attributes have the class apart and all other attributes as they were. -/
theorem ofAttributes_eq (attributes : Table String) :
  ofAttributes attributes = withClassApart attributes
  := by
  obtain ⟨hclass, hattributes⟩ :=
    foldl_add empty (by simp [empty, Table.empty]) attributes.ascending
  apply Props.ext
  · rw [ofAttributes, hclass]
    simp [empty, withClassApart, Table.find?]
  · apply Table.ext
    rw [ofAttributes, hattributes]
    simp [empty, Table.empty, withClassApart, Table.filterMap, besidesClass]

/-- No attribute of properties that are made of attributes is the class. -/
theorem classAttribute_notMem_names_ofAttributes (attributes : Table String) :
  classAttribute ∉ (ofAttributes attributes).attributes.names
  := by
  intro hmem
  rw [ofAttributes_eq, Table.names, withClassApart, Table.filterMap] at hmem
  obtain ⟨entry, hentry, hname⟩ := List.mem_map.mp hmem
  obtain ⟨entry', -, hmap⟩ := List.mem_filterMap.mp hentry
  split at hmap
  · simp at hmap
  · rename_i hne
    obtain rfl := Option.some.inj hmap
    exact hne hname

/-! ### Lists of attributes -/

/-- The properties of a list of attributes. -/
def ofEntries (entries : List (String × String)) : Props :=
  entries.foldl (fun props entry => props.add entry.1 entry.2) empty

/-- The attributes of properties, the class first. -/
def entries (props : Props) : List (String × String) :=
  (props.className.map (classAttribute, ·)).toList ++ props.attributes.entries

/-- Without a class among them, all attributes are besides the class. -/
private theorem besidesClass_eq_self {entries : List (String × String)}
    (h : ∀ entry ∈ entries, entry.1 ≠ classAttribute) :
  besidesClass entries = entries
  := by
  induction entries with
  | nil => rfl
  | cons head rest ih =>
    have hhead := h head List.mem_cons_self
    have hrest := ih fun entry hentry => h entry (List.mem_cons_of_mem _ hentry)
    rw [besidesClass] at hrest
    simp [besidesClass, hhead, hrest]

/-- Properties without a class among their attributes are made of their list. -/
theorem ofEntries_entries {props : Props} (h : classAttribute ∉ props.attributes.names) :
  ofEntries props.entries = props
  := by
  obtain ⟨className, attributes⟩ := props
  have hne : ∀ entry ∈ attributes.entries, entry.1 ≠ classAttribute := by
    intro entry hentry heq
    apply h
    rw [← heq]
    apply List.mem_map_of_mem hentry
  have hfront : ofEntries (entries ⟨className, attributes⟩)
      = attributes.entries.foldl (fun props entry => props.add entry.1 entry.2)
        ⟨className, Table.empty⟩ := by
    cases className <;> simp [ofEntries, entries, add, empty]
  obtain ⟨hclass, hattributes⟩ :=
    foldl_add ⟨className, Table.empty⟩ (by simp [Table.empty]) attributes.ascending
  rw [hfront]
  apply Props.ext
  · rw [hclass, Entries.find?_eq_none hne]
    simp
  · apply Table.ext
    rw [hattributes, besidesClass_eq_self hne]
    simp [Table.empty]

end Props

end RichText
