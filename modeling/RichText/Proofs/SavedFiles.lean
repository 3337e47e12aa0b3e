import RichText.Files
import RichText.Proofs.Sequencing

/-!
# Saved files

A file that is written to a path is read from the path as it was written.  Writing changes one
entry of one directory and no directory gives way to it, so the path leads through the written
tree as it led through the tree before.
-/

namespace RichText.FileTree

variable {root root' : FileTree} {working : List String} {path : String}

/-! ### Entries -/

theorem lookup_putEntry_self (name : String) (entry : FileTree)
    (entries : List (String × FileTree)) :
  (putEntry name entry entries).lookup name = some entry
  := by
  fun_induction putEntry name entry entries with
  | case1 => simp
  | case2 => simp
  | case3 name' _ _ hne ih =>
    have hbeq : (name == name') = false := by simpa using hne
    simp [List.lookup_cons, hbeq, ih]

theorem lookup_putEntry_of_ne {name other : String} (hne : other ≠ name) (entry : FileTree)
    (entries : List (String × FileTree)) :
  (putEntry name entry entries).lookup other = entries.lookup other
  := by
  have hbeq : (other == name) = false := by simpa using hne
  fun_induction putEntry name entry entries with
  | case1 => simp [List.lookup_cons, hbeq]
  | case2 => simp [List.lookup_cons, hbeq]
  | case3 _ _ _ _ ih => simp [List.lookup_cons, ih]

/-! ### Places -/

/-- Every directory of a tree is one of another tree, with at least its names. -/
def KeepsDirectories (root root' : FileTree) : Prop :=
  ∀ place entries, root.at? place = some (directory entries) →
    ∃ entries', root'.at? place = some (directory entries') ∧
      ∀ name, (entries.lookup name).isSome → (entries'.lookup name).isSome

theorem KeepsDirectories.refl (root : FileTree) :
  KeepsDirectories root root
  := fun _ entries h => ⟨entries, h, fun _ => id⟩

theorem at?_cons (name : String) (place : List String) (entries : List (String × FileTree)) :
  (directory entries).at? (name :: place) = (entries.lookup name).bind (·.at? place)
  := by
  rw [at?]

theorem at?_cons_eq_some {name : String} {place : List String} {found : FileTree}
    (h : root.at? (name :: place) = some found) :
  ∃ entries inner, root = directory entries ∧ entries.lookup name = some inner ∧
    inner.at? place = some found
  := by
  cases root with
  | file => simp [at?] at h
  | directory entries =>
    rw [at?_cons, Option.bind_eq_some_iff] at h
    obtain ⟨inner, hinner, hfound⟩ := h
    exact ⟨entries, inner, rfl, hinner, hfound⟩

theorem at?_append_singleton {place : List String} {entries : List (String × FileTree)}
    (h : root.at? place = some (directory entries)) (name : String) :
  root.at? (place ++ [name]) = entries.lookup name
  := by
  induction place generalizing root with
  | nil =>
    obtain rfl : root = directory entries := by simpa [at?] using h
    simp [at?]
  | cons step place ih =>
    obtain ⟨others, inner, rfl, hinner, hplace⟩ := at?_cons_eq_some h
    rw [List.cons_append, at?_cons, hinner, Option.bind_some, ih hplace]

theorem at?_put (entry : FileTree) {place : List String} (name : String)
    {entries : List (String × FileTree)} (h : root.at? place = some (directory entries)) :
  (root.put entry (place ++ [name])).at? (place ++ [name]) = some entry
  := by
  induction place generalizing root with
  | nil =>
    obtain rfl : root = directory entries := by simpa [at?] using h
    simp [put, at?, lookup_putEntry_self]
  | cons step place ih =>
    obtain ⟨others, inner, rfl, hinner, hplace⟩ := at?_cons_eq_some h
    simp [put, at?, lookup_putEntry_self, hinner, ih hplace]

/-- Directories stay where a file is put in place of no directory. -/
theorem keepsDirectories_put (text : Option String) {place : List String}
    (h : ∀ entries, root.at? place ≠ some (directory entries)) :
  KeepsDirectories root (root.put (file text) place)
  := by
  induction place generalizing root with
  | nil =>
    intro other entries hother
    cases root with
    | file => cases other <;> simp [at?] at hother
    | directory entries => exact absurd rfl (h entries)
  | cons step place ih =>
    cases root with
    | file => apply KeepsDirectories.refl
    | directory inner =>
      intro other entries hother
      cases other with
      | nil =>
        obtain rfl : inner = entries := by simpa [at?] using hother
        refine ⟨_, rfl, ?_⟩
        intro name hname
        by_cases hstep : name = step
        · simp [hstep, lookup_putEntry_self]
        · rwa [lookup_putEntry_of_ne hstep]
      | cons name other =>
        rw [at?_cons, Option.bind_eq_some_iff] at hother
        obtain ⟨found, hfound, hdeeper⟩ := hother
        rw [put, at?_cons]
        -- Only the entry on the way to the place has changed.
        by_cases hstep : name = step
        · subst hstep
          have hkeeps : KeepsDirectories found (found.put (file text) place) := by
            apply ih
            intro entries hplace
            apply h entries
            rw [at?_cons, hfound, Option.bind_some, hplace]
          rw [lookup_putEntry_self, hfound]
          apply hkeeps _ _ hdeeper
        · rw [lookup_putEntry_of_ne hstep, hfound]
          apply KeepsDirectories.refl _ _ _ hdeeper

/-! ### Paths -/

theorem follow_cons (root : FileTree) (place : List String) (step : String)
    (steps : List String) :
  root.follow place (step :: steps) = root.follow place [step] >>= (root.follow · steps)
  := by
  simp only [follow]
  cases root.at? place with
  | none => rfl
  | some entry =>
    cases entry with
    | file => rfl
    | directory entries =>
      dsimp only
      repeat split <;> try rfl

theorem follow_append (root : FileTree) (place steps more : List String) :
  root.follow place (steps ++ more) = root.follow place steps >>= (root.follow · more)
  := by
  induction steps generalizing place with
  | nil => rfl
  | cons step steps ih =>
    rw [List.cons_append, follow_cons, follow_cons root place step steps, bind_assoc]
    congr 1
    funext place'
    apply ih

/-- A name leads to the entry of a directory. -/
theorem follow_name {place : List String} {name : String} {entries : List (String × FileTree)}
    (h : root.at? place = some (directory entries)) (hself : name ≠ ".") (hparent : name ≠ "..")
    (hlength : ¬ FilePath.nameLimit < name.utf8ByteSize) (hname : (entries.lookup name).isSome) :
  root.follow place [name] = .ok (place ++ [name])
  := by
  simp [follow, h, hself, hparent, hlength, hname]

theorem KeepsDirectories.follow_step (h : KeepsDirectories root root') {place place' : List String}
    {step : String} (hfollow : root.follow place [step] = .ok place') :
  root'.follow place [step] = .ok place'
  := by
  simp only [FileTree.follow] at hfollow ⊢
  cases hplace : root.at? place with
  | none => simp [hplace] at hfollow
  | some entry =>
    cases entry with
    | file => simp [hplace] at hfollow
    | directory entries =>
      obtain ⟨entries', hplace', hnames⟩ := h _ _ hplace
      rw [hplace] at hfollow
      rw [hplace']
      split_ifs at hfollow with hself hparent hlength
      · simpa only [if_pos hself] using hfollow
      · simpa only [if_neg hself, if_pos hparent] using hfollow
      · by_cases hname : (entries.lookup step).isSome = true
        · simpa [hself, hparent, hlength, hname, hnames _ hname] using hfollow
        · simp [hname] at hfollow

/-- Steps lead through a tree that keeps the directories as they did before. -/
theorem KeepsDirectories.follow (h : KeepsDirectories root root') {place place' steps : List String}
    (hfollow : root.follow place steps = .ok place') :
  root'.follow place steps = .ok place'
  := by
  induction steps generalizing place with
  | nil => exact hfollow
  | cons step steps ih =>
    rw [follow_cons, bind_eq_ok_iff] at hfollow ⊢
    obtain ⟨next, hstep, hrest⟩ := hfollow
    exact ⟨next, h.follow_step hstep, ih hrest⟩

/-! ### Writing and reading -/

theorem directoryAt_eq_ok {steps place : List String}
    (h : root.directoryAt working steps = .ok place) :
  root.follow working steps = .ok place ∧ ∃ entries, root.at? place = some (directory entries)
  := by
  obtain ⟨found, hfollow, h⟩ := bind_eq_ok_iff.mp h
  split at h
  · rename_i entries hentries
    obtain rfl : found = place := by simpa using h
    exact ⟨hfollow, entries, hentries⟩
  · contradiction

theorem entryAt_eq_ok {place target : List String} {name : String}
    (h : entryAt place name = .ok target) :
  ¬ FilePath.nameLimit < name.utf8ByteSize ∧ place ++ [name] = target
  := by
  rw [entryAt] at h
  split_ifs at h with hlength
  exact ⟨hlength, Except.ok.inj h⟩

/-- A path leads to a name in the directory at a place, and a file can be put there. -/
structure Takes (root : FileTree) (working : List String) (path : String) (place : List String)
    (name : String) : Prop where
  fault : FilePath.fault? path = none
  isForFile : FilePath.isForDirectory path = false
  leads : ∃ above, FilePath.steps path = above ++ [name] ∧
    root.follow (origin working path) above = .ok place
  inDirectory : ∃ entries, root.at? place = some (directory entries)
  isName : name ≠ "." ∧ name ≠ ".." ∧ ¬ FilePath.nameLimit < name.utf8ByteSize
  free : ∀ entries, root.at? (place ++ [name]) ≠ some (directory entries)

/-- Writing puts the file where the path leads. -/
theorem write_eq_ok {text : Option String} (h : root.write working path text = .ok root') :
  ∃ place name, root.Takes working path place name ∧ root' = root.put (file text) (place ++ [name])
  := by
  unfold write at h
  split at h
  · contradiction
  · contradiction
  · rename_i name reversed hfault hsteps
    obtain ⟨place, habove, h⟩ := bind_eq_ok_iff.mp h
    obtain ⟨hfollow, hplace⟩ := directoryAt_eq_ok habove
    split_ifs at h with hname
    simp only [not_or, Bool.not_eq_true] at hname
    obtain ⟨hself, hparent, hfile⟩ := hname
    obtain ⟨target, htarget, h⟩ := bind_eq_ok_iff.mp h
    obtain ⟨hlength, rfl⟩ := entryAt_eq_ok htarget
    have habove : FilePath.steps path = reversed.reverse ++ [name] := by
      simpa using congrArg List.reverse hsteps
    split at h
    · contradiction
    · rename_i hfree
      exact ⟨place, name,
        ⟨hfault, hfile, ⟨_, habove, hfollow⟩, hplace, ⟨hself, hparent, hlength⟩, hfree⟩,
        (Except.ok.inj h).symm⟩

/-- The path to a file that was put there leads to it. -/
theorem Takes.follow {place : List String} {name : String}
    (h : root.Takes working path place name) (text : Option String) :
  (root.put (file text) (place ++ [name])).follow (origin working path) (FilePath.steps path)
    = .ok (place ++ [name])
  := by
  obtain ⟨above, hsteps, habove⟩ := h.leads
  obtain ⟨entries, hplace⟩ := h.inDirectory
  obtain ⟨hself, hparent, hlength⟩ := h.isName
  have hkeeps := keepsDirectories_put text h.free
  obtain ⟨entries', hplace', _⟩ := hkeeps _ _ hplace
  have hname : (entries'.lookup name).isSome := by
    rw [← at?_append_singleton hplace', at?_put _ _ hplace, Option.isSome_some]
  rw [hsteps, follow_append, bind_eq_ok_iff]
  exact ⟨place, hkeeps.follow habove, follow_name hplace' hself hparent hlength hname⟩

/-- A file that was written is read as it was written. -/
theorem read_of_write {text : String} (h : root.write working path (some text) = .ok root') :
  root'.read working path = .ok text
  := by
  obtain ⟨place, name, htakes, rfl⟩ := write_eq_ok h
  obtain ⟨entries, hplace⟩ := htakes.inDirectory
  have hfile := at?_put (file (some text)) name hplace
  simp [read, htakes.fault, htakes.follow, hfile, htakes.isForFile]

/-- A file that was saved is read as it was saved. -/
theorem read_of_save {text : String} (h : root.save working path (some text) = .ok root') :
  root'.read working path = .ok text
  := by
  obtain ⟨_, _, hwrite⟩ := bind_eq_ok_iff.mp h
  apply read_of_write hwrite

end RichText.FileTree
