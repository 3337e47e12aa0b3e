import RichText.Config
import RichText.Proofs.KeyLines
import RichText.Proofs.SavedFiles

/-!
# Saved settings

Settings that are saved to a file are loaded from it as they were, whatever their strings hold,
except that the path of documents is expanded.  The file is a line for each setting, and an
option that is absent has no line.
-/

namespace RichText

/-! ### Expansion -/

namespace Expansion

theorem expandVariables_of_notMem (lookup : String → Option String) {cs : List Char}
    (h : '$' ∉ cs) :
  expandVariables lookup cs = some cs
  := by
  induction cs with
  | nil => rw [expandVariables]
  | cons c cs ih =>
    obtain ⟨hc, hcs⟩ := List.ne_and_not_mem_of_not_mem_cons h
    rw [expandVariables.eq_def]
    simp [hc.symm, ih hcs]

/-- A path without a dollar sign and without a tilde in front is its own expansion. -/
theorem full_eq_self (home : String) (lookup : String → Option String) {path : String}
    (hdollar : '$' ∉ path.toList) (htilde : path.startsWith "~" = false) :
  full home lookup path = some path
  := by
  simp [full, expandVariables_of_notMem lookup hdollar, htilde]

end Expansion

namespace Config

/-! ### Lines -/

/-- The line of a truth value. -/
def booleanKeyLine (key : String) (hkey : Toml.IsBareKey key) (b : Bool) : Toml.KeyLine where
  key := key
  written := (if b then "true" else "false").toList
  value := .scalar (.boolean b)
  isBareKey := hkey
  writes := Toml.writes_boolean b

/-- The line of a string. -/
def stringKeyLine (key : String) (hkey : Toml.IsBareKey key) (s : String) : Toml.KeyLine where
  key := key
  written := (Toml.writeString s).toList
  value := .string s
  isBareKey := hkey
  writes := Toml.writes_string s

theorem isBareKey_diagnostics :
  Toml.IsBareKey "diagnostics"
  := ⟨List.all_eq_true.mp (by decide), by decide⟩

theorem isBareKey_rendererName :
  Toml.IsBareKey "renderer_name"
  := ⟨List.all_eq_true.mp (by decide), by decide⟩

theorem isBareKey_documentsPath :
  Toml.IsBareKey "documents_path"
  := ⟨List.all_eq_true.mp (by decide), by decide⟩

/-- The lines of the settings that are there. -/
def keyLines (config : Config) : List Toml.KeyLine :=
  booleanKeyLine "diagnostics" isBareKey_diagnostics config.diagnostics ::
    (config.rendererName.map (stringKeyLine "renderer_name" isBareKey_rendererName)).toList ++
    (config.documentsPath.map (stringKeyLine "documents_path" isBareKey_documentsPath)).toList

theorem toList_line {key value : String} {keyLine : Toml.KeyLine} (hkey : key = keyLine.key)
    (hvalue : value.toList = keyLine.written) :
  (line key value).toList = keyLine.text
  := by
  simp [line, Toml.KeyLine.text, hkey, hvalue]

theorem toList_stringLine {key : String} (hkey : Toml.IsBareKey key) (option : Option String) :
  (stringLine key option).toList
    = (option.map (stringKeyLine key hkey)).toList.flatMap Toml.KeyLine.text
  := by
  cases option with
  | none => rfl
  | some s =>
    have hline : (line key (Toml.writeString s)).toList = (stringKeyLine key hkey s).text :=
      toList_line rfl rfl
    simp [stringLine, hline]

theorem toList_text (config : Config) :
  config.text.toList = config.keyLines.flatMap Toml.KeyLine.text
  := by
  have hdiagnostics : (line "diagnostics" (if config.diagnostics then "true" else "false")).toList
    = (booleanKeyLine "diagnostics" isBareKey_diagnostics config.diagnostics).text :=
    toList_line rfl rfl
  simp [text, hdiagnostics, toList_stringLine isBareKey_rendererName,
    toList_stringLine isBareKey_documentsPath, keyLines]

theorem nodup_keys (config : Config) :
  (config.keyLines.map Toml.KeyLine.key).Nodup
  := by
  obtain ⟨diagnostics, rendererName, documentsPath⟩ := config
  cases rendererName <;> cases documentsPath <;> simp [keyLines, booleanKeyLine, stringKeyLine]

theorem ofToml_keyLines (config : Config) :
  ofToml (.table (config.keyLines.map fun line => (line.key, line.value))) = some config
  := by
  obtain ⟨diagnostics, rendererName, documentsPath⟩ := config
  cases rendererName <;> cases documentsPath <;> rfl

/-- The text of settings is read as the settings. -/
theorem read_text (path : String) (config : Config) :
  read path (.ok config.text) = .ok (some config)
  := by
  have hparse := Toml.parse_text (toList_text config) (nodup_keys config)
  simp [read, FileText.isPresent, hparse, ofToml_keyLines]

theorem expand_eq_self {surroundings : Surroundings} {config : Config}
    (h : ∀ documents ∈ config.documentsPath,
      '$' ∉ documents.toList ∧ documents.startsWith "~" = false) :
  expand surroundings config = config
  := by
  obtain ⟨diagnostics, rendererName, documentsPath⟩ := config
  cases documentsPath with
  | none => rfl
  | some documents =>
    obtain ⟨hdollar, htilde⟩ := h documents rfl
    simp [expand, expandPath, Expansion.full_eq_self _ _ hdollar htilde]

/-- Saved settings are loaded as they were, except that the path of documents is expanded if it has
an expansion; one without a dollar sign and without a tilde in front is loaded as it was, too. -/
theorem load_of_save {root saved : FileTree} {working : List String} {path : String}
    {config : Config} (h : root.save working path (some config.text) = .ok saved)
    (surroundings : Surroundings) :
  load surroundings path (saved.read working path) = .ok (some { config with
    documentsPath := config.documentsPath.map fun documents =>
      (Expansion.full surroundings.home surroundings.lookup documents).getD documents }) ∧
  ((∀ documents ∈ config.documentsPath,
      '$' ∉ documents.toList ∧ documents.startsWith "~" = false) →
    load surroundings path (saved.read working path) = .ok (some config))
  := by
  have hload : load surroundings path (saved.read working path)
    = .ok (some (expand surroundings config)) := by
    rw [FileTree.read_of_save h, load, read_text]
    rfl
  refine ⟨hload, ?_⟩
  intro hplain
  rw [hload, expand_eq_self hplain]

/-- Settings whose strings have to be quoted with care, and whose path names a variable. -/
def intricate : Config :=
  ⟨false, some "it's \"\"\"quoted\"\"\" \\ \x01\r\n", some "~/'''\n$DOCS"⟩

/-- Settings whose path has nothing to expand. -/
def plain : Config := ⟨true, none, some "docs/\"notes\""⟩

theorem steps_c :
  FilePath.steps "c" = ["c"]
  := by
  have hsplit : "c".splitOn "/" = ["c"] := by
    rw [String.splitOn, if_neg (by decide), String.splitOnAux, if_neg (by decide +kernel)]
    dsimp only
    rw [if_neg (by decide +kernel), String.splitOnAux, if_pos (by decide +kernel)]
    decide +kernel
  rw [FilePath.steps, hsplit]
  decide

theorem save_c (text : String) :
  (FileTree.directory []).save [] "c" (some text) = .ok (.directory [("c", .file (some text))])
  := by
  have hlength : "c".utf8ByteSize ≤ FilePath.pathLimit := by decide +kernel
  have hfault : FilePath.fault? "c" = none := by simpa [FilePath.fault?] using hlength
  have hforFile : FilePath.isForDirectory "c" = false := by decide +kernel
  have horigin : FileTree.origin [] "c" = [] := by decide +kernel
  have hname : ¬ FilePath.nameLimit < "c".utf8ByteSize := by decide +kernel
  simp only [FileTree.save, FilePath.components, FileTree.write, steps_c, hfault, hforFile, horigin]
  simp [FileTree.createDirectories, FileTree.directoryAt, FileTree.follow, FileTree.entryAt,
    FileTree.at?, hname, FileTree.put, FileTree.putEntry]

theorem intricate_and_plain_loaded :
  (∃ saved, (FileTree.directory []).save [] "c" (some intricate.text) = .ok saved ∧
    load ⟨"/root", fun _ => none⟩ "c" (saved.read [] "c") = .ok (some intricate) ∧
    load ⟨"/root", fun name => if name = "DOCS" then some "docs" else none⟩ "c" (saved.read [] "c")
      = .ok (some { intricate with documentsPath := some "/root/'''\ndocs" })) ∧
  ∃ saved, (FileTree.directory []).save [] "c" (some plain.text) = .ok saved ∧
    load ⟨"/root", fun _ => none⟩ "c" (saved.read [] "c") = .ok (some plain)
  := by
  have hintricate := save_c intricate.text
  have hplain := save_c plain.text
  refine ⟨⟨_, hintricate, ?_, ?_⟩, _, hplain, ?_⟩
  · rw [(load_of_save hintricate _).1]
    decide +kernel
  · rw [(load_of_save hintricate _).1]
    decide +kernel
  · apply (load_of_save hplain _).2
    decide +kernel

end Config

end RichText
