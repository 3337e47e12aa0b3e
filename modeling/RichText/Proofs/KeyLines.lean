import RichText.Proofs.QuotedStrings
import RichText.Toml.Reader
import Mathlib.Data.List.Nodup

/-!
# Lines of keys and values

A configuration file of nothing but lines `key = value`, with bare keys of which no two are the
same, is read as the table of its keys and values.  A `Toml.KeyLine` carries that its key is bare
and that its value is read from what is written for it.
-/

namespace RichText.Toml

/-- A text that a value is read from, whatever the lines behind it. -/
structure Writes (written : List Char) (value : Toml) : Prop where
  notBlank : ∀ c ∈ written.head?, isBlank c = false
  reads (rest : List Char) : ∃ left, left.1 = '\n' :: rest ∧
    readValue depthLimit (written ++ '\n' :: rest) = some (value, left)

/-- A key that stands without quotes. -/
structure IsBareKey (key : String) : Prop where
  isBare : ∀ c ∈ key.toList, isBare c = true
  ne_nil : key.toList ≠ []

/-- A line that gives a bare key a value. -/
structure KeyLine where
  key : String
  written : List Char
  value : Toml
  isBareKey : IsBareKey key
  writes : Writes written value

namespace KeyLine

/-- The text of a line. -/
def text (line : KeyLine) : List Char :=
  line.key.toList ++ ' ' :: '=' :: ' ' :: (line.written ++ ['\n'])

/-- What a line says. -/
def toLine (line : KeyLine) : Line := .pair line.key [] line.value

end KeyLine

/-! ### Values -/

theorem Writes.of_shorten {written : List Char} {value : Toml} (hne : written ≠ [])
    (hblank : ∀ c ∈ written.head?, isBlank c = false)
    (h : ∀ rest, readValue depthLimit (written ++ '\n' :: rest)
      = shorten _ (value, '\n' :: rest)) :
  Writes written value
  := by
  refine ⟨hblank, ?_⟩
  intro rest
  have hlength := List.length_pos_of_ne_nil hne
  have hshorter : ('\n' :: rest).length < (written ++ '\n' :: rest).length := by
    simp only [List.length_append, List.length_cons]
    omega
  refine ⟨⟨'\n' :: rest, hshorter⟩, rfl, ?_⟩
  rw [h, shorten, dif_pos hshorter]

/-- A word that ends with its line is read as the scalar that it is. -/
theorem readValue_word {c : Char} {cs word rest : List Char} {scalar : Scalar}
    (hfront : c ∉ ['[', '{', '\"', '\'']) (hword : Scalar.takeWord (c :: cs) = (word, rest))
    (hscalar : Scalar.read word = some scalar) (depth : Nat) :
  readValue depth (c :: cs) = shorten _ (.scalar scalar, rest)
  := by
  simp only [List.mem_cons, List.not_mem_nil, not_or, or_false] at hfront
  obtain ⟨harray, htable, hdouble, hsingle⟩ := hfront
  rw [readValue.eq_def]
  simp [hword, hscalar]

/-- A truth value is read from its word. -/
theorem writes_boolean (b : Bool) :
  Writes (if b then "true" else "false").toList (.scalar (.boolean b))
  := by
  cases b with
  | true =>
    apply Writes.of_shorten (by decide) (by simp [isBlank])
    intro rest
    apply readValue_word (by decide) rfl rfl
  | false =>
    apply Writes.of_shorten (by decide) (by simp [isBlank])
    intro rest
    apply readValue_word (by decide) rfl rfl

theorem readValue_quote {quote : Char} (h : quote = '\"' ∨ quote = '\'') (depth : Nat)
    (cs : List Char) :
  readValue depth (quote :: cs) = (readString (quote :: cs)).bind fun (s, left) =>
    shorten _ (.string (String.ofList s), left)
  := by
  rw [readValue.eq_def]
  obtain rfl | rfl := h
  · rfl
  · rfl

theorem exists_quote (cs : List Char) :
  ∃ quote rest, (quote = '\"' ∨ quote = '\'') ∧ writeChars cs = quote :: rest
  := by
  cases hform : formOf cs with
  | basic => exact ⟨'\"', _, .inl rfl, by rw [writeChars, hform]; rfl⟩
  | literal => exact ⟨'\'', _, .inr rfl, by rw [writeChars, hform]; rfl⟩
  | basicLines => exact ⟨'\"', _, .inl rfl, by rw [writeChars, hform]; rfl⟩
  | literalLines => exact ⟨'\'', _, .inr rfl, by rw [writeChars, hform]; rfl⟩

/-- A string is a value that is read from what is written for it. -/
theorem writes_string (s : String) :
  Writes (writeString s).toList (.string s)
  := by
  obtain ⟨quote, front, hquote, hwritten⟩ := exists_quote s.toList
  rw [writeString, String.toList_ofList]
  apply Writes.of_shorten
  · simp [hwritten]
  · rw [hwritten]
    obtain rfl | rfl := hquote <;> simp [isBlank]
  · intro rest
    have hread : readString (writeChars s.toList ++ '\n' :: rest) = some (s.toList, '\n' :: rest) :=
      readString_writeChars _ (by simp) (by simp)
    rw [hwritten, List.cons_append] at hread ⊢
    simp [readValue_quote hquote, hread]

/-! ### Space -/

theorem isBare_ne {c d : Char} (hc : isBare c = true) (hd : isBare d = false) :
  c ≠ d
  := by
  rintro rfl
  simp [hd] at hc

theorem skipBlanks_eq_self {cs : List Char} (h : ∀ c ∈ cs.head?, isBlank c = false) :
  skipBlanks cs = cs
  := by
  cases cs with
  | nil => rfl
  | cons c cs => simp [skipBlanks, h c rfl]

theorem isBlank_of_isBare {c : Char} (h : isBare c = true) :
  isBlank c = false
  := by
  have hspace := isBare_ne h (d := ' ') (by decide)
  have htab := isBare_ne h (d := '\t') (by decide)
  simp [isBlank, hspace, htab]

theorem skipSpace_bare {c : Char} (h : isBare c = true) (cs : List Char) :
  ∃ hleft, skipSpace (c :: cs) = some ⟨c :: cs, hleft⟩
  := by
  refine ⟨by simp, ?_⟩
  have hcomment := isBare_ne h (d := '#') (by decide)
  have hreturn (rest : List Char) : c = '\r' → cs = '\n' :: rest → False :=
    fun hc _ => isBare_ne h (by decide) hc
  have hbreak := isBare_ne h (d := '\n') (by decide)
  rw [skipSpace.eq_def]
  simp [hbreak, isBlank_of_isBare h]

theorem skipSpace_break (cs : List Char) :
  skipSpace ('\n' :: cs) = (skipSpace cs).map (Left.weaken (Nat.le_succ _))
  := by
  rw [skipSpace.eq_def]
  simp

/-! ### Lines -/

theorem readKey_bare {c : Char} (h : isBare c = true) (cs : List Char) :
  readKey (c :: cs)
    = some (String.ofList ((c :: cs).takeWhile isBare), (c :: cs).dropWhile isBare)
  := by
  have hdouble := isBare_ne h (d := '\"') (by decide)
  have hsingle := isBare_ne h (d := '\'') (by decide)
  rw [readKey]
  · simp [h]
  · simp [hdouble]
  · simp [hsingle]

namespace KeyLine

variable (line : KeyLine) (rest : List Char)

theorem exists_front :
  ∃ c cs, isBare c = true ∧ line.text ++ rest = c :: cs
  := by
  cases hkey : line.key.toList with
  | nil => exact absurd hkey line.isBareKey.ne_nil
  | cons c key =>
    have hc : isBare c = true := by
      apply line.isBareKey.isBare
      simp [hkey]
    have htext : line.text ++ rest
      = c :: (key ++ ' ' :: '=' :: ' ' :: (line.written ++ '\n' :: rest)) := by
      simp [text, hkey]
    exact ⟨c, _, hc, htext⟩

theorem readKey_text :
  readKey (line.text ++ rest) = some (line.key, ' ' :: '=' :: ' ' :: (line.written ++ '\n' :: rest))
  := by
  obtain ⟨c, cs, hc, htext⟩ := line.exists_front rest
  rw [htext, readKey_bare hc, ← htext]
  simp [text, List.takeWhile_append_of_pos line.isBareKey.isBare,
    List.dropWhile_append_of_pos line.isBareKey.isBare, isBare]

theorem skipBlanks_text :
  skipBlanks (line.text ++ rest) = line.text ++ rest
  := by
  obtain ⟨c, cs, hc, htext⟩ := line.exists_front rest
  rw [htext, skipBlanks_eq_self]
  simpa using isBlank_of_isBare hc

theorem readKeys_text (count : Nat) :
  readKeys (count + 1) (line.text ++ rest)
    = some ((line.key, []), '=' :: ' ' :: (line.written ++ '\n' :: rest))
  := by
  simp only [readKeys, line.skipBlanks_text, line.readKey_text]
  rfl

theorem skipBlanks_written :
  skipBlanks (' ' :: (line.written ++ '\n' :: rest)) = line.written ++ '\n' :: rest
  := by
  have hspace (cs : List Char) : skipBlanks (' ' :: cs) = skipBlanks cs := rfl
  rw [hspace, skipBlanks_eq_self]
  cases hwritten : line.written with
  | nil => simp [isBlank]
  | cons c cs => simpa [hwritten] using line.writes.notBlank

theorem readAssigned_text :
  ∃ hshorter, readAssigned skipOnLine (line.text ++ rest)
    = some ((line.key, []), ⟨line.written ++ '\n' :: rest, hshorter⟩)
  := by
  have hsign : skipBlanks ('=' :: ' ' :: (line.written ++ '\n' :: rest))
    = '=' :: ' ' :: (line.written ++ '\n' :: rest) := rfl
  have hshorter : (line.written ++ '\n' :: rest).length < (line.text ++ rest).length := by
    simp [text]
    omega
  use hshorter
  simp only [readAssigned, keyLimit, line.readKeys_text, skipOnLine, Option.bind_eq_bind,
    Option.bind_some, hsign, line.skipBlanks_written, shorten, hshorter, dite_true]

theorem readLine_text :
  readLine (line.text ++ rest) = some (line.toLine, '\n' :: rest)
  := by
  obtain ⟨_, hassigned⟩ := line.readAssigned_text rest
  obtain ⟨left, hleft, hvalue⟩ := line.writes.reads rest
  obtain ⟨c, cs, hc, htext⟩ := line.exists_front rest
  have hbracket := isBare_ne hc (d := '[') (by decide)
  rw [readLine]
  · rw [hassigned]
    simp [hvalue, hleft, toLine]
  · simp [htext, hbracket]
  · simp [htext, hbracket]

end KeyLine

theorem endLine_break (cs : List Char) :
  endLine ('\n' :: cs) = some ('\n' :: cs)
  := by
  rfl

theorem readLines_break (fuel : Nat) (cs : List Char) :
  readLines fuel ('\n' :: cs) = readLines fuel cs
  := by
  cases fuel with
  | zero => rfl
  | succ fuel =>
    rw [readLines, readLines, skipSpace_break]
    cases skipSpace cs with
    | none => rfl
    | some left => rfl

/-- Lines of keys and values are read one by one. -/
theorem readLines_text {lines : List KeyLine} {fuel : Nat} (hfuel : lines.length < fuel) :
  readLines fuel (lines.flatMap KeyLine.text) = some (lines.map KeyLine.toLine)
  := by
  induction lines generalizing fuel with
  | nil =>
    obtain ⟨fuel, rfl⟩ := Nat.exists_eq_add_one_of_ne_zero (Nat.ne_zero_of_lt hfuel)
    rw [List.flatMap_nil, readLines, skipSpace]
    rfl
  | cons line lines ih =>
    obtain ⟨fuel, rfl⟩ := Nat.exists_eq_add_one_of_ne_zero (Nat.ne_zero_of_lt hfuel)
    obtain ⟨c, cs, hc, htext⟩ := line.exists_front (lines.flatMap KeyLine.text)
    obtain ⟨_, hspace⟩ := skipSpace_bare hc cs
    have hline := line.readLine_text (lines.flatMap KeyLine.text)
    have hrest := ih (Nat.lt_of_succ_lt_succ hfuel)
    rw [htext] at hline
    -- The line leaves its line break, which the lines behind it begin with.
    rw [List.flatMap_cons, htext, readLines, hspace]
    simp [hline, endLine_break, readLines_break, hrest]

/-! ### Tables -/

theorem alter_of_notMem {key : String} {entries : Branch.Entries}
    (h : key ∉ entries.map Prod.fst) (f : Option Branch → Option Branch) :
  Branch.alter key f entries = (f none).map fun branch => entries ++ [(key, branch)]
  := by
  fun_induction Branch.alter key f entries with
  | case1 => simp
  | case2 => simp at h
  | case3 key' branch rest hne ih =>
    rw [ih]
    · cases f none <;> simp
    · simp_all

/-- Each line adds the value of a new key to a table that is read from the top of the file. -/
theorem addLines_toLine {lines : List KeyLine} {tree : Branch.Entries}
    (h : (tree.map Prod.fst ++ lines.map KeyLine.key).Nodup) :
  addLines [] tree (lines.map KeyLine.toLine)
    = some (tree ++ lines.map fun line => (line.key, .value line.value))
  := by
  induction lines generalizing tree with
  | nil => simp [addLines]
  | cons line lines ih =>
    have hnew : line.key ∉ tree.map Prod.fst := by
      have := (List.nodup_cons.mp (List.nodup_middle.mp h)).1
      simp_all
    have hline : addLine [] tree line.toLine
      = some ([], tree ++ [(line.key, .value line.value)]) := by
      simp [KeyLine.toLine, addLine, Branch.within, Branch.assign, alter_of_notMem hnew]
    have hrest : addLines [] (tree ++ [(line.key, .value line.value)]) _ = _ :=
      ih (by simpa using h)
    simp [addLines, hline, hrest]

theorem entriesToToml_values (lines : List KeyLine) :
  Branch.entriesToToml (lines.map fun line => (line.key, .value line.value))
    = lines.map fun line => (line.key, line.value)
  := by
  induction lines with
  | nil => rfl
  | cons line lines ih => simp [Branch.entriesToToml, Branch.toToml, ih]

theorem length_le_length_texts (lines : List KeyLine) :
  lines.length ≤ (lines.flatMap KeyLine.text).length
  := by
  induction lines with
  | nil => simp
  | cons line lines ih =>
    simp only [List.flatMap_cons, List.length_append, List.length_cons, KeyLine.text]
    omega

theorem dropMark_texts (lines : List KeyLine) :
  dropMark (lines.flatMap KeyLine.text) = lines.flatMap KeyLine.text
  := by
  cases lines with
  | nil => rfl
  | cons line lines =>
    obtain ⟨c, cs, hc, htext⟩ := line.exists_front (lines.flatMap KeyLine.text)
    have hmark := isBare_ne hc (d := '\uFEFF') (by decide)
    rw [List.flatMap_cons, htext, dropMark]
    simp [hmark]

/-- A text of nothing but lines of keys and values, without a key twice, is read as their table. -/
theorem parse_text {lines : List KeyLine} {text : String}
    (htext : text.toList = lines.flatMap KeyLine.text) (h : (lines.map KeyLine.key).Nodup) :
  parse text = some (.table (lines.map fun line => (line.key, line.value)))
  := by
  have hlines := readLines_text (Nat.lt_succ_of_le (length_le_length_texts lines))
  have htree : addLines [] [] (lines.map KeyLine.toLine)
    = some (lines.map fun line => (line.key, .value line.value)) := addLines_toLine h
  rw [parse, htext, dropMark_texts, hlines]
  simp [htree, entriesToToml_values]

end RichText.Toml
