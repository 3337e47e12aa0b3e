import RichText.Toml.Quoted

/-!
# Strings read back

`Toml.readString` reads every string that `Toml.writeChars` writes, and stops behind its last
quote.  What stands between the quotes is told by `Toml.Spells`, whichever of the four forms was
taken: a piece of text for each character, and no more quotes in a row than the form allows.  The
writer is shown to spell the string, and each reader to read whatever is spelled.
-/

namespace RichText.Toml

variable {quote : Char} {limit run : Nat} {IsPiece : Char → List Char → Prop}
  {written cs rest : List Char}

/-! ### Spelling -/

/-- A text spells a string between quotes: a piece of the text says a character, and at most
`limit` quotes in a row stand as they are.  Before the text, `run` of them have stood. -/
inductive Spells (quote : Char) (limit : Nat) (IsPiece : Char → List Char → Prop) :
    (run : Nat) → (written cs : List Char) → Prop where
  | nil (run : Nat) : Spells quote limit IsPiece run [] []
  | quote {run : Nat} {written cs : List Char} (hrun : run < limit)
      (hrest : Spells quote limit IsPiece (run + 1) written cs) :
    Spells quote limit IsPiece run (quote :: written) (quote :: cs)
  | piece {run : Nat} {c : Char} {piece written cs : List Char} (hpiece : IsPiece c piece)
      (hrest : Spells quote limit IsPiece 0 written cs) :
    Spells quote limit IsPiece run (piece ++ written) (c :: cs)

/-- A character may stand as it is in a string, which may have several lines. -/
def MayStand (lines : Bool) (c : Char) : Prop := isPlain c = true ∨ lines = true ∧ c = '\n'

/-- An escape without its backslash denotes a character, whatever follows it. -/
def Denotes (escape : List Char) (c : Char) : Prop :=
  ∀ tail, ∃ hshorter, escape? (escape ++ tail) = some (c, ⟨tail, hshorter⟩)

/-- How a character is said between double quotes. -/
inductive BasicPiece (lines : Bool) (c : Char) : List Char → Prop where
  | plain (hquote : c ≠ '\"') (hbackslash : c ≠ '\\') (hstand : MayStand lines c) :
    BasicPiece lines c [c]
  | escape {escape : List Char} (hdenotes : Denotes escape c) :
    BasicPiece lines c ('\\' :: escape)

/-- How a character is said between single quotes. -/
inductive LiteralPiece (lines : Bool) (c : Char) : List Char → Prop where
  | plain (hquote : c ≠ '\'') (hstand : MayStand lines c) : LiteralPiece lines c [c]

/-- The front of a piece is not the quote, and breaks a line only if the character does. -/
def Leads (quote c : Char) (piece : List Char) : Prop :=
  ∃ d tail, piece = d :: tail ∧ d ≠ quote ∧ d ≠ '\r' ∧ (d = '\n' → c = '\n')

/-- A character that is said by itself. -/
theorem Spells.single {c : Char} (hpiece : IsPiece c [c])
    (hrest : Spells quote limit IsPiece 0 written cs) :
  Spells quote limit IsPiece run (c :: written) (c :: cs)
  := .piece hpiece hrest

theorem mayStand_line {c : Char} :
  MayStand false c ↔ isPlain c = true
  := by
  simp [MayStand]

theorem mayStand_lines {c : Char} :
  MayStand true c ↔ c = '\n' ∨ isPlain c = true
  := by
  simp [MayStand, or_comm]

theorem MayStand.ne_return {lines : Bool} {c : Char} (h : MayStand lines c) :
  c ≠ '\r'
  := by
  rintro rfl
  simp [MayStand, isPlain] at h

theorem BasicPiece.leads {lines : Bool} {c : Char} {piece : List Char}
    (h : BasicPiece lines c piece) :
  Leads '\"' c piece
  := by
  cases h with
  | plain hquote _ hstand => exact ⟨c, [], rfl, hquote, hstand.ne_return, id⟩
  | escape => exact ⟨'\\', _, rfl, by decide, by decide, by simp⟩

theorem LiteralPiece.leads {lines : Bool} {c : Char} {piece : List Char}
    (h : LiteralPiece lines c piece) :
  Leads '\'' c piece
  := by
  obtain ⟨hquote, hstand⟩ := h
  exact ⟨c, [], rfl, hquote, hstand.ne_return, id⟩

theorem isPlain_of_not_needsCode {c : Char} (h : needsCode c = false) (hline : c ≠ '\n') :
  isPlain c = true
  := by
  simp only [needsCode, isPlain] at h ⊢
  by_cases htab : c = '\t'
  · simp [htab]
  · simp_all

theorem mayStand_of_not_needsCode {lines : Bool} {c : Char} (h : needsCode c = false)
    (hline : c = '\n' → lines = true) :
  MayStand lines c
  := by
  by_cases hc : c = '\n'
  · right
    exact ⟨hline hc, hc⟩
  · left
    apply isPlain_of_not_needsCode h hc

/-! ### Escapes -/

theorem hexDigit?_digitChar :
  ∀ digit < 16, hexDigit? (Nat.digitChar digit).toUpper = some digit
  := by
  decide

theorem hexNumber?_fourDigits {code : Nat} (h : code < 0x10000) :
  hexNumber? (fourDigits code) = some code
  := by
  have hdigit (n : Nat) : hexDigit? (Nat.digitChar (n % 16)).toUpper = some (n % 16) :=
    hexDigit?_digitChar _ (Nat.mod_lt _ (by omega))
  simp [hexNumber?, fourDigits, hdigit]
  omega

theorem charOf?_toNat (c : Char) :
  charOf? c.toNat = some c
  := by
  have hvalid : c.toNat.isValidChar := c.valid
  simp [charOf?, hvalid]

/-- A code of as many digits as its mark asks for denotes the character of the code. -/
theorem codeEscape?_append {digits : List Char} {c : Char} (tail : List Char)
    (h : (hexNumber? digits).bind charOf? = some c) :
  ∃ hleft, codeEscape? digits.length (digits ++ tail) = some (c, ⟨tail, hleft⟩)
  := by
  refine ⟨by simp, ?_⟩
  simp [codeEscape?, h]

theorem denotes_code {c : Char} (h : c.toNat < 0x10000) :
  Denotes ('u' :: fourDigits c.toNat) c
  := by
  intro tail
  have hcode : (hexNumber? (fourDigits c.toNat)).bind charOf? = some c := by
    rw [hexNumber?_fourDigits h, Option.bind_some, charOf?_toNat]
  obtain ⟨hleft, hread⟩ := codeEscape?_append tail hcode
  change codeEscape? 4 _ = _ at hread
  have hshorter : tail.length < ('u' :: fourDigits c.toNat ++ tail).length := by
    simp only [List.cons_append, List.length_cons, List.length_append]
    omega
  refine ⟨hshorter, ?_⟩
  simp [escape?, hread, Left.behind]

/-! ### The writer spells -/

theorem spells_escapeAll (lines : Bool) (limit run : Nat) (cs : List Char) :
  Spells '\"' limit (BasicPiece lines) run (escapeAll lines limit run cs) cs
  := by
  fun_induction escapeAll lines limit run cs with
  | case1 run =>
    apply Spells.nil
  | case2 _ _ hrun _ ih =>
    apply Spells.quote hrun ih
  | case5 _ _ hlines _ ih =>
    apply Spells.single _ ih
    apply BasicPiece.plain (by decide) (by decide)
    right
    exact ⟨hlines, rfl⟩
  | case11 _ rest _ c _ _ _ _ _ _ _ hcode ih =>
    apply Spells.piece (.escape (denotes_code _)) ih
    simp only [needsCode] at hcode
    simp at hcode
    omega
  | case12 _ rest c hquote hbackslash hline _ _ _ _ hcode _ ih =>
    apply Spells.single _ ih
    apply BasicPiece.plain hquote hbackslash
    apply mayStand_of_not_needsCode (by simpa using hcode)
    intro h
    contradiction
  -- The others have an escape of one letter.
  | _ => exact .piece (.escape fun _ => ⟨by simp, rfl⟩) (by assumption)

/-- The count of the characters of a run, and the longest count so far. -/
def countRun (c : Char) (counts : Nat × Nat) (c' : Char) : Nat × Nat :=
  let run := if c' = c then counts.1 + 1 else 0
  (run, max counts.2 run)

theorem le_foldl_countRun (c : Char) (counts : Nat × Nat) (cs : List Char) :
  counts.2 ≤ (cs.foldl (countRun c) counts).2
  := by
  induction cs generalizing counts with
  | nil => apply Nat.le_refl
  | cons c' cs ih =>
    apply Nat.le_trans _ (ih _)
    apply Nat.le_max_left

theorem spells_of_foldl_countRun (counts : Nat × Nat)
    (hpieces : ∀ c ∈ cs, c ≠ quote → IsPiece c [c])
    (h : (cs.foldl (countRun quote) counts).2 ≤ limit) :
  Spells quote limit IsPiece counts.1 cs cs
  := by
  induction cs generalizing counts with
  | nil => apply Spells.nil
  | cons c cs ih =>
    have hrest := ih _ (fun c' hc' => hpieces c' (List.mem_cons_of_mem _ hc')) h
    by_cases hquote : c = quote
    · subst hquote
      have hlongest := Nat.le_trans (le_foldl_countRun c (countRun c counts c) cs) h
      simp only [countRun, if_true] at hlongest hrest
      apply Spells.quote (by omega) hrest
    · simp only [countRun, hquote, if_false] at hrest
      apply Spells.single (hpieces c List.mem_cons_self hquote) hrest

/-- A string spells itself between quotes of which it has few in a row, if its other characters
may stand. -/
theorem spells_self (hpieces : ∀ c ∈ cs, c ≠ quote → IsPiece c [c])
    (h : longestRun quote cs ≤ limit) :
  Spells quote limit IsPiece 0 cs cs
  := spells_of_foldl_countRun (0, 0) hpieces h

/-- A string without control characters spells itself between single quotes. -/
theorem spells_literal {lines : Bool} (hcodes : ∀ c ∈ cs, needsCode c = false)
    (hlines : '\n' ∈ cs → lines = true) (h : longestRun '\'' cs ≤ limit) :
  Spells '\'' limit (LiteralPiece lines) 0 cs cs
  := by
  apply spells_self _ h
  intro c hc hquote
  apply LiteralPiece.plain hquote
  apply mayStand_of_not_needsCode (hcodes c hc)
  rintro rfl
  apply hlines hc

/-! ### Reading one line -/

theorem readBasic_piece {c : Char} {piece : List Char} (hpiece : BasicPiece false c piece)
    (tail : List Char) :
  readBasic (piece ++ tail) = (readBasic tail).map fun (s, left) => (c :: s, left)
  := by
  cases hpiece with
  | plain hquote hbackslash hstand =>
    rw [List.singleton_append, readBasic.eq_def]
    simp [mayStand_line.mp hstand]
  | escape hdenotes =>
    obtain ⟨_, hescape⟩ := hdenotes tail
    rw [List.cons_append, readBasic, hescape]

theorem readLiteral_piece {c : Char} {piece : List Char} (hpiece : LiteralPiece false c piece)
    (tail : List Char) :
  readLiteral (piece ++ tail) = (readLiteral tail).map fun (s, left) => (c :: s, left)
  := by
  obtain ⟨hquote, hstand⟩ := hpiece
  simp [readLiteral, mayStand_line.mp hstand]

/-- A reader of one line that reads a character for each piece, up to the quote, reads what is
spelled without quotes. -/
theorem read_line_of_spells {read : List Char → Option (List Char × List Char)}
    (hclose : ∀ rest, read (quote :: rest) = some ([], rest))
    (hpiece : ∀ c piece tail, IsPiece c piece →
      read (piece ++ tail) = (read tail).map fun (s, left) => (c :: s, left))
    (rest : List Char) (h : Spells quote 0 IsPiece run written cs) :
  read (written ++ quote :: rest) = some (cs, rest)
  := by
  induction h with
  | nil => apply hclose
  | quote hlimit => contradiction
  | piece hsaid _ ih => rw [List.append_assoc, hpiece _ _ _ hsaid, ih, Option.map_some]

theorem readBasic_of_spells (rest : List Char)
    (h : Spells '\"' 0 (BasicPiece false) run written cs) :
  readBasic (written ++ '\"' :: rest) = some (cs, rest)
  := by
  apply read_line_of_spells _ (fun _ _ tail hpiece => readBasic_piece hpiece tail) rest h
  intro
  rw [readBasic]

theorem readLiteral_of_spells (rest : List Char)
    (h : Spells '\'' 0 (LiteralPiece false) run written cs) :
  readLiteral (written ++ '\'' :: rest) = some (cs, rest)
  := by
  apply read_line_of_spells _ (fun _ _ tail hpiece => readLiteral_piece hpiece tail) rest h
  intro
  rw [readLiteral]

/-! ### Reading several lines -/

theorem closing_eq_none (h : (cs.takeWhile (· == quote)).length ≤ 2) :
  closing quote cs = none
  := by
  have hfew : ¬ 3 ≤ (cs.takeWhile (· == quote)).length := by omega
  simp only [closing, hfew, if_false]

/-- One or two quotes in front of the three that end a string belong to it. -/
theorem closing_replicate {count : Nat} (hcount : count ≤ 2) (hrest : rest.head? ≠ some quote) :
  closing quote (List.replicate count quote ++ quote :: quote :: quote :: rest)
    = some (List.replicate count quote, rest)
  := by
  have hrun : (rest.takeWhile (· == quote)) = [] := by
    cases rest with
    | nil => rfl
    | cons c rest => simp_all
  have hkept : min count 2 = count := by omega
  simp [closing, List.takeWhile_append_of_pos, hrun, hkept, List.drop_append]

/-- A text that spells a string is a few quotes as the string is, or has few in front. -/
theorem Spells.few_in_front (hfront : ∀ c piece, IsPiece c piece → Leads quote c piece)
    (h : Spells quote limit IsPiece run written cs) (hrun : run ≤ limit) :
  (∃ count, count + run ≤ limit ∧ written = List.replicate count quote ∧ cs = written) ∨
    ∀ tail, ((written ++ tail).takeWhile (· == quote)).length + run ≤ limit
  := by
  -- The run grows along quotes that stand as they are, and the first piece ends it.
  induction h with
  | nil => exact .inl ⟨0, by omega, rfl, rfl⟩
  | quote hlimit _ ih =>
    obtain ⟨count, hcount, hwritten, hcs⟩ | hfew := ih hlimit
    · left
      refine ⟨count + 1, by omega, ?_, ?_⟩
      · rw [hwritten, List.replicate_succ]
      · rw [hcs]
    · right
      intro tail
      have := hfew tail
      simp only [List.cons_append, List.takeWhile_cons, beq_self_eq_true, if_true,
        List.length_cons]
      omega
  | piece hpiece =>
    right
    intro tail
    obtain ⟨d, _, rfl, hd, _⟩ := hfront _ _ hpiece
    simpa [hd] using hrun

/-- A reader of several lines that looks for the closing quotes first, and else reads a character
for each piece or quote, reads what is spelled with at most two quotes in a row. -/
theorem read_lines_of_spells {read : List Char → Option (List Char × List Char)}
    (hclose : ∀ cs found, closing quote cs = some found → read cs = some found)
    (hquote : ∀ tail, closing quote (quote :: tail) = none →
      read (quote :: tail) = (read tail).map fun (s, left) => (quote :: s, left))
    (hpiece : ∀ c piece tail, IsPiece c piece → closing quote (piece ++ tail) = none →
      read (piece ++ tail) = (read tail).map fun (s, left) => (c :: s, left))
    (hfront : ∀ c piece, IsPiece c piece → Leads quote c piece)
    (hrun : run ≤ 2) (h : Spells quote 2 IsPiece run written cs)
    (hrest : rest.head? ≠ some quote) :
  read (written ++ quote :: quote :: quote :: rest) = some (cs, rest)
  := by
  induction h with
  | nil => exact hclose _ _ (closing_replicate (Nat.zero_le 2) hrest)
  | quote hlimit hspells ih =>
    -- The quotes in front are taken for closing ones only if nothing else is left of the string.
    obtain ⟨count, hcount, hwritten, hcs⟩ | hfew :=
      (Spells.quote hlimit hspells).few_in_front hfront hrun
    · rw [hcs, hwritten]
      exact hclose _ _ (closing_replicate (by omega) hrest)
    · rw [List.cons_append, hquote, ih hlimit, Option.map_some]
      apply closing_eq_none
      apply Nat.le_trans (Nat.le_add_right _ _) (hfew _)
  | piece hsaid _ ih =>
    obtain ⟨d, tail, hd, hne, _⟩ := hfront _ _ hsaid
    rw [List.append_assoc, hpiece _ _ _ hsaid, ih (Nat.zero_le 2), Option.map_some]
    apply closing_eq_none
    simp [hd, hne]

theorem readBasicLines_plain {c : Char} {tail : List Char} (hbackslash : c ≠ '\\')
    (hstand : MayStand true c) (hclosing : closing '\"' (c :: tail) = none) :
  readBasicLines (c :: tail) = (readBasicLines tail).map fun (s, left) => (c :: s, left)
  := by
  have hbreak (rest : List Char) : c = '\r' → tail = '\n' :: rest → False :=
    fun hc _ => hstand.ne_return hc
  rw [readBasicLines.eq_def, hclosing]
  simp [mayStand_lines.mp hstand]

theorem readBasicLines_piece {c : Char} {piece tail : List Char} (hpiece : BasicPiece true c piece)
    (hclosing : closing '\"' (piece ++ tail) = none) :
  readBasicLines (piece ++ tail) = (readBasicLines tail).map fun (s, left) => (c :: s, left)
  := by
  cases hpiece with
  | plain _ hbackslash hstand => apply readBasicLines_plain hbackslash hstand hclosing
  | escape hdenotes =>
    obtain ⟨_, hescape⟩ := hdenotes tail
    rw [List.cons_append] at hclosing ⊢
    rw [readBasicLines.eq_def, hclosing]
    simp [hescape]

theorem readLiteralLines_plain {c : Char} {tail : List Char} (hstand : MayStand true c)
    (hclosing : closing '\'' (c :: tail) = none) :
  readLiteralLines (c :: tail) = (readLiteralLines tail).map fun (s, left) => (c :: s, left)
  := by
  have hbreak (rest : List Char) : c = '\r' → tail = '\n' :: rest → False :=
    fun hc _ => hstand.ne_return hc
  rw [readLiteralLines.eq_def, hclosing]
  simp [mayStand_lines.mp hstand]

theorem readBasicLines_of_spells (hrun : run ≤ 2)
    (h : Spells '\"' 2 (BasicPiece true) run written cs) (hrest : rest.head? ≠ some '\"') :
  readBasicLines (written ++ '\"' :: '\"' :: '\"' :: rest) = some (cs, rest)
  := by
  apply read_lines_of_spells _ _ _ (fun _ _ => BasicPiece.leads) hrun h hrest
  · intro cs found hfound
    rw [readBasicLines.eq_def, hfound]
  · intro tail
    apply readBasicLines_plain (by decide)
    exact .inl rfl
  · intro _ _ _ hpiece
    apply readBasicLines_piece hpiece

theorem readLiteralLines_of_spells (hrun : run ≤ 2)
    (h : Spells '\'' 2 (LiteralPiece true) run written cs) (hrest : rest.head? ≠ some '\'') :
  readLiteralLines (written ++ '\'' :: '\'' :: '\'' :: rest) = some (cs, rest)
  := by
  apply read_lines_of_spells _ _ _ (fun _ _ => LiteralPiece.leads) hrun h hrest
  · intro cs found hfound
    rw [readLiteralLines.eq_def, hfound]
  · intro tail
    apply readLiteralLines_plain
    exact .inl rfl
  · rintro _ _ _ ⟨_, hstand⟩
    apply readLiteralLines_plain hstand

/-! ### Opening quotes -/

/-- The line break behind the opening quotes is dropped, and no other. -/
theorem Spells.dropLineBreak_opening
    (hfront : ∀ c piece, IsPiece c piece → Leads quote c piece)
    (hquote : quote ≠ '\n' ∧ quote ≠ '\r') (h : Spells quote limit IsPiece run written cs)
    (rest : List Char) :
  dropLineBreak (opening cs ++ written ++ quote :: rest) = written ++ quote :: rest
  := by
  by_cases hline : cs.contains '\n' = true
  · rw [opening, if_pos hline]
    rfl
  · rw [opening, if_neg hline, List.nil_append]
    cases h with
    | nil => simp [dropLineBreak, hquote]
    | quote => simp [dropLineBreak, hquote]
    | piece hpiece =>
      obtain ⟨d, tail, rfl, _, hreturn, hbreak⟩ := hfront _ _ hpiece
      have : d ≠ '\n' := by
        intro hd
        simp [hbreak hd] at hline
      simp [dropLineBreak, this, hreturn]

/-- No more than one quote stands at once behind the opening quote of a string on one line. -/
theorem Spells.not_two_in_front
    (hfront : ∀ c piece, IsPiece c piece → Leads quote c piece)
    (h : Spells quote 0 IsPiece run written cs) (hrest : rest.head? ≠ some quote)
    (tail : List Char) :
  written ++ quote :: rest ≠ quote :: quote :: tail
  := by
  cases h with
  | nil =>
    intro heq
    simp_all
  | quote hlimit => contradiction
  | piece hpiece =>
    obtain ⟨d, _, rfl, hd, _⟩ := hfront _ _ hpiece
    simp [hd]

theorem readString_basic (h : ∀ tail, cs ≠ '\"' :: '\"' :: tail) :
  readString ('\"' :: cs) = readBasic cs
  := by
  simp [readString]

theorem readString_literal (h : ∀ tail, cs ≠ '\'' :: '\'' :: tail) :
  readString ('\'' :: cs) = readLiteral cs
  := by
  simp [readString]

/-! ### Writing and reading -/

theorem formOf_eq_literal (h : formOf cs = .literal) :
  (∀ c ∈ cs, needsCode c = false) ∧ '\n' ∉ cs ∧ longestRun '\'' cs ≤ 0
  := by
  grind [formOf]

theorem formOf_eq_literalLines (h : formOf cs = .literalLines) :
  (∀ c ∈ cs, needsCode c = false) ∧ longestRun '\'' cs ≤ 2
  := by
  grind [formOf]

/-- A string is read back from what is written for it, and nothing of what follows is read, unless
another quote follows at once. -/
theorem readString_writeChars (cs : List Char) (hdouble : rest.head? ≠ some '\"')
    (hsingle : rest.head? ≠ some '\'') :
  readString (writeChars cs ++ rest) = some (cs, rest)
  := by
  cases hform : formOf cs with
  | basic =>
    have hspells := spells_escapeAll false 0 0 cs
    have htext : writeChars cs ++ rest = '\"' :: (escapeAll false 0 0 cs ++ '\"' :: rest) := by
      simp [writeChars, hform]
    rw [htext,
      readString_basic (hspells.not_two_in_front (fun _ _ => BasicPiece.leads) hdouble)]
    apply readBasic_of_spells rest hspells
  | literal =>
    obtain ⟨hcodes, hlines, hsingles⟩ := formOf_eq_literal hform
    have hspells : Spells '\'' 0 (LiteralPiece false) 0 cs cs :=
      spells_literal hcodes (by simpa using hlines) hsingles
    have htext : writeChars cs ++ rest = '\'' :: (cs ++ '\'' :: rest) := by
      simp [writeChars, hform]
    rw [htext,
      readString_literal (hspells.not_two_in_front (fun _ _ => LiteralPiece.leads) hsingle)]
    apply readLiteral_of_spells rest hspells
  | basicLines =>
    have hspells := spells_escapeAll true 2 0 cs
    have htext : writeChars cs ++ rest = '\"' :: '\"' :: '\"' ::
        (opening cs ++ escapeAll true 2 0 cs ++ '\"' :: '\"' :: '\"' :: rest) := by
      simp [writeChars, hform]
    rw [htext, readString,
      hspells.dropLineBreak_opening (fun _ _ => BasicPiece.leads) (by decide)]
    apply readBasicLines_of_spells (Nat.zero_le 2) hspells hdouble
  | literalLines =>
    obtain ⟨hcodes, hsingles⟩ := formOf_eq_literalLines hform
    have hspells : Spells '\'' 2 (LiteralPiece true) 0 cs cs :=
      spells_literal hcodes (fun _ => rfl) hsingles
    have htext : writeChars cs ++ rest = '\'' :: '\'' :: '\'' ::
        (opening cs ++ cs ++ '\'' :: '\'' :: '\'' :: rest) := by
      simp [writeChars, hform]
    rw [htext, readString,
      hspells.dropLineBreak_opening (fun _ _ => LiteralPiece.leads) (by decide)]
    apply readLiteralLines_of_spells (Nat.zero_le 2) hspells hsingle

end RichText.Toml
