import RichText.Command.Arguments
import Mathlib.Data.List.Basic
import Mathlib.Tactic.Use

/-!
# What arguments are made of

A list of arguments is read from the left as a list of items (`Item`): flags, names behind `--name`,
and documents.  What it says is the only document, the last flag and the last name among its items.
If the arguments go on with something that begins no item, or with a second document, that is the
error (`Arguments.Says`).
-/

namespace RichText.Command

/-! ### Items -/

/-- A part of the arguments: a flag, a name with `--name` before it, or a document, which does not
look like an option. -/
inductive Item where
  | diagnostics (wanted : Bool)
  | name (value : String)
  | document (path : String) (plain : path.startsWith "--" = false)
deriving DecidableEq

namespace Item

/-- The arguments of an item. -/
def words : Item → List String
  | diagnostics true => ["--diagnostics"]
  | diagnostics false => ["--no-diagnostics"]
  | name value => ["--name", value]
  | document path _ => [path]

/-- What a flag says. -/
def diagnostics? : Item → Option Bool
  | diagnostics wanted => some wanted
  | _ => none

/-- The name of an item that gives one. -/
def name? : Item → Option String
  | name value => some value
  | _ => none

/-- The path of a document. -/
def document? : Item → Option String
  | document path _ => some path
  | _ => none

/-- The arguments of a list of items. -/
def allWords (items : List Item) : List String := items.flatMap words

/-- The paths of the documents among items. -/
def documents (items : List Item) : List String := items.filterMap document?

/-- What the last flag among items says. -/
def lastDiagnostics (items : List Item) : Option Bool := (items.filterMap diagnostics?).getLast?

/-- The last name among items. -/
def lastName (items : List Item) : Option String := (items.filterMap name?).getLast?

/-- An argument that looks like an option, but is none. -/
def IsUnknown (argument : String) : Prop :=
  argument.startsWith "--" = true
    ∧ argument ∉ ["--diagnostics", "--no-diagnostics", "--name"]

theorem startsWith_option {argument : String}
    (h : argument ∈ ["--diagnostics", "--no-diagnostics", "--name"]) :
  argument.startsWith "--" = true
  := by
  simp only [List.mem_cons, List.not_mem_nil, or_false] at h
  rcases h with rfl | rfl | rfl
  · decide +kernel
  · decide +kernel
  · decide +kernel

/-- A document is none of the options. -/
theorem notMem_options {path : String} (h : path.startsWith "--" = false) :
  path ∉ ["--diagnostics", "--no-diagnostics", "--name"]
  := by
  intro hmem
  rw [startsWith_option hmem] at h
  simp at h

/-- Arguments begin with an item, unless they are a `--name` without a value or begin with an
unknown option. -/
theorem exists_front (argument : String) (rest : List String) :
  (∃ (item : Item) (behind : List String), argument :: rest = item.words ++ behind)
    ∨ argument :: rest = ["--name"] ∨ IsUnknown argument
  := by
  by_cases hdiagnostics : argument = "--diagnostics"
  · exact .inl ⟨diagnostics true, rest, by rw [hdiagnostics]; rfl⟩
  by_cases hquiet : argument = "--no-diagnostics"
  · exact .inl ⟨diagnostics false, rest, by rw [hquiet]; rfl⟩
  by_cases hname : argument = "--name"
  · subst hname
    cases rest with
    | nil => exact .inr (.inl rfl)
    | cons value rest => exact .inl ⟨name value, rest, rfl⟩
  cases hstart : argument.startsWith "--" with
  | false => exact .inl ⟨document argument hstart, rest, rfl⟩
  | true => exact .inr (.inr ⟨hstart, by simp [hdiagnostics, hquiet, hname]⟩)

/-- Arguments begin with at most one item. -/
theorem front_unique {item item' : Item} {behind behind' : List String}
    (h : item.words ++ behind = item'.words ++ behind') :
  item = item' ∧ behind = behind'
  := by
  cases item with
  | diagnostics wanted =>
    cases item' with
    | diagnostics wanted' => cases wanted <;> cases wanted' <;> simp_all [words]
    | name value' => cases wanted <;> simp [words] at h
    | document path' hpath' =>
      have hoption := notMem_options hpath'
      cases wanted <;> simp_all [words]
  | name value =>
    cases item' with
    | diagnostics wanted' => cases wanted' <;> simp [words] at h
    | name value' => simpa [words] using h
    | document path' hpath' =>
      have hoption := notMem_options hpath'
      simp_all [words]
  | document path hpath =>
    have hoption := notMem_options hpath
    cases item' with
    | diagnostics wanted' => cases wanted' <;> simp_all [words]
    | name value' => simp_all [words]
    | document path' hpath' => simpa [words] using h

theorem length_words_pos (item : Item) :
  0 < item.words.length
  := by
  rcases item with ⟨_ | _⟩ | value | ⟨path, hpath⟩
  · exact Nat.one_pos
  · exact Nat.one_pos
  · exact Nat.two_pos
  · exact Nat.one_pos

/-- Arguments are split into items in only one way. -/
theorem allWords_injective {items items' : List Item} (h : allWords items = allWords items') :
  items = items'
  := by
  induction items generalizing items' with
  | nil =>
    cases items' with
    | nil => rfl
    | cons item' rest' =>
      have hpos := item'.length_words_pos
      have hlength := congrArg List.length h
      simp only [allWords, List.flatMap_nil, List.flatMap_cons, List.length_nil,
        List.length_append] at hlength
      omega
  | cons item rest ih =>
    cases items' with
    | nil =>
      have hpos := item.length_words_pos
      have hlength := congrArg List.length h
      simp only [allWords, List.flatMap_nil, List.flatMap_cons, List.length_nil,
        List.length_append] at hlength
      omega
    | cons item' rest' =>
      rw [allWords, allWords, List.flatMap_cons, List.flatMap_cons] at h
      obtain ⟨rfl, hrest⟩ := front_unique h
      rw [ih hrest]

/-! ### What items say -/

theorem documents_concat (items : List Item) (item : Item) :
  documents (items ++ [item]) = documents items ++ item.document?.toList
  := by
  rw [documents, List.filterMap_append]
  cases item with
  | diagnostics wanted => rfl
  | name value => rfl
  | document path hpath => rfl

/-- What stands last in a list with one more element in front. -/
private theorem getLast?_cons_or {α : Type} (a : α) (xs : List α) (before : Option α) :
  (a :: xs).getLast?.or before = xs.getLast?.or (some a)
  := by
  rw [List.getLast?_cons]
  cases xs.getLast? with
  | none => rfl
  | some last => rfl

/-- A flag counts unless another one follows. -/
theorem lastDiagnostics_flag (wanted : Bool) (items : List Item) (before : Option Bool) :
  (lastDiagnostics (diagnostics wanted :: items)).or before
    = (lastDiagnostics items).or (some wanted)
  := getLast?_cons_or wanted _ before

/-- A name counts unless another one follows. -/
theorem lastName_name (value : String) (items : List Item) (before : Option String) :
  (lastName (name value :: items)).or before = (lastName items).or (some value)
  := getLast?_cons_or value _ before

end Item

namespace Arguments

open Item (allWords documents lastDiagnostics lastName IsUnknown)

/-! ### Reading items -/

variable {document : Option String} {diagnostics : Option Bool} {name : Option String}

theorem readFrom_cons (argument : String) (rest : List String) :
  readFrom document diagnostics name (argument :: rest)
    = if argument = "--no-diagnostics" then readFrom document (some false) name rest
      else if argument = "--diagnostics" then readFrom document (some true) name rest
      else if argument = "--name" then
        match rest with
        | [] => .error .nameWithoutValue
        | value :: rest => readFrom document diagnostics (some value) rest
      else if argument.startsWith "--" then .error (.unknownOption argument)
      else if document.isSome then .error .secondDocument
      else readFrom (some argument) diagnostics name rest
  := by
  cases rest with
  | nil => rfl
  | cons value rest => rfl

/-- Reading an item notes what it says; a document behind another one is an error. -/
theorem readFrom_words (item : Item) (rest : List String) :
  readFrom document diagnostics name (item.words ++ rest)
    = match item with
      | .diagnostics wanted => readFrom document (some wanted) name rest
      | .name value => readFrom document diagnostics (some value) rest
      | .document path _ =>
        if document.isSome then .error .secondDocument
        else readFrom (some path) diagnostics name rest
  := by
  cases item with
  | diagnostics wanted => cases wanted <;> simp [Item.words, readFrom_cons]
  | name value => simp [Item.words, readFrom_cons]
  | document path hpath =>
    have hoption := Item.notMem_options hpath
    simp only [List.mem_cons, List.not_mem_nil, or_false, not_or] at hoption
    obtain ⟨hdiagnostics, hquiet, hname⟩ := hoption
    simp [Item.words, readFrom_cons, hdiagnostics, hquiet, hname, hpath]

/-- Reading items notes the only document, the last flag and the last name; if there is more than
one document, that is an error. -/
theorem readFrom_allWords (items : List Item) (rest : List String) :
  readFrom document diagnostics name (allWords items ++ rest)
    = if 1 < (document.toList ++ documents items).length then .error .secondDocument
      else readFrom (document.toList ++ documents items).head?
        ((lastDiagnostics items).or diagnostics) ((lastName items).or name) rest
  := by
  induction items generalizing document diagnostics name with
  | nil => cases document <;> rfl
  | cons item items ih =>
    rw [allWords, List.flatMap_cons, List.append_assoc, readFrom_words]
    cases item with
    | diagnostics wanted =>
      rw [Item.lastDiagnostics_flag]
      exact ih
    | name value =>
      rw [Item.lastName_name]
      exact ih
    | document path hpath =>
      cases document with
      | none => exact ih
      | some first => simp [documents, Item.document?]

/-- Reading arguments that begin with items. -/
theorem read_append (items : List Item) (rest : List String) :
  read (allWords items ++ rest)
    = if 1 < (documents items).length then .error .secondDocument
      else readFrom (documents items).head? (lastDiagnostics items) (lastName items) rest
  := by
  rw [read, readFrom_allWords, Option.toList_none, List.nil_append, Option.or_none, Option.or_none]

/-- Reading arguments that begin with items, of which no more than one is a document. -/
theorem read_append_of_le {items : List Item} (h : (documents items).length ≤ 1)
    (rest : List String) :
  read (allWords items ++ rest)
    = readFrom (documents items).head? (lastDiagnostics items) (lastName items) rest
  := by
  rw [read_append, if_neg (Nat.not_lt.mpr h)]

/-! ### What arguments say -/

/-- What a list of arguments says: the only document, the last flag and the last name among the
items that it is made of, or the error of the first argument that belongs to no item or is a second
document. -/
inductive Says : List String → Except ArgumentError Arguments → Prop where
  | items {items : List Item} {path : String} (hdocument : documents items = [path]) :
      Says (allWords items) (.ok ⟨path, lastDiagnostics items, lastName items⟩)
  | noDocument {items : List Item} (hdocument : documents items = []) :
      Says (allWords items) (.error .noDocument)
  | nameWithoutValue {items : List Item} (hdocument : (documents items).length ≤ 1) :
      Says (allWords items ++ ["--name"]) (.error .nameWithoutValue)
  | unknownOption {items : List Item} {option : String} (rest : List String)
      (hdocument : (documents items).length ≤ 1) (hoption : IsUnknown option) :
      Says (allWords items ++ option :: rest) (.error (.unknownOption option))
  | secondDocument {items : List Item} {path : String} (rest : List String)
      (hdocument : (documents items).length = 1) (hpath : path.startsWith "--" = false) :
      Says (allWords items ++ path :: rest) (.error .secondDocument)

/-- Arguments are read as what they say. -/
theorem Says.read_eq {arguments : List String} {result : Except ArgumentError Arguments}
    (h : Says arguments result) :
  read arguments = result
  := by
  cases h with
  | @items items path hdocument =>
    have hone : (documents items).length ≤ 1 := by
      simp [hdocument]
    have hread := read_append_of_le hone []
    rw [List.append_nil] at hread
    rw [hread, hdocument]
    rfl
  | @noDocument items hdocument =>
    have hone : (documents items).length ≤ 1 := by
      simp [hdocument]
    have hread := read_append_of_le hone []
    rw [List.append_nil] at hread
    rw [hread, hdocument]
    rfl
  | nameWithoutValue hdocument =>
    rw [read_append_of_le hdocument]
    rfl
  | @unknownOption items option rest hdocument hoption =>
    obtain ⟨hstart, hknown⟩ := hoption
    simp only [List.mem_cons, List.not_mem_nil, or_false, not_or] at hknown
    obtain ⟨hdiagnostics, hquiet, hname⟩ := hknown
    rw [read_append_of_le hdocument, readFrom_cons, if_neg hquiet, if_neg hdiagnostics,
      if_neg hname, if_pos hstart]
  | @secondDocument items path rest hdocument hpath =>
    obtain ⟨first, hfirst⟩ := List.length_eq_one_iff.mp hdocument
    rw [read_append_of_le (Nat.le_of_eq hdocument), hfirst]
    exact readFrom_words (.document path hpath) rest

/-- Arguments say something, whatever items they begin with. -/
theorem exists_says (items : List Item) (h : (documents items).length ≤ 1) :
    ∀ arguments : List String, ∃ result, Says (allWords items ++ arguments) result
  | [] => by
    rw [List.append_nil]
    match hdocuments : documents items with
    | [] => exact ⟨_, .noDocument hdocuments⟩
    | [path] => exact ⟨_, .items hdocuments⟩
    | _ :: _ :: _ => simp [hdocuments] at h
  | argument :: rest => by
    rcases Item.exists_front argument rest with ⟨item, behind, hfront⟩ | hname | hunknown
    · have hshorter : behind.length < (argument :: rest).length := by
        rw [hfront, List.length_append]
        have hpos := item.length_words_pos
        omega
      have hwords : allWords items ++ (argument :: rest)
        = allWords (items ++ [item]) ++ behind := by
        simp [hfront, allWords]
      by_cases hone : (documents (items ++ [item])).length ≤ 1
      · rw [hwords]
        exact exists_says (items ++ [item]) hone behind
      · rw [hfront]
        rw [Item.documents_concat, List.length_append] at hone
        cases item with
        | diagnostics wanted => exact absurd h hone
        | name value => exact absurd h hone
        | document path hpath =>
          have hfirst : (documents items).length = 1 := by
            simp only [Item.document?, Option.toList_some, List.length_singleton] at hone
            omega
          exact ⟨_, .secondDocument behind hfirst hpath⟩
    · rw [hname]
      exact ⟨_, .nameWithoutValue h⟩
    · exact ⟨_, .unknownOption rest h hunknown⟩
termination_by arguments => arguments.length
decreasing_by exact hshorter

theorem read_eq_iff {arguments : List String} {result : Except ArgumentError Arguments} :
  read arguments = result ↔ Says arguments result
  := by
  constructor
  · rintro rfl
    obtain ⟨result, hsays⟩ := exists_says [] (Nat.zero_le 1) arguments
    have hread : read arguments = result := hsays.read_eq
    rw [hread]
    exact hsays
  · exact Says.read_eq

/-! ### The order of items -/

/-- The order of items does not count, but for the last flag and the last name. -/
theorem read_of_perm {items items' : List Item} (hperm : items.Perm items')
    (hdiagnostics : lastDiagnostics items = lastDiagnostics items')
    (hname : lastName items = lastName items') :
  read (allWords items) = read (allWords items')
  := by
  have hdocuments : (documents items).Perm (documents items') := hperm.filterMap Item.document?
  rw [← (allWords items).append_nil, ← (allWords items').append_nil, read_append, read_append,
    hdocuments.length_eq, hdiagnostics, hname]
  match hpaths : documents items' with
  | [] =>
    rw [hpaths, List.perm_nil] at hdocuments
    rw [hdocuments]
  | [path] =>
    rw [hpaths, List.perm_singleton] at hdocuments
    rw [hdocuments]
  | first :: second :: others => rfl

/-- A document may stand anywhere among the items. -/
theorem read_of_moved {before after before' after' : List Item}
    (h : before ++ after = before' ++ after') {path : String}
    (hpath : path.startsWith "--" = false) :
  read (allWords (before ++ .document path hpath :: after))
    = read (allWords (before' ++ .document path hpath :: after'))
  := by
  have hflags : ∀ before after : List Item,
      lastDiagnostics (before ++ .document path hpath :: after) = lastDiagnostics (before ++ after)
        ∧ lastName (before ++ .document path hpath :: after) = lastName (before ++ after) := by
    intro before after
    simp [lastDiagnostics, lastName, Item.diagnostics?, Item.name?]
  obtain ⟨hdiagnostics, hname⟩ := hflags before after
  obtain ⟨hdiagnostics', hname'⟩ := hflags before' after'
  apply read_of_perm
  · apply List.perm_middle.trans
    rw [h]
    exact List.perm_middle.symm
  · rw [hdiagnostics, hdiagnostics', h]
  · rw [hname, hname', h]

/-- Arguments are read as exactly one thing: if they are made of items among which there is one
document, as this document with the last flag and the last name, and otherwise as the error of the
first argument that is at fault; the usage is shown only if all of them are items and no document is
among them.  There is at most one list of items that arguments are made of.  Their order does not
count but for the last flag and the last name; in particular the document may stand anywhere. -/
theorem read_exactly (arguments : List String) :
  (∀ result, read arguments = result ↔ Says arguments result)
    ∧ (∀ items items', arguments = allWords items → arguments = allWords items' → items = items')
    ∧ (∀ items items' : List Item, arguments = allWords items → items.Perm items' →
        lastDiagnostics items = lastDiagnostics items' → lastName items = lastName items' →
          read (allWords items') = read arguments)
    ∧ ∀ (before after before' after' : List Item) (path : String)
        (hpath : path.startsWith "--" = false),
      arguments = allWords (before ++ .document path hpath :: after) →
        before ++ after = before' ++ after' →
          read (allWords (before' ++ .document path hpath :: after')) = read arguments
  := by
  refine ⟨fun _ => read_eq_iff, ?_, ?_, ?_⟩
  · rintro items items' rfl h
    exact Item.allWords_injective h
  · rintro items items' rfl hperm hdiagnostics hname
    exact (read_of_perm hperm hdiagnostics hname).symm
  · rintro before after before' after' path hpath rfl h
    exact (read_of_moved h hpath).symm

theorem dash_plain :
  "-x".startsWith "--" = false
  := by
  decide +kernel

/-- Items in which a name and a document look like options, and some are replaced by later ones:
what stands before the document. -/
def dashFront : List Item := [.name "--name", .diagnostics true]

/-- What stands behind the document. -/
def dashBack : List Item := [.name "", .diagnostics false]

/-- The arguments of these items. -/
def dashArguments : List String :=
  ["--name", "--name", "--diagnostics", "-x", "--name", "", "--no-diagnostics"]

theorem dashArguments_read_in_any_order :
  dashArguments = allWords (dashFront ++ .document "-x" dash_plain :: dashBack)
    ∧ Says dashArguments (.ok ⟨"-x", some false, some ""⟩)
    ∧ read dashArguments = .ok ⟨"-x", some false, some ""⟩
    ∧ read (allWords (.document "-x" dash_plain :: (dashFront ++ dashBack))) = read dashArguments
    ∧ (dashFront ++ .document "-x" dash_plain :: dashBack).Perm
        (dashFront.reverse ++ .document "-x" dash_plain :: dashBack)
    ∧ read (allWords (dashFront.reverse ++ .document "-x" dash_plain :: dashBack))
      = read dashArguments
  := by
  have hitems : dashArguments = allWords (dashFront ++ .document "-x" dash_plain :: dashBack) := by
    rfl
  have hsays : Says dashArguments (.ok ⟨"-x", some false, some ""⟩) := by
    rw [hitems]
    exact .items rfl
  have hperm : (dashFront ++ .document "-x" dash_plain :: dashBack).Perm
      (dashFront.reverse ++ .document "-x" dash_plain :: dashBack) := by
    apply List.Perm.append_right
    exact dashFront.reverse_perm.symm
  obtain ⟨hread, _, hreorder, hmove⟩ := read_exactly dashArguments
  exact ⟨hitems, hsays, (hread _).mpr hsays,
    hmove dashFront dashBack [] (dashFront ++ dashBack) "-x" dash_plain hitems rfl, hperm,
    hreorder _ _ hitems hperm rfl rfl⟩

/-- The second `--quiet` is no name, and unknown. -/
example : read ["-x", "--name", "--quiet", "--quiet"] = .error (.unknownOption "--quiet") := by
  decide +kernel

end Arguments

end RichText.Command
