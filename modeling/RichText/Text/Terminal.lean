/-!
# Texts without control sequences

A terminal takes some characters of a text as commands and shows the others.  `Text.shown` keeps
the characters that are shown: it drops control characters except those that are space, and whole
control sequences.  Space that is a control character breaks a sequence off, so what follows it is
shown again; in the strings that some sequences carry it is dropped.
-/

namespace RichText.Text

/-- Where in a control sequence a text stands. -/
inductive ControlState where
  /-- Not in a sequence. -/
  | ground
  /-- Behind an escape character. -/
  | escape
  /-- Behind the intermediate characters of an escape sequence. -/
  | intermediate
  /-- Behind the introducer of a control sequence, up to its final character. -/
  | sequence
  /-- Behind the introducer of a device control string. -/
  | device
  /-- In the parameters of a device control string. -/
  | deviceParameter
  /-- In the intermediate characters of a device control string. -/
  | deviceIntermediate
  /-- In a string that a string terminator ends. -/
  | string
  /-- In a command of the operating system, which also a bell ends. -/
  | command
deriving DecidableEq

/-- Whether a control character is space, which is shown like other characters. -/
def isSpaceControl (c : Char) : Bool := c == '\t' || c == '\n' || c == '\x0c' || c == '\r'

/-- Whether one of the bytes of a character, as it is encoded, is the terminator of strings. -/
def hasTerminator (c : Char) : Bool :=
  let code := c.toNat
  if code < 0x80 then false
  else if code < 0x800 then code % 64 == 0x1C
  else if code < 0x10000 then code % 64 == 0x1C || code / 64 % 64 == 0x1C
  else code % 64 == 0x1C || code / 64 % 64 == 0x1C || code / 4096 % 64 == 0x1C

namespace ControlState

/-- The state behind the character that follows an escape character. -/
def ofEscaped (c : Char) : ControlState :=
  if c.toNat < 0x30 then intermediate
  else
    match c with
    | '[' => sequence
    | ']' => command
    | 'P' => device
    | 'X' => string
    | '^' => string
    | '_' => string
    | _ => ground

/-- The state behind a character that is neither a control character nor beyond ASCII, in a state
in which control characters count; there is none if the character is shown. -/
def behindGraphic? (c : Char) : ControlState → Option ControlState
  | ground => none
  | escape => some (ofEscaped c)
  | intermediate => some (if c.toNat < 0x30 then intermediate else ground)
  | _ => some (if c.toNat < 0x40 then sequence else ground)

/-- The state behind a character in front of a device control string; characters that are no part
of it are passed over. -/
def behindDevice (c : Char) (state : ControlState) : ControlState :=
  let code := c.toNat
  if code < 0x20 ∨ 0x7F ≤ code then state
  else if code < 0x30 then deviceIntermediate
  else
    match state with
    | device => if code < 0x40 then deviceParameter else string
    | deviceParameter => if code < 0x3C then deviceParameter else string
    | _ => string

/-- The state behind a character, or none if the character is shown.  Cancel and substitute end
every sequence, and an escape character begins a new one. -/
def behind? (c : Char) (state : ControlState) : Option ControlState :=
  let code := c.toNat
  if code = 0x18 ∨ code = 0x1A then some ground
  else if code = 0x1B then some escape
  else
    match state with
    | device => some (behindDevice c state)
    | deviceParameter => some (behindDevice c state)
    | deviceIntermediate => some (behindDevice c state)
    | string => some (if hasTerminator c then ground else string)
    | command => some (if code = 0x07 then ground else command)
    | state =>
      if code < 0x20 then if isSpaceControl c then none else some state
      else if code = 0x7F then some state
      else if code < 0x80 then state.behindGraphic? c
      else if state = ground then none
      else some state

end ControlState

/-- The characters of a text that are shown, in a state. -/
def shownFrom (state : ControlState) : List Char → List Char
  | [] => []
  | c :: rest =>
    match state.behind? c with
    | some state => shownFrom state rest
    | none => c :: shownFrom .ground rest

/-- A text without control characters and control sequences. -/
def shown (s : String) : String := String.ofList (shownFrom .ground s.toList)

end RichText.Text
