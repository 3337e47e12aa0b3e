import RichText.Renderer
import RichText.Schema.Resolve

/-!
# Chat messages

`Chat.schema` declares the types of chat messages: paragraphs, quotes, code blocks, line breaks,
mentions and emoji, with emphasis, strong and code marks.  Emoji are shown by images; a shortname
without an image is shown by a question mark and noted in the log.  The type `doc` of whole
documents is not rendered.
-/

namespace RichText.Chat

/-! ### Emoji -/

/-- The folder of the images of emoji. -/
def imageFolder : String := "./static/emoji/png/"

/-- The shortnames that there are images for, with their code points. -/
def emojis : List (String × Nat) :=
  [(":grey_question:", 0x2754), (":heart:", 0x2764), (":joy:", 0x1f602), (":smile:", 0x1f604),
    (":thumbsup:", 0x1f44d), (":wave:", 0x1f44b)]

/-- The code point of a shortname. -/
def emojiCode? (shortname : String) : Option Nat := Entries.find? shortname emojis

/-- A code point in hexadecimal digits. -/
def codeText (code : Nat) : String := String.ofList (Nat.toDigits 16 code)

/-- The shortname that is shown for one without an image. -/
def unknownShortname : String := ":grey_question:"

/-- The code point that is shown for a shortname without an image. -/
def unknownCode : Nat := 0x2754

/-- The image of an emoji. -/
def imageSpec (alt title : String) (code : Nat) : OutputSpec :=
  OutputSpec.ofTag "img" |>.attr "class" "emojione" |>.attr "alt" alt |>.attr "title" title
    |>.attr "src" (imageFolder ++ codeText code ++ ".png")

/-- The part of the program that notes unknown shortnames. -/
def logTarget : String := "proseview_engine::schemas::chat"

/-- The note about a shortname without an image. -/
def unknownEmoji (shortname : String) : LogRecord :=
  ⟨.warn, logTarget, "emoji data not found for " ++ shortname⟩

/-- The spec of an emoji. -/
def emojiSpec (node : Node) : Noted OutputSpec :=
  let shortname := (node.attributes.string? "shortname").getD ""
  match emojiCode? shortname with
  | some code => .silent (imageSpec (String.singleton (Char.ofNat code)) shortname code)
  | none =>
    ⟨[unknownEmoji shortname],
      imageSpec unknownShortname (String.singleton (Char.ofNat unknownCode)) unknownCode⟩

/-! ### Mentions -/

/-- What a click on a mention does. -/
def clickHandler (username : String) : String := "openContact(\"" ++ username ++ "\")"

/-- The spec of the mention of a user. -/
def mentionOf (username : String) : OutputSpec :=
  OutputSpec.ofTag "span" |>.attr "class" "mention clickable" |>.attr "data-username" username
    |>.attr "onclick" (clickHandler username) |>.child (.text ("@" ++ username))

/-- The spec of a mention. -/
def mentionSpec (node : Node) : Noted OutputSpec :=
  .silent (mentionOf ((node.attributes.string? "username").getD ""))

/-! ### The schema -/

/-- The spec of a tag around the content. -/
def around (tag : String) : OutputSpec := OutputSpec.ofTag tag |>.hole

/-- A mark that is rendered by a tag. -/
def tagMark (tag : String) : MarkSpec := ⟨none, some fun _ _ => .silent (.ofTag tag)⟩

/-- The types of chat messages. -/
def schema : Schema :=
  Schema.empty
    |>.declareNode "doc" { NodeSpec.plain with content := some "block+" }
    |>.declareNode "paragraph" (.block "inline*" fun _ => .silent (around "p"))
    |>.declareNode "blockquote" (.block "block+" fun _ => .silent (around "blockquote"))
    |>.declareNode "code_block"
      (.block "text*" fun _ => .silent (OutputSpec.ofTag "pre" |>.child (around "code")))
    |>.declareNode Node.textType .plain
    |>.declareNode "hard_break" (.inlineLeaf fun _ => .silent (.ofTag "br"))
    |>.declareNode "mention" (.inlineLeaf mentionSpec)
    |>.declareNode "emoji" (.inlineLeaf emojiSpec)
    |>.declareMark "em" (tagMark "em")
    |>.declareMark "strong" (tagMark "strong")
    |>.declareMark "code" (tagMark "code")

end RichText.Chat
