import RichText.Element

/-!
# Static HTML

`Element.htmlWith` writes an element as HTML.  An encoder writes texts and attribute values, tags
and attribute names are written as they are.  Fragments leave no trace.  A void element without
children closes itself; with children it gets an end tag like every other element.
`Element.html` is the HTML with the standard encoder.
-/

namespace RichText

namespace Html

/-- The tags of the void elements. -/
def voidTags : List String :=
  ["area", "base", "br", "col", "embed", "hr", "img", "input", "link", "meta", "source", "track",
    "wbr"]

/-- The entity of a markup character; other characters have none and stay as they are. -/
def entity (c : Char) : List Char :=
  if c = '&' then "&amp;".toList
  else if c = '<' then "&lt;".toList
  else if c = '>' then "&gt;".toList
  else if c = '\"' then "&quot;".toList
  else [c]

/-- The string `s` with entities in place of the characters `marked`. -/
def escape (marked : List Char) (s : String) : String :=
  String.ofList (s.toList.flatMap fun c => if c ∈ marked then entity c else [c])

/-- How strings are written between tags, and how between the double quotes of an attribute. -/
structure Encoder where
  text : String → String
  value : String → String

namespace Encoder

/-- The characters that must not stand in a text. -/
def textMarkup : List Char := ['&', '<', '>']

/-- The characters that get an entity in a value. -/
def valueMarkup : List Char := ['&', '<', '>', '\"']

/-- The encoder that puts entities for all markup characters. -/
def standard : Encoder := ⟨escape textMarkup, escape valueMarkup⟩

end Encoder

variable (encoder : Encoder)

/-- An attribute with the blank in front of it. -/
def assignment (name value : String) : String :=
  " " ++ name ++ "=\"" ++ encoder.value value ++ "\""

/-- Attributes, each with the blank in front of it. -/
def assignments (entries : List (String × String)) : String :=
  String.join (entries.map fun entry => assignment encoder entry.1 entry.2)

/-- The attributes of properties, the class first. -/
def props : Option Props → String
  | none => ""
  | some props =>
    (match props.className with
      | some className => assignment encoder Props.classAttribute className
      | none => "")
      ++ assignments encoder props.attributes.entries

/-- A start tag up to its closing bracket. -/
def startTag (tag : String) (properties : Option Props) : String :=
  "<" ++ tag ++ props encoder properties

/-- An end tag. -/
def endTag (tag : String) : String := "</" ++ tag ++ ">"

/-- An element without children. -/
def childless (tag : String) (properties : Option Props) : String :=
  if tag ∈ voidTags then startTag encoder tag properties ++ "/>"
  else startTag encoder tag properties ++ ">" ++ endTag tag

end Html

namespace Element

variable (encoder : Html.Encoder)

mutual

/-- The HTML of an element. -/
def htmlWith : Element → String
  | .text s => encoder.text s
  | .fragment children => htmlAllWith children
  | .node tag props none => Html.childless encoder tag props
  | .node tag props (some []) => Html.childless encoder tag props
  | .node tag props (some (child :: rest)) =>
    Html.startTag encoder tag props ++ ">" ++ (htmlWith child ++ htmlAllWith rest)
      ++ Html.endTag tag

/-- The HTML of a list of elements. -/
def htmlAllWith : List Element → String
  | [] => ""
  | child :: rest => htmlWith child ++ htmlAllWith rest

end

/-- The HTML of an element with the standard encoder. -/
def html (element : Element) : String := element.htmlWith .standard

/-- The HTML of a list of elements with the standard encoder. -/
def htmlAll (elements : List Element) : String := htmlAllWith .standard elements

end Element

end RichText
