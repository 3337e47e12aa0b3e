import RichText.Renderer

/-!
# Views

`View.render` is the HTML of a component that shows a fragment: the rendered fragment in a `div`
of the given class, or, if rendering fails, the reason in a `div` that is marked as an error.
A `Handle` names a renderer; clones of a handle are equal, and other handles are not, even for
renderers that are alike.
-/

namespace RichText

/-! ### Handles -/

/-- A renderer that components share, known by its number. -/
structure Handle where
  number : Nat
  renderer : Renderer

namespace Handle

/-- Handles are equal when they are clones of each other. -/
instance : BEq Handle := ⟨fun a b => a.number == b.number⟩

/-- Handles of renderers, numbered from `first` on. -/
def issue (first : Nat) : List Renderer → List Handle
  | [] => []
  | renderer :: rest => ⟨first, renderer⟩ :: issue (first + 1) rest

end Handle

namespace View

/-! ### Components -/

/-- The class of a view that was given none. -/
def defaultClass : String := "prose-view"

/-- What is added to the class of a view that cannot show its fragment. -/
def errorClass : String := " prose-view-error"

/-- The part of the program that notes failed views. -/
def logTarget : String := "proseview_dioxus::prose_view"

/-- A character of a page: markup characters and quotes become entities. -/
def escapeChar : Char → List Char
  | '&' => "&#38;".toList
  | '<' => "&#60;".toList
  | '>' => "&#62;".toList
  | '\"' => "&#34;".toList
  | '\'' => "&#39;".toList
  | c => [c]

/-- A text as it stands on a page. -/
def escape (s : String) : String := String.ofList (s.toList.flatMap escapeChar)

/-- A `div` of a class around HTML. -/
def frame (className inner : String) : String :=
  "<div class=\"" ++ escape className ++ "\">" ++ inner ++ "</div>"

/-- The note about a fragment that cannot be shown. -/
def failure (renderer : Renderer) (error : RenderError) : LogRecord :=
  ⟨.error, logTarget, renderer.displayName ++ " failed to render document: " ++ error.message⟩

/-- The HTML of the view of a fragment, with the events of rendering it. -/
def render (renderer : Renderer) (fragment : List Node) (className : Option String) :
    List Event × String :=
  let className := className.getD defaultClass
  let outcome := renderer.renderHtml Table.empty fragment
  match outcome.result with
  | .ok html => (outcome.events, frame className html)
  | .error error =>
    (outcome.events ++ [.logged (failure renderer error)],
      frame (className ++ errorClass) (escape ("Unable to render document: " ++ error.message)))

end View

end RichText
