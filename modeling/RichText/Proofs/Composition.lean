import RichText.Proofs.MarkSpecs

/-!
# HTML is put together from HTML

An element that has a child is written with a start tag and an end tag around its children, void or
not; only an element without children closes itself.  So what stands around the place of the content
is the same text for every content: around the hole of a spec, and around the element that marks are
put around.  A fragment of several nodes has their HTML one behind the other.
-/

namespace RichText

namespace Html

/-- A start tag with its closing bracket. -/
def opening (encoder : Encoder) (tag : String × Option Props) : String :=
  startTag encoder tag.1 tag.2 ++ ">"

/-- The end tag of such a tag. -/
def closing (tag : String × Option Props) : String := endTag tag.1

end Html

namespace Element

variable (encoder : Html.Encoder)

theorem htmlAllWith_append (before behind : List Element) :
  htmlAllWith encoder (before ++ behind)
    = htmlAllWith encoder before ++ htmlAllWith encoder behind
  := by
  induction before with
  | nil => simp [htmlAllWith]
  | cons child rest ih =>
    rw [List.cons_append, htmlAllWith, htmlAllWith, ih, String.append_assoc]

/-- With children, an element is written with a start tag and an end tag, even if it is void. -/
theorem htmlWith_node {children : List Element} (h : children ≠ []) (tag : String)
    (props : Option Props) :
  (node tag props (some children)).htmlWith encoder
    = Html.opening encoder (tag, props) ++ htmlAllWith encoder children
      ++ Html.closing (tag, props)
  := by
  cases children with
  | nil => exact absurd rfl h
  | cons child rest => rfl

/-! ### Frames -/

/-- The HTML in front of the open place of a frame. -/
def Frame.front : Frame → String
  | here => ""
  | within tag props before frame _ =>
    Html.opening encoder (tag, props) ++ htmlAllWith encoder before ++ frame.front

/-- The HTML behind the open place of a frame. -/
def Frame.back : Frame → String
  | here => ""
  | within tag props _ frame behind =>
    frame.back ++ htmlAllWith encoder behind ++ Html.closing (tag, props)

/-- What is plugged into a frame is written between the front and the back of the frame. -/
theorem htmlWith_plug (frame : Frame) (content : Element) :
  (frame.plug content).htmlWith encoder
    = frame.front encoder ++ content.htmlWith encoder ++ frame.back encoder
  := by
  induction frame with
  | here => simp [Frame.plug, Frame.front, Frame.back]
  | within tag props before frame behind ih =>
    have hchildren : before ++ frame.plug content :: behind ≠ [] := by
      simp
    rw [Frame.plug, htmlWith_node encoder hchildren, htmlAllWith_append, htmlAllWith, ih]
    simp only [Frame.front, Frame.back, String.append_assoc]

/-! ### Tags around elements -/

/-- The tag around an element. -/
def surround (element : Element) (tag : String × Option Props) : Element :=
  node tag.1 tag.2 (some [element])

theorem htmlWith_surround (element : Element) (tag : String × Option Props) :
  (element.surround tag).htmlWith encoder
    = Html.opening encoder tag ++ element.htmlWith encoder ++ Html.closing tag
  := by
  rw [surround, htmlWith_node encoder (List.cons_ne_nil _ _), htmlAllWith, htmlAllWith,
    String.append_empty]

/-- Tags around an element, the first one innermost, are opened from the last one to the first one
and closed from the first one to the last one. -/
theorem htmlWith_foldl_surround (element : Element) (tags : List (String × Option Props)) :
  (tags.foldl surround element).htmlWith encoder
    = String.join (tags.reverse.map (Html.opening encoder)) ++ element.htmlWith encoder
      ++ String.join (tags.map Html.closing)
  := by
  induction tags generalizing element with
  | nil => simp
  | cons tag rest ih =>
    rw [List.foldl_cons, ih, htmlWith_surround]
    simp [String.append_assoc]

end Element

/-! ### Specs with a hole -/

namespace OutputSpec

/-- A spec with a hole that can be interpreted makes a frame around every content. -/
theorem exists_frame_of_hole {spec : OutputSpec} (hhole : spec.holes ≠ 0)
    (hspec : spec.Interpretable false) :
  ∃ frame : Element.Frame, ∀ content,
    spec.interpret content false = .ok ⟨frame.plug content, true⟩
  := by
  have hle : spec.holes ≤ 1 := hspec.holes_le
  have hone : spec.holes = 1 := by
    omega
  obtain ⟨frame, hframe⟩ := exists_fill_eq_plug spec hone
  use frame
  intro content
  apply interpret_eq_ok_iff.mpr
  use hspec
  rw [hframe content, usesHole_of_hole hone]

end OutputSpec

/-! ### Fragments one behind the other -/

namespace Renderer

section

variable (renderer : Renderer) (passthrough : Attributes)

/-- Fragments one behind the other are rendered one after the other. -/
theorem renderAll_append (front behind : List Node) :
  renderer.renderAll passthrough (front ++ behind)
    = renderer.renderAll passthrough front >>= fun elements =>
        renderer.renderAll passthrough behind >>= fun others => pure (elements ++ others)
  := by
  induction front with
  | nil =>
    rw [List.nil_append, renderAll]
    symm
    apply (pure_bind _ _).trans
    apply bind_pure
  | cons node rest ih =>
    simp only [List.cons_append, renderAll, ih, bind_assoc, pure_bind]

/-- The HTML of fragments one behind the other is that of the first one and then that of the second
one. -/
theorem renderHtml_append (front behind : List Node) :
  renderer.renderHtml passthrough (front ++ behind)
    = renderer.renderHtml passthrough front >>= fun html =>
        renderer.renderHtml passthrough behind >>= fun other => pure (html ++ other)
  := by
  simp only [renderHtml, renderAll_append, bind_assoc, pure_bind, Element.htmlAll,
    Element.htmlAllWith_append]

/-- The HTML of a single node is that of its element. -/
theorem result_renderHtml_singleton (node : Node) :
  (renderer.renderHtml passthrough [node]).result
    = (renderer.renderNode passthrough node).result.map Element.html
  := by
  simp only [renderHtml, renderAll, Render.result_bind]
  cases (renderer.renderNode passthrough node).result with
  | error error => rfl
  | ok element =>
    have hhtml : Element.htmlAll [element] = element.html := by
      apply String.append_empty
    exact congrArg Except.ok hhtml

/-- What the factory of its own type makes of a node around its content, without the marks. -/
def renderBody (node : Node) : Render Element := do
  let children ← renderer.renderAll passthrough node.content
  renderer.nodeStep passthrough node (.fragment children)

/-- The marks of a node are rendered around what its own factory makes. -/
theorem renderNode_eq_renderBody (node : Node) :
  renderer.renderNode passthrough node
    = renderer.renderBody passthrough node >>=
        renderer.renderMarks passthrough node.isInline node.marks
  := by
  rw [renderNode_eq, renderBody, bind_assoc]

end

end Renderer

/-! ### Marks that are tags -/

namespace OutputSpec

/-- The tag of a spec that has one and has no children. -/
def bareTag? : OutputSpec → Option (String × Option Props)
  | .element tag attributes [] => some (tag, attributes.map Props.ofAttributes)
  | _ => none

/-- A mark with a spec that is a tag without children puts the tag around the content. -/
theorem markResult_of_bareTag? {spec : OutputSpec} {tag : String × Option Props}
    (h : spec.bareTag? = some tag) (content : Element) :
  spec.markResult content = .ok (content.surround tag)
  := by
  match spec with
  | .text s => simp [bareTag?] at h
  | .native nodeType raw => simp [bareTag?] at h
  | .element name attributes (child :: rest) => simp [bareTag?] at h
  | .element name attributes [] =>
    obtain rfl := Option.some.inj h
    have hprops : Props.ofAttributes = Props.withClassApart := by
      funext attributes
      apply Props.ofAttributes_eq
    rw [markResult, Element.surround, hprops]

end OutputSpec

namespace Schema

/-- The type of the mark gives a spec, and no factory, and the spec is this tag, without
children. -/
def MarksBy (schema : Schema) (isInline : Bool) (mark : Mark) (tag : String × Option Props) :
    Prop :=
  ∃ type specOf, schema.marks.find? mark.typeName = some type ∧ type.spec.factory = none
    ∧ type.spec.outputSpec = some specOf ∧ (specOf mark isInline).value.bareTag? = some tag

end Schema

namespace Renderer

variable {schema : Schema} {displayName : Option String} {options : RendererOptions}
  {passthrough : Attributes} {isInline : Bool}

/-- A mark that is a tag is rendered around whatever is there. -/
theorem result_markStep_of_marksBy {mark : Mark} {tag : String × Option Props}
    (h : schema.MarksBy isInline mark tag) (content : Element) :
  ((ofSchema schema displayName options).markStep passthrough isInline content mark).result
    = .ok (content.surround tag)
  := by
  obtain ⟨type, specOf, hfind, hfactory, hspec, htag⟩ := h
  have hknown : (ofSchema schema displayName options).marks.find? mark.typeName
      = some (MarkFactory.ofSpec options specOf) := by
    rw [ofSchema, MarkFactory.find?_table, hfind]
    simp [MarkFactory.ofType?, hfactory, hspec]
  rw [markStep_of_some _ _ hknown, MarkFactory.result_ofSpec,
    OutputSpec.interpret_hole_eq_markResult, OutputSpec.markResult_of_bareTag? htag]

/-- Marks that are tags are rendered one around the other. -/
theorem result_renderMarks_of_marksBy {marks : List Mark} {tags : List (String × Option Props)}
    (h : List.Forall₂ (schema.MarksBy isInline) marks tags) (element : Element) :
  ((ofSchema schema displayName options).renderMarks passthrough isInline marks element).result
    = .ok (tags.foldl Element.surround element)
  := by
  induction h generalizing element with
  | nil => rfl
  | cons hmark _ ih =>
    rw [renderMarks_cons, Render.result_bind, result_markStep_of_marksBy hmark, ok_bind, ih,
      List.foldl_cons]

/-- A node with marks that are tags is rendered as its own factory renders it, with the tags around
that. -/
theorem result_renderHtml_of_marksBy {node : Node} {tags : List (String × Option Props)}
    (h : List.Forall₂ (schema.MarksBy node.isInline) node.marks tags) :
  ((ofSchema schema displayName options).renderHtml passthrough [node]).result
    = ((ofSchema schema displayName options).renderBody passthrough node).result.map fun own =>
        String.join (tags.reverse.map (Html.opening .standard)) ++ own.html
          ++ String.join (tags.map Html.closing)
  := by
  rw [result_renderHtml_singleton, renderNode_eq_renderBody, Render.result_bind]
  cases ((ofSchema schema displayName options).renderBody passthrough node).result with
  | error error => rfl
  | ok own =>
    rw [ok_bind, result_renderMarks_of_marksBy h, Except.map, Except.map, Element.html,
      Element.htmlWith_foldl_surround]
    rfl

/-- The HTML of a spec with a hole is the HTML of the content between a front and a back that are the
same for all contents.  The HTML of fragments one behind the other is that of the first one and that
of the second one, and the error is that of the first one to fail.  The HTML of a node with marks
that are tags is that of the element its own factory makes, with the start tags in front, that of the
last mark first, and the end tags behind, that of the last mark last. -/
theorem html_composes :
  (∀ (encoder : Html.Encoder) (spec : OutputSpec), spec.holes ≠ 0 →
      (∃ content outcome, spec.interpret content false = .ok outcome) →
      ∃ front back, ∀ content, ∃ outcome, spec.interpret content false = .ok outcome
        ∧ outcome.element.htmlWith encoder = front ++ content.htmlWith encoder ++ back)
    ∧ (∀ (renderer : Renderer) (passthrough : Attributes) (front behind : List Node),
      (renderer.renderHtml passthrough (front ++ behind)).result = do
        let html ← (renderer.renderHtml passthrough front).result
        let other ← (renderer.renderHtml passthrough behind).result
        return html ++ other)
    ∧ ∀ (schema : Schema) (displayName : Option String) (options : RendererOptions)
        (passthrough : Attributes) (node : Node) (tags : List (String × Option Props)),
      List.Forall₂ (schema.MarksBy node.isInline) node.marks tags →
      ((ofSchema schema displayName options).renderHtml passthrough [node]).result
        = ((ofSchema schema displayName options).renderBody passthrough node).result.map fun own =>
            String.join (tags.reverse.map (Html.opening .standard)) ++ own.html
              ++ String.join (tags.map Html.closing)
  := by
  refine ⟨?_, ?_, ?_⟩
  · rintro encoder spec hhole ⟨content, outcome, houtcome⟩
    obtain ⟨hspec, -⟩ := OutputSpec.interpret_eq_ok_iff.mp houtcome
    obtain ⟨frame, hframe⟩ := OutputSpec.exists_frame_of_hole hhole hspec
    use frame.front encoder, frame.back encoder
    intro content'
    use ⟨frame.plug content', true⟩, hframe content'
    apply Element.htmlWith_plug
  · intro renderer passthrough front behind
    simp only [renderHtml_append, Render.result_bind]
    rfl
  · intro schema displayName options passthrough node tags htags
    exact result_renderHtml_of_marksBy htags

/-- A figure with a line break that has a hole. -/
def brokenFigure : OutputSpec :=
  OutputSpec.ofTag "figure" |>.child (OutputSpec.ofTag "br" |>.hole)

/-- A schema of boxes, which bring a factory, and of marks that are links or line breaks. -/
def boxSchema : Schema :=
  Schema.empty
    |>.declareNode "box" { NodeSpec.plain with
        factory := some fun _ content _ => .done (.create "div" none [.text "box:", content]) }
    |>.declareMark "link" ⟨none, some fun mark _ => .silent (OutputSpec.ofTag "a"
        |>.attr "href" ((mark.attributes.string? "href").getD "#"))⟩
    |>.declareMark "break" ⟨none, some fun _ _ => .silent (.ofTag "br")⟩

/-- A box with a text in it, with a line break around it and a link around that. -/
def linkedBox : Node :=
  { Node.block "box" [.ofText "x"] with marks := [.ofType "break", .ofType "link"] }

/-- The tags of the marks. -/
def linkedTags : List (String × Option Props) :=
  [("br", none), ("a", some (Props.ofAttributes (Table.ofList [("href", "#")])))]

theorem linkedBox_composes :
  brokenFigure.holes ≠ 0
    ∧ (∃ content outcome, brokenFigure.interpret content false = .ok outcome)
    ∧ (∃ front back, ∀ content, ∃ outcome, brokenFigure.interpret content false = .ok outcome
      ∧ outcome.element.htmlWith .standard = front ++ content.htmlWith .standard ++ back)
    ∧ List.Forall₂ (boxSchema.MarksBy linkedBox.isInline) linkedBox.marks linkedTags
    ∧ ((ofSchema boxSchema none .default).renderHtml Table.empty [linkedBox]).result
      = .ok "<a href=\"#\"><br><div>box:x</div></br></a>"
  := by
  have hhole : brokenFigure.holes ≠ 0 := by
    decide
  have hinterprets : ∃ content outcome, brokenFigure.interpret content false = .ok outcome := by
    use .text "", ⟨brokenFigure.fill (.text ""), true⟩
    rfl
  have hmarks : List.Forall₂ (boxSchema.MarksBy linkedBox.isInline) linkedBox.marks
      linkedTags := by
    refine .cons ⟨_, _, rfl, rfl, rfl, rfl⟩ (.cons ⟨_, _, rfl, rfl, rfl, rfl⟩ .nil)
  obtain ⟨hspecs, -, hnodes⟩ := html_composes
  refine ⟨hhole, hinterprets, hspecs .standard brokenFigure hhole hinterprets, hmarks, ?_⟩
  rw [hnodes boxSchema none .default Table.empty linkedBox linkedTags hmarks]
  rfl

end Renderer

end RichText
