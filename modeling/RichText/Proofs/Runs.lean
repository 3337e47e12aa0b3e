import RichText.Proofs.Steps

/-!
# The run of a render

Whatever its factories do, a renderer performs the steps of a fragment one after the other, in the
order of `Step.ofNodes`, on a stack of the elements made so far: a node takes those of its content
from it, a mark takes the latest one, and either puts a new one on it.  A render is this run
(`Renderer.renderAll_eq_run`).  So it ends at the first step that fails, and its factories are
called for the steps up to that one, once each (`Renderer.calls`).
-/

namespace RichText

/-! ### Calls -/

/-- A call of a factory: of one for a node around its content, or of one for a mark around what is
there so far. -/
inductive Call where
  | body (node : Node) (content : Element)
  | wrap (isInline : Bool) (content : Element) (mark : Mark)

namespace Call

/-- The kind of the type whose factory is called. -/
def kind : Call → TypeKind
  | body .. => .node
  | wrap .. => .mark

/-- The name of the type whose factory is called. -/
def typeName : Call → String
  | body node _ => node.typeName
  | wrap _ _ mark => mark.typeName

end Call

namespace Step

/-- The kind of the type of a step. -/
def kind : Step → TypeKind
  | body _ => .node
  | wrap .. => .mark

/-- The name of the type of a step. -/
def typeName : Step → String
  | body node => node.typeName
  | wrap _ _ mark => mark.typeName

/-- The call of a step on the elements made so far, the latest one first: a node is given the
elements of its content, which are the last ones made, and a mark the last one. -/
def call (made : List Element) : Step → Call
  | body node => .body node (.fragment (made.take node.content.length).reverse)
  -- The step of a mark always comes behind one that has made an element.
  | wrap isInline _ mark => .wrap isInline (made.headD (.fragment [])) mark

/-- The elements made so far that a step leaves for later steps. -/
def unused (made : List Element) : Step → List Element
  | body node => made.drop node.content.length
  | wrap .. => made.tail

/-- The call is for the node of the step, or for its mark and with its flag. -/
def IsCalledBy : Step → Call → Prop
  | body node, call => ∃ content, call = .body node content
  | wrap isInline _ mark, call => ∃ content, call = .wrap isInline content mark

variable (made : List Element) (step : Step)

@[simp]
theorem kind_call :
  (step.call made).kind = step.kind
  := by
  cases step with
  | body node => rfl
  | wrap isInline inner mark => rfl

@[simp]
theorem typeName_call :
  (step.call made).typeName = step.typeName
  := by
  cases step with
  | body node => rfl
  | wrap isInline inner mark => rfl

theorem isCalledBy_call :
  step.IsCalledBy (step.call made)
  := by
  cases step with
  | body node => exact ⟨_, rfl⟩
  | wrap isInline inner mark => exact ⟨_, rfl⟩

/-- The types of the steps of a fragment are used in it. -/
theorem mem_usedTypes_of_mem_ofNodes {step : Step} {fragment : List Node}
    (h : step ∈ ofNodes fragment) :
  (step.kind, step.typeName) ∈ Node.usedTypes fragment
  := by
  obtain ⟨node, hnode, hstep⟩ := (mem_ofNodes_iff fragment).mp h
  apply List.mem_flatMap_of_mem hnode
  rcases List.mem_cons.mp hstep with rfl | hstep
  · apply List.mem_cons_self
  · obtain ⟨inner, mark, hmark, rfl⟩ := exists_of_mem_ofMarks hstep
    apply List.mem_cons_of_mem
    exact List.mem_map_of_mem hmark

end Step

namespace Renderer

/-- Whether there is a factory for a type. -/
def knows (renderer : Renderer) : TypeKind → String → Bool
  | .node, typeName => renderer.nodes.contains typeName
  | .mark, typeName => renderer.marks.contains typeName

variable (renderer : Renderer) (passthrough : Attributes)

/-- What comes of a call: that of the factory, or an error if there is none. -/
def answer : Call → Render Element
  | .body node content => renderer.nodeStep passthrough node content
  | .wrap isInline content mark => renderer.markStep passthrough isInline content mark

/-- Performs a step on the elements made so far. -/
def perform (made : List Element) (step : Step) : Render (List Element) := do
  let element ← renderer.answer passthrough (step.call made)
  return element :: step.unused made

/-- Performs steps one after the other on the elements made so far. -/
def run (made : List Element) (steps : List Step) : Render (List Element) :=
  steps.foldlM (renderer.perform passthrough) made

/-- The calls of factories that performing steps makes: one for each step up to the first one that
fails, and one for that step too if there is a factory for its type. -/
def calls (made : List Element) : List Step → List Call
  | [] => []
  | step :: rest =>
    match (renderer.answer passthrough (step.call made)).result with
    | .ok element => step.call made :: calls (element :: step.unused made) rest
    | .error _ => if renderer.knows step.kind step.typeName then [step.call made] else []

theorem result_perform (made : List Element) (step : Step) :
  (renderer.perform passthrough made step).result
    = (renderer.answer passthrough (step.call made)).result.map (· :: step.unused made)
  := Render.result_bind_pure _ _

theorem events_perform (made : List Element) (step : Step) :
  (renderer.perform passthrough made step).events
    = (renderer.answer passthrough (step.call made)).events
  := Render.events_bind_pure _ _

/-! ### Renders are runs -/

theorem run_cons (made : List Element) (step : Step) (rest : List Step) :
  renderer.run passthrough made (step :: rest)
    = renderer.perform passthrough made step >>= (renderer.run passthrough · rest)
  := List.foldlM_cons ..

theorem run_append (made : List Element) (steps rest : List Step) :
  renderer.run passthrough made (steps ++ rest)
    = renderer.run passthrough made steps >>= (renderer.run passthrough · rest)
  := List.foldlM_append

/-- Marks are rendered by their steps, which replace the latest element. -/
theorem run_ofMarks (isInline : Bool) (marks : List Mark) (inner : Step) (element : Element)
    (made : List Element) :
  renderer.run passthrough (element :: made) (Step.ofMarks isInline inner marks)
    = renderer.renderMarks passthrough isInline marks element >>=
        fun wrapped => pure (wrapped :: made)
  := by
  induction marks generalizing inner element with
  | nil => rfl
  | cons mark rest ih =>
    rw [Step.ofMarks, run_cons, renderMarks_cons, perform, bind_assoc, bind_assoc]
    simp only [pure_bind]
    congr 1
    funext wrapped
    apply ih

/-- The step of a node takes the elements of its content from those made so far, and its marks are
rendered behind it. -/
theorem run_ofMarked (node : Node) {elements : List Element}
    (hlength : elements.length = node.content.length) (made : List Element) :
  renderer.run passthrough (elements.reverse ++ made) (Step.ofMarked node)
    = renderer.nodeStep passthrough node (.fragment elements) >>=
        renderer.renderMarks passthrough node.isInline node.marks >>=
        fun element => pure (element :: made)
  := by
  have hlength' : elements.reverse.length = node.content.length := by
    rw [List.length_reverse, hlength]
  have htake : ((elements.reverse ++ made).take node.content.length).reverse = elements := by
    rw [← hlength', List.take_left, List.reverse_reverse]
  have hdrop : (elements.reverse ++ made).drop node.content.length = made := by
    rw [← hlength', List.drop_left]
  rw [Step.ofMarked, run_cons, perform, Step.call, Step.unused, htake, hdrop, bind_assoc,
    bind_assoc]
  simp only [pure_bind, run_ofMarks]
  rfl

mutual

/-- A node is rendered by its steps, which add its element to those made so far. -/
theorem run_ofNode :
    ∀ (node : Node) (made : List Element),
      renderer.run passthrough made (Step.ofNode node)
        = renderer.renderNode passthrough node >>= fun element => pure (element :: made)
  | ⟨typeName, isInline, isLeaf, attributes, marks, text, content⟩, made => by
    rw [Step.ofNode_eq, renderNode_eq, run_append, run_ofNodes content, bind_assoc, bind_assoc]
    simp only [pure_bind]
    apply Render.bind_congr_of_ok
    intro elements helements
    apply run_ofMarked
    apply length_of_renderAll _ _ helements

/-- A fragment is rendered by its steps, which add its elements to those made so far. -/
theorem run_ofNodes :
    ∀ (fragment : List Node) (made : List Element),
      renderer.run passthrough made (Step.ofNodes fragment)
        = renderer.renderAll passthrough fragment >>=
            fun elements => pure (elements.reverse ++ made)
  | [], made => rfl
  | node :: rest, made => by
    rw [Step.ofNodes, renderAll, run_append, run_ofNode node, bind_assoc, bind_assoc]
    simp only [pure_bind, bind_assoc, run_ofNodes rest, List.reverse_cons, List.append_assoc,
      List.singleton_append]

end

/-- A render of a fragment is the run of its steps. -/
theorem renderAll_eq_run (fragment : List Node) :
  renderer.renderAll passthrough fragment
    = renderer.run passthrough [] (Step.ofNodes fragment) >>= fun made => pure made.reverse
  := by
  rw [run_ofNodes, bind_assoc]
  simp

theorem result_renderAll (fragment : List Node) :
  (renderer.renderAll passthrough fragment).result
    = (renderer.run passthrough [] (Step.ofNodes fragment)).result.map List.reverse
  := by
  rw [renderAll_eq_run, Render.result_bind_pure]

section

variable {renderer renderer' : Renderer} {passthrough passthrough' : Attributes}
  {fragment : List Node}

/-- Renders are alike if the calls of their steps are answered alike. -/
theorem renderAll_congr
    (h : ∀ step ∈ Step.ofNodes fragment, ∀ made,
      renderer.answer passthrough (step.call made)
        = renderer'.answer passthrough' (step.call made)) :
  renderer.renderAll passthrough fragment = renderer'.renderAll passthrough' fragment
  := by
  rw [renderAll_eq_run, renderAll_eq_run, run, run]
  congr 1
  apply foldlM_congr
  intro step hstep made
  rw [perform, perform, h step hstep]

/-- The results of renders are alike if those of the calls of their steps are. -/
theorem result_renderAll_congr
    (h : ∀ step ∈ Step.ofNodes fragment, ∀ made,
      (renderer.answer passthrough (step.call made)).result
        = (renderer'.answer passthrough' (step.call made)).result) :
  (renderer.renderAll passthrough fragment).result
    = (renderer'.renderAll passthrough' fragment).result
  := by
  rw [result_renderAll, result_renderAll, run, run, Render.result_foldlM, Render.result_foldlM]
  congr 1
  apply foldlM_congr
  intro step hstep made
  rw [result_perform, result_perform, h step hstep]

end

end Renderer

end RichText
