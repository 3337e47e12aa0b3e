import RichText.Proofs.Runs
import Mathlib.Data.List.Chain

/-!
# The first fault ends a render

The calls that a render makes are observed by watching its factories: a watched factory answers as
before, but the event that it leaves behind is a note about its call (`Renderer.watched`).  For any
renderer the calls are those of the steps of the fragment, once each and in order, up to the first
step that fails, and the error of that step is the error of the render.
-/

namespace RichText

namespace Renderer

variable {renderer : Renderer} {passthrough : Attributes}

/-! ### One step -/

/-- Where there is no factory, an error that says so is the only answer. -/
theorem answer_of_unknown {call : Call} (h : renderer.knows call.kind call.typeName = false) :
  renderer.answer passthrough call = .fail (.unknownType call.kind call.typeName)
  := by
  cases call with
  | body node content => exact nodeStep_of_none _ _ (Table.contains_eq_false_iff.mp h) content
  | wrap isInline content mark =>
    exact markStep_of_none _ _ (Table.contains_eq_false_iff.mp h) isInline content

theorem answer_call_of_unknown {step : Step}
    (h : renderer.knows step.kind step.typeName = false) (made : List Element) :
  renderer.answer passthrough (step.call made) = .fail (.unknownType step.kind step.typeName)
  := by
  rw [answer_of_unknown, Step.kind_call, Step.typeName_call]
  rwa [Step.kind_call, Step.typeName_call]

/-- What is answered by an element has a factory. -/
theorem knows_of_answer {call : Call} {element : Element}
    (h : (renderer.answer passthrough call).result = .ok element) :
  renderer.knows call.kind call.typeName = true
  := by
  cases hknows : renderer.knows call.kind call.typeName with
  | true => rfl
  | false =>
    rw [answer_of_unknown hknows] at h
    simp at h

/-! ### Calls -/

theorem run_cons_eq_ok_iff {made left : List Element} {step : Step} {rest : List Step} :
  (renderer.run passthrough made (step :: rest)).result = .ok left
    ↔ ∃ element, (renderer.answer passthrough (step.call made)).result = .ok element
      ∧ (renderer.run passthrough (element :: step.unused made) rest).result = .ok left
  := by
  simp only [run_cons, Render.result_bind, bind_eq_ok_iff, result_perform, map_eq_ok_iff]
  constructor
  · rintro ⟨_, ⟨element, hanswer, rfl⟩, hrest⟩
    exact ⟨element, hanswer, hrest⟩
  · rintro ⟨element, hanswer, hrest⟩
    exact ⟨_, ⟨element, hanswer, rfl⟩, hrest⟩

/-- A run ends in an error exactly when some step fails behind steps that are all performed. -/
theorem run_eq_error_iff {made : List Element} {steps : List Step} {error : RenderError} :
  (renderer.run passthrough made steps).result = .error error
    ↔ ∃ before step after left, steps = before ++ step :: after
      ∧ (renderer.run passthrough made before).result = .ok left
      ∧ (renderer.answer passthrough (step.call left)).result = .error error
  := by
  simp only [run, Render.result_foldlM, foldlM_eq_error_iff, result_perform, map_eq_error_iff]

theorem calls_cons_of_ok {made : List Element} {step : Step} {element : Element}
    (h : (renderer.answer passthrough (step.call made)).result = .ok element) (rest : List Step) :
  renderer.calls passthrough made (step :: rest)
    = step.call made :: renderer.calls passthrough (element :: step.unused made) rest
  := by
  rw [calls, h]

theorem calls_cons_of_error {made : List Element} {step : Step} {error : RenderError}
    (h : (renderer.answer passthrough (step.call made)).result = .error error)
    (rest : List Step) :
  renderer.calls passthrough made (step :: rest)
    = if renderer.knows step.kind step.typeName then [step.call made] else []
  := by
  rw [calls, h]

/-- Steps that are all performed are called once each, and all calls are answered by elements. -/
theorem calls_of_ok {made left : List Element} {steps : List Step}
    (h : (renderer.run passthrough made steps).result = .ok left) :
  List.Forall₂ Step.IsCalledBy steps (renderer.calls passthrough made steps)
    ∧ ∀ call ∈ renderer.calls passthrough made steps,
        ∃ element, (renderer.answer passthrough call).result = .ok element
  := by
  induction steps generalizing made with
  | nil =>
    constructor
    · exact .nil
    · simp [calls]
  | cons step rest ih =>
    obtain ⟨element, hanswer, hrest⟩ := run_cons_eq_ok_iff.mp h
    obtain ⟨hcalled, hanswers⟩ := ih hrest
    rw [calls_cons_of_ok hanswer, List.forall_mem_cons]
    exact ⟨.cons (step.isCalledBy_call made) hcalled, ⟨element, hanswer⟩, hanswers⟩

/-- The types of steps that are all performed have factories. -/
theorem knows_of_ok {made left : List Element} {steps : List Step}
    (h : (renderer.run passthrough made steps).result = .ok left) :
  ∀ step ∈ steps, renderer.knows step.kind step.typeName = true
  := by
  induction steps generalizing made with
  | nil => simp
  | cons step rest ih =>
    obtain ⟨element, hanswer, hrest⟩ := run_cons_eq_ok_iff.mp h
    have hknows := knows_of_answer hanswer
    rw [Step.kind_call, Step.typeName_call] at hknows
    exact List.forall_mem_cons.mpr ⟨hknows, ih hrest⟩

/-- Behind steps that are all performed, calls go on as if they were the first ones. -/
theorem calls_append_of_ok {made left : List Element} {steps : List Step}
    (h : (renderer.run passthrough made steps).result = .ok left) (rest : List Step) :
  renderer.calls passthrough made (steps ++ rest)
    = renderer.calls passthrough made steps ++ renderer.calls passthrough left rest
  := by
  induction steps generalizing made with
  | nil =>
    obtain rfl := Except.ok.inj h
    rfl
  | cons step others ih =>
    obtain ⟨element, hanswer, hothers⟩ := run_cons_eq_ok_iff.mp h
    rw [List.cons_append, calls_cons_of_ok hanswer, calls_cons_of_ok hanswer, ih hothers,
      List.cons_append]

/-- Behind a step that fails there are no calls. -/
theorem calls_of_fault {made left : List Element} {before after : List Step} {step : Step}
    {error : RenderError} (hbefore : (renderer.run passthrough made before).result = .ok left)
    (hstep : (renderer.answer passthrough (step.call left)).result = .error error) :
  renderer.calls passthrough made (before ++ step :: after)
    = renderer.calls passthrough made before
      ++ if renderer.knows step.kind step.typeName then [step.call left] else []
  := by
  rw [calls_append_of_ok hbefore, calls_cons_of_error hstep]

/-- Calls are made for the first steps, once each. -/
theorem exists_called (made : List Element) (steps : List Step) :
  ∃ called rest, steps = called ++ rest
    ∧ List.Forall₂ Step.IsCalledBy called (renderer.calls passthrough made steps)
  := by
  cases hrun : (renderer.run passthrough made steps).result with
  | ok left =>
    use steps, [], (List.append_nil steps).symm
    exact (calls_of_ok hrun).1
  | error error =>
    obtain ⟨before, step, after, left, rfl, hbefore, hstep⟩ := run_eq_error_iff.mp hrun
    rw [calls_of_fault hbefore hstep]
    split
    · use before ++ [step], after
      constructor
      · simp
      · apply List.rel_append (calls_of_ok hbefore).1
        exact .cons (step.isCalledBy_call left) .nil
    · use before, step :: after, rfl
      rw [List.append_nil]
      exact (calls_of_ok hbefore).1

/-- The first call is that of the first step. -/
theorem exists_of_mem_head?_calls {made : List Element} {steps : List Step} {call : Call}
    (h : call ∈ (renderer.calls passthrough made steps).head?) :
  ∃ step : Step, call = step.call made
  := by
  cases steps with
  | nil => simp [calls] at h
  | cons step rest =>
    use step
    rw [calls] at h
    split at h
    · exact (Option.some.inj h).symm
    · split at h
      · exact (Option.some.inj h).symm
      · simp at h

/-- The next call, if it is one for a mark, is given what the call has made. -/
def Passes (renderer : Renderer) (passthrough : Attributes) (call : Call) : Call → Prop
  | .body .. => True
  | .wrap _ content _ => (renderer.answer passthrough call).result = .ok content

/-- A mark is called for what the call right before has made. -/
theorem isChain_calls (made : List Element) (steps : List Step) :
  (renderer.calls passthrough made steps).IsChain (renderer.Passes passthrough)
  := by
  induction steps generalizing made with
  | nil => exact .nil
  | cons step rest ih =>
    cases hanswer : (renderer.answer passthrough (step.call made)).result with
    | error error =>
      rw [calls_cons_of_error hanswer]
      split
      · apply List.isChain_singleton
      · exact .nil
    | ok element =>
      rw [calls_cons_of_ok hanswer, List.isChain_cons]
      refine ⟨?_, ih _⟩
      intro next hnext
      obtain ⟨step', rfl⟩ := exists_of_mem_head?_calls hnext
      cases step' with
      | body node => trivial
      | wrap isInline inner mark => exact hanswer

/-- Only factories that there are are called. -/
theorem knows_of_mem_calls {made : List Element} {steps : List Step} {call : Call}
    (h : call ∈ renderer.calls passthrough made steps) :
  renderer.knows call.kind call.typeName = true
  := by
  induction steps generalizing made with
  | nil => simp [calls] at h
  | cons step rest ih =>
    cases hanswer : (renderer.answer passthrough (step.call made)).result with
    | ok element =>
      rw [calls_cons_of_ok hanswer, List.mem_cons] at h
      rcases h with rfl | h
      · exact knows_of_answer hanswer
      · exact ih h
    | error error =>
      rw [calls_cons_of_error hanswer] at h
      split at h
      · obtain rfl := List.mem_singleton.mp h
        rwa [Step.kind_call, Step.typeName_call]
      · simp at h

/-- A call that is answered by an error ends the run with it. -/
theorem run_of_mem_calls {made : List Element} {steps : List Step} {call : Call}
    {error : RenderError} (h : call ∈ renderer.calls passthrough made steps)
    (herror : (renderer.answer passthrough call).result = .error error) :
  (renderer.run passthrough made steps).result = .error error
  := by
  induction steps generalizing made with
  | nil => simp [calls] at h
  | cons step rest ih =>
    rw [run_cons, Render.result_bind, result_perform]
    cases hanswer : (renderer.answer passthrough (step.call made)).result with
    | ok element =>
      rw [calls_cons_of_ok hanswer, List.mem_cons] at h
      rcases h with rfl | h
      · simp [hanswer] at herror
      · exact ih h
    | error fault =>
      rw [calls_cons_of_error hanswer] at h
      split at h
      · obtain rfl := List.mem_singleton.mp h
        obtain rfl := Except.error.inj (hanswer.symm.trans herror)
        rfl
      · simp at h

/-- The events of performing steps are those of the calls, in order. -/
theorem events_run (made : List Element) (steps : List Step) :
  (renderer.run passthrough made steps).events
    = (renderer.calls passthrough made steps).flatMap fun call =>
        (renderer.answer passthrough call).events
  := by
  induction steps generalizing made with
  | nil => rfl
  | cons step rest ih =>
    rw [run_cons]
    cases hanswer : (renderer.answer passthrough (step.call made)).result with
    | ok element =>
      have hperform : (renderer.perform passthrough made step).result
          = .ok (element :: step.unused made) := by
        rw [result_perform, hanswer]
        rfl
      rw [Render.events_bind_of_ok hperform, events_perform, calls_cons_of_ok hanswer,
        List.flatMap_cons, ih]
    | error error =>
      have hperform : (renderer.perform passthrough made step).result = .error error := by
        rw [result_perform, hanswer]
        rfl
      rw [Render.events_bind_of_error hperform, events_perform, calls_cons_of_error hanswer]
      cases hknows : renderer.knows step.kind step.typeName with
      | true => simp
      | false =>
        rw [answer_call_of_unknown hknows]
        rfl

/-! ### Watching the factories -/

section

variable (note : Attributes → Call → Event)

/-- Answers as a factory of nodes does, but leaves a note about the call, and about the values handed
through to it, instead of the events of the factory. -/
def watchedNode (factory : NodeFactory) : NodeFactory := fun node content passthrough =>
  ⟨[note passthrough (.body node content)], (factory node content passthrough).result⟩

/-- Answers as a factory of marks does, but leaves a note about the call, and about the values
handed through to it, instead of the events of the factory. -/
def watchedMark (factory : MarkFactory) : MarkFactory := fun mark isInline content passthrough =>
  ⟨[note passthrough (.wrap isInline content mark)],
    (factory mark isInline content passthrough).result⟩

/-- The renderer all of whose factories are watched. -/
def watched (renderer : Renderer) : Renderer where
  displayName := renderer.displayName
  nodes := renderer.nodes.filterMap fun _ factory => some (watchedNode note factory)
  marks := renderer.marks.filterMap fun _ factory => some (watchedMark note factory)

theorem find?_nodes_watched (renderer : Renderer) (typeName : String) :
  (renderer.watched note).nodes.find? typeName
    = (renderer.nodes.find? typeName).map (watchedNode note)
  := by
  rw [watched, Table.find?_filterMap, Option.map_eq_bind]
  rfl

theorem find?_marks_watched (renderer : Renderer) (typeName : String) :
  (renderer.watched note).marks.find? typeName
    = (renderer.marks.find? typeName).map (watchedMark note)
  := by
  rw [watched, Table.find?_filterMap, Option.map_eq_bind]
  rfl

theorem knows_watched (kind : TypeKind) (typeName : String) :
  (renderer.watched note).knows kind typeName = renderer.knows kind typeName
  := by
  cases kind with
  | node => simp only [knows, Table.contains, find?_nodes_watched, Option.isSome_map]
  | mark => simp only [knows, Table.contains, find?_marks_watched, Option.isSome_map]

/-- A call is answered as before, and leaves a note if there is a factory to call. -/
theorem answer_watched (call : Call) :
  (renderer.watched note).answer passthrough call
    = ⟨if renderer.knows call.kind call.typeName then [note passthrough call] else [],
        (renderer.answer passthrough call).result⟩
  := by
  cases call with
  | body node content =>
    have hwatched := find?_nodes_watched note renderer node.typeName
    cases hfind : renderer.nodes.find? node.typeName with
    | none =>
      rw [hfind] at hwatched
      simp only [answer, knows, Call.kind, Call.typeName, Table.contains, hfind,
        nodeStep_of_none _ _ hfind, nodeStep_of_none _ _ hwatched]
      rfl
    | some factory =>
      rw [hfind] at hwatched
      simp only [answer, knows, Call.kind, Call.typeName, Table.contains, hfind,
        nodeStep_of_some _ _ hfind, nodeStep_of_some _ _ hwatched]
      rfl
  | wrap isInline content mark =>
    have hwatched := find?_marks_watched note renderer mark.typeName
    cases hfind : renderer.marks.find? mark.typeName with
    | none =>
      rw [hfind] at hwatched
      simp only [answer, knows, Call.kind, Call.typeName, Table.contains, hfind,
        markStep_of_none _ _ hfind, markStep_of_none _ _ hwatched]
      rfl
    | some factory =>
      rw [hfind] at hwatched
      simp only [answer, knows, Call.kind, Call.typeName, Table.contains, hfind,
        markStep_of_some _ _ hfind, markStep_of_some _ _ hwatched]
      rfl

/-- Watching the factories does not change what is called. -/
theorem calls_watched (made : List Element) (steps : List Step) :
  (renderer.watched note).calls passthrough made steps = renderer.calls passthrough made steps
  := by
  induction steps generalizing made with
  | nil => rfl
  | cons step rest ih => simp only [calls, answer_watched, knows_watched, ih]

/-- The events of a watched run are the notes about the calls. -/
theorem events_run_watched (made : List Element) (steps : List Step) :
  ((renderer.watched note).run passthrough made steps).events
    = (renderer.calls passthrough made steps).map (note passthrough)
  := by
  rw [events_run, calls_watched, List.map_eq_flatMap]
  apply List.flatMap_congr
  intro call hcall
  rw [answer_watched, knows_of_mem_calls hcall]
  rfl

end

/-! ### Whole renders -/

/-- The calls of factories that a render makes. -/
def trace (renderer : Renderer) (passthrough : Attributes) (fragment : List Node) : List Call :=
  renderer.calls passthrough [] (Step.ofNodes fragment)

/-- The events of a render are those of the calls that it makes, in order. -/
theorem events_renderAll (fragment : List Node) :
  (renderer.renderAll passthrough fragment).events
    = (renderer.trace passthrough fragment).flatMap fun call =>
        (renderer.answer passthrough call).events
  := by
  rw [renderAll_eq_run, Render.events_bind_pure]
  apply events_run

/-- A call that is answered by an error ends the render with it. -/
theorem result_renderAll_of_mem_trace {fragment : List Node} {call : Call} {error : RenderError}
    (h : call ∈ renderer.trace passthrough fragment)
    (herror : (renderer.answer passthrough call).result = .error error) :
  (renderer.renderAll passthrough fragment).result = .error error
  := by
  rw [result_renderAll, run_of_mem_calls h herror]
  rfl

/-- The notes about the calls of a render are those about its trace. -/
theorem events_renderAll_watched (note : Attributes → Call → Event) (fragment : List Node) :
  ((renderer.watched note).renderAll passthrough fragment).events
    = (renderer.trace passthrough fragment).map (note passthrough)
  := by
  rw [renderAll_eq_run, Render.events_bind_pure]
  apply events_run_watched

/-- Watching the factories does not change what is rendered. -/
theorem result_renderAll_watched (note : Attributes → Call → Event) (fragment : List Node) :
  ((renderer.watched note).renderAll passthrough fragment).result
    = (renderer.renderAll passthrough fragment).result
  := by
  apply result_renderAll_congr
  intro step _ made
  rw [answer_watched]

/-- All types of a fragment that is rendered have factories. -/
theorem knows_of_mem_ofNodes {fragment : List Node} {elements : List Element}
    (h : (renderer.renderAll passthrough fragment).result = .ok elements) :
  ∀ step ∈ Step.ofNodes fragment, renderer.knows step.kind step.typeName = true
  := by
  rw [result_renderAll, map_eq_ok_iff] at h
  obtain ⟨left, hrun, _⟩ := h
  exact knows_of_ok hrun

/-- A render fails exactly if a type is unknown, or a call is answered by an error. -/
theorem exists_error_iff {fragment : List Node} :
  (∃ error, (renderer.renderAll passthrough fragment).result = .error error)
    ↔ (∃ step ∈ Step.ofNodes fragment, renderer.knows step.kind step.typeName = false)
      ∨ ∃ call ∈ renderer.trace passthrough fragment, ∃ error,
          (renderer.answer passthrough call).result = .error error
  := by
  constructor
  · rintro ⟨error, h⟩
    rw [result_renderAll, map_eq_error_iff, run_eq_error_iff] at h
    obtain ⟨before, step, after, left, hsplit, hbefore, hstep⟩ := h
    cases hknows : renderer.knows step.kind step.typeName with
    | false =>
      left
      use step, by simp [hsplit]
    | true =>
      right
      use step.call left, ?_, error
      rw [trace, hsplit, calls_of_fault hbefore hstep, hknows]
      simp
  · intro h
    cases hresult : (renderer.renderAll passthrough fragment).result with
    | error error => use error
    | ok elements =>
      exfalso
      rcases h with ⟨step, hstep, hunknown⟩ | ⟨call, hcall, error, hanswer⟩
      · rw [knows_of_mem_ofNodes hresult step hstep] at hunknown
        simp at hunknown
      · rw [result_renderAll, map_eq_ok_iff] at hresult
        obtain ⟨left, hrun, _⟩ := hresult
        obtain ⟨element, hok⟩ := (calls_of_ok hrun).2 call hcall
        rw [hanswer] at hok
        simp at hok

/-- What stops the render of the content of a node stops that of the node. -/
theorem renderNode_of_content_error {node : Node} {error : RenderError}
    (h : (renderer.renderAll passthrough node.content).result = .error error) :
  (renderer.renderNode passthrough node).result = .error error
  := by
  rw [renderNode_eq, Render.result_bind, h]
  rfl

/-- A node of an unknown type stops the render behind its content, whatever its marks are. -/
theorem renderNode_of_unknown {node : Node} {elements : List Element}
    (hcontent : (renderer.renderAll passthrough node.content).result = .ok elements)
    (hunknown : renderer.knows .node node.typeName = false) :
  (renderer.renderNode passthrough node).result = .error (.unknownType .node node.typeName)
  := by
  rw [renderNode_eq, Render.result_bind, hcontent, ok_bind, Render.result_bind,
    nodeStep_of_none _ _ (Table.contains_eq_false_iff.mp hunknown)]
  rfl

/-- Whatever the factories of a renderer do, a render calls them for the steps of the fragment in
order, once for each step, and a mark for what the call before it has made: for all steps if the
render succeeds.  It fails exactly if some type of the fragment has no factory, or some call is
answered by an error; its error is that of the first step that fails, behind which there are no
calls.  So what is unknown inside a node counts before the type of the node, and that before its
marks. -/
theorem first_fault_ends_render (renderer : Renderer) (passthrough : Attributes)
    (fragment : List Node) :
  (∀ note : Attributes → Call → Event,
      ((renderer.watched note).renderAll passthrough fragment).events
          = (renderer.trace passthrough fragment).map (note passthrough)
        ∧ ((renderer.watched note).renderAll passthrough fragment).result
          = (renderer.renderAll passthrough fragment).result)
    ∧ (∃ called rest, Step.ofNodes fragment = called ++ rest
        ∧ List.Forall₂ Step.IsCalledBy called (renderer.trace passthrough fragment))
    ∧ (renderer.trace passthrough fragment).IsChain (renderer.Passes passthrough)
    ∧ (∀ elements, (renderer.renderAll passthrough fragment).result = .ok elements →
        List.Forall₂ Step.IsCalledBy (Step.ofNodes fragment)
          (renderer.trace passthrough fragment))
    ∧ ((∃ error, (renderer.renderAll passthrough fragment).result = .error error)
      ↔ (∃ step ∈ Step.ofNodes fragment, renderer.knows step.kind step.typeName = false)
        ∨ ∃ call ∈ renderer.trace passthrough fragment, ∃ error,
            (renderer.answer passthrough call).result = .error error)
    ∧ (∀ error, (renderer.renderAll passthrough fragment).result = .error error
      ↔ ∃ before step after earlier made, Step.ofNodes fragment = before ++ step :: after
        ∧ List.Forall₂ Step.IsCalledBy before earlier
        ∧ (renderer.run passthrough [] before).result = .ok made
        ∧ (renderer.answer passthrough (step.call made)).result = .error error
        ∧ (renderer.knows step.kind step.typeName = false →
            error = .unknownType step.kind step.typeName)
        ∧ renderer.trace passthrough fragment
          = earlier ++ if renderer.knows step.kind step.typeName then [step.call made] else [])
    ∧ ∀ node,
      ((∃ step ∈ Step.ofNodes node.content, renderer.knows step.kind step.typeName = false) →
        ∃ error, (renderer.renderAll passthrough node.content).result = .error error
          ∧ (renderer.renderNode passthrough node).result = .error error)
      ∧ (renderer.knows .node node.typeName = false →
        (∃ elements, (renderer.renderAll passthrough node.content).result = .ok elements) →
        (renderer.renderNode passthrough node).result = .error (.unknownType .node node.typeName))
  := by
  refine ⟨?_, exists_called [] _, isChain_calls [] _, ?_, exists_error_iff, ?_, ?_⟩
  · intro note
    exact ⟨events_renderAll_watched note fragment, result_renderAll_watched note fragment⟩
  · intro elements h
    rw [result_renderAll, map_eq_ok_iff] at h
    obtain ⟨made, hrun, _⟩ := h
    exact (calls_of_ok hrun).1
  · intro error
    rw [result_renderAll, map_eq_error_iff, run_eq_error_iff]
    constructor
    · rintro ⟨before, step, after, made, hsplit, hbefore, hstep⟩
      refine ⟨before, step, after, renderer.calls passthrough [] before, made, hsplit,
        (calls_of_ok hbefore).1, hbefore, hstep, ?_, ?_⟩
      · intro hunknown
        rw [answer_call_of_unknown hunknown] at hstep
        exact (Except.error.inj hstep).symm
      · rw [trace, hsplit, calls_of_fault hbefore hstep]
    · rintro ⟨before, step, after, _, made, hsplit, _, hbefore, hstep, _, _⟩
      exact ⟨before, step, after, made, hsplit, hbefore, hstep⟩
  · intro node
    constructor
    · intro hunknown
      obtain ⟨error, herror⟩ := exists_error_iff.mpr (.inl hunknown)
      exact ⟨error, herror, renderNode_of_content_error herror⟩
    · rintro hunknown ⟨elements, hcontent⟩
      exact renderNode_of_unknown hcontent hunknown

/-- A schema whose boxes write to the log, and whose traps report something and fail. -/
def trappedSchema : Schema :=
  Schema.empty
    |>.declareNode "box" { NodeSpec.plain with
        factory := some fun node content _ =>
          ⟨[.logged ⟨.info, "boxes", node.typeName⟩], .ok (.create "div" none [content])⟩ }
    |>.declareNode "trap" { NodeSpec.plain with
        factory := some fun node _ _ =>
          ⟨[.kept (.noElementRendered .node node.typeName)], .error .duplicateHole⟩ }
    |>.declareMark "em" ⟨none, some fun _ _ => .silent (.ofTag "em")⟩

/-- A renderer of this schema. -/
def trappedRenderer : Renderer := ofSchema trappedSchema none ⟨true, .memory⟩

/-- An emphasised text. -/
def emphasised : Node := { Node.ofText "a" with marks := [.ofType "em"] }

/-- A trap with a mark of an unknown type. -/
def markedTrap : Node := { Node.block "trap" [] with marks := [.ofType "u"] }

/-- A node of an unknown type, with such a mark. -/
def markedTable (content : List Node) : Node :=
  { Node.block "table" content with marks := [.ofType "u"] }

/-- A box with a text in it, a table with a trap in it, and one more box. -/
def trappedFragment : List Node :=
  [.block "box" [emphasised], markedTable [markedTrap], .block "box" []]

theorem trappedFragment_ends_at_trap :
  (trappedRenderer.renderAll Table.empty trappedFragment).result = .error .duplicateHole
    ∧ (∀ note : Attributes → Call → Event,
      ((trappedRenderer.watched note).renderAll Table.empty trappedFragment).events
        = [note Table.empty (.body emphasised (.fragment [])),
            note Table.empty (.wrap true (.text "a") (.ofType "em")),
            note Table.empty (.body (.block "box" [emphasised])
              (.fragment [.create "em" none [.text "a"]])),
            note Table.empty (.body markedTrap (.fragment []))])
    ∧ (∃ step ∈ Step.ofNodes [markedTrap],
        trappedRenderer.knows step.kind step.typeName = false)
    ∧ (∃ error, (trappedRenderer.renderAll Table.empty [markedTrap]).result = .error error
        ∧ (trappedRenderer.renderNode Table.empty (markedTable [markedTrap])).result
          = .error error)
    ∧ trappedRenderer.knows .node "table" = false
    ∧ (∃ elements, (trappedRenderer.renderAll Table.empty [emphasised]).result = .ok elements)
    ∧ (trappedRenderer.renderNode Table.empty (markedTable [emphasised])).result
      = .error (.unknownType .node "table")
  := by
  have hresult : (trappedRenderer.renderAll Table.empty trappedFragment).result
      = .error .duplicateHole := by
    rfl
  have hmark : ∃ step ∈ Step.ofNodes [markedTrap],
      trappedRenderer.knows step.kind step.typeName = false := by
    use .wrap false (.body markedTrap) (.ofType "u")
    exact ⟨.tail _ (.head _), rfl⟩
  have htext : ∃ elements,
      (trappedRenderer.renderAll Table.empty [emphasised]).result = .ok elements := by
    use [.create "em" none [.text "a"]]
    rfl
  obtain ⟨hnotes, _, _, _, _, _, hnodes⟩ :=
    first_fault_ends_render trappedRenderer Table.empty trappedFragment
  refine ⟨hresult, fun note => (hnotes note).1, hmark, (hnodes (markedTable [markedTrap])).1 hmark,
    rfl, htext, (hnodes (markedTable [emphasised])).2 rfl htext⟩

end Renderer

end RichText
