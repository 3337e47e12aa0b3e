import RichText.Proofs.Rendering

/-!
# The steps of a render

A render is a sequence of steps: each renders a node around its content, or a mark around what the
step before it made.  `Step.ofNodes` lists the steps of a fragment in the order in which they are
due: the content of a node from left to right, then the node, then its marks from the first one to
the last one.  Whether a step succeeds is settled by the shape of its spec, and the steps that are
performed are those up to the first one that fails (`Schema.performed`).
-/

namespace RichText

/-- A step of a render: a node around its content, or a mark around what an inner step made. -/
inductive Step where
  | body (node : Node)
  | wrap (isInline : Bool) (inner : Step) (mark : Mark)

namespace Step

/-- The steps of marks around what an inner step made, from the first mark to the last one. -/
def ofMarks (isInline : Bool) (inner : Step) : List Mark → List Step
  | [] => []
  | mark :: rest =>
    .wrap isInline inner mark :: ofMarks isInline (.wrap isInline inner mark) rest

/-- The step of a node and those of its marks. -/
def ofMarked (node : Node) : List Step :=
  .body node :: ofMarks node.isInline (.body node) node.marks

mutual

/-- The steps of a node: those of its content, its own, and those of its marks. -/
def ofNode : Node → List Step
  | node@{ content, .. } => ofNodes content ++ ofMarked node
termination_by structural node => node

/-- The steps of the nodes of a fragment, from left to right. -/
def ofNodes : List Node → List Step
  | [] => []
  | node :: rest => ofNode node ++ ofNodes rest
termination_by structural nodes => nodes

end

theorem ofNode_eq (node : Node) :
  ofNode node = ofNodes node.content ++ ofMarked node
  := by
  cases node
  rfl

/-- The steps of marks are wraps by one of them. -/
theorem exists_of_mem_ofMarks {isInline : Bool} {inner step : Step} {marks : List Mark}
    (h : step ∈ ofMarks isInline inner marks) :
  ∃ inner', ∃ mark ∈ marks, step = .wrap isInline inner' mark
  := by
  induction marks generalizing inner with
  | nil => simp [ofMarks] at h
  | cons mark rest ih =>
    rcases List.mem_cons.mp h with rfl | h
    · use inner, mark, List.mem_cons_self
    · obtain ⟨inner', mark', hmem, rfl⟩ := ih h
      use inner', mark', List.mem_cons_of_mem _ hmem

mutual

/-- The steps of a node are those of the nodes in it and of their marks. -/
theorem mem_ofNode_iff {step : Step} :
    ∀ node : Node, step ∈ ofNode node ↔ ∃ below ∈ node.nodes, step ∈ ofMarked below
  | ⟨typeName, isInline, isLeaf, attributes, marks, text, content⟩ => by
    rw [ofNode_eq, Node.nodes_eq, List.mem_append, mem_ofNodes_iff content]
    simp only [List.mem_cons, exists_eq_or_imp, or_comm]

/-- The steps of a fragment are those of the nodes in it, at any depth, and of their marks. -/
theorem mem_ofNodes_iff {step : Step} :
    ∀ fragment : List Node,
      step ∈ ofNodes fragment ↔ ∃ node ∈ Node.nodesOf fragment, step ∈ ofMarked node
  | [] => by simp [ofNodes, Node.nodesOf]
  | node :: rest => by
    rw [ofNodes, Node.nodesOf, List.mem_append, mem_ofNode_iff node, mem_ofNodes_iff rest]
    simp only [List.mem_append, or_and_right, exists_or]

end

end Step

namespace OutputSpec

/-- Whether a spec can be interpreted is decided part by part. -/
instance (consumed : Bool) (spec : OutputSpec) : Decidable (spec.Interpretable consumed) :=
  decidable_of_iff
    ((∀ part ∈ spec.parts, part.isForeign = false)
      ∧ (∀ part ∈ spec.parts, part.hasHole = true → part.children.length = 1)
      ∧ spec.holes ≤ if consumed then 0 else 1)
    ⟨fun ⟨hforeign, halone, hholes⟩ => ⟨hforeign, halone, hholes⟩,
      fun ⟨hforeign, halone, hholes⟩ => ⟨hforeign, halone, hholes⟩⟩

end OutputSpec

namespace Schema

variable (schema : Schema)

/-- The node of a step, or its mark, meets its condition. -/
def Succeeds : Step → Prop
  | .body node => schema.RendersNode node
  | .wrap isInline _ mark => schema.RendersMark isInline mark

instance (node : Node) : Decidable (schema.RendersNode node) :=
  match hspec : schema.nodeSpec? node.typeName with
  | none => decidable_of_iff (node.typeName = Node.textType) (by simp [RendersNode, hspec])
  | some specOf =>
    decidable_of_iff ((specOf node).value.Interpretable false) (by simp [RendersNode, hspec])

instance (isInline : Bool) (mark : Mark) : Decidable (schema.RendersMark isInline mark) :=
  match hspec : schema.markSpec? mark.typeName with
  | none => .isFalse (by simp [RendersMark, hspec])
  | some specOf =>
    decidable_of_iff ((specOf mark isInline).value.isBare = true) (by simp [RendersMark, hspec])

instance : DecidablePred schema.Succeeds
  | .body node => inferInstanceAs (Decidable (schema.RendersNode node))
  | .wrap isInline _ mark => inferInstanceAs (Decidable (schema.RendersMark isInline mark))

/-- The steps that are performed: those up to the first one that fails, and that one. -/
def performed : List Step → List Step
  | [] => []
  | step :: rest => step :: if schema.Succeeds step then performed rest else []

variable {schema} {steps rest : List Step}

/-- Only steps that are due are performed. -/
theorem mem_of_mem_performed {step : Step} (h : step ∈ schema.performed steps) :
  step ∈ steps
  := by
  induction steps with
  | nil => exact h
  | cons first others ih =>
    rw [performed, List.mem_cons] at h
    rcases h with rfl | h
    · apply List.mem_cons_self
    · split at h
      · apply List.mem_cons_of_mem
        apply ih h
      · simp at h

/-- Behind steps that all succeed the others are performed. -/
theorem performed_append_of_succeed (h : ∀ step ∈ steps, schema.Succeeds step) :
  schema.performed (steps ++ rest) = steps ++ schema.performed rest
  := by
  induction steps with
  | nil => rfl
  | cons step others ih =>
    obtain ⟨hstep, hothers⟩ := List.forall_mem_cons.mp h
    rw [List.cons_append, performed, if_pos hstep, ih hothers, List.cons_append]

/-- Steps that all succeed are all performed. -/
theorem performed_eq_self (h : ∀ step ∈ steps, schema.Succeeds step) :
  schema.performed steps = steps
  := by
  have happend : schema.performed (steps ++ []) = steps ++ schema.performed [] :=
    performed_append_of_succeed h
  simpa [performed] using happend

/-- Behind steps one of which fails no other is performed. -/
theorem performed_append_of_fail (h : ¬ ∀ step ∈ steps, schema.Succeeds step) :
  schema.performed (steps ++ rest) = schema.performed steps
  := by
  induction steps with
  | nil => simp at h
  | cons step others ih =>
    rw [List.cons_append, performed, performed]
    by_cases hstep : schema.Succeeds step
    · have hothers : ¬ ∀ other ∈ others, schema.Succeeds other := by
        intro hothers
        exact h (List.forall_mem_cons.mpr ⟨hstep, hothers⟩)
      rw [if_pos hstep, if_pos hstep, ih hothers]
    · rw [if_neg hstep, if_neg hstep]

end Schema

end RichText
