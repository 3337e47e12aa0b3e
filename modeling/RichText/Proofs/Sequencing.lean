import RichText.Render.Outcome
import Mathlib.Data.List.Forall2
import Mathlib.Data.List.Perm.Basic
import Mathlib.Tactic.Use

/-!
# Steps that run one after the other

A sequence of two steps gives a result exactly when both steps do, and an error exactly when one
of them does and no earlier one.  `Except.toOption` forgets which error it is, and then the order
of steps that can be exchanged does not count.  The result of a `Render` does not depend on its
events: it is the sequence of the results of its steps.
-/

namespace RichText

universe u v w

section

variable {ε : Type u} {α β : Type v}

/-- A sequence gives a result when both its steps do. -/
theorem bind_eq_ok_iff {x : Except ε α} {f : α → Except ε β} {b : β} :
  x >>= f = .ok b ↔ ∃ a, x = .ok a ∧ f a = .ok b
  := by
  cases x with
  | error _ => simp [bind, Except.bind]
  | ok _ => simp [bind, Except.bind]

/-- A sequence gives an error when its first step does, or its second one after the first. -/
theorem bind_eq_error_iff {x : Except ε α} {f : α → Except ε β} {error : ε} :
  x >>= f = .error error ↔ x = .error error ∨ ∃ a, x = .ok a ∧ f a = .error error
  := by
  cases x with
  | error _ => simp [bind, Except.bind]
  | ok _ => simp [bind, Except.bind]

theorem pure_eq_ok_iff {a b : α} :
  (pure a : Except ε α) = .ok b ↔ a = b
  := by
  simp [pure, Except.pure]

theorem pure_ne_error {a : α} {error : ε} :
  (pure a : Except ε α) ≠ .error error
  := by
  simp [pure, Except.pure]

@[simp]
theorem ok_bind (a : α) (f : α → Except ε β) :
  (Except.ok a >>= f) = f a
  := rfl

theorem error_bind (error : ε) (f : α → Except ε β) :
  (Except.error error >>= f) = .error error
  := rfl

/-- A function of a result gives a result when there is one. -/
theorem map_eq_ok_iff {x : Except ε α} {f : α → β} {b : β} :
  x.map f = .ok b ↔ ∃ a, x = .ok a ∧ f a = b
  := by
  cases x with
  | error _ => simp [Except.map]
  | ok _ => simp [Except.map]

/-- A function of a result leaves errors alone. -/
theorem map_eq_error_iff {x : Except ε α} {f : α → β} {error : ε} :
  x.map f = .error error ↔ x = .error error
  := by
  cases x with
  | error _ => simp [Except.map]
  | ok _ => simp [Except.map]

theorem mapError_ok {ε' : Type u} (a : α) (f : ε → ε') :
  (Except.ok a : Except ε α).mapError f = .ok a
  := rfl

/-- A function of an error leaves results alone. -/
theorem mapError_eq_ok_iff {ε' : Type u} {x : Except ε α} {f : ε → ε'} {a : α} :
  x.mapError f = .ok a ↔ x = .ok a
  := by
  cases x with
  | error fault =>
    change Except.error (f fault) = .ok a ↔ _
    simp
  | ok b =>
    change (Except.ok b : Except ε' α) = .ok a ↔ _
    simp

/-- A function of an error gives an error when there is one. -/
theorem mapError_eq_error_iff {ε' : Type u} {x : Except ε α} {f : ε → ε'} {error : ε'} :
  x.mapError f = .error error ↔ ∃ fault, x = .error fault ∧ f fault = error
  := by
  cases x with
  | error fault =>
    change Except.error (f fault) = .error error ↔ _
    simp
  | ok b =>
    change Except.ok b = .error error ↔ _
    simp

/-- A function runs over a list when it gives a result for every element. -/
theorem exists_mapM_eq_ok_iff {f : α → Except ε β} {xs : List α} :
  (∃ ys, xs.mapM f = .ok ys) ↔ ∀ x ∈ xs, ∃ y, f x = .ok y
  := by
  induction xs with
  | nil => simp [pure, Except.pure]
  | cons x rest ih =>
    simp only [List.mapM_cons, bind_eq_ok_iff, pure_eq_ok_iff, List.forall_mem_cons, ← ih]
    constructor
    · rintro ⟨_, y, hy, ys, hys, _⟩
      exact ⟨⟨y, hy⟩, ys, hys⟩
    · rintro ⟨⟨y, hy⟩, ys, hys⟩
      exact ⟨_, y, hy, ys, hys, rfl⟩

/-- A function does not run over a list if it gives an error for an element, and for no earlier
one. -/
theorem mapM_eq_error_iff {f : α → Except ε β} {xs : List α} {error : ε} :
  xs.mapM f = .error error
    ↔ ∃ before x after, xs = before ++ x :: after ∧ (∀ y ∈ before, ∃ z, f y = .ok z)
      ∧ f x = .error error
  := by
  induction xs with
  | nil => simp [pure, Except.pure]
  | cons x rest ih =>
    simp only [List.mapM_cons, bind_eq_error_iff, pure_ne_error, and_false, exists_false, or_false,
      ih]
    constructor
    · rintro (h | ⟨y, hy, before, x', after, rfl, hbefore, h⟩)
      · use [], x, rest
        simp [h]
      · use x :: before, x', after, rfl
        rw [List.forall_mem_cons]
        exact ⟨⟨⟨y, hy⟩, hbefore⟩, h⟩
    · rintro ⟨before, x', after, hsplit, hbefore, h⟩
      cases before with
      | nil =>
        obtain ⟨rfl, rfl⟩ := List.cons.inj hsplit
        exact .inl h
      | cons first others =>
        obtain ⟨rfl, rfl⟩ := List.cons.inj hsplit
        obtain ⟨⟨y, hy⟩, hothers⟩ := List.forall_mem_cons.mp hbefore
        exact .inr ⟨y, hy, others, x', after, rfl, hothers, h⟩

/-- Every result of a run over a list comes from an element of it. -/
theorem exists_of_mem_mapM {f : α → Except ε β} {xs : List α} {ys : List β}
    (h : xs.mapM f = .ok ys) {y : β} (hy : y ∈ ys) :
  ∃ x ∈ xs, f x = .ok y
  := by
  induction xs generalizing ys with
  | nil =>
    obtain rfl := pure_eq_ok_iff.mp h
    simp at hy
  | cons x rest ih =>
    simp only [List.mapM_cons, bind_eq_ok_iff, pure_eq_ok_iff] at h
    obtain ⟨first, hfirst, others, hothers, rfl⟩ := h
    rcases List.mem_cons.mp hy with rfl | hmem
    · use x, List.mem_cons_self, hfirst
    · obtain ⟨x', hx', hfx'⟩ := ih hothers hmem
      use x', List.mem_cons_of_mem _ hx', hfx'

/-- Where a function gives a result it is that of another one, and so it is over a list. -/
theorem eq_map_of_mapM {f : α → Except ε β} {g : α → β} (hg : ∀ x y, f x = .ok y → y = g x)
    {xs : List α} {ys : List β} (h : xs.mapM f = .ok ys) :
  ys = xs.map g
  := by
  induction xs generalizing ys with
  | nil => exact (pure_eq_ok_iff.mp h).symm
  | cons x rest ih =>
    simp only [List.mapM_cons, bind_eq_ok_iff, pure_eq_ok_iff] at h
    obtain ⟨first, hfirst, others, hothers, rfl⟩ := h
    rw [List.map_cons, hg x first hfirst, ih hothers]

/-- Every member of the second of two lists that are related one by one has a partner in the first
one. -/
theorem exists_of_mem_right {R : α → β → Prop} {xs : List α} {ys : List β}
    (h : List.Forall₂ R xs ys) {y : β} (hy : y ∈ ys) :
  ∃ x ∈ xs, R x y
  := by
  induction h with
  | nil => simp at hy
  | @cons x first rest others hfirst _ ih =>
    rcases List.mem_cons.mp hy with rfl | hmem
    · exact ⟨x, List.mem_cons_self, hfirst⟩
    · obtain ⟨x', hx', hy'⟩ := ih hmem
      exact ⟨x', List.mem_cons_of_mem _ hx', hy'⟩

/-- A run over a list ends in an error exactly when one of its steps does, all steps before that one
having given results. -/
theorem foldlM_eq_error_iff {step : β → α → Except ε β} {xs : List α} {b : β} {error : ε} :
  xs.foldlM step b = .error error
    ↔ ∃ before x after b', xs = before ++ x :: after ∧ before.foldlM step b = .ok b'
      ∧ step b' x = .error error
  := by
  induction xs generalizing b with
  | nil => simp [pure, Except.pure]
  | cons x rest ih =>
    simp only [List.foldlM_cons, bind_eq_error_iff, ih]
    constructor
    · rintro (h | ⟨b', hb', before, x', after, last, rfl, hbefore, h⟩)
      · use [], x, rest, b, rfl, rfl
      · use x :: before, x', after, last, rfl
        rw [List.foldlM_cons, bind_eq_ok_iff]
        exact ⟨⟨b', hb', hbefore⟩, h⟩
    · rintro ⟨before, x', after, last, hsplit, hbefore, h⟩
      cases before with
      | nil =>
        obtain ⟨rfl, rfl⟩ := List.cons.inj hsplit
        obtain rfl := pure_eq_ok_iff.mp hbefore
        exact .inl h
      | cons first others =>
        obtain ⟨rfl, rfl⟩ := List.cons.inj hsplit
        rw [List.foldlM_cons, bind_eq_ok_iff] at hbefore
        obtain ⟨b', hb', hothers⟩ := hbefore
        exact .inr ⟨b', hb', others, x', after, last, rfl, hothers, h⟩

/-- Functions that are alike on every element of a list give the same results over it. -/
theorem mapM_congr {m : Type v → Type w} [Monad m] [LawfulMonad m] {f g : α → m β} {xs : List α}
    (h : ∀ x ∈ xs, f x = g x) :
  xs.mapM f = xs.mapM g
  := by
  induction xs with
  | nil => rfl
  | cons x rest ih =>
    obtain ⟨hx, hrest⟩ := List.forall_mem_cons.mp h
    rw [List.mapM_cons, List.mapM_cons, hx, ih hrest]

/-- Runs over a list whose steps are alike for every element of it are alike. -/
theorem foldlM_congr {m : Type v → Type w} [Monad m] {step step' : β → α → m β} {xs : List α}
    (h : ∀ x ∈ xs, ∀ b, step b x = step' b x) (b : β) :
  xs.foldlM step b = xs.foldlM step' b
  := by
  induction xs generalizing b with
  | nil => rfl
  | cons x rest ih =>
    obtain ⟨hx, hrest⟩ := List.forall_mem_cons.mp h
    rw [List.foldlM_cons, List.foldlM_cons, hx b]
    congr 1
    funext b'
    apply ih hrest

/-! ### Results without errors -/

@[simp]
theorem toOption_ok (a : α) :
  (Except.ok a : Except ε α).toOption = some a
  := rfl

@[simp]
theorem toOption_error (error : ε) :
  (Except.error error : Except ε α).toOption = none
  := rfl

@[simp]
theorem toOption_pure (a : α) :
  (pure a : Except ε α).toOption = some a
  := rfl

@[simp]
theorem toOption_bind (x : Except ε α) (f : α → Except ε β) :
  (x >>= f).toOption = x.toOption.bind fun a => (f a).toOption
  := by
  cases x with
  | error _ => rfl
  | ok _ => rfl

@[simp]
theorem toOption_map (x : Except ε α) (f : α → β) :
  (x.map f).toOption = x.toOption.map f
  := by
  cases x with
  | error _ => rfl
  | ok _ => rfl

@[simp]
theorem toOption_functor_map (x : Except ε α) (f : α → β) :
  (f <$> x).toOption = x.toOption.map f
  := toOption_map x f

@[simp]
theorem toOption_mapError {ε' : Type u} (x : Except ε α) (f : ε → ε') :
  (x.mapError f).toOption = x.toOption
  := by
  cases x with
  | error _ => rfl
  | ok _ => rfl

theorem toOption_eq_some_iff {x : Except ε α} {a : α} :
  x.toOption = some a ↔ x = .ok a
  := by
  cases x with
  | error _ => simp
  | ok _ => simp

/-- A run over a list is a fold over what has been made so far, if anything. -/
theorem toOption_foldlM {step : β → α → Except ε β} (xs : List α) (b : β) :
  (xs.foldlM step b).toOption
    = xs.foldl (fun result x => result.bind fun b => (step b x).toOption) (some b)
  := by
  have hnone : ∀ rest : List α, rest.foldl
      (fun result x => result.bind fun b => (step b x).toOption) none = none := by
    intro rest
    induction rest with
    | nil => rfl
    | cons x rest ih => exact ih
  induction xs generalizing b with
  | nil => rfl
  | cons x rest ih =>
    rw [List.foldlM_cons, List.foldl_cons, toOption_bind, Option.bind_some]
    cases hstep : (step b x).toOption with
    | none => rw [hnone, Option.bind_none]
    | some b' => rw [Option.bind_some, ih]

/-- A run whose steps can be exchanged does not depend on their order. -/
theorem toOption_foldlM_of_perm {step : β → α → Except ε β} {xs ys : List α} (hperm : xs.Perm ys)
    (hexchange : ∀ x ∈ xs, ∀ y ∈ xs, ∀ b,
      (step b x >>= (step · y)).toOption = (step b y >>= (step · x)).toOption) (b : β) :
  (xs.foldlM step b).toOption = (ys.foldlM step b).toOption
  := by
  rw [toOption_foldlM, toOption_foldlM]
  apply hperm.foldl_eq'
  intro x hx y hy result
  cases result with
  | none => rfl
  | some b =>
    have hsteps := hexchange x hx y hy b
    rwa [toOption_bind, toOption_bind] at hsteps

/-- Steps that change what is there by what they read elsewhere can be exchanged if their changes
can. -/
theorem toOption_bind_comm {step step' : β → Except ε β} {x x' : Except ε α} {f f' : α → β → β}
    (hstep : ∀ b, step b = x.map (f · b)) (hstep' : ∀ b, step' b = x'.map (f' · b))
    (hcomm : ∀ a a' b, f' a' (f a b) = f a (f' a' b)) (b : β) :
  (step b >>= step').toOption = (step' b >>= step).toOption
  := by
  obtain rfl := funext hstep
  obtain rfl := funext hstep'
  cases x with
  | error _ => cases x' <;> rfl
  | ok a =>
    cases x' with
    | error _ => rfl
    | ok a' => exact congrArg some (hcomm a a' b)

end

namespace Render

/-- Events are written in the order of the steps, however the steps are grouped. -/
instance : LawfulMonad Render := by
  refine LawfulMonad.mk' Render ?_ ?_ ?_
  · rintro _ ⟨events, error | value⟩
    · rfl
    · apply Render.ext
      · apply List.append_nil
      · rfl
  · intro _ _ _ _
    rfl
  · rintro _ _ _ ⟨events, error | value⟩ f g
    · rfl
    · simp only [bind, andThen]
      cases (f value).result with
      | error _ => rfl
      | ok _ =>
        apply Render.ext
        · apply List.append_assoc
        · rfl

variable {α β : Type}

/-- The result of a sequence is the sequence of the results. -/
@[simp]
theorem result_bind (x : Render α) (f : α → Render β) :
  (x >>= f).result = x.result >>= fun a => (f a).result
  := by
  obtain ⟨_, error | value⟩ := x
  · rfl
  · rfl

@[simp]
theorem result_pure (a : α) :
  (pure a : Render α).result = .ok a
  := rfl

/-- The result of a run over a list is that of the run of the results. -/
theorem result_foldlM (step : β → α → Render β) (xs : List α) (b : β) :
  (xs.foldlM step b).result = xs.foldlM (fun b x => (step b x).result) b
  := by
  induction xs generalizing b with
  | nil => rfl
  | cons x rest ih => simp only [List.foldlM_cons, result_bind, ih]

/-- Sequences are alike if their second steps are alike after every result of the first one. -/
theorem bind_congr_of_ok {x : Render α} {f g : α → Render β}
    (h : ∀ a, x.result = .ok a → f a = g a) :
  x >>= f = x >>= g
  := by
  obtain ⟨events, error | a⟩ := x
  · rfl
  · simp only [bind, andThen, h a rfl]

@[simp]
theorem result_done (a : α) :
  (done a).result = .ok a
  := rfl

@[simp]
theorem result_fail (error : RenderError) :
  (fail error : Render α).result = .error error
  := rfl

@[simp]
theorem result_emit (events : List Event) :
  (emit events).result = .ok ()
  := rfl

@[simp]
theorem result_ofExcept (result : Except RenderError α) :
  (ofExcept result).result = result
  := rfl

@[simp]
theorem result_ofNoted (noted : Noted α) :
  (ofNoted noted).result = .ok noted.value
  := rfl

/-- The events of a sequence are those of both steps, in order, if the first one gives a result. -/
theorem events_bind_of_ok {x : Render α} {a : α} (h : x.result = .ok a) (f : α → Render β) :
  (x >>= f).events = x.events ++ (f a).events
  := congrArg Render.events (andThen_ok h f)

/-- The events of a sequence are those of the first step, if that one ends in an error. -/
theorem events_bind_of_error {x : Render α} {error : RenderError} (h : x.result = .error error)
    (f : α → Render β) :
  (x >>= f).events = x.events
  := congrArg Render.events (andThen_error h f)

/-- A function of a result adds no events. -/
theorem events_bind_pure (x : Render α) (f : α → β) :
  (x >>= fun a => pure (f a)).events = x.events
  := by
  obtain ⟨events, error | a⟩ := x
  · rfl
  · apply List.append_nil

theorem result_bind_pure (x : Render α) (f : α → β) :
  (x >>= fun a => pure (f a)).result = x.result.map f
  := by
  obtain ⟨events, error | a⟩ := x
  · rfl
  · rfl

end Render

end RichText
