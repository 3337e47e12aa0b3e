import RichText.Render.Event

/-!
# Outcomes with events

A `Render` is a result or an error together with the events up to there; its steps run one after
the other, and an error ends them without losing what happened before.  A `Noted` value cannot
fail and carries log records only.
-/

namespace RichText

/-- A value with the log records that making it has written. -/
structure Noted (α : Type) where
  records : List LogRecord
  value : α

namespace Noted

/-- A value that was made without a record. -/
def silent {α : Type} (value : α) : Noted α := ⟨[], value⟩

end Noted

/-- A result or an error, with the events up to there. -/
structure Render (α : Type) where
  events : List Event
  result : Except RenderError α

namespace Render

variable {α β : Type}

/-- A result without events. -/
def done (value : α) : Render α := ⟨[], .ok value⟩

/-- An error without events. -/
def fail (error : RenderError) : Render α := ⟨[], .error error⟩

/-- The events alone. -/
def emit (events : List Event) : Render Unit := ⟨events, .ok ()⟩

/-- Runs `f` on the result of `x`, unless that is an error. -/
def andThen (x : Render α) (f : α → Render β) : Render β :=
  match x.result with
  | .ok value => ⟨x.events ++ (f value).events, (f value).result⟩
  | .error error => ⟨x.events, .error error⟩

instance : Monad Render where
  pure := done
  bind := andThen

/-- A result or an error without events. -/
def ofExcept (result : Except RenderError α) : Render α := ⟨[], result⟩

/-- The value of a noted value; its records are events. -/
def ofNoted (noted : Noted α) : Render α :=
  ⟨noted.records.map .logged, .ok noted.value⟩

/-! ### Laws -/

theorem ext {x y : Render α} (hevents : x.events = y.events) (hresult : x.result = y.result) :
  x = y
  := by
  cases x
  cases y
  simp_all

theorem andThen_ok {x : Render α} {value : α} (h : x.result = .ok value) (f : α → Render β) :
  x.andThen f = ⟨x.events ++ (f value).events, (f value).result⟩
  := by
  simp [andThen, h]

theorem andThen_error {x : Render α} {error : RenderError} (h : x.result = .error error)
    (f : α → Render β) :
  x.andThen f = ⟨x.events, .error error⟩
  := by
  simp [andThen, h]

end Render

end RichText
