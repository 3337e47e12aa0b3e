import RichText.Render.Diagnostic

/-!
# What a render leaves behind

Besides elements, a render gives events: diagnostics that are kept, and records of a log.  Where a
diagnostic goes is settled by `RendererOptions`: to a sink, which puts it into the log as a warning,
keeps it in memory, or makes other events of it, or nowhere if diagnostics are off.
-/

namespace RichText

/-- The severity of a log record. -/
inductive LogLevel where
  | info
  | warn
  | error
deriving DecidableEq, Repr

/-- A line of a log, with the part of the program that it comes from. -/
structure LogRecord where
  level : LogLevel
  target : String
  text : String
deriving DecidableEq, Repr

/-- Something that happened during a render. -/
inductive Event where
  | kept (diagnostic : Diagnostic)
  | logged (record : LogRecord)
deriving DecidableEq

namespace Event

/-- The diagnostics that were kept, in order. -/
def diagnostics (events : List Event) : List Diagnostic :=
  events.filterMap fun
    | kept diagnostic => some diagnostic
    | logged _ => none

/-- The log records, in order. -/
def records (events : List Event) : List LogRecord :=
  events.filterMap fun
    | kept _ => none
    | logged record => some record

end Event

/-- Where diagnostics go: the events that each of them makes. -/
structure Sink where
  events : Diagnostic → List Event

namespace Sink

/-- The part of the program that diagnostics come from in a log. -/
def logTarget : String := "proseview::diagnostics"

/-- Diagnostics go to the log as warnings. -/
def log : Sink := ⟨fun diagnostic => [.logged ⟨.warn, logTarget, diagnostic.message⟩]⟩

/-- Diagnostics are kept in memory. -/
def memory : Sink := ⟨fun diagnostic => [.kept diagnostic]⟩

end Sink

/-- Settings that hold for all factories of a renderer. -/
structure RendererOptions where
  diagnostics : Bool
  sink : Sink

namespace RendererOptions

/-- Diagnostics go to the log. -/
def default : RendererOptions := ⟨true, .log⟩

/-- The events of a diagnostic. -/
def report (options : RendererOptions) (diagnostic : Diagnostic) : List Event :=
  if options.diagnostics then options.sink.events diagnostic else []

/-- The events of a diagnostic that is given only under a condition. -/
def reportIf (options : RendererOptions) (condition : Bool) (diagnostic : Diagnostic) :
    List Event :=
  if condition then options.report diagnostic else []

end RendererOptions

end RichText
