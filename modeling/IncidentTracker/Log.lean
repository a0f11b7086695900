/-!
# Logs

What is said beside an answer: events, each of a level, with a message and with fields. A logged value
comes with the events that were said while it was worked out, in order; whoever asks for the value
alone passes them over.
-/

namespace IncidentTracker

/-- How much an event matters. -/
inductive LogLevel where
  | trace
  | debug
  | info
  | warn
  | error
  deriving DecidableEq, Repr

/-- Something that is said. -/
structure Event where
  level : LogLevel
  message : String
  /-- The names of the fields with what they are. -/
  fields : List (String × String)
  deriving DecidableEq, Repr

/-- A value, and what was said while it was worked out. -/
@[ext] structure Logged (α : Type) where
  events : List Event
  value : α

namespace Logged

variable {α : Type}

instance : Monad Logged where
  pure value := ⟨[], value⟩
  bind x next := ⟨x.events ++ (next x.value).events, (next x.value).value⟩

/-- Says something. -/
def say (event : Event) : Logged Unit :=
  ⟨[event], ()⟩

/-- The warnings among what was said. -/
def warnings (x : Logged α) : List Event :=
  x.events.filter fun event => event.level == .warn

@[simp] theorem events_pure (value : α) : (pure value : Logged α).events = [] := rfl

@[simp] theorem value_pure (value : α) : (pure value : Logged α).value = value := rfl

end Logged

end IncidentTracker
