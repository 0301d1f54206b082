/-!
# Events

What an operation reports beside its result: texts with a level, in the order
in which they arise.
-/

namespace PortableDdl

/-- How grave an event is. -/
inductive Level where
  /-- A request was not honoured as it stands. -/
  | warn
  /-- A step that may help to follow what happened. -/
  | debug
deriving DecidableEq, Repr

/-- A text with its level. -/
structure Event where
  level : Level
  text : String
deriving DecidableEq, Repr

/-- The name of a level. -/
def Level.name : Level → String
  | .warn => "WARN"
  | .debug => "DEBUG"

/-- A warning. -/
def Event.warn (text : String) : Event := ⟨.warn, text⟩

/-- An event for those who follow the work. -/
def Event.debug (text : String) : Event := ⟨.debug, text⟩

/-- A result with the events that led to it. -/
structure Logged (α : Type) where
  value : α
  /-- The events, earliest first. -/
  events : List Event := []

/-- The same events with a result computed from the first one. -/
def Logged.map {α β : Type} (f : α → β) (l : Logged α) : Logged β := ⟨f l.value, l.events⟩

/-- A second step after a first one: its events follow those of the first. -/
def Logged.andThen {α β : Type} (l : Logged α) (f : α → Logged β) : Logged β :=
  let next := f l.value
  ⟨next.value, l.events ++ next.events⟩

end PortableDdl
