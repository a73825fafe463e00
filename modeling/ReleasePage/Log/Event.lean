import ReleasePage.Text.Quoted

/-!
# Log events

An event has a level, the part of the program that it comes from, a message and
named values. It is written in one line; texts stand between quotes unless they
are shown as they are.
-/

namespace ReleasePage.Log

/-- How important an event is. -/
inductive Level where
  /-- Something went wrong for good. -/
  | error
  /-- Something went wrong that the program can live with. -/
  | warn
  /-- Something happened that a user wants to know. -/
  | info
  /-- Something happened that explains the rest. -/
  | debug
  /-- Every detail. -/
  | trace
  deriving Repr, DecidableEq

/-- Levels from the most to the least important one. -/
def Level.rank : Level → Nat
  | .error => 1
  | .warn => 2
  | .info => 3
  | .debug => 4
  | .trace => 5

/-- The name of a level. -/
def Level.name : Level → String
  | .error => "ERROR"
  | .warn => "WARN"
  | .info => "INFO"
  | .debug => "DEBUG"
  | .trace => "TRACE"

/-- A named value of an event. -/
structure Field where
  /-- The name. -/
  name : String
  /-- The value as it is written. -/
  text : String
  deriving Repr, DecidableEq

/-- A text that is shown as it is. -/
def Field.shown (name text : String) : Field := ⟨name, text⟩

/-- A text between quotes. -/
def Field.quoted (name text : String) : Field := ⟨name, Text.quoted text⟩

/-- A number. -/
def Field.number (name : String) (n : Nat) : Field := ⟨name, Nat.repr n⟩

/-- A truth value. -/
def Field.truth (name : String) (b : Bool) : Field := ⟨name, if b then "true" else "false"⟩

/-- Something that happened. -/
structure Event where
  /-- How important it is. -/
  level : Level
  /-- The part of the program that it comes from. -/
  target : String
  /-- What happened. -/
  message : String
  /-- Named values. -/
  fields : List Field
  deriving Repr, DecidableEq

/-- The names of what an event has. What happened counts as a field, too. -/
def Event.fieldNames (event : Event) : List String :=
  "message" :: event.fields.map Field.name

/-- The line of an event. -/
def Event.line (event : Event) : String :=
  event.level.name ++ " " ++ event.message ++
    String.join (event.fields.map fun field => " " ++ field.name ++ "=" ++ field.text)

end ReleasePage.Log
