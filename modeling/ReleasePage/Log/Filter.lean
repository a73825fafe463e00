import ReleasePage.Log.Directive

/-!
# Log filters

A filter is a list of directives, separated by commas. Of the directives that
apply to an event the most specific one decides whether it passes.
-/

namespace ReleasePage.Log

/-- Directives in the order they were given. -/
abbrev Filter := List Directive

/-- The filter that lets everything of one level and the more important ones
pass. -/
def Filter.level (level : Level) : Filter := [⟨"", .every, level.rank⟩]

/-- Reads a filter. Without any directive only errors pass. -/
def Filter.parse (text : String) : Except DirectiveFault Filter :=
  match (Text.pieces (· == ',') text.toList).filter (!·.isEmpty) with
  | [] => .ok (.level .error)
  | parts => parts.mapM Directive.parse

/-- The filter of the program: everything important for explanations if asked
for, else what a text says, else the usual events. There is none if the text is
split inside a character. -/
def Filter.choose? (verbose : Bool) (text : Option String) : Option Filter :=
  if verbose then some (.level .debug)
  else
    match text with
    | none => some (.level .info)
    | some text =>
      if text.toList.all Text.isBlank then some (.level .info)
      else
        match Filter.parse text with
        | .ok filter => some filter
        | .error .foreign => some (.level .info)
        | .error .splitCharacter => none

/-- The directive that decides about an event. -/
def Filter.decisive? (filter : Filter) (event : Event) : Option Directive :=
  (filter.filter (·.appliesTo event)).foldl
    (fun best directive =>
      match best with
      | none => some directive
      | some other => if directive.overrides other then some directive else some other)
    none

/-- The filter lets an event pass. -/
def Filter.passes (filter : Filter) (event : Event) : Bool :=
  match filter.decisive? event with
  | none => false
  | some directive => event.level.rank ≤ directive.rank

end ReleasePage.Log
