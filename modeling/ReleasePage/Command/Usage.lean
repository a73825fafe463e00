/-!
# Options and arguments

Arguments are read level by level: the program has a level of its own and each
command has one. An option may be followed by its value, or have it attached.
What was read last stays open until the next option or the end of the level; only
then is its value looked at, so that an unknown option further on is reported
first.
-/

namespace ReleasePage.Command

/-- Why a command line is not carried out. -/
inductive UsageError where
  /-- Help was asked for, at the level of these words. -/
  | helpAsked (words : List String)
  /-- The version was asked for, at the level of these words. -/
  | versionAsked (words : List String)
  /-- Nothing was given at all, so help is shown. -/
  | nothingGiven
  /-- There is no such option or argument. -/
  | unknownArgument
  /-- A value is missing or does not fit. -/
  | invalidValue
  /-- An option without value was given one. -/
  | tooManyValues
  /-- An option was given twice. -/
  | argumentConflict
  /-- There is no such command. -/
  | invalidCommand
  /-- No command was given. -/
  | missingCommand
  /-- An argument that is needed was not given. -/
  | missingArgument
  deriving Repr, DecidableEq

/-- The exit code of the program. -/
def UsageError.exitCode : UsageError → Nat
  | .helpAsked _ => 0
  | .versionAsked _ => 0
  | _ => 2

/-- What an option does. -/
inductive Effect where
  /-- It is on or off. -/
  | flag
  /-- It has a value, which has to be acceptable. -/
  | value (accepts : String → Bool)
  /-- It asks for help. -/
  | help
  /-- It asks for the version. -/
  | version

/-- An option. -/
structure OptionRule where
  /-- The long name, without dashes. -/
  name : String
  /-- The short name, without dash. -/
  short : Option Char
  /-- What the option does. -/
  effect : Effect
  /-- What the help says about it. -/
  summary : String

/-- A level of arguments. -/
structure Level where
  /-- The words of the command line that lead to the level. -/
  words : List String
  /-- The options of the level. -/
  options : List OptionRule
  /-- The name of the argument without dashes, if the level has one. -/
  positional : Option String
  /-- The commands that may follow. -/
  commands : List String

/-- An option or argument that was read last. -/
structure Open where
  /-- Its name. -/
  name : String
  /-- Which values it accepts. -/
  accepts : String → Bool
  /-- Its value, if that was read already. -/
  value : Option String

/-- What was read of a level so far. -/
structure Scan where
  /-- Names and values that are complete. -/
  given : List (String × String)
  /-- What was read last, if it is still open. -/
  last : Option Open
  /-- The argument without dashes was read. -/
  filled : Bool

namespace Scan

/-- Nothing was read yet. -/
def start : Scan := ⟨[], none, false⟩

/-- Completes a name with its value. A name must not be given twice. -/
def record (scan : Scan) (name value : String) (accepts : String → Bool) :
    Except UsageError Scan :=
  if (scan.given.lookup name).isSome then .error .argumentConflict
  else if accepts value then .ok { scan with given := scan.given ++ [(name, value)] }
  else .error .invalidValue

/-- Completes what was read last. -/
def settle (scan : Scan) : Except UsageError Scan :=
  match scan.last with
  | none => .ok scan
  | some last =>
    match last.value with
    | none => .error .invalidValue
    | some value => { scan with last := none }.record last.name value last.accepts

/-- The next argument is the value of an option. -/
def expectsValue (scan : Scan) : Bool := scan.last.any (·.value.isNone)

/-- Gives the option that was read last its value. -/
def supply (scan : Scan) (value : String) : Scan :=
  { scan with last := scan.last.map fun last => { last with value := some value } }

/-- Opens an option or argument after completing the one before it. -/
def opened (scan : Scan) (next : Open) : Except UsageError Scan := do
  let scan ← scan.settle
  return { scan with last := some next }

/-- Carries out an option without a value, at the level of given words. -/
def switch (scan : Scan) (words : List String) (option : OptionRule) :
    Except UsageError Scan := do
  let scan ← scan.settle
  match option.effect with
  | .help => throw (.helpAsked words)
  | .version => throw (.versionAsked words)
  | _ => scan.record option.name "true" fun _ => true

end Scan

namespace Level

/-- Reads a long option after its dashes. -/
def readLong (level : Level) (scan : Scan) (body : List Char) : Except UsageError Scan :=
  let name := String.ofList (body.takeWhile (· != '='))
  let attached := (body.dropWhile (· != '=')).tail?
  match level.options.find? (·.name == name) with
  | none => .error .unknownArgument
  | some option =>
    match option.effect, attached with
    | .value accepts, none => scan.opened ⟨name, accepts, none⟩
    | .value accepts, some value => do
      let scan ← scan.settle
      scan.record name (String.ofList value) accepts
    | _, some _ => .error .tooManyValues
    | _, none => scan.switch level.words option

/-- Reads short options after their dash. The first one with a value takes the
rest as its value. -/
def readShort (level : Level) : Scan → List Char → Except UsageError Scan
  | scan, [] => .ok scan
  | scan, c :: rest =>
    match level.options.find? (·.short == some c) with
    | none => .error .unknownArgument
    | some option =>
      match option.effect with
      | .value accepts =>
        if rest.isEmpty then scan.opened ⟨option.name, accepts, none⟩
        else do
          let scan ← scan.settle
          let value := if rest.head? == some '=' then rest.drop 1 else rest
          scan.record option.name (String.ofList value) accepts
      | _ => do
        let scan ← scan.switch level.words option
        level.readShort scan rest

/-- Reads an argument without dashes, or one that follows two dashes. -/
def readPositional (level : Level) (scan : Scan) (afterDashes : Bool) (argument : String) :
    Except UsageError Scan :=
  match level.positional, scan.filled with
  | some name, false => do
    let scan ← scan.opened ⟨name, fun _ => true, some argument⟩
    return { scan with filled := true }
  | _, _ =>
    if level.commands.isEmpty || (afterDashes && level.commands.contains argument) then
      .error .unknownArgument
    else .error .invalidCommand

/-- Reads the arguments of a level up to a command: what was read, and the
command with the arguments after it. -/
def read (level : Level) :
    Scan → List String → Except UsageError (Scan × Option (String × List String))
  | scan, [] => .ok (scan, none)
  | scan, argument :: rest =>
    if !scan.expectsValue && level.commands.contains argument then
      .ok (scan, some (argument, rest))
    else if argument = "--" then do
      let scan ← rest.foldlM (fun scan => level.readPositional scan true) scan
      return (scan, none)
    else
      match argument.toList with
      | '-' :: '-' :: body => do
        let scan ← level.readLong scan body
        level.read scan rest
      | '-' :: c :: body => do
        let scan ← level.readShort scan (c :: body)
        level.read scan rest
      | _ =>
        if scan.expectsValue then level.read (scan.supply argument) rest
        else do
          let scan ← level.readPositional scan false argument
          level.read scan rest

end Level

end ReleasePage.Command
