import ReleasePage.Command.Usage
import ReleasePage.Files.Path
import ReleasePage.Page.Format
import ReleasePage.Settings.Load

/-!
# Invocations

What a command line asks for. The settings file and the verbosity can be given
before and after the command; the later one counts.
-/

namespace ReleasePage.Command

open ReleasePage.Files (Path)

/-- A command with its arguments. -/
inductive Task where
  /-- Stores the latest release record. -/
  | stage (output : Option Path)
  /-- Publishes the staged record. -/
  | render (input output : Option Path) (format : Page.Format)
  /-- Refreshes the cached release and shows it. -/
  | check (offline : Bool)
  /-- Writes release notes. -/
  | notes (milestone : String)
  deriving Repr, DecidableEq

/-- A whole command line. -/
structure Invocation where
  /-- The path of the settings file. -/
  config : Path
  /-- Everything is logged. -/
  verbose : Bool
  /-- The command with its arguments. -/
  task : Task
  deriving Repr, DecidableEq

/-- The name of the program. -/
def programName : String := "relsite"

/-- The version of the program. -/
def programVersion : String := "0.1.0"

/-- Paths must not be empty. -/
def acceptsPath (text : String) : Bool := !text.isEmpty

/-- The form of a name. -/
def formatNamed? (name : String) : Option Page.Format :=
  if name = "json" then some .json else if name = "html" then some .html else none

/-- The options of every level. -/
def sharedOptions : List OptionRule := [
  ⟨"config", some 'c', .value acceptsPath, "The settings file, which may be missing"⟩,
  ⟨"verbose", some 'v', .flag, "Log everything that explains the run"⟩,
  ⟨"help", some 'h', .help, "Print help"⟩,
  ⟨"version", some 'V', .version, "Print version"⟩]

/-- The option for the file that is written. -/
def outputOption : OptionRule := ⟨"output", some 'o', .value acceptsPath, "The file to write"⟩

/-- The option for the file that is read. -/
def inputOption : OptionRule := ⟨"input", some 'i', .value acceptsPath, "The snapshot to read"⟩

/-- The option for the published form. -/
def formatOption : OptionRule :=
  ⟨"format", some 'f', .value fun name => (formatNamed? name).isSome, "The form: json or html"⟩

/-- The option for a check that makes no request. -/
def offlineOption : OptionRule :=
  ⟨"offline", none, .flag, "Print the cached release without making a request"⟩

/-- The kinds of commands. -/
inductive CommandKind where
  /-- Stores the latest release record. -/
  | stage
  /-- Publishes the staged record. -/
  | render
  /-- Refreshes the cached release and shows it. -/
  | check
  /-- Writes release notes. -/
  | notes
  deriving Repr, DecidableEq

/-- The names of commands; one has a short form. -/
def commandNames : List (String × CommandKind) := [
  ("stage", .stage), ("render", .render), ("r", .render), ("check", .check), ("notes", .notes)]

/-- The command that shows help. -/
def helpCommand : String := "help"

/-- The level of the program. -/
def programLevel : Level :=
  ⟨[programName], sharedOptions, none, commandNames.map (·.1) ++ [helpCommand]⟩

/-- The level of a command. -/
def CommandKind.level : CommandKind → Level
  | .stage => ⟨[programName, "stage"], outputOption :: sharedOptions, none, []⟩
  | .render =>
    ⟨[programName, "render"], [inputOption, outputOption, formatOption] ++ sharedOptions, none, []⟩
  | .check => ⟨[programName, "check"], offlineOption :: sharedOptions, none, []⟩
  | .notes => ⟨[programName, "notes"], sharedOptions, some "milestone", []⟩

/-- The command that names and values give. -/
def CommandKind.task (kind : CommandKind) (given : List (String × String)) :
    Except UsageError Task :=
  match kind with
  | .stage => .ok (.stage (given.lookup "output"))
  | .render =>
    .ok (.render (given.lookup "input") (given.lookup "output")
      (((given.lookup "format").bind formatNamed?).getD .json))
  | .check => .ok (.check (given.lookup "offline").isSome)
  | .notes =>
    match given.lookup "milestone" with
    | some milestone => .ok (.notes milestone)
    | none => .error .missingArgument

/-- The outcome of the command that shows help: it takes at most the name of one
command. -/
def helpOutcome : List String → UsageError
  | [] => .helpAsked programLevel.words
  | [name] =>
    match commandNames.lookup name with
    | some kind => .helpAsked kind.level.words
    | none => if name = helpCommand then .helpAsked programLevel.words else .invalidCommand
  | _ => .invalidCommand

/-- Reads the arguments of a command. -/
def CommandKind.read (kind : CommandKind) (arguments : List String) :
    Except UsageError (Task × List (String × String)) := do
  let (scan, _) ← kind.level.read .start arguments
  let scan ← scan.settle
  return (← kind.task scan.given, scan.given)

/-- Reads a command line without the name of the program. Mistakes after the
command are reported before those that were left open in front of it. -/
def Invocation.parse (arguments : List String) : Except UsageError Invocation := do
  match ← programLevel.read .start arguments with
  | (scan, none) =>
    let scan ← scan.settle
    throw (if scan.given.isEmpty then .nothingGiven else .missingCommand)
  | (scan, some (name, rest)) =>
    match commandNames.lookup name with
    | none => throw (helpOutcome rest)
    | some kind =>
      let (task, inner) ← kind.read rest
      let scan ← scan.settle
      let config := (inner.lookup "config" <|> scan.given.lookup "config").getD
        Settings.standardPath
      let verbose := (inner.lookup "verbose" <|> scan.given.lookup "verbose").isSome
      return ⟨config, verbose, task⟩

end ReleasePage.Command
