import ReleasePage.Command.Invocation
import ReleasePage.Text.Pieces

/-!
# Help

What the program prints about itself: its version, its commands and the options
of each level, and a line for each mistake in a command line.
-/

namespace ReleasePage.Command

/-- What the help says about a command. -/
def CommandKind.summary : CommandKind → String
  | .stage => "Fetch the latest release record into the snapshot file"
  | .render => "Publish the staged snapshot as JSON or as an HTML fragment"
  | .check => "Refresh the cached release and print it"
  | .notes => "Print the release notes of a milestone"

/-- The commands in the order in which the help lists them. -/
def listedCommands : List CommandKind := [.stage, .render, .check, .notes]

/-- All levels. -/
def levels : List Level := programLevel :: listedCommands.map CommandKind.level

/-- A text followed by blanks up to a width. -/
def filledUp (width : Nat) (text : String) : String :=
  text ++ String.ofList (List.replicate (width - text.length) ' ')

/-- The names of an option in the help. -/
def OptionRule.usage (option : OptionRule) : String :=
  let short := match option.short with
    | some c => "-" ++ String.ofList [c] ++ ", "
    | none => "    "
  let value := match option.effect with
    | .value _ => " <VALUE>"
    | _ => ""
  short ++ "--" ++ option.name ++ value

/-- The line of an option. -/
def OptionRule.line (option : OptionRule) : String :=
  "  " ++ filledUp 22 option.usage ++ option.summary ++ "\n"

/-- The line that shows how a level is used. -/
def Level.usage (level : Level) : String :=
  "Usage: " ++ Text.joined " " level.words ++ " [OPTIONS]" ++
    (match level.positional with
     | some name => " <" ++ String.ofList (Text.asciiUpper name.toList) ++ ">"
     | none => "") ++
    (if level.commands.isEmpty then "" else " <COMMAND>") ++ "\n"

/-- The lines of the commands, each under its full name. -/
def commandLines : String :=
  String.join (listedCommands.map fun kind =>
    "  " ++ filledUp 8 (kind.level.words.getLastD "") ++ kind.summary ++ "\n")

/-- The help of a level. -/
def Level.help (level : Level) : String :=
  level.usage ++
    (if level.commands.isEmpty then "" else "\nCommands:\n" ++ commandLines) ++
    "\nOptions:\n" ++ String.join (level.options.map OptionRule.line)

/-- The help of the level with given words. -/
def helpText (words : List String) : String :=
  ((levels.find? (·.words == words)).getD programLevel).help

/-- The version line of the level with given words. -/
def versionText (words : List String) : String :=
  Text.joined "-" words ++ " " ++ programVersion ++ "\n"

/-- What is wrong with a command line. -/
def UsageError.complaint : UsageError → String
  | .helpAsked _ => ""
  | .versionAsked _ => ""
  | .nothingGiven => programLevel.help
  | .unknownArgument => "error: unexpected argument\n"
  | .invalidValue => "error: missing or invalid value\n"
  | .tooManyValues => "error: unexpected value\n"
  | .argumentConflict => "error: argument given twice\n"
  | .invalidCommand => "error: unrecognized subcommand\n"
  | .missingCommand => "error: a subcommand is required\n"
  | .missingArgument => "error: a required argument was not given\n"

/-- What is printed in answer to a command line that is not carried out. -/
def UsageError.output : UsageError → String
  | .helpAsked words => helpText words
  | .versionAsked words => versionText words
  | _ => ""

end ReleasePage.Command
