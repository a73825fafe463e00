import ReleasePage.Command.Run

/-!
# The program

The outermost layer: it copies what a run may look at from the machine into a
volume, runs the program on it, and carries over to the machine what the run
changed. No connection leaves the machine, so every request goes unanswered.
-/

namespace ReleasePage.Program

open ReleasePage.Command (Invocation)
open ReleasePage.Files (Entry Location Path Volume)
open ReleasePage.Settings (Environment)

/-- The locations that a walk from a directory passes. -/
def passed : Location → List String → List Location
  | _, [] => []
  | here, name :: rest =>
    if name = "." then passed here rest
    else if name = ".." then passed here.dropLast rest
    else (here ++ [name]) :: passed (here ++ [name]) rest

/-- The locations that a path passes. -/
def locations (home : Location) (path : Path) : List Location :=
  passed (if Path.isAbsolute path then [] else home) (Path.steps path)

/-- The path of a location. -/
def pathOf (location : Location) : Path := "/" ++ Text.joined "/" location

/-- The paths that a command may look at. -/
def pathsOf (invocation : Invocation) (settings : Settings) : List Path :=
  match invocation.task with
  | .stage output => [output.getD settings.rendering.snapshot]
  | .render input output _ => input.getD settings.rendering.snapshot :: output.toList
  | .check _ => [settings.caching.path]
  | .notes _ => []

/-- Copies what stands at a location of the machine into a volume. -/
def copyIn (volume : Volume) (location : Location) : IO Volume := do
  try
    let content ← IO.FS.readBinFile (pathOf location)
    return volume.put location (.file Files.standardMode content.data.toList)
  catch
    | .inappropriateType .. => return volume.put location .directory
    | _ => return volume

/-- Copies what stands at locations of the machine into a volume. -/
def copyAll (volume : Volume) (locations : List Location) : IO Volume :=
  locations.foldlM copyIn volume

/-- The variable in one entry of the environment. -/
def variableOf (entry : List Char) : String × String :=
  (String.ofList (entry.takeWhile (· != '=')),
    String.ofList ((entry.dropWhile (· != '=')).drop 1))

/-- The environment variables of the process. -/
def readEnvironment : IO Environment := do
  let content ← IO.FS.readBinFile "/proc/self/environ"
  let text := (Text.Utf8.decode? content.data.toList).getD ""
  return (Text.pieces (·.toNat == 0) text.toList).map variableOf

/-- Carries one entry of a volume over to the machine. -/
def copyOut (before : Volume) (change : Location × Entry) : IO Unit := do
  let (location, entry) := change
  if before.get? location = some entry then return
  match entry with
  | .directory => IO.FS.createDir (pathOf location)
  | .file _ content =>
    let staging := pathOf location ++ ".tmp"
    IO.FS.writeBinFile staging ⟨content.toArray⟩
    IO.FS.rename staging (pathOf location)

/-- Runs the program on the machine. -/
def start (arguments : List String) : IO UInt32 := do
  let home := Path.steps (← IO.currentDir).toString
  let environment ← readEnvironment
  let mut volume := Volume.blank home
  if let .ok invocation := Invocation.parse arguments then
    volume ← copyAll volume ((Settings.candidates home invocation.config).flatMap (passed []))
    if let .ok settings := Settings.load volume invocation.config environment then
      volume ← copyAll volume ((pathsOf invocation settings).flatMap (locations home))
  let client := Web.wireClient fun _ _ => .nothing
  let finish := Command.run client volume environment arguments
  finish.volume.entries.forM (copyOut volume)
  finish.events.forM fun event => IO.eprintln event.line
  (← IO.getStdout).write ⟨finish.printed.toArray⟩
  IO.eprint finish.failure
  return finish.exitCode.toUInt32

end ReleasePage.Program

/-- The command line of the program. -/
def main (arguments : List String) : IO UInt32 := ReleasePage.Program.start arguments
