import ReleasePage.Files.Volume
import ReleasePage.Number.Rounding
import ReleasePage.Text.Quoted

/-!
# Placing and reading files

Files are replaced as a whole: the content goes into a staging file next to the
destination, which is then renamed, so that nobody sees half a file. If anything
fails the staging file is removed again, whether it could not be filled, got no
permission bits, could not be flushed or could not be renamed.
-/

namespace ReleasePage.Files

open ReleasePage.Text (Bytes)

/-- Why a file could not be read or placed. -/
inductive FileError where
  /-- Reading failed. -/
  | read (path : Path) (fault : Fault)
  /-- Writing failed; `staging` is the staging file if that could not be
  created or filled. -/
  | write (path : Path) (fault : Fault) (staging : Option Path)
  /-- The parent directory could not be made. -/
  | createDirectory (path : Path) (fault : Fault)
  deriving Repr, DecidableEq

/-- What went wrong, without the operation. -/
def FileError.reason : FileError → String
  | .read _ fault => fault.message
  | .write _ fault none => fault.message
  | .write _ fault (some staging) => fault.message ++ " at path " ++ Text.quoted staging
  | .createDirectory _ fault => fault.message

/-- The message of an error. -/
def FileError.message (error : FileError) : String :=
  match error with
  | .read path _ => "failed to read " ++ path ++ ": " ++ error.reason
  | .write path _ _ => "failed to write " ++ path ++ ": " ++ error.reason
  | .createDirectory path _ => "failed to create directory " ++ path ++ ": " ++ error.reason

/-- How a file is placed. -/
structure PlaceOptions where
  /-- The mode that is asked for, if any is. -/
  permissions : Option Nat
  /-- The content is flushed before the file is put in place. -/
  sync : Bool
  /-- Missing parent directories are made first. -/
  createParent : Bool
  deriving Repr, DecidableEq

/-- The permission bits of a file unless others are asked for. -/
def standardMode : Nat := 0o644

/-- The permission bits of a new staging file. -/
def stagingMode : Nat := 0o600

/-- A mode holds twelve permission bits; those above say what stands there and
cannot be set. -/
def permissionBits (mode : Nat) : Nat := mode % 0o10000

/-- The permission bits of the placed file. -/
def PlaceOptions.mode (options : PlaceOptions) : Nat :=
  permissionBits (options.permissions.getD standardMode)

/-- Standard permissions, and missing parent directories are made. -/
def PlaceOptions.withParents : PlaceOptions := ⟨none, false, true⟩

/-- The name of a staging file for `name`. -/
def stagingName (name token : String) : String := "." ++ name ++ "." ++ token ++ ".tmp"

/-- The path of the staging file, seen from the root. -/
def stagingPath (volume : Volume) (dir : Path) (name : String) : Path :=
  if Path.isAbsolute dir then (if Path.endsInSlash dir then dir else dir ++ "/") ++ name
  else "/" ++ Text.joined "/" (volume.home ++ [dir, name])

/-- What distinguishes staging files of one name. There are more tokens than
entries, so one of them is free. -/
def tokens (volume : Volume) : List String :=
  "XXXXXX" :: (List.range volume.entries.length).map (Number.padded 6)

/-- A token whose staging file does not exist yet. -/
def freshToken (volume : Volume) (dir : Location) (name : String) : String :=
  ((tokens volume).find? fun token => (volume.get? (dir ++ [stagingName name token])).isNone).getD
    "XXXXXX"

/-- One byte more than a limit, as a sum of 64 bits without a check for overflow: for the
greatest limit it is zero. -/
def cappedLength (limit : Nat) : Nat :=
  if limit + 1 < Number.words64 then limit + 1 else 0

/-- Where the sum does not overflow it is exact. -/
theorem cappedLength_of_lt {limit : Nat} (h : limit + 1 < Number.words64) :
    cappedLength limit = limit + 1 := if_pos h

/-- No more than one byte beyond the limit is asked for. -/
theorem cappedLength_le (limit : Nat) : cappedLength limit ≤ limit + 1 := by
  rw [cappedLength]
  split
  · exact Nat.le_refl _
  · exact Nat.zero_le _

namespace Volume

/-- Where the staging file for `name` goes in a directory. -/
def stagingLocation (volume : Volume) (dir : Path) (name : String) : Except Fault Location := do
  let token := match volume.resolve dir with
    | .ok location => freshToken volume location name
    | .error _ => "XXXXXX"
  let path := stagingPath volume dir (stagingName name token)
  let (parent, _) ← volume.resolveParent path
  volume.stepTo parent (stagingName name token)

/-- Where a file that is renamed to a path ends up. -/
def renameTarget (volume : Volume) (path : Path) : Except Fault Location := do
  match ← volume.resolveParent path with
  | (_, none) => throw .busy
  | (dir, some name) =>
    if name = "." ∨ name = ".." then throw .busy
    let location ← volume.stepTo dir name
    if Path.endsInSlash path then throw .notDirectory
    if volume.isDirectory location then throw .isDirectory
    return location

/-- Writes the content of a new staging file, sets its permission bits and flushes it
if that is asked for. What the device takes before it refuses is in the file. -/
def fill (volume : Volume) (dir shown : Path) (staging : Location) (content : Bytes)
    (options : PlaceOptions) : Except FileError Unit × Volume :=
  let device := volume.device
  let written := volume.put staging (.file stagingMode (device.room.taken content))
  match device.room.overflow? content with
  | some fault => (.error (.write dir fault (some shown)), written)
  | none =>
    match device.modes with
    | some fault => (.error (.write dir fault none), written)
    | none =>
      let ready := written.put staging (.file options.mode content)
      match if options.sync then device.flushes else none with
      | some fault => (.error (.write dir fault none), ready)
      | none => (.ok (), ready)

/-- Puts content into a new staging file in `dir`. If that fails the staging file is
removed. -/
def stage (volume : Volume) (dir path : Path) (content : Bytes) (options : PlaceOptions) :
    Except FileError Location × Volume :=
  let name := (Path.fileName? path).getD ""
  let shown := stagingPath volume dir (stagingName name "XXXXXX")
  match volume.stagingLocation dir name, volume.device.creation with
  | .error fault, _ => (.error (.write dir fault (some shown)), volume)
  | .ok _, some fault => (.error (.write dir fault (some shown)), volume)
  | .ok staging, none =>
    let created := volume.put staging (.file stagingMode [])
    match created.fill dir shown staging content options with
    | (.error error, filled) => (.error error, filled.erase staging)
    | (.ok (), filled) => (.ok staging, filled)

/-- The volume with what stands at a location moved to another one, in place of what
stood there. -/
def move (volume : Volume) (source target : Location) : Volume :=
  match volume.get? source with
  | none => volume
  | some entry => (volume.erase source).put target entry

/-- Renames the file at a location to a path. -/
def rename (volume : Volume) (source : Location) (path : Path) : Except Fault Volume := do
  let target ← volume.renameTarget path
  match volume.device.renames with
  | some fault => throw fault
  | none => return volume.move source target

/-- Puts content into a file by way of a staging file in `dir`. If the staging file
cannot be renamed it is removed. -/
def placeIn (volume : Volume) (dir path : Path) (content : Bytes) (options : PlaceOptions) :
    Except FileError Unit × Volume :=
  match volume.stage dir path content options with
  | (.error error, volume) => (.error error, volume)
  | (.ok staging, volume) =>
    match volume.rename staging path with
    | .error fault => (.error (.write path fault none), volume.erase staging)
    | .ok volume => (.ok (), volume)

/-- Replaces the content of a file in one step. -/
def place (volume : Volume) (path : Path) (content : Bytes) (options : PlaceOptions) :
    Except FileError Unit × Volume :=
  let dir := Path.directory path
  if options.createParent then
    match volume.makeDirectories dir with
    | (.error fault, volume) => (.error (.createDirectory dir fault), volume)
    | (.ok (), volume) => volume.placeIn dir path content options
  else volume.placeIn dir path content options

/-- Reads the file at a path. -/
def read (volume : Volume) (path : Path) : Except FileError Bytes :=
  (volume.readFile path).mapError (.read path)

/-- Reads the file at a path, nothing if it does not exist. -/
def readIfExists (volume : Volume) (path : Path) : Except FileError (Option Bytes) :=
  match volume.readFile path with
  | .ok content => .ok (some content)
  | .error .notFound => .ok none
  | .error fault => .error (.read path fault)

/-- The first bytes of a file, one more than the limit, nothing if it does not exist. A
result longer than the limit means that the file is. -/
def readCapped (volume : Volume) (path : Path) (limit : Nat) : Except FileError (Option Bytes) :=
  (volume.readIfExists path).map (·.map (·.take (cappedLength limit)))

end Volume

end ReleasePage.Files
