import ReleasePage.Files.Device
import ReleasePage.Files.Path

/-!
# Volumes

A volume holds directories and files at locations, which are lists of names from
the root down. A path is resolved step by step from the root or from the home
directory, and every step has to exist.
-/

namespace ReleasePage.Files

open ReleasePage.Text (Bytes)

/-- Names from the root of the volume down. -/
abbrev Location := List String

/-- What stands at a location. -/
inductive Entry where
  /-- A directory. -/
  | directory
  /-- A file with its permission bits and its content. -/
  | file (mode : Nat) (content : Bytes)
  deriving Repr, DecidableEq

/-- Directories and files. -/
structure Volume where
  /-- The directory that paths without a leading slash start from. -/
  home : Location
  /-- Everything but the root, which is a directory. -/
  entries : List (Location × Entry)
  /-- The device below. -/
  device : Device
  deriving Repr, DecidableEq

/-- The longest name in bytes. -/
def maxName : Nat := 255

/-- The longest path in bytes. -/
def maxPath : Nat := 4095

namespace Volume

/-- The volume on a reliable device that holds nothing but its home directory. -/
def blank (home : Location) : Volume :=
  ⟨home, (List.range home.length).map fun i => (home.take (i + 1), .directory), .reliable⟩

/-- What stands at a location. -/
def get? (volume : Volume) (location : Location) : Option Entry :=
  if location = [] then some .directory else volume.entries.lookup location

/-- The volume without what stands at a location. -/
def erase (volume : Volume) (location : Location) : Volume :=
  { volume with entries := volume.entries.filter fun entry => entry.1 ≠ location }

/-- The volume with an entry at a location, in place of what stood there. -/
def put (volume : Volume) (location : Location) (entry : Entry) : Volume :=
  { volume with entries := (volume.erase location).entries ++ [(location, entry)] }

/-- A directory stands at the location. -/
def isDirectory (volume : Volume) (location : Location) : Bool :=
  volume.get? location == some .directory

/-- One step from a location: what a name leads to, which need not exist. -/
def stepTo (volume : Volume) (location : Location) (name : String) : Except Fault Location :=
  if volume.isDirectory location then
    if name = "." then .ok location
    else if name = ".." then .ok location.dropLast
    else if maxName < name.utf8ByteSize then .error .nameTooLong
    else .ok (location ++ [name])
  else .error .notDirectory

/-- One step from a location to something that exists. -/
def enter (volume : Volume) (location : Location) (name : String) : Except Fault Location := do
  let next ← volume.stepTo location name
  if (volume.get? next).isSome then return next else throw .notFound

/-- Follows steps, each to something that exists. -/
def follow (volume : Volume) (location : Location) (steps : List String) :
    Except Fault Location :=
  steps.foldlM volume.enter location

/-- Refuses texts that are no paths. -/
def checkPath (path : Path) : Except Fault Unit :=
  if path.toList.any (·.toNat == 0) then .error .zeroByte
  else if path = "" then .error .notFound
  else if maxPath < path.utf8ByteSize then .error .nameTooLong
  else .ok ()

/-- Where a path starts. -/
def start (volume : Volume) (path : Path) : Location :=
  if Path.isAbsolute path then [] else volume.home

/-- The location of an existing entry. A path that ends in a slash has to lead to
a directory. -/
def resolve (volume : Volume) (path : Path) : Except Fault Location := do
  checkPath path
  let location ← volume.follow (volume.start path) (Path.steps path)
  if Path.endsInSlash path && !volume.isDirectory location then throw .notDirectory
  return location

/-- The location of the directory that holds the last step of a path, and that
step; no step for the root. -/
def resolveParent (volume : Volume) (path : Path) : Except Fault (Location × Option String) := do
  checkPath path
  let steps := Path.steps path
  let dir ← volume.follow (volume.start path) steps.dropLast
  if volume.isDirectory dir then return (dir, steps.getLast?) else throw .notDirectory

/-- A path leads to a directory. -/
def leadsToDirectory (volume : Volume) (path : Path) : Bool :=
  match volume.resolve path with
  | .ok location => volume.isDirectory location
  | .error _ => false

/-- The content of the file that a path leads to. -/
def contentOf (volume : Volume) (path : Path) : Except Fault Bytes := do
  match volume.get? (← volume.resolve path) with
  | some (.file _ content) => return content
  | some .directory => throw .isDirectory
  | none => throw .notFound

/-- Reads the file at a path, as far as the device gives its content out. -/
def readFile (volume : Volume) (path : Path) : Except Fault Bytes := do
  volume.device.deliver (← volume.contentOf path)

/-- Adds a directory at a location, if the device makes one. -/
def addDirectory (volume : Volume) (location : Location) : Except Fault Volume :=
  match volume.device.directories with
  | none => .ok (volume.put location .directory)
  | some refusal => .error refusal.fault

/-- Makes a directory. The device is asked only for one that is missing. -/
def makeDirectory (volume : Volume) (path : Path) : Except Fault Volume := do
  match ← volume.resolveParent path with
  | (_, none) => throw .alreadyExists
  | (dir, some name) =>
    if name = "." ∨ name = ".." then throw .alreadyExists
    let location ← volume.stepTo dir name
    if (volume.get? location).isSome then throw .alreadyExists
    volume.addDirectory location

/-- Makes those directories, counted from the longest path, whose parent does not
exist yet: how many there are and the volume with the first one that could be
made. -/
def makeFirst (volume : Volume) : List Path → Except Fault (Nat × Volume)
  | [] => .ok (0, volume)
  | path :: rest =>
    match volume.makeDirectory path with
    | .ok volume => .ok (0, volume)
    | .error .notFound => (makeFirst volume rest).map fun (count, volume) => (count + 1, volume)
    | .error fault =>
      if fault = .alreadyExists ∧ volume.leadsToDirectory path then .ok (0, volume)
      else .error fault

/-- Makes directories in the given order; those that exist are left alone. On
failure the ones made so far remain. -/
def makeEach (volume : Volume) : List Path → Except Fault Unit × Volume
  | [] => (.ok (), volume)
  | path :: rest =>
    match volume.makeDirectory path with
    | .ok volume => makeEach volume rest
    | .error fault =>
      if fault = .alreadyExists ∧ volume.leadsToDirectory path then makeEach volume rest
      else (.error fault, volume)

/-- Makes a directory and all its parents. On failure the directories made so
far remain. -/
def makeDirectories (volume : Volume) (path : Path) : Except Fault Unit × Volume :=
  let ancestors := Path.ancestors path
  match volume.makeFirst ancestors with
  | .error fault => (.error fault, volume)
  | .ok (count, volume) => volume.makeEach (ancestors.take count).reverse

end Volume

end ReleasePage.Files
