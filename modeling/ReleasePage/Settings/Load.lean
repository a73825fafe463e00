import ReleasePage.Cache.Refresh
import ReleasePage.Settings.Schema
import ReleasePage.Settings.Toml.Document
import ReleasePage.Settings.Variable
import ReleasePage.Text.Utf8

/-!
# Loading settings

The standard settings are the lowest layer, the settings file is laid over them,
and the environment variables over both. A settings file that does not exist is
no error. What commands derive from the settings stands here as well.
-/

namespace ReleasePage.Settings

open ReleasePage.Files (Location Path Volume)
open ReleasePage.Text (Bytes)
open ReleasePage.Time (ZoneDatabase)

/-- The members of a tree that is a table. -/
def Tree.members : Tree → List (String × Tree)
  | .leaf _ _ => []
  | .table _ members => members

/-- All layers as one tree: the standard settings, a file with the path that
messages show, and the layer of the environment variables. -/
def layered (file : Option (String × Value)) (overrides : Tree) : Tree :=
  Tree.ofLayers (Tree.ofValue .defaults standard.toValue)
    ((file.map fun (shown, value) => Tree.ofValue (.file shown) value).toList ++ [overrides])

/-- The settings that a file and the layer of the environment variables give. -/
def combine (file : Option (String × Value)) (overrides : Tree) :
    Except SettingsError Settings :=
  ofMembers (layered file overrides).members

/-- The steps that lead from a directory to a place. -/
def stepsFrom : (directory place : Location) → List String
  | here :: rest, name :: names =>
    if here = name then stepsFrom rest names
    else List.replicate (rest.length + 1) ".." ++ name :: names
  | rest, names => List.replicate rest.length ".." ++ names

/-- The places where the file of a path is looked for: an absolute path stands
for itself, any other one is tried in the home directory and in its parents. -/
def candidates (home : Location) (path : Path) : List Location :=
  let steps := (Path.steps path).filter (· ≠ ".")
  if Path.isAbsolute path then [steps]
  else (List.range (home.length + 1)).map fun up => home.take (home.length - up) ++ steps

/-- The path of a place, a slash at its end if the path asked for has one. -/
def placePath (path : Path) (place : Location) : Path :=
  "/" ++ Text.joined "/" place ++ (if Path.endsInSlash path then "/" else "")

/-- Finds the file of a path: the path that messages show and the content. -/
def findFile (volume : Volume) (path : Path) : Option (String × Bytes) :=
  (candidates volume.home path).findSome? fun place =>
    match volume.contentOf (placePath path place) with
    | .ok content => some (Text.joined "/" (stepsFrom volume.home place), content)
    | .error _ => none

/-- Reads the content of a settings file. -/
def readFile (shown : String) (content : Bytes) : Except SettingsError Value :=
  match Text.Utf8.decode? content with
  | none => .error (.notText shown)
  | some text =>
    match Toml.readDocument text with
    | none => .error (.malformed shown)
    | some value => .ok value

/-- The settings that the file of a path and environment variables give. A
variable that cannot be used comes before anything wrong with the file. -/
def load (volume : Volume) (path : Path) (environment : Environment) :
    Except SettingsError Settings := do
  match variableLayer? environment with
  | none => .error .splitCharacter
  | some overrides =>
    match findFile volume path with
    | none => combine none overrides
    | some (shown, content) =>
      let given ← (volume.device.deliver content).mapError (.unreadable shown)
      let value ← readFile shown given
      combine (some (shown, value)) overrides

/-- The path of the settings file unless another one is given. -/
def standardPath : Path := "relsite.toml"

/-- The address of the newest release. -/
def latestReleaseUrl (settings : Settings) : String :=
  Web.latestReleaseUrl settings.service.base settings.service.owner settings.service.repo

/-- How long a request may take. -/
def timeout (settings : Settings) : Number.Duration := .ofSeconds settings.service.timeoutSeconds

/-- The normalizer with the standard rules, a policy and the zone of the
settings. -/
def normalizer [ZoneDatabase] (settings : Settings) (policy : Policy) : Except ReleaseError Normalizer :=
  Normalizer.ofOptions .standard policy settings.rendering.zone

/-- How the cache is refreshed: files that no rule knows are let through. -/
def refreshOptions [ZoneDatabase] (settings : Settings) : Except ReleaseError Cache.RefreshOptions := do
  let normalizer ← settings.normalizer .lenient
  return ⟨settings.latestReleaseUrl, settings.caching.version, settings.timeout, normalizer⟩

/-- The store of the cache. -/
def store (settings : Settings) : Cache.Store Volume :=
  .file settings.caching.path settings.caching.maxBytes

end ReleasePage.Settings
