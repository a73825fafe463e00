import ReleasePage.Cache.Store
import ReleasePage.Json.Tree
import ReleasePage.Release.Normalizer
import ReleasePage.Settings.Layer
import ReleasePage.Text.Case
import ReleasePage.Text.Pieces
import ReleasePage.Web.Address

/-!
# The settings of the program

Settings come in three sections. They are read off one tree of values: a
section may be a table, whose unknown members are ignored, or a list of its
settings in their own order; what is missing has its standard value. The first
value of a wrong kind is reported with its path and origin.
-/

namespace ReleasePage.Settings

/-- Where releases and issues are asked for. -/
structure Service where
  /-- The base of all addresses. -/
  base : String
  /-- The owner of the repository. -/
  owner : String
  /-- The repository. -/
  repo : String
  /-- The name the program gives of itself. -/
  agent : String
  /-- How long a request may take, in seconds. -/
  timeoutSeconds : Nat
  deriving Repr, DecidableEq

/-- How releases are shown. -/
structure Rendering where
  /-- The name of the time zone of dates. -/
  zone : String
  /-- The file of the staged record. -/
  snapshot : String
  deriving Repr, DecidableEq

/-- How the last release is remembered. -/
structure Caching where
  /-- The file of the record. -/
  path : String
  /-- The version of the record's layout. -/
  version : Nat
  /-- The greatest size of the record in bytes. -/
  maxBytes : Nat
  deriving Repr, DecidableEq

end ReleasePage.Settings

namespace ReleasePage

/-- All settings of the program. -/
structure Settings where
  /-- Where releases and issues are asked for. -/
  service : Settings.Service
  /-- How releases are shown. -/
  rendering : Settings.Rendering
  /-- How the last release is remembered. -/
  caching : Settings.Caching
  deriving Repr, DecidableEq

end ReleasePage

namespace ReleasePage.Settings

/-- The settings that hold unless others are given. -/
def standard : Settings where
  service := ⟨Web.standardBase, "dshearer", "jobber", "relsite", 10⟩
  rendering := ⟨Normalizer.standardZone, "latest-release.json"⟩
  caching := ⟨".relsite/latest-release.json", CacheRecord.currentVersion, Cache.standardLimit⟩

/-- How a value fails to be what a setting needs. -/
inductive Mismatch where
  /-- The value is of another kind. -/
  | wrongKind (found : Value) (expected : String)
  /-- The value is a number outside the range of the setting. -/
  | outOfRange (found : Value) (expected : String)
  deriving Repr

/-- The message of a mismatch. -/
def Mismatch.message : Mismatch → String
  | .wrongKind found expected =>
    "invalid type: found " ++ found.description ++ ", expected " ++ expected
  | .outOfRange found expected =>
    "invalid value " ++ found.description ++ ", expected " ++ expected

/-- Why settings cannot be used. -/
inductive SettingsError where
  /-- A quoted text in an environment variable is split inside a character. -/
  | splitCharacter
  /-- A settings file cannot be read. -/
  | unreadable (shown : String) (fault : Files.Fault)
  /-- A settings file is not in UTF-8. -/
  | notText (shown : String)
  /-- A settings file is malformed. -/
  | malformed (shown : String)
  /-- A value does not fit the setting at its path. -/
  | mismatch (path : List String) (origin : Origin) (cause : Mismatch)
  deriving Repr

/-- The path of a setting in a message. -/
def Origin.keyText (path : List String) : Origin → String
  | .variables =>
    Text.joined "." (path.map fun name => String.ofList (Text.asciiUpper name.toList))
  | _ => Text.joined "." ("default" :: path)

/-- The end of a message that tells where a value comes from. -/
def Origin.ending : Origin → String
  | .defaults => ""
  | .file shown => " in " ++ shown ++ " TOML file"
  | .variables => " in `RELSITE_` environment variable(s)"

/-- The message of an error. -/
def SettingsError.message : SettingsError → String
  | .splitCharacter => "character split" ++ Origin.variables.ending
  | .unreadable shown fault => fault.message ++ (Origin.file shown).ending
  | .notText shown => "stream did not contain valid UTF-8" ++ (Origin.file shown).ending
  | .malformed shown => "TOML parse error" ++ (Origin.file shown).ending
  | .mismatch path origin cause =>
    cause.message ++ " for key " ++ Text.quoted (origin.keyText path) ++ origin.ending

/-- A value that has to be a text. -/
def readTextAs (expected : String) : Value → Except Mismatch String
  | .text value => .ok value
  | found => .error (.wrongKind found expected)

/-- A value that has to be a natural number below a limit. -/
def readNumberBelow (limit : Nat) (expected : String) : Value → Except Mismatch Nat
  | .signed value =>
    if 0 ≤ value ∧ value < limit then .ok value.toNat
    else .error (.outOfRange (.signed value) expected)
  | .unsigned value =>
    if value < limit then .ok value else .error (.outOfRange (.unsigned value) expected)
  | found => .error (.wrongKind found expected)

/-- A text. -/
def readText : Value → Except Mismatch String := readTextAs "a string"

/-- The path of a file. -/
def readPath : Value → Except Mismatch String := readTextAs "path string"

/-- A number of seconds. -/
def readSeconds : Value → Except Mismatch Nat := readNumberBelow Number.words64 "u64"

/-- A version number. -/
def readVersion : Value → Except Mismatch Nat := readNumberBelow Number.words32 "u32"

/-- A number of bytes. -/
def readByteCount : Value → Except Mismatch Nat := readNumberBelow Number.words64 "usize"

/-- The content of a section. -/
inductive Content where
  /-- Settings by name. -/
  | named (members : List (String × Tree))
  /-- Settings by position, all of one origin. -/
  | listed (origin : Origin) (items : List Value)

/-- The content of the section `name` of a table, which has to be a table or a
list. A section that is missing has no settings. -/
def contentOf (name kind : String) (members : List (String × Tree)) :
    Except SettingsError Content :=
  match members.lookup name with
  | none => .ok (.named [])
  | some (.table _ inner) => .ok (.named inner)
  | some (.leaf origin (.list items)) => .ok (.listed origin items)
  | some (.leaf origin found) => .error (.mismatch [name] origin (.wrongKind found kind))

/-- Reads one setting of a section: by its name or by its position, or its
standard value if it is missing. -/
def Content.read {α : Type} (content : Content) (within name : String) (position : Nat)
    (reader : Value → Except Mismatch α) (standard : α) : Except SettingsError α :=
  match content with
  | .named members =>
    match members.lookup name with
    | none => .ok standard
    | some tree => (reader tree.value).mapError (.mismatch [within, name] tree.origin)
  | .listed origin items =>
    match items[position]? with
    | none => .ok standard
    | some value =>
      (reader value).mapError (.mismatch [within, Nat.repr position] origin)

/-- The settings of a section are given by position. -/
def Content.isListed : Content → Bool
  | .named _ => false
  | .listed _ _ => true

/-- Reads the service section. Named settings are looked at in the order of
their names, listed ones in their own order. -/
def readService (members : List (String × Tree)) (standard : Service) :
    Except SettingsError Service := do
  let content ← contentOf "upstream" "struct Upstream" members
  let base ← content.read "upstream" "api_base" 0 readText standard.base
  let owner ← content.read "upstream" "owner" 1 readText standard.owner
  let repo ← content.read "upstream" "repo" 2 readText standard.repo
  let agent := content.read "upstream" "user_agent" 3 readText standard.agent
  let timeout := content.read "upstream" "timeout_secs" 4 readSeconds standard.timeoutSeconds
  if content.isListed then
    return ⟨base, owner, repo, ← agent, ← timeout⟩
  else
    let timeout ← timeout
    return ⟨base, owner, repo, ← agent, timeout⟩

/-- Reads the rendering section, in the same order as the service section. -/
def readRendering (members : List (String × Tree)) (standard : Rendering) :
    Except SettingsError Rendering := do
  let content ← contentOf "render" "struct Render" members
  let zone := content.read "render" "time_zone" 0 readText standard.zone
  let snapshot := content.read "render" "snapshot" 1 readPath standard.snapshot
  if content.isListed then
    return ⟨← zone, ← snapshot⟩
  else
    let snapshot ← snapshot
    return ⟨← zone, snapshot⟩

/-- Reads the caching section, in the same order as the service section. -/
def readCaching (members : List (String × Tree)) (standard : Caching) :
    Except SettingsError Caching := do
  let content ← contentOf "cache" "struct Cache" members
  let path := content.read "cache" "path" 0 readPath standard.path
  let version := content.read "cache" "schema_version" 1 readVersion standard.version
  let maxBytes := content.read "cache" "max_bytes" 2 readByteCount standard.maxBytes
  if content.isListed then
    return ⟨← path, ← version, ← maxBytes⟩
  else
    let maxBytes ← maxBytes
    return ⟨← path, ← version, maxBytes⟩

/-- The settings that the members of a tree give, section by section in the
order of their names. -/
def ofMembers (members : List (String × Tree)) : Except SettingsError Settings := do
  let caching ← readCaching members standard.caching
  let rendering ← readRendering members standard.rendering
  let service ← readService members standard.service
  return ⟨service, rendering, caching⟩

/-- The settings as a value, sections and settings by name. -/
def toValue (settings : Settings) : Value :=
  .table [
    ("cache", .table [
      ("max_bytes", .unsigned settings.caching.maxBytes),
      ("path", .text settings.caching.path),
      ("schema_version", .unsigned settings.caching.version)]),
    ("render", .table [
      ("snapshot", .text settings.rendering.snapshot),
      ("time_zone", .text settings.rendering.zone)]),
    ("upstream", .table [
      ("api_base", .text settings.service.base),
      ("owner", .text settings.service.owner),
      ("repo", .text settings.service.repo),
      ("timeout_secs", .unsigned settings.service.timeoutSeconds),
      ("user_agent", .text settings.service.agent)])]

/-- The settings as a tree for writing. -/
def tree (settings : Settings) : Json.Tree :=
  .object [
    ("upstream", .object [
      ("api_base", .text settings.service.base),
      ("owner", .text settings.service.owner),
      ("repo", .text settings.service.repo),
      ("user_agent", .text settings.service.agent),
      ("timeout_secs", .number settings.service.timeoutSeconds)]),
    ("render", .object [
      ("time_zone", .text settings.rendering.zone),
      ("snapshot", .text settings.rendering.snapshot)]),
    ("cache", .object [
      ("path", .text settings.caching.path),
      ("schema_version", .number settings.caching.version),
      ("max_bytes", .number settings.caching.maxBytes)])]

end ReleasePage.Settings
