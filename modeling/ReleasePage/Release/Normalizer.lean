import ReleasePage.Platform.Classifier
import ReleasePage.Release.Display
import ReleasePage.Release.Record
import ReleasePage.Release.Size
import ReleasePage.Time.Zone

/-!
# From records to releases

A release record is turned into the release that is shown. The checks run in a
fixed order: the release has to be publishable, then it needs a date, then each
uploaded file needs a platform. Files that are not uploaded are left out before
anything is asked of them, and of two files with one label the later one stays.
-/

namespace ReleasePage

open ReleasePage.Time (Zone ZoneDatabase DateFault)

/-- Why a record cannot be shown. -/
inductive ReleaseError where
  /-- The record could not be read. -/
  | malformed (fault : Json.Fault)
  /-- The release is a draft or a preview. -/
  | notPublishable (draft prerelease : Bool)
  /-- The record has no timestamp. -/
  | missingDate
  /-- The timestamp could not be read. -/
  | badDate (value : String) (fault : DateFault)
  /-- A file could not be classified. -/
  | platform (error : PlatformError)
  /-- There is no zone of this name. -/
  | unknownZone (name : String)
  deriving Repr, DecidableEq

namespace ReleaseError

/-- The word for a truth value. -/
def truth : Bool → String
  | true => "true"
  | false => "false"

/-- The message of an error. -/
def message : ReleaseError → String
  | .malformed fault => "malformed release record: " ++ fault.message
  | .notPublishable draft prerelease =>
    "release is not publishable (draft: " ++ truth draft ++ ", prerelease: " ++
      truth prerelease ++ ")"
  | .missingDate => "release has no publication date"
  | .badDate value fault => "failed to parse date " ++ Text.quoted value ++ ": " ++ fault.message
  | .platform error => error.message
  | .unknownZone name => "unknown time zone: " ++ name

/-- The error is about the date of the release. -/
def isBadDate : ReleaseError → Bool
  | .missingDate => true
  | .badDate _ _ => true
  | _ => false

end ReleaseError

/-- How records are turned into releases. -/
structure Normalizer where
  /-- How files are classified. -/
  classifier : Classifier
  /-- The zone that dates are shown in. -/
  zone : Zone

namespace Normalizer

/-- The zone of the download page. -/
def standardZone : String := "America/Los_Angeles"

/-- The zone of a name in the database. -/
def zoneNamed [ZoneDatabase] (name : String) : Except ReleaseError Zone :=
  match ZoneDatabase.zone? name with
  | some zone => .ok zone
  | none => .error (.unknownZone name)

/-- The normalizer with given rules, policy and zone name. -/
def ofOptions [ZoneDatabase] (rules : RuleTable) (policy : Policy) (zoneName : String) :
    Except ReleaseError Normalizer := do
  return ⟨⟨rules, policy⟩, ← zoneNamed zoneName⟩

/-- The date that a timestamp is shown as. -/
def showDate (zone : Zone) (timestamp : String) : Except ReleaseError String :=
  match zone.showDate timestamp with
  | .ok text => .ok text
  | .error fault => .error (.badDate timestamp fault)

/-- The download that an uploaded file becomes. -/
def assetOf (asset : AssetRecord) (platform : Platform) : Asset :=
  ⟨platform.cpu, asset.name, sizeText asset.size, asset.downloadUrl⟩

/-- Adds a file to the table, if it is uploaded. -/
def addAsset (classifier : Classifier) (table : AssetTable) (asset : AssetRecord) :
    Except PlatformError AssetTable :=
  if asset.isUploaded then
    match classifier.classify asset.name with
    | .ok platform => .ok (table.insert platform.os (assetOf asset platform))
    | .error error => .error error
  else .ok table

/-- Adds files to the table, one after the other. -/
def addAssets (classifier : Classifier) :
    AssetTable → List AssetRecord → Except PlatformError AssetTable
  | table, [] => .ok table
  | table, asset :: rest =>
    match addAsset classifier table asset with
    | .ok table => addAssets classifier table rest
    | .error error => .error error

/-- The release that a record describes. -/
def normalize (normalizer : Normalizer) (record : ReleaseRecord) : Except ReleaseError Release :=
  if record.isPublishable then
    match record.timestamp with
    | none => .error .missingDate
    | some timestamp =>
      match showDate normalizer.zone timestamp with
      | .error error => .error error
      | .ok date =>
        match addAssets normalizer.classifier .empty record.assets with
        | .error error => .error (.platform error)
        | .ok assets => .ok {
            name := record.name
            htmlUrl := record.htmlUrl
            body := record.body.getD ""
            date := date
            tarball := ⟨record.tarballUrl, record.name ++ ".tar"⟩
            zipball := ⟨record.zipballUrl, record.name ++ ".zip"⟩
            assets := assets }
  else .error (.notPublishable record.draft record.prerelease)

/-- Reads a record and turns it into a release. -/
def release (normalizer : Normalizer) (input : Text.Bytes) : Except ReleaseError Release :=
  match ReleaseRecord.parse input with
  | .error fault => .error (.malformed fault)
  | .ok record => normalizer.normalize record

end Normalizer

end ReleasePage
