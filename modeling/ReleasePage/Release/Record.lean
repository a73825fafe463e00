import ReleasePage.Json.Record
import ReleasePage.Json.Tree

/-!
# Release records

A release as the hosting service describes it: names, addresses and the files
that belong to it. Members of a record that are not listed here are ignored.
-/

namespace ReleasePage

open ReleasePage.Json (Record Tree)
open ReleasePage.Text (Bytes)

/-- A file of a release record. -/
structure AssetRecord where
  /-- The name of the file. -/
  name : String
  /-- The address the file is downloaded from. -/
  downloadUrl : String
  /-- The size in bytes. -/
  size : Nat
  /-- The state of the upload. -/
  state : String
  deriving Repr, DecidableEq

/-- A release as the hosting service describes it. -/
structure ReleaseRecord where
  /-- The name of the release. -/
  name : String
  /-- The address of the release notes. -/
  htmlUrl : String
  /-- The release notes. -/
  body : Option String
  /-- When the release was published. -/
  publishedAt : Option String
  /-- When the release was created. -/
  createdAt : Option String
  /-- The address of the sources as a tarball. -/
  tarballUrl : String
  /-- The address of the sources as a zip archive. -/
  zipballUrl : String
  /-- The release is still a draft. -/
  draft : Bool
  /-- The release is a preview. -/
  prerelease : Bool
  /-- The files of the release. -/
  assets : List AssetRecord
  deriving Repr, DecidableEq

/-- The state of a file whose upload is complete. -/
def uploadedState : String := "uploaded"

/-- The upload of the file is complete. -/
def AssetRecord.isUploaded (asset : AssetRecord) : Bool := asset.state == uploadedState

/-- The fields of a file. -/
def AssetRecord.record : Record AssetRecord where
  title := "RawAsset"
  types := [String, String, Nat, String]
  fields := .cons (.required "name" Json.text) <|
    .cons (.required "browser_download_url" Json.text) <|
    .cons (.required "size" Json.word64) <| .cons (.required "state" Json.text) .nil
  build := fun (name, url, size, state, _) => ⟨name, url, size, state⟩

/-- A file as a tree. -/
def AssetRecord.tree (asset : AssetRecord) : Tree :=
  .object [("name", .text asset.name), ("browser_download_url", .text asset.downloadUrl),
    ("size", .number asset.size), ("state", .text asset.state)]

namespace ReleaseRecord

/-- The release is neither a draft nor a preview. -/
def isPublishable (record : ReleaseRecord) : Bool := !record.draft && !record.prerelease

/-- When the release was published or else created. -/
def timestamp (record : ReleaseRecord) : Option String := record.publishedAt <|> record.createdAt

/-- The fields of a release record. -/
def record : Record ReleaseRecord where
  title := "RawRelease"
  types := [String, String, Option String, Option String, Option String, String, String, Bool,
    Bool, List AssetRecord]
  fields := .cons (.required "name" Json.text) <| .cons (.required "html_url" Json.text) <|
    .cons (.optional "body" Json.text) <| .cons (.optional "published_at" Json.text) <|
    .cons (.optional "created_at" Json.text) <| .cons (.required "tarball_url" Json.text) <|
    .cons (.required "zipball_url" Json.text) <| .cons (.required "draft" Json.boolean) <|
    .cons (.required "prerelease" Json.boolean) <|
    .cons (.required "assets" (Json.list AssetRecord.record.decoder)) .nil
  build := fun (name, htmlUrl, body, publishedAt, createdAt, tarballUrl, zipballUrl, draft,
      prerelease, assets, _) =>
    ⟨name, htmlUrl, body, publishedAt, createdAt, tarballUrl, zipballUrl, draft, prerelease,
      assets⟩

/-- Reads a release record. -/
def parse (input : Bytes) : Except Json.Fault ReleaseRecord := Json.decode record.decoder input

/-- A release record as a tree. -/
def tree (record : ReleaseRecord) : Tree :=
  .object [("name", .text record.name), ("html_url", .text record.htmlUrl),
    ("body", .ofText? record.body), ("published_at", .ofText? record.publishedAt),
    ("created_at", .ofText? record.createdAt), ("tarball_url", .text record.tarballUrl),
    ("zipball_url", .text record.zipballUrl), ("draft", .boolean record.draft),
    ("prerelease", .boolean record.prerelease),
    ("assets", .list (record.assets.map AssetRecord.tree))]

end ReleaseRecord

end ReleasePage
