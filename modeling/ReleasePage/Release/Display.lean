import ReleasePage.Json.Record
import ReleasePage.Json.Tree
import ReleasePage.Release.Order

/-!
# Releases for display

What the download page shows of a release. The files for the various operating
systems stand in a table with one file per label, kept in natural order of the
labels.
-/

namespace ReleasePage

open ReleasePage.Json (Record Tree)

/-- A download of the sources. -/
structure SourceArtifact where
  /-- The address of the archive. -/
  url : String
  /-- The name of the archive. -/
  name : String
  deriving Repr, DecidableEq

/-- A download for one operating system. -/
structure Asset where
  /-- The processor label. -/
  cpu : String
  /-- The name of the file. -/
  name : String
  /-- The size as it is shown. -/
  size : String
  /-- The address of the file. -/
  url : String
  deriving Repr, DecidableEq

/-- Downloads by operating-system label. -/
structure AssetTable where
  /-- Labels and downloads, in the order they are shown. -/
  entries : List (String × Asset)
  deriving Repr, DecidableEq

namespace AssetTable

/-- The table without entries. -/
def empty : AssetTable := ⟨[]⟩

/-- The download of a label. -/
def get? (table : AssetTable) (os : String) : Option Asset := table.entries.lookup os

/-- The labels in order. -/
def keys (table : AssetTable) : List String := table.entries.map (·.1)

/-- The number of entries. -/
def size (table : AssetTable) : Nat := table.entries.length

/-- The entries with that of `os` replaced. -/
def replace (os : String) (asset : Asset) : List (String × Asset) → List (String × Asset)
  | [] => []
  | entry :: rest =>
    if entry.1 = os then (os, asset) :: rest else entry :: replace os asset rest

/-- The number of entries whose label is smaller than `os`, found by halving. The
entries have to be in order. -/
def position (os : String) (entries : List (String × Asset)) : Nat :=
  let half := entries.length / 2
  match entries[half]? with
  | none => 0
  | some middle =>
    if half = 0 then
      if naturalCompare middle.1 os = .lt then 1 else 0
    else if naturalCompare middle.1 os = .lt then half + position os (entries.drop half)
    else position os (entries.take (entries.length - half))
termination_by entries.length
decreasing_by
  · rw [List.length_drop]
    omega
  · rw [List.length_take]
    omega

/-- The entries with a new one behind those with smaller labels. -/
def place (os : String) (asset : Asset) (entries : List (String × Asset)) :
    List (String × Asset) :=
  entries.insertIdx (position os entries) (os, asset)

/-- Puts a download under a label: the download that was there before, and the
table afterwards. -/
def exchange (table : AssetTable) (os : String) (asset : Asset) : Option Asset × AssetTable :=
  match table.get? os with
  | some old => (some old, ⟨replace os asset table.entries⟩)
  | none => (none, ⟨place os asset table.entries⟩)

/-- The table with a download under a label, in place of the one that was there
before. -/
def insert (table : AssetTable) (os : String) (asset : Asset) : AssetTable :=
  (table.exchange os asset).2

end AssetTable

/-- A published release, ready to be shown. -/
structure Release where
  /-- The name of the release. -/
  name : String
  /-- The address of the release notes. -/
  htmlUrl : String
  /-- The release notes. -/
  body : String
  /-- The date as it is shown. -/
  date : String
  /-- The sources as a tarball. -/
  tarball : SourceArtifact
  /-- The sources as a zip archive. -/
  zipball : SourceArtifact
  /-- The files for the operating systems. -/
  assets : AssetTable
  deriving Repr, DecidableEq

/-- The downloads of the sources, the tarball first. -/
def Release.sources (release : Release) : List SourceArtifact := [release.tarball, release.zipball]

/-- The fields of a download of the sources. -/
def SourceArtifact.record : Record SourceArtifact where
  title := "SourceArtifact"
  types := [String, String]
  fields := .cons (.required "url" Json.text) <| .cons (.required "name" Json.text) .nil
  build := fun (url, name, _) => ⟨url, name⟩

/-- A download of the sources as a tree. -/
def SourceArtifact.tree (artifact : SourceArtifact) : Tree :=
  .object [("url", .text artifact.url), ("name", .text artifact.name)]

/-- The fields of a download. -/
def Asset.record : Record Asset where
  title := "Asset"
  types := [String, String, String, String]
  fields := .cons (.required "cpu" Json.text) <| .cons (.required "name" Json.text) <|
    .cons (.required "size" Json.text) <| .cons (.required "url" Json.text) .nil
  build := fun (cpu, name, size, url, _) => ⟨cpu, name, size, url⟩

/-- A download as a tree. -/
def Asset.tree (asset : Asset) : Tree :=
  .object [("cpu", .text asset.cpu), ("name", .text asset.name), ("size", .text asset.size),
    ("url", .text asset.url)]

/-- Reads a table from an object. A label that occurs again replaces what was
read before. -/
def AssetTable.decoder : Json.Decoder AssetTable :=
  Json.table "a map of OS labels to assets" Asset.record.decoder .empty AssetTable.insert

/-- A table as a tree. -/
def AssetTable.tree (table : AssetTable) : Tree :=
  .object (table.entries.map fun (os, asset) => (os, asset.tree))

/-- The fields of a release. -/
def Release.record : Record Release where
  title := "Release"
  types := [String, String, String, String, SourceArtifact × SourceArtifact, AssetTable]
  fields := .cons (.required "name" Json.text) <| .cons (.required "html_url" Json.text) <|
    .cons (.required "body" Json.text) <| .cons (.required "date" Json.text) <|
    .cons (.required "source_artifacts" (Json.pair SourceArtifact.record.decoder)) <|
    .cons (.required "binary_assets" AssetTable.decoder) .nil
  build := fun (name, htmlUrl, body, date, (tarball, zipball), assets, _) =>
    ⟨name, htmlUrl, body, date, tarball, zipball, assets⟩

/-- A release as a tree. -/
def Release.tree (release : Release) : Tree :=
  .object [("name", .text release.name), ("html_url", .text release.htmlUrl),
    ("body", .text release.body), ("date", .text release.date),
    ("source_artifacts", .list (release.sources.map SourceArtifact.tree)),
    ("binary_assets", release.assets.tree)]

end ReleasePage
