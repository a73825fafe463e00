import Mathlib
import ReleasePage.Cache.Record
import ReleasePage.Page.Format
import ReleasePage.Proofs.AssetTable
import ReleasePage.Proofs.Json.Reading

/-!
# Reading back what was written

Releases and cache records are read back unchanged from what is written of them,
in one line or over several lines. Of a release this needs that its table of
downloads was built by insertions, since reading inserts the entries again; of a
cache record it also needs that the version fits in its field.
-/

namespace ReleasePage

open ReleasePage.Json (Reads)

/-- A value that may be absent is read from its tree. -/
theorem Json.reads_ofOption {α : Type} {item : Decoder α} {tree : α → Tree} {value? : Option α}
    (h : ∀ value ∈ value?, Reads item value (tree value)) (hn : ∀ value, tree value ≠ .null) :
    Reads (optional item) value? (.ofOption tree value?) := by
  cases value? with
  | none => exact reads_optional_none item
  | some value => exact reads_optional_some (h value rfl) (hn value)

/-- A download of the sources is read from its tree. -/
theorem SourceArtifact.reads (artifact : SourceArtifact) :
    Reads SourceArtifact.record.decoder artifact artifact.tree := by
  have h : SourceArtifact.record.fields.Reads (artifact.url, artifact.name, ())
      [("url", .text artifact.url), ("name", .text artifact.name)] :=
    ⟨_, _, rfl, Json.reads_text artifact.url, _, _, rfl, Json.reads_text artifact.name, rfl⟩
  exact Json.reads_record SourceArtifact.record (by decide) h

/-- A download is read from its tree. -/
theorem Asset.reads (asset : Asset) : Reads Asset.record.decoder asset asset.tree := by
  have h : Asset.record.fields.Reads (asset.cpu, asset.name, asset.size, asset.url, ())
      [("cpu", .text asset.cpu), ("name", .text asset.name), ("size", .text asset.size),
        ("url", .text asset.url)] :=
    ⟨_, _, rfl, Json.reads_text asset.cpu, _, _, rfl, Json.reads_text asset.name,
      _, _, rfl, Json.reads_text asset.size, _, _, rfl, Json.reads_text asset.url, rfl⟩
  exact Json.reads_record Asset.record (by decide) h

/-- A built table is read from its tree. -/
theorem AssetTable.reads {table : AssetTable} (h : table.Built) :
    Reads AssetTable.decoder table table.tree := by
  have ht := Json.reads_table Asset.reads "a map of OS labels to assets" AssetTable.insert
    table.entries .empty
  rw [h.foldl_insert] at ht
  exact ht

/-- A release is read from its tree. -/
theorem Release.reads {release : Release} (h : release.assets.Built) :
    Reads Release.record.decoder release release.tree := by
  have hs := Json.reads_pair release.tarball.reads release.zipball.reads
  have hf : Release.record.fields.Reads (release.name, release.htmlUrl, release.body, release.date,
      (release.tarball, release.zipball), release.assets, ())
      [("name", .text release.name), ("html_url", .text release.htmlUrl),
        ("body", .text release.body), ("date", .text release.date),
        ("source_artifacts", .list (release.sources.map SourceArtifact.tree)),
        ("binary_assets", release.assets.tree)] :=
    ⟨_, _, rfl, Json.reads_text release.name, _, _, rfl, Json.reads_text release.htmlUrl,
      _, _, rfl, Json.reads_text release.body, _, _, rfl, Json.reads_text release.date,
      _, _, rfl, hs, _, _, rfl, AssetTable.reads h, rfl⟩
  exact Json.reads_record Release.record (by decide) hf

namespace CacheRecord

/-- A record that can be written and read back: its version fits in its field, and
its table of downloads was built by insertions. -/
structure Valid (record : CacheRecord) : Prop where
  /-- The version fits in 32 bits. -/
  version_lt : record.version < Number.words32
  /-- The table of downloads was built by insertions. -/
  built : ∀ release ∈ record.release, release.assets.Built

/-- A cache record is read from its tree. -/
theorem reads {record : CacheRecord} (h : record.Valid) :
    Reads CacheRecord.record.decoder record record.tree := by
  have hv : Reads Json.word32 record.version (.number record.version) :=
    Json.reads_natural (Nat.le_sub_one_of_lt h.version_lt) (by decide) "u32"
  have hr : Reads (Json.optional Release.record.decoder) record.release
      (.ofOption Release.tree record.release) :=
    Json.reads_ofOption (fun release hm => Release.reads (h.built release hm))
      fun release => Json.Tree.noConfusion
  have ht : Reads (Json.optional Json.text) record.token (.ofText? record.token) :=
    Json.reads_ofOption (fun token _ => Json.reads_text token) fun token => Json.Tree.noConfusion
  have hf : CacheRecord.record.fields.Reads (record.version, record.release, record.token, ())
      [("v", .number record.version), ("release", .ofOption Release.tree record.release),
        ("etag", .ofText? record.token)] :=
    ⟨_, _, rfl, hv, _, _, rfl, hr, _, _, rfl, ht, rfl⟩
  exact Json.reads_record CacheRecord.record (by decide) hf

/-- A cache record is read back from its bytes. -/
theorem parse_encode {record : CacheRecord} (h : record.Valid) :
    parse record.encode = .ok record := by
  have hd := Json.decode_written (reads h) (Json.written_compact record.tree) Json.blank_nil
  rw [List.append_nil] at hd
  rw [parse, encode, Json.Tree.compactText, Json.bytes_ofList]
  exact hd

end CacheRecord

namespace Release

/-- A release is read back from its text in one line. -/
theorem decode_compact {release : Release} (h : release.assets.Built) :
    Json.decode record.decoder (Text.bytes release.tree.compactText) = .ok release := by
  have hd := Json.decode_written (reads h) (Json.written_compact release.tree) Json.blank_nil
  rw [List.append_nil] at hd
  rw [Json.Tree.compactText, Json.bytes_ofList]
  exact hd

/-- A release is read back from its text over several lines, whatever white space
follows. -/
theorem decode_pretty {release : Release} (h : release.assets.Built) (space : String)
    (hs : Json.Blank (Text.bytes space)) :
    Json.decode record.decoder (Text.bytes (release.tree.prettyText ++ space)) = .ok release := by
  rw [Text.bytes_append, Json.Tree.prettyText, Json.bytes_ofList]
  exact Json.decode_written (reads h) (Json.written_prettyAt 0 release.tree) hs

end Release

/-- Cache records and releases are read back unchanged from every form in which
they are stored or published. -/
theorem decode_undoes_encode :
    (∀ record : CacheRecord, record.Valid → CacheRecord.parse record.encode = .ok record) ∧
    ∀ release : Release, release.assets.Built →
      Json.decode Release.record.decoder (Text.bytes release.tree.compactText) = .ok release ∧
      Json.decode Release.record.decoder (Text.bytes release.tree.prettyText) = .ok release ∧
      Json.decode Release.record.decoder (Text.bytes (Page.render .json release)) =
        .ok release := by
  refine ⟨fun record h => CacheRecord.parse_encode h, fun release h => ⟨?_, ?_, ?_⟩⟩
  · exact Release.decode_compact h
  · have hp := Release.decode_pretty h "" Json.blank_nil
    rwa [String.append_empty] at hp
  · exact Release.decode_pretty h "\n" (Json.blank_newLine 0)

/-- A release whose texts need every kind of escape, with two downloads. -/
def sampleRelease : Release where
  name := "v1.0 \"beta\" \\ \u0000\u001f\u007f"
  htmlUrl := ""
  body := "line\r\n\t\u0008\u000c\u00e9\u20ac\ud7ff\uffff" ++ String.singleton (Char.ofNat 0x10ffff)
  date := "Jan 1, 2020"
  tarball := ⟨"/t", "t.tar"⟩
  zipball := ⟨"/z", "z.zip"⟩
  assets := (AssetTable.empty.insert "CentOS 10" ⟨"x64", "b", "1 MB", "u"⟩).insert "CentOS 7"
    ⟨"ARM \"64\"", "a", "2 MB", "u"⟩

/-- The sample release in a record of the greatest version is read back from all
its forms. -/
theorem decode_undoes_encode_sample :
    CacheRecord.parse (CacheRecord.encode ⟨4294967295, some sampleRelease, some "W/\"1\""⟩) =
      .ok ⟨4294967295, some sampleRelease, some "W/\"1\""⟩ ∧
    Json.decode Release.record.decoder (Text.bytes (Page.render .json sampleRelease)) =
      .ok sampleRelease := by
  have hb : sampleRelease.assets.Built := by
    simp only [sampleRelease]
    exact (AssetTable.Built.empty.insert _ _).insert _ _
  refine ⟨decode_undoes_encode.1 _ ⟨by decide, ?_⟩, (decode_undoes_encode.2 _ hb).2.2⟩
  intro release hr
  cases hr
  exact hb

end ReleasePage
