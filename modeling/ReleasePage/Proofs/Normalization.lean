import Mathlib
import ReleasePage.Proofs.Time.ShownDate
import ReleasePage.Proofs.Uploads

/-!
# What a normalizer makes of a record

Four checks decide in a fixed order whether a record becomes a release: it has to be
publishable, to have a timestamp, the timestamp has to be readable, and under the strict
policy a rule has to fit each uploaded file. The release is then determined by what it
shows: one download for each operating-system label of the uploaded files, made from the
last of them. The function that makes releases does exactly this.
-/

namespace ReleasePage

open ReleasePage.Time (DateFault Timestamp)

namespace ReleaseRecord

/-- The release is neither a draft nor a preview. -/
def Published (record : ReleaseRecord) : Prop := record.draft = false ∧ record.prerelease = false

/-- The moment that is shown: when the release was published, or else created. -/
def DatedBy (record : ReleaseRecord) (timestamp : String) : Prop :=
  record.publishedAt = some timestamp ∨
    record.publishedAt = none ∧ record.createdAt = some timestamp

/-- The record of a release that was published for good, neither a draft nor a preview, can be
shown. -/
theorem isPublishable_iff {record : ReleaseRecord} :
    record.isPublishable = true ↔ record.Published := by
  rw [isPublishable, Published, Bool.and_eq_true, Bool.not_eq_true', Bool.not_eq_true']

/-- The timestamp of a record is the one that dates it. -/
theorem timestamp_eq_some {record : ReleaseRecord} {timestamp : String} :
    record.timestamp = some timestamp ↔ record.DatedBy timestamp := by
  rw [ReleaseRecord.timestamp, DatedBy]
  cases record.publishedAt <;> simp

/-- A record has no timestamp exactly if it was neither published nor created at a moment. -/
theorem timestamp_eq_none {record : ReleaseRecord} :
    record.timestamp = none ↔ record.publishedAt = none ∧ record.createdAt = none := by
  rw [ReleaseRecord.timestamp]
  cases record.publishedAt <;> simp

/-- The release of a record with a date and a table of downloads. -/
def toRelease (record : ReleaseRecord) (date : String) (assets : AssetTable) : Release where
  name := record.name
  htmlUrl := record.htmlUrl
  body := record.body.getD ""
  date := date
  tarball := ⟨record.tarballUrl, record.name ++ ".tar"⟩
  zipball := ⟨record.zipballUrl, record.name ++ ".zip"⟩
  assets := assets

end ReleaseRecord

namespace Normalizer

open Time.Zone (showDate_eq_error)

/-- What a release shows of a record. -/
structure Shows (normalizer : Normalizer) (record : ReleaseRecord) (release : Release) : Prop where
  /-- The name is kept. -/
  name : release.name = record.name
  /-- So is the address of the release notes. -/
  htmlUrl : release.htmlUrl = record.htmlUrl
  /-- Release notes that are absent are empty. -/
  body : release.body = record.body.getD ""
  /-- The date is the one of the zone at the moment that is shown. -/
  date : ∃ timestamp, record.DatedBy timestamp ∧
    normalizer.zone.showDate timestamp = .ok release.date
  /-- The tarball comes before the zip archive, and both are named for the release. -/
  sources : release.sources = [⟨record.tarballUrl, record.name ++ ".tar"⟩,
    ⟨record.zipballUrl, record.name ++ ".zip"⟩]
  /-- The labels rise in natural order. -/
  rising : release.assets.keys.Pairwise fun a b => naturalCompare a b = .lt
  /-- They are the labels of the uploaded files. -/
  labels : ∀ os, os ∈ release.assets.keys ↔
    ∃ asset ∈ record.assets, ∃ cpu, normalizer.classifier.Labels asset ⟨os, cpu⟩
  /-- A label leads to what the last of its files is downloaded as. -/
  downloads : ∀ os download, release.assets.get? os = some download ↔
    ∃ asset cpu, normalizer.classifier.LastLabelled record.assets ⟨os, cpu⟩ asset ∧
      download = ⟨cpu, asset.name, sizeText asset.size, asset.downloadUrl⟩

/-- What a record has to become: one case for each outcome. -/
inductive Yields (normalizer : Normalizer) (record : ReleaseRecord) :
    Except ReleaseError Release → Prop where
  /-- Drafts and previews are refused, whatever else is wrong with them. -/
  | notPublishable (h : record.draft = true ∨ record.prerelease = true) :
    Yields normalizer record (.error (.notPublishable record.draft record.prerelease))
  /-- Then records without any timestamp. -/
  | missingDate (hp : record.Published)
    (ht : record.publishedAt = none ∧ record.createdAt = none) :
    Yields normalizer record (.error .missingDate)
  /-- Then those whose timestamp cannot be read. -/
  | badDate (hp : record.Published) {timestamp : String} (ht : record.DatedBy timestamp)
    {fault : DateFault} (hd : Timestamp.read (Text.bytes timestamp) = .error fault) :
    Yields normalizer record (.error (.badDate timestamp fault))
  /-- Then, under the strict policy, those with an uploaded file that no rule fits; the
  first such file is named. -/
  | unrecognized (hp : record.Published) {timestamp : String} (ht : record.DatedBy timestamp)
    {stamp : Timestamp} (hd : Timestamp.read (Text.bytes timestamp) = .ok stamp)
    (hs : normalizer.classifier.policy = .strict) {asset : AssetRecord}
    (hf : normalizer.classifier.rules.FirstUnknown record.assets asset) :
    Yields normalizer record (.error (.platform (.unrecognized asset.name)))
  /-- All other records are shown. -/
  | shown (hp : record.Published) {timestamp : String} (ht : record.DatedBy timestamp)
    {stamp : Timestamp} (hd : Timestamp.read (Text.bytes timestamp) = .ok stamp)
    (ha : normalizer.classifier.policy = .strict →
      normalizer.classifier.rules.Knows record.assets)
    {release : Release} (hr : normalizer.Shows record release) :
    Yields normalizer record (.ok release)

variable {normalizer : Normalizer} {record : ReleaseRecord} {timestamp date : String}

/-- Past the checks on publication and date, the files decide. -/
theorem normalize_of_dated (hp : record.Published) (ht : record.DatedBy timestamp)
    (hd : normalizer.zone.showDate timestamp = .ok date) :
    normalizer.normalize record =
      ((addAssets normalizer.classifier .empty record.assets).mapError .platform).map
        (record.toRelease date) := by
  rw [normalize, if_pos (ReleaseRecord.isPublishable_iff.mpr hp),
    ReleaseRecord.timestamp_eq_some.mpr ht]
  simp only [showDate, hd]
  cases addAssets normalizer.classifier .empty record.assets with
  | error error => rfl
  | ok table => rfl

/-- A record without refused files is shown with the table of its files. -/
theorem normalize_of_admits (hp : record.Published) (ht : record.DatedBy timestamp)
    (hd : normalizer.zone.showDate timestamp = .ok date)
    (ha : normalizer.classifier.Admits record.assets) :
    normalizer.normalize record =
      .ok (record.toRelease date (tableOf normalizer.classifier record.assets)) := by
  rw [normalize_of_dated hp ht hd, addAssets_of_admits ha]
  rfl

/-- Under the strict policy a record is refused for its first unknown file, once it can be
published and dated. -/
theorem normalize_of_firstUnknown (hp : record.Published) (ht : record.DatedBy timestamp)
    (hd : normalizer.zone.showDate timestamp = .ok date)
    (hs : normalizer.classifier.policy = .strict) {asset : AssetRecord}
    (hf : normalizer.classifier.rules.FirstUnknown record.assets asset) :
    normalizer.normalize record = .error (.platform (.unrecognized asset.name)) := by
  rw [normalize_of_dated hp ht hd, addAssets_of_firstUnknown hs hf]
  rfl

/-- The release with the table of the files shows the record. -/
theorem shows_toRelease (ht : record.DatedBy timestamp)
    (hd : normalizer.zone.showDate timestamp = .ok date) :
    normalizer.Shows record
      (record.toRelease date (tableOf normalizer.classifier record.assets)) where
  name := rfl
  htmlUrl := rfl
  body := rfl
  date := ⟨timestamp, ht, hd⟩
  sources := rfl
  rising := AssetTable.sorted_iff_labels.mp (built_tableOf _ _).sorted
  labels _ := mem_keys_tableOf
  downloads _ _ := get?_tableOf_eq_some

/-- No other release shows the record. -/
theorem Shows.eq_toRelease {release : Release} (h : normalizer.Shows record release)
    (ht : record.DatedBy timestamp) (hd : normalizer.zone.showDate timestamp = .ok date) :
    release = record.toRelease date (tableOf normalizer.classifier record.assets) := by
  have hdate : release.date = date := by
    obtain ⟨other, ho, hshown⟩ := h.date
    rw [← ReleaseRecord.timestamp_eq_some] at ho ht
    rw [ht] at ho
    cases ho
    rw [hshown] at hd
    cases hd
    rfl
  -- sorted entries are determined by the downloads that the labels lead to
  have htable : release.assets = tableOf normalizer.classifier record.assets :=
    congrArg AssetTable.mk <|
      (AssetTable.sorted_iff_labels.mpr h.rising).eq_of_lookup (built_tableOf _ _).sorted fun os =>
        Option.ext fun download => (h.downloads os download).trans get?_tableOf_eq_some.symm
  obtain ⟨htarball, hzipball⟩ : release.tarball = ⟨record.tarballUrl, record.name ++ ".tar"⟩ ∧
      release.zipball = ⟨record.zipballUrl, record.name ++ ".zip"⟩ := by
    have hsources := h.sources
    rw [Release.sources, List.cons.injEq, List.cons.injEq] at hsources
    exact ⟨hsources.1, hsources.2.1⟩
  have hname := h.name
  have hurl := h.htmlUrl
  have hbody := h.body
  cases release
  dsimp only at *
  rw [ReleaseRecord.toRelease, hname, hurl, hbody, hdate, htarball, hzipball, htable]

/-- A normalizer does what is prescribed. -/
theorem normalize_of_yields {result : Except ReleaseError Release}
    (h : normalizer.Yields record result) : normalizer.normalize record = result := by
  cases h with
  | notPublishable h =>
    have hp : ¬record.isPublishable = true := by
      rw [ReleaseRecord.isPublishable_iff, ReleaseRecord.Published]
      rintro ⟨hdraft, hpreview⟩
      rw [hdraft, hpreview] at h
      exact absurd h (by decide)
    rw [normalize, if_neg hp]
  | missingDate hp ht =>
    rw [normalize, if_pos (ReleaseRecord.isPublishable_iff.mpr hp),
      ReleaseRecord.timestamp_eq_none.mpr ht]
  | badDate hp ht hd =>
    rw [normalize, if_pos (ReleaseRecord.isPublishable_iff.mpr hp),
      ReleaseRecord.timestamp_eq_some.mpr ht]
    simp only [showDate, showDate_eq_error.mpr hd]
  | unrecognized hp ht hd hs hf =>
    exact normalize_of_firstUnknown hp ht (Time.Zone.showDate_of_read hd _) hs hf
  | shown hp ht hd ha hr =>
    have hshow := Time.Zone.showDate_of_read hd normalizer.zone
    rw [hr.eq_toRelease ht hshow, normalize_of_admits hp ht hshow ha]

/-- Something is prescribed for every record. -/
theorem exists_yields (normalizer : Normalizer) (record : ReleaseRecord) :
    ∃ result, normalizer.Yields record result := by
  by_cases hp : record.Published
  · cases ht : record.timestamp with
    | none => exact ⟨_, .missingDate hp (ReleaseRecord.timestamp_eq_none.mp ht)⟩
    | some timestamp =>
      have hdated := ReleaseRecord.timestamp_eq_some.mp ht
      cases hd : Timestamp.read (Text.bytes timestamp) with
      | error fault => exact ⟨_, .badDate hp hdated hd⟩
      | ok stamp =>
        have hshows := shows_toRelease hdated (Time.Zone.showDate_of_read hd normalizer.zone)
        by_cases ha : normalizer.classifier.Admits record.assets
        · exact ⟨_, .shown hp hdated hd ha hshows⟩
        · obtain ⟨hs, hk⟩ := Classical.not_imp.mp ha
          obtain ⟨asset, hf⟩ :=
            (normalizer.classifier.rules.knows_or_firstUnknown record.assets).resolve_left hk
          exact ⟨_, .unrecognized hp hdated hd hs hf⟩
  · rw [ReleaseRecord.Published, not_and_or, Bool.not_eq_false, Bool.not_eq_false] at hp
    exact ⟨_, .notPublishable hp⟩

/-- What a normalizer makes of a record is prescribed. -/
theorem yields_normalize (normalizer : Normalizer) (record : ReleaseRecord) :
    normalizer.Yields record (normalizer.normalize record) := by
  obtain ⟨result, hy⟩ := exists_yields normalizer record
  rw [normalize_of_yields hy]
  exact hy

/-- The records that are shown, and what they are shown as. -/
theorem normalize_eq_ok {release : Release} :
    normalizer.normalize record = .ok release ↔
      record.Published ∧ normalizer.classifier.Admits record.assets ∧
        ∃ timestamp date, record.DatedBy timestamp ∧
          normalizer.zone.showDate timestamp = .ok date ∧
          release = record.toRelease date (tableOf normalizer.classifier record.assets) := by
  constructor
  · intro h
    have hy := yields_normalize normalizer record
    rw [h] at hy
    cases hy with
    | shown hp ht hd ha hr =>
      have hshow := Time.Zone.showDate_of_read hd normalizer.zone
      exact ⟨hp, ha, _, _, ht, hshow, hr.eq_toRelease ht hshow⟩
  · rintro ⟨hp, ha, timestamp, date, ht, hd, rfl⟩
    exact normalize_of_admits hp ht hd ha

/-- What is made of a record is a release unless it is an error. -/
theorem exists_release (h : (normalizer.normalize record).isOk = true) :
    ∃ release, normalizer.normalize record = .ok release := by
  cases hr : normalizer.normalize record with
  | error error =>
    rw [hr] at h
    cases h
  | ok release => exact ⟨release, rfl⟩

/-- What a normalizer makes of a record is exactly what is prescribed: a draft or a preview
is refused as such; any other record without timestamps for that; any other whose timestamp
cannot be read for that; any other with an uploaded file that no rule fits for the first
such file, under the strict policy; and all others are shown. -/
theorem normalize_eq_iff_yields (normalizer : Normalizer) (record : ReleaseRecord)
    (result : Except ReleaseError Release) :
    normalizer.normalize record = result ↔ normalizer.Yields record result := by
  refine ⟨fun h => ?_, normalize_of_yields⟩
  rw [← h]
  exact yields_normalize normalizer record

/-- A record of a release with uploaded files. -/
def recordWith (filenames : List String) : ReleaseRecord where
  name := "v1"
  htmlUrl := "h"
  body := none
  publishedAt := none
  createdAt := some "2020-01-01T00:00:00Z"
  tarballUrl := "t"
  zipballUrl := "z"
  draft := false
  prerelease := false
  assets := filenames.map fun filename => ⟨filename, "d", 1048576, uploadedState⟩

-- of two packages with one label the later one is shown
example :
    (normalize ⟨⟨.standard, .strict⟩, ⟨0, []⟩⟩ (recordWith ["b.deb", "c.apk", "a.deb"])).map
        (·.assets.entries) =
      .ok [("Alpine Linux", ⟨"x86_64", "c.apk", "1.00 MB", "d"⟩),
        ("Debian/Ubuntu", ⟨"x86_64", "a.deb", "1.00 MB", "d"⟩)] := by
  decide +kernel

end Normalizer

end ReleasePage
