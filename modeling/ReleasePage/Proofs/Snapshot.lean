import Mathlib
import ReleasePage.Command.Task
import ReleasePage.Proofs.FileStore
import ReleasePage.Proofs.Policy
import ReleasePage.Proofs.Refresh
import ReleasePage.Time.ZoneTable

/-!
# Snapshots and refreshes

The download page is built from a snapshot that is classified strictly, while a refresh
classifies the content of a response leniently. What both make of one content differs
only where no rule fits an uploaded file: there the build is refused. Everything that
can be built is also shown, and it is the same release.
-/

namespace ReleasePage

open ReleasePage.Cache (RefreshOptions Store load refresh)
open ReleasePage.Command (loadRelease)
open ReleasePage.Files (Path Volume)
open ReleasePage.Text (Bytes)
open ReleasePage.Time (Zone ZoneDatabase)
open ReleasePage.Web (Answer Request)

/-- The answer is a response with status 200 and the given content. -/
def Web.Answer.Delivers (answer : Answer) (body : Bytes) : Prop :=
  ∃ response, answer.result = .ok response ∧ response.status = 200 ∧ response.body = body

/-- A release is read from the records that are normalized to it. -/
theorem Normalizer.release_eq_ok {normalizer : Normalizer} {input : Bytes} {release : Release} :
    normalizer.release input = .ok release ↔
      ∃ record, ReleaseRecord.parse input = .ok record ∧
        normalizer.normalize record = .ok release := by
  rw [Normalizer.release]
  cases ReleaseRecord.parse input with
  | error fault => simp
  | ok record => simp

/-- A known zone gives a normalizer for every policy. -/
theorem Settings.normalizer_of_zone [ZoneDatabase] {settings : Settings} {zone : Zone}
    (h : ZoneDatabase.zone? settings.rendering.zone = some zone) (policy : Policy) :
    settings.normalizer policy = .ok ⟨⟨.standard, policy⟩, zone⟩ := by
  simp only [Settings.normalizer, Normalizer.ofOptions, Normalizer.zoneNamed, h]
  rfl

/-- A known zone gives options for refreshes. -/
theorem Settings.refreshOptions_of_zone [ZoneDatabase] {settings : Settings} {zone : Zone}
    (h : ZoneDatabase.zone? settings.rendering.zone = some zone) :
    settings.refreshOptions = .ok ⟨settings.latestReleaseUrl, settings.caching.version,
      settings.timeout, ⟨⟨.standard, .lenient⟩, zone⟩⟩ := by
  rw [Settings.refreshOptions, Settings.normalizer_of_zone h]
  rfl

/-- The content of a response is the content of the snapshot if it is a record. -/
theorem snapshotContent_of_delivers {answer : Answer} {body : Bytes} (hd : answer.Delivers body)
    (url : String) :
    snapshotContent url answer =
      ((ReleaseRecord.parse body).mapError (.release ∘ .malformed)).map fun _ => body := by
  obtain ⟨response, hr, hs, rfl⟩ := hd
  simp only [snapshotContent, hr, if_pos hs]
  cases ReleaseRecord.parse response.body with
  | error fault => rfl
  | ok record => rfl

section

variable {client : Request → Answer} {volume after : Volume} {url : String} {dest : Path}
  {body : Bytes}

/-- A snapshot is staged exactly if the content of the response is a record and can be
placed. -/
theorem stageSnapshot_eq_ok (hd : (client (.plain url)).Delivers body) {size : Nat} :
    stageSnapshot client volume url dest = (.ok size, after) ↔
      (∃ record, ReleaseRecord.parse body = .ok record) ∧
        volume.place dest body .withParents = (.ok (), after) ∧ size = body.length := by
  rw [stageSnapshot, snapshotContent_of_delivers hd]
  cases hp : ReleaseRecord.parse body with
  | error fault => simp [Except.mapError, Except.map]
  | ok record =>
    dsimp only [Except.mapError, Except.map]
    cases hplace : volume.place dest body .withParents with
    | mk result placed =>
      cases result with
      | error error => simp
      | ok =>
        constructor
        · intro h
          cases h
          exact ⟨⟨record, rfl⟩, rfl, rfl⟩
        · rintro ⟨-, hplaced, rfl⟩
          cases hplaced
          rfl

/-- A snapshot is not staged without a record, and nothing is written. -/
theorem stageSnapshot_of_fault (hd : (client (.plain url)).Delivers body) {fault : Json.Fault}
    (hp : ReleaseRecord.parse body = .error fault) :
    stageSnapshot client volume url dest = (.error (.release (.malformed fault)), volume) := by
  rw [stageSnapshot, snapshotContent_of_delivers hd, hp]
  rfl

end

/-- The file at a path holds a record, and the strict normalizer makes the release of
it. -/
def Publishable [ZoneDatabase] (settings : Settings) (volume : Volume) (path : Path)
    (release : Release) : Prop :=
  ∃ content record normalizer, volume.read path = .ok content ∧
    ReleaseRecord.parse content = .ok record ∧ settings.normalizer .strict = .ok normalizer ∧
    normalizer.normalize record = .ok release

/-- The record of a snapshot file is the one that its content spells. -/
theorem Command.readSnapshot_eq_ok {volume : Volume} {path : Path} {record : ReleaseRecord} :
    readSnapshot volume path = .ok record ↔
      ∃ content, volume.read path = .ok content ∧ ReleaseRecord.parse content = .ok record := by
  rw [readSnapshot]
  cases volume.read path with
  | error error => simp
  | ok content =>
    cases hp : ReleaseRecord.parse content with
    | error fault => simp [hp]
    | ok other => simp [hp]

/-- The release of a snapshot file is the one that can be published. -/
theorem Command.loadRelease_eq_ok [ZoneDatabase] {settings : Settings} {volume : Volume}
    {path : Path} {release : Release} :
    loadRelease settings volume path = .ok release ↔
      Publishable settings volume path release := by
  constructor
  · intro h
    rw [loadRelease] at h
    cases hr : readSnapshot volume path with
    | error report =>
      rw [hr] at h
      cases h
    | ok record =>
      obtain ⟨content, hread, hparse⟩ := readSnapshot_eq_ok.mp hr
      rw [hr] at h
      dsimp only at h
      cases hn : settings.normalizer .strict with
      | error error =>
        rw [hn] at h
        cases h
      | ok normalizer =>
        rw [hn] at h
        dsimp only at h
        cases hnormal : normalizer.normalize record with
        | error error =>
          rw [hnormal] at h
          cases h
        | ok other =>
          rw [hnormal] at h
          cases h
          exact ⟨content, record, normalizer, hread, hparse, hn, hnormal⟩
  · rintro ⟨content, record, normalizer, hread, hparse, hn, hnormal⟩
    have hr := readSnapshot_eq_ok.mpr ⟨content, hread, hparse⟩
    simp only [loadRelease, hr, hn, hnormal]

/-- What is loaded from a content that was placed is what the strict normalizer makes of it, if
the device gives it out. -/
theorem Command.loadRelease_of_place [ZoneDatabase] {settings : Settings}
    {normalizer : Normalizer} (hn : settings.normalizer .strict = .ok normalizer)
    {volume after : Volume} (hh : ∀ name ∈ volume.home, Volume.PlainName name) {dest : Path}
    {body : Bytes} (hp : volume.place dest body .withParents = (.ok (), after))
    {release : Release} :
    loadRelease settings after dest = .ok release ↔
      volume.device.Readable ∧ normalizer.release body = .ok release := by
  have hdevice := Volume.device_place hh dest body .withParents
  rw [hp] at hdevice
  rw [loadRelease_eq_ok, Normalizer.release_eq_ok]
  constructor
  · rintro ⟨content, record, other, hread, hparse, ho, hnormal⟩
    obtain ⟨hcontent, hr⟩ := Volume.readFile_eq_ok.mp (Volume.read_eq_ok.mp hread)
    rw [Volume.contentOf_of_place hh hp] at hcontent
    cases hcontent
    rw [hn] at ho
    cases ho
    rw [← hdevice]
    exact ⟨hr, record, hparse, hnormal⟩
  · rintro ⟨hr, record, hparse, hnormal⟩
    have hread := Volume.read_eq_ok.mpr (Volume.readFile_of_place hh hr hp)
    exact ⟨body, record, normalizer, hread, hparse, hn, hnormal⟩

namespace Cache

variable {σ : Type} {store : Store σ} {options : RefreshOptions} {client : Request → Answer}
  {state : σ} {body : Bytes}

/-- The request of a refresh is answered in time by a response with status 200 and the
given content. -/
structure Answered (store : Store σ) (options : RefreshOptions) (client : Request → Answer)
    (state : σ) (body : Bytes) : Prop where
  /-- The answer comes in time. -/
  inTime : (client (options.request (load store state options.version))).delay.nanoseconds ≤
    options.timeout.nanoseconds
  /-- It is a response with the content. -/
  delivers : (client (options.request (load store state options.version))).Delivers body

/-- A content that is a release changes what is shown to it. -/
theorem refresh_of_release (h : Answered store options client state body) {release : Release}
    (hn : options.normalizer.release body = .ok release) :
    (refresh store options client state).1.outcome = .changed ∧
      (refresh store options client state).1.record.release = some release := by
  obtain ⟨ht, response, hr, hs, rfl⟩ := h
  obtain ⟨hrecord, houtcome, -⟩ := refresh_of_brings store ⟨ht, response, release, hr, hs, hn, rfl⟩
  rw [hrecord]
  exact ⟨houtcome, rfl⟩

/-- A content that is no release is why the refresh fails. -/
theorem refresh_of_unusable (h : Answered store options client state body)
    {error : ReleaseError} (hn : options.normalizer.release body = .error error) :
    (refresh store options client state).1.outcome = .failed (.release error) := by
  obtain ⟨ht, response, hr, hs, rfl⟩ := h
  have h304 : response.status ≠ 304 := by omega
  have hsettle : options.settle (client (options.request (load store state options.version))) =
      .error (.release error) := by
    rw [RefreshOptions.settle, if_neg (Nat.not_lt.mpr ht), hr]
    simp only [RefreshOptions.interpret, if_neg h304, if_pos hs, hn]
  rw [refresh, revalidate, hsettle]
  rfl

/-- A refresh that has changed what is shown shows the release of the content. -/
theorem release_of_changed (h : Answered store options client state body) {release : Release}
    (hc : (refresh store options client state).1.outcome = .changed)
    (hr : (refresh store options client state).1.record.release = some release) :
    options.normalizer.release body = .ok release := by
  cases hn : options.normalizer.release body with
  | error error =>
    rw [refresh_of_unusable h hn] at hc
    cases hc
  | ok other =>
    rw [(refresh_of_release h hn).2] at hr
    cases hr
    rfl

end Cache

/-- With a zone that the database knows, what a snapshot and a refresh make of one content
agrees. If a release can be built from the snapshot, the refresh shows it, whatever was
cached. If the refresh shows a release, a rule fits each uploaded file and the snapshot can
be written, that release is built from it, as far as the device gives out what it holds. If
the content is no record, nothing is staged and both fail with the same error. -/
theorem snapshot_and_refresh_agree [ZoneDatabase] {settings : Settings} {zone : Zone}
    (hz : ZoneDatabase.zone? settings.rendering.zone = some zone) :
    ∃ options, settings.refreshOptions = .ok options ∧
      ∀ (body : Bytes) (fetch : Request → Answer) (volume : Volume) (url : String) (dest : Path)
        (σ : Type) (store : Store σ) (client : Request → Answer) (state : σ),
      (∀ name ∈ volume.home, Volume.PlainName name) → (fetch (.plain url)).Delivers body →
      Cache.Answered store options client state body →
      (∀ size after release, stageSnapshot fetch volume url dest = (.ok size, after) →
        loadRelease settings after dest = .ok release →
        (refresh store options client state).1.outcome = .changed ∧
          (refresh store options client state).1.record.release = some release) ∧
      (∀ after release, (refresh store options client state).1.outcome = .changed →
        (refresh store options client state).1.record.release = some release →
        (∀ record, ReleaseRecord.parse body = .ok record →
          RuleTable.standard.Knows record.assets) →
        volume.place dest body .withParents = (.ok (), after) →
        stageSnapshot fetch volume url dest = (.ok body.length, after) ∧
          (volume.device.Readable → loadRelease settings after dest = .ok release)) ∧
      ∀ fault, ReleaseRecord.parse body = .error fault →
        stageSnapshot fetch volume url dest = (.error (.release (.malformed fault)), volume) ∧
        (refresh store options client state).1.outcome =
          .failed (.release (.malformed fault)) := by
  refine ⟨_, Settings.refreshOptions_of_zone hz, ?_⟩
  intro body fetch volume url dest σ store client state hh hfetch hanswer
  have hstrict := Settings.normalizer_of_zone hz .strict
  refine ⟨?_, ?_, ?_⟩
  · intro size after release hstage hload
    obtain ⟨-, hplace, -⟩ := (stageSnapshot_eq_ok hfetch).mp hstage
    obtain ⟨-, hbuilt⟩ := (Command.loadRelease_of_place hstrict hh hplace).mp hload
    obtain ⟨record, hparse, hnormal⟩ := Normalizer.release_eq_ok.mp hbuilt
    have hlenient := (Normalizer.normalize_strict_eq_ok.mp hnormal).2
    exact Cache.refresh_of_release hanswer
      (Normalizer.release_eq_ok.mpr ⟨record, hparse, hlenient⟩)
  · intro after release hchanged hshown hknown hplace
    obtain ⟨record, hparse, hlenient⟩ :=
      Normalizer.release_eq_ok.mp (Cache.release_of_changed hanswer hchanged hshown)
    have hnormal := Normalizer.normalize_strict_eq_ok.mpr ⟨hknown record hparse, hlenient⟩
    refine ⟨(stageSnapshot_eq_ok hfetch).mpr ⟨⟨record, hparse⟩, hplace, rfl⟩, fun hr => ?_⟩
    exact (Command.loadRelease_of_place hstrict hh hplace).mpr
      ⟨hr, Normalizer.release_eq_ok.mpr ⟨record, hparse, hnormal⟩⟩
  · intro fault hparse
    refine ⟨stageSnapshot_of_fault hfetch hparse, Cache.refresh_of_unusable hanswer ?_⟩
    rw [Normalizer.release, hparse]

/-- The content of a response that describes a release with a package. -/
def packagedBody : Bytes :=
  Text.bytes ("\x7b\"name\":\"v1\",\"html_url\":\"h\",\"tarball_url\":\"t\"," ++
    "\"zipball_url\":\"z\",\"draft\":false,\"prerelease\":false," ++
    "\"published_at\":\"2019-05-20T04:50:31Z\"," ++
    "\"assets\":[\x7b\"name\":\"jobber-1.el7.x86_64.rpm\",\"browser_download_url\":\"d\"," ++
    "\"size\":3912495,\"state\":\"uploaded\"\x7d]\x7d")

/-- The release that the content describes on the download page. -/
def packagedRelease : Release :=
  ⟨"v1", "h", "", "19 May 2019", ⟨"t", "v1.tar"⟩, ⟨"z", "v1.zip"⟩,
    ⟨[("RHEL/CentOS 7", ⟨"x86_64", "jobber-1.el7.x86_64.rpm", "3.73 MB", "d"⟩)]⟩⟩

/-- An answer with a content. -/
def answerWith (body : Bytes) : Answer := ⟨⟨0⟩, .ok ⟨200, [], body⟩⟩

/-- The answer has the content. -/
theorem delivers_answerWith (body : Bytes) : (answerWith body).Delivers body :=
  ⟨_, rfl, rfl, rfl⟩

/-- The volume with the content as a snapshot. -/
def packagedVolume : Volume :=
  ((Volume.blank ["home"]).place "latest-release.json" packagedBody .withParents).2

/-- Under the standard settings the release with a package is shown and built alike, and
an empty content is refused alike. -/
theorem snapshot_and_refresh_agree_sample :
    ∃ options, Settings.standard.refreshOptions = .ok options ∧
      (refresh Store.memory options (fun _ => answerWith packagedBody) none).1.record.release =
        some packagedRelease ∧
      stageSnapshot (fun _ => answerWith packagedBody) (Volume.blank ["home"]) "latest"
        "latest-release.json" = (.ok packagedBody.length, packagedVolume) ∧
      loadRelease Settings.standard packagedVolume "latest-release.json" = .ok packagedRelease ∧
      ∃ fault, stageSnapshot (fun _ => answerWith []) (Volume.blank ["home"]) "latest"
          "latest-release.json" = (.error (.release (.malformed fault)), .blank ["home"]) ∧
        (refresh Store.memory options (fun _ => answerWith []) none).1.outcome =
          .failed (.release (.malformed fault)) := by
  obtain ⟨zone, hz⟩ : ∃ zone, ZoneDatabase.zone? Settings.standard.rendering.zone = some zone :=
    Option.isSome_iff_exists.mp (by decide +kernel)
  obtain ⟨options, ho, hagree⟩ := snapshot_and_refresh_agree hz
  have hboth := fun body => hagree body (fun _ => answerWith body) (.blank ["home"]) "latest"
    "latest-release.json" _ Store.memory (fun _ => answerWith body) none
    Cache.plainName_home (delivers_answerWith body)
    ⟨Nat.zero_le _, delivers_answerWith body⟩
  have hplaced : ((Volume.blank ["home"]).place "latest-release.json" packagedBody
      .withParents).1 = .ok () := by decide +kernel
  have hplace : (Volume.blank ["home"]).place "latest-release.json" packagedBody .withParents =
      (.ok (), packagedVolume) := Prod.ext hplaced rfl
  have hload : loadRelease Settings.standard packagedVolume "latest-release.json" =
      .ok packagedRelease := by decide +kernel
  obtain ⟨record, hparse, hnormal⟩ := Normalizer.release_eq_ok.mp
    ((Command.loadRelease_of_place (Settings.normalizer_of_zone hz .strict) Cache.plainName_home
      hplace).mp hload).2
  have hknown : ∀ other, ReleaseRecord.parse packagedBody = .ok other →
      RuleTable.standard.Knows other.assets := by
    intro other hother
    rw [hparse] at hother
    cases hother
    exact (Normalizer.normalize_strict_eq_ok.mp hnormal).1
  obtain ⟨hchanged, hshown⟩ := (hboth packagedBody).1 packagedBody.length packagedVolume _
    ((stageSnapshot_eq_ok (delivers_answerWith packagedBody)).mpr
      ⟨⟨record, hparse⟩, hplace, rfl⟩) hload
  obtain ⟨hstage, hbuilt⟩ := (hboth packagedBody).2.1 _ _ hchanged hshown hknown hplace
  have hempty : (ReleaseRecord.parse []).isOk = false := by decide +kernel
  cases hfault : ReleaseRecord.parse [] with
  | ok record =>
    rw [hfault] at hempty
    cases hempty
  | error fault =>
    exact ⟨options, ho, hshown, hstage, hbuilt rfl, fault, (hboth []).2.2 fault hfault⟩

end ReleasePage
