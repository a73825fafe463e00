import Mathlib
import ReleasePage.Cache.Refresh
import ReleasePage.Proofs.Files.Placement
import ReleasePage.Proofs.RoundTrip

/-!
# The store in a file

What a store in a file holds is the content that its path leads to. A successful
write puts the bytes of the record there, within the limit, so that they are read
back. A failed one may leave directories behind. These cannot be seen through the
store if the path goes up only from directories that are there already.
-/

namespace ReleasePage.Cache

open ReleasePage.Files (Path PlaceOptions Volume)
open ReleasePage.Text (Bytes)

/-- A file that cannot be read counts as no record. -/
theorem load_of_error {path : Path} {volume : Volume} {fault : Files.Fault}
    (h : volume.readFile path = .error fault) (limit version : Nat) :
    load (Store.file path limit) volume version = .empty version := by
  simp only [load, Store.file, readFile, Volume.readCapped, Volume.readIfExists, h]
  cases fault <;> rfl

/-- Where there is no file there is no record. -/
theorem readFile_of_notFound {path : Path} {volume : Volume}
    (h : volume.readFile path = .error .notFound) (limit : Nat) :
    readFile path limit volume = .ok none := by
  simp only [readFile, Volume.readCapped, Volume.readIfExists, h]
  rfl

/-- The limit is below the greatest one, so that there is a number of bytes beyond it. -/
def Bounded (limit : Nat) : Prop := limit + 1 < Number.words64

/-- The limit that holds unless another one is configured is bounded. -/
theorem bounded_standardLimit : Bounded standardLimit := by
  rw [Bounded]
  decide

/-- A content beyond the limit is not read. -/
theorem readFile_of_long {path : Path} {volume : Volume} {content : Bytes}
    (h : volume.readFile path = .ok content) {limit : Nat} (hb : Bounded limit)
    (hl : limit < content.length) : readFile path limit volume = .error (.oversized limit) := by
  have ht : limit < (content.take (Files.cappedLength limit)).length := by
    rw [List.length_take, Files.cappedLength_of_lt hb]
    omega
  simp only [readFile, Volume.readCapped, Volume.readIfExists, h, Except.map, Option.map_some,
    if_pos ht]

/-- A content within the limit is read as a record. -/
theorem readFile_of_fitting {path : Path} {volume : Volume} {content : Bytes}
    (h : volume.readFile path = .ok content) {limit : Nat} (hb : Bounded limit)
    (hl : content.length ≤ limit) :
    readFile path limit volume = ((CacheRecord.parse content).mapError .decode).map some := by
  have ht : content.take (Files.cappedLength limit) = content := by
    rw [Files.cappedLength_of_lt hb]
    exact List.take_of_length_le (by omega)
  simp only [readFile, Volume.readCapped, Volume.readIfExists, h, Except.map, Option.map_some, ht,
    if_neg (Nat.not_lt.mpr hl)]
  cases CacheRecord.parse content with
  | error fault => rfl
  | ok record => rfl

/-- Nothing is read under the greatest limit, and nothing is no record. -/
theorem readFile_of_unbounded {path : Path} {volume : Volume} {content : Bytes}
    (h : volume.readFile path = .ok content) {limit : Nat} (hb : ¬Bounded limit) :
    ∃ fault, readFile path limit volume = .error (.decode fault) := by
  have ht : content.take (Files.cappedLength limit) = [] := by
    rw [show Files.cappedLength limit = 0 from if_neg hb, List.take_zero]
  have hp : (CacheRecord.parse []).isOk = false := rfl
  simp only [readFile, Volume.readCapped, Volume.readIfExists, h, Except.map, Option.map_some, ht,
    List.length_nil, if_neg (Nat.not_lt_zero limit)]
  cases hparse : CacheRecord.parse [] with
  | error fault => exact ⟨fault, rfl⟩
  | ok record =>
    rw [hparse] at hp
    cases hp

/-- A content beyond the limit counts as no record. -/
theorem load_of_long {path : Path} {volume : Volume} {content : Bytes}
    (h : volume.readFile path = .ok content) {limit : Nat} (hb : Bounded limit)
    (hl : limit < content.length) (version : Nat) :
    load (Store.file path limit) volume version = .empty version := by
  simp only [load, Store.file, readFile_of_long h hb hl]
  rfl

/-- Nothing counts as a record under the greatest limit. -/
theorem load_of_unbounded {path : Path} {volume : Volume} {content : Bytes}
    (h : volume.readFile path = .ok content) {limit : Nat} (hb : ¬Bounded limit)
    (version : Nat) : load (Store.file path limit) volume version = .empty version := by
  obtain ⟨fault, hf⟩ := readFile_of_unbounded h hb
  simp only [load, Store.file, hf]
  rfl

/-- A content within the limit is what is read. -/
theorem load_of_ok {path : Path} {volume : Volume} {content : Bytes}
    (h : volume.readFile path = .ok content) {limit : Nat} (hb : Bounded limit)
    (hl : content.length ≤ limit) (version : Nat) :
    load (Store.file path limit) volume version =
      usable version ((CacheRecord.parse content).toOption.elim (.ok none) (.ok ∘ some)) := by
  simp only [load, Store.file, readFile_of_fitting h hb hl]
  cases CacheRecord.parse content with
  | error fault => rfl
  | ok record => rfl

/-- A record is read from the files that are not too long and whose content is that
record, under a limit that is not the greatest one. -/
theorem readFile_eq_some {path : Path} {limit : Nat} {volume : Volume} {record : CacheRecord} :
    readFile path limit volume = .ok (some record) ↔
      Bounded limit ∧ ∃ content, volume.readFile path = .ok content ∧ content.length ≤ limit ∧
        CacheRecord.parse content = .ok record := by
  cases hc : volume.readFile path with
  | error fault =>
    simp only [readFile, Volume.readCapped, Volume.readIfExists, hc]
    cases fault <;> simp [Except.map]
  | ok content =>
    simp only [Except.ok.injEq, exists_eq_left']
    by_cases hb : Bounded limit
    · by_cases hl : content.length ≤ limit
      · rw [readFile_of_fitting hc hb hl]
        cases CacheRecord.parse content with
        | error fault => simp [Except.mapError, Except.map]
        | ok other => simp [Except.mapError, Except.map, hb, hl]
      · rw [readFile_of_long hc hb (Nat.lt_of_not_le hl)]
        simp [hl]
    · obtain ⟨fault, hf⟩ := readFile_of_unbounded hc hb
      rw [hf]
      simp [hb]

/-- The record in the file at a path, if there is one. -/
def stored? (path : Path) (volume : Volume) : Option CacheRecord :=
  match volume.contentOf path with
  | .ok content => (CacheRecord.parse content).toOption
  | .error _ => none

/-- What a refresh starts from is the stored record, if it has the right version,
or none. -/
theorem load_cases (path : Path) (limit : Nat) (volume : Volume) (version : Nat) :
    load (Store.file path limit) volume version = .empty version ∨
      ∃ record, stored? path volume = some record ∧ record.version = version ∧
        load (Store.file path limit) volume version = record := by
  cases hr : volume.readFile path with
  | error fault => exact .inl (load_of_error hr limit version)
  | ok content =>
    by_cases hb : Bounded limit
    · by_cases hl : content.length ≤ limit
      · rw [load_of_ok hr hb hl]
        simp only [stored?, (Volume.readFile_eq_ok.mp hr).1]
        cases CacheRecord.parse content with
        | error fault => exact .inl rfl
        | ok record =>
          by_cases hv : record.version = version
          · exact .inr ⟨record, rfl, hv, if_pos hv⟩
          · exact .inl (if_neg hv)
      · exact .inl (load_of_long hr hb (Nat.lt_of_not_le hl) version)
    · exact .inl (load_of_unbounded hr hb version)

/-- Two results that succeed alike both succeed, with one value, or both fail. -/
theorem both_ok_or_error {ε α : Type} {first second : Except ε α}
    (h : ∀ a, first = .ok a ↔ second = .ok a) :
    (∃ a, first = .ok a ∧ second = .ok a) ∨ ∃ e e', first = .error e ∧ second = .error e' := by
  cases first with
  | ok a => exact .inl ⟨a, rfl, (h a).mp rfl⟩
  | error e =>
    cases second with
    | ok a => cases (h a).mpr rfl
    | error e' => exact .inr ⟨e, e', rfl, rfl⟩

/-- What a refresh starts from depends only on what is read of the file. -/
theorem load_congr {path : Path} {volume other : Volume}
    (h : ∀ content, volume.readFile path = .ok content ↔ other.readFile path = .ok content)
    (limit version : Nat) :
    load (Store.file path limit) volume version = load (Store.file path limit) other version := by
  rcases both_ok_or_error h with ⟨content, hr, ho⟩ | ⟨fault, fault', hr, ho⟩
  · by_cases hb : Bounded limit
    · by_cases hl : content.length ≤ limit
      · rw [load_of_ok hr hb hl, load_of_ok ho hb hl]
      · rw [load_of_long hr hb (Nat.lt_of_not_le hl), load_of_long ho hb (Nat.lt_of_not_le hl)]
    · rw [load_of_unbounded hr hb, load_of_unbounded ho hb]
  · rw [load_of_error hr, load_of_error ho]

/-- The stored record depends only on the content of the file. -/
theorem stored?_congr {path : Path} {volume other : Volume}
    (h : ∀ content, volume.contentOf path = .ok content ↔ other.contentOf path = .ok content) :
    stored? path volume = stored? path other := by
  rcases both_ok_or_error h with ⟨content, hr, ho⟩ | ⟨fault, fault', hr, ho⟩
  · rw [stored?, stored?, hr, ho]
  · rw [stored?, stored?, hr, ho]

/-- A record whose bytes are in the file is the stored one. -/
theorem stored?_of_contentOf {path : Path} {volume : Volume} {record : CacheRecord}
    (hv : record.Valid) (h : volume.contentOf path = .ok record.encode) :
    stored? path volume = some record := by
  rw [stored?, h]
  simp only [CacheRecord.parse_encode hv, Except.toOption]

/-- A record whose bytes are read from the file is what a refresh starts from. -/
theorem load_of_readFile {path : Path} {volume : Volume} {record : CacheRecord}
    (hv : record.Valid) (h : volume.readFile path = .ok record.encode) {limit : Nat}
    (hb : Bounded limit) (hl : record.encode.length ≤ limit) :
    load (Store.file path limit) volume record.version = record := by
  rw [load_of_ok h hb hl, CacheRecord.parse_encode hv]
  exact if_pos rfl

/-- Writing to a store in a file. -/
theorem write_file (path : Path) (limit : Nat) (volume : Volume) (record : CacheRecord) :
    (Store.file path limit).write volume record = writeFile path limit volume record := by
  simp only [Store.file]

/-- Reading a store in a file. -/
theorem read_file (path : Path) (limit : Nat) (volume : Volume) :
    (Store.file path limit).read volume = readFile path limit volume := by
  simp only [Store.file]

/-- What a write does to a volume. -/
inductive Written (path : Path) (limit : Nat) (volume : Volume) (record : CacheRecord) :
    Except StoreError Unit × Volume → Prop where
  /-- The record is too long, and nothing is done. -/
  | tooLong (error : StoreError) : Written path limit volume record (.error error, volume)
  /-- The file could not be placed, but its directory may have been made. -/
  | failed (error : StoreError) : Written path limit volume record
    (.error error, (volume.makeDirectories (Path.directory path)).2)
  /-- The file was placed. -/
  | placed {after : Volume} (hl : record.encode.length ≤ limit)
    (hp : (volume.makeDirectories (Path.directory path)).2.Placed path Files.standardMode
      record.encode after) :
    Written path limit volume record (.ok (), after)

/-- A write ends in one of three ways if the names of the home directory are plain. -/
theorem written_of_home {volume : Volume} (hh : ∀ name ∈ volume.home, Volume.PlainName name)
    (path : Path) (limit : Nat) (record : CacheRecord) :
    Written path limit volume record (writeFile path limit volume record) := by
  rw [writeFile]
  by_cases hl : limit < record.encode.length
  · rw [if_pos hl]
    exact .tooLong _
  · rw [if_neg hl]
    rcases Volume.place_cases hh path record.encode .withParents with
      ⟨error, he⟩ | ⟨after, he, hp⟩
    · rw [he]
      exact .failed _
    · rw [he]
      exact .placed (Nat.le_of_not_lt hl) hp

/-- A write ends in one of three ways. -/
theorem written_writeFile {volume : Volume} (hw : volume.WellFormed) (path : Path) (limit : Nat)
    (record : CacheRecord) :
    Written path limit volume record (writeFile path limit volume record) :=
  written_of_home hw.home path limit record

/-- A write that succeeds puts the bytes of the record into the file. -/
theorem Written.saved {path : Path} {limit : Nat} {volume after : Volume} {record : CacheRecord}
    (h : Written path limit volume record (.ok (), after)) :
    record.encode.length ≤ limit ∧ after.contentOf path = .ok record.encode := by
  cases h with
  | placed hl hp => exact ⟨hl, hp.contentOf⟩

/-- A write keeps the device. -/
theorem Written.device {path : Path} {limit : Nat} {volume : Volume} {record : CacheRecord}
    {result : Except StoreError Unit × Volume} (h : Written path limit volume record result) :
    result.2.device = volume.device := by
  have hmade := (Volume.grown_makeDirectories volume (Path.directory path)).device
  cases h with
  | tooLong => rfl
  | failed =>
    dsimp only
    exact hmade
  | placed _ hp => exact hp.device.trans hmade

/-- A write that succeeds is read back from a device that gives out what it holds. -/
theorem Written.readFile {path : Path} {limit : Nat} {volume after : Volume}
    {record : CacheRecord} (h : Written path limit volume record (.ok (), after))
    (hr : volume.device.Readable) : after.readFile path = .ok record.encode := by
  refine Volume.readFile_eq_ok.mpr ⟨h.saved.2, ?_⟩
  rw [← h.device] at hr
  exact hr

/-- A write keeps a volume well-formed. -/
theorem Written.wellFormed {path : Path} {limit : Nat} {volume : Volume} {record : CacheRecord}
    {result : Except StoreError Unit × Volume} (h : Written path limit volume record result)
    (hw : volume.WellFormed) : result.2.WellFormed := by
  have hmade := (Volume.grown_makeDirectories volume (Path.directory path)).wellFormed hw
  cases h with
  | tooLong => exact hw
  | failed =>
    dsimp only
    exact hmade
  | placed _ hp => exact hp.wellFormed hmade

/-- A write keeps directories. -/
theorem Written.keeps {path : Path} {limit : Nat} {volume : Volume} {record : CacheRecord}
    {result : Except StoreError Unit × Volume} (h : Written path limit volume record result) :
    volume.Keeps result.2 ∧ result.2.home = volume.home := by
  have hg := Volume.grown_makeDirectories volume (Path.directory path)
  cases h with
  | tooLong => exact ⟨fun _ hd => hd, rfl⟩
  | failed =>
    dsimp only
    exact ⟨hg.keeps, hg.home⟩
  | placed _ hp =>
    obtain ⟨hk, hh⟩ := hp.keeps
    exact ⟨fun location hd => hk location (hg.keeps location hd), hh.trans hg.home⟩

/-- The files of two volumes are the same. -/
def SameFiles (volume other : Volume) : Prop :=
  ∀ location mode content, volume.get? location = some (.file mode content) ↔
    other.get? location = some (.file mode content)

/-- Two volumes that a store at a path cannot tell apart, and whose files are the
same. -/
structure Alike (path : Path) (volume other : Volume) : Prop where
  /-- The content of the file is the same. -/
  content : ∀ content, volume.contentOf path = .ok content ↔ other.contentOf path = .ok content
  /-- The device is the same. -/
  device : volume.device = other.device
  /-- The directory of the file can be made in the same way. -/
  directories : volume.makeDirectories (Path.directory path) =
    other.makeDirectories (Path.directory path)
  /-- All files are the same. -/
  files : SameFiles volume other

/-- A volume is like itself. -/
theorem Alike.refl (path : Path) (volume : Volume) : Alike path volume volume :=
  ⟨fun _ => Iff.rfl, rfl, rfl, fun _ _ _ => Iff.rfl⟩

/-- The same is read from volumes that are alike. -/
theorem Alike.readFile {path : Path} {volume other : Volume} (h : Alike path volume other)
    (content : Bytes) :
    volume.readFile path = .ok content ↔ other.readFile path = .ok content := by
  rw [Volume.readFile_eq_ok, Volume.readFile_eq_ok, h.content, h.device]

/-- Writing to volumes that are alike ends in the same way. -/
theorem Alike.write {path : Path} {volume other : Volume} (h : Alike path volume other)
    (limit : Nat) (record : CacheRecord) :
    (writeFile path limit volume record).1 = (writeFile path limit other record).1 ∧
      Alike path (writeFile path limit volume record).2 (writeFile path limit other record).2 := by
  have hp : volume.place path record.encode .withParents =
      other.place path record.encode .withParents := by
    simp only [Volume.place, PlaceOptions.withParents, if_true, h.directories]
  rw [writeFile, writeFile]
  simp only [hp]
  by_cases hl : limit < record.encode.length
  · rw [if_pos hl, if_pos hl]
    exact ⟨rfl, h⟩
  · rw [if_neg hl, if_neg hl]
    exact ⟨rfl, .refl path _⟩

/-- Directories that a write would make cannot be seen through the store: wherever
the path goes up, it does so from a directory that is there. -/
def Settled (path : Path) (volume : Volume) : Prop :=
  volume.Grounded (volume.start path) (Path.steps path)

/-- A path stays settled as long as directories are kept. -/
theorem Settled.mono {path : Path} {volume after : Volume} (h : Settled path volume)
    (hk : volume.Keeps after) (hh : after.home = volume.home) : Settled path after := by
  intro front back he
  obtain ⟨dir, hf, hd⟩ := h front back he
  rw [Volume.start_congr hh]
  exact ⟨dir, Volume.follow_keeps hk hf hd, hk dir hd⟩

/-- Making the directory of the file cannot be seen through the store. -/
theorem Settled.alike {path : Path} {volume : Volume} (h : Settled path volume)
    (hw : volume.WellFormed) :
    Alike path volume (volume.makeDirectories (Path.directory path)).2 := by
  have hg := Volume.grown_makeDirectories volume (Path.directory path)
  exact ⟨fun content => (hg.contentOf_iff hw h).symm, hg.device.symm,
    (Volume.makeDirectories_again hw h).symm, fun _ _ _ => hg.file_iff.symm⟩

/-- A failed write changes no file. -/
theorem sameFiles_of_failed {path : Path} {limit : Nat} {volume after : Volume}
    {record : CacheRecord} {error : StoreError} (hw : volume.WellFormed)
    (h : writeFile path limit volume record = (.error error, after)) :
    SameFiles after volume := by
  have hc := written_writeFile hw path limit record
  rw [h] at hc
  intro location mode content
  cases hc with
  | tooLong => exact Iff.rfl
  | failed => exact (Volume.grown_makeDirectories volume _).file_iff

/-- A failed write cannot be seen through the store. -/
theorem Settled.alike_of_failed {path : Path} {limit : Nat} {volume after : Volume}
    {record : CacheRecord} {error : StoreError} (hs : Settled path volume)
    (hw : volume.WellFormed)
    (h : writeFile path limit volume record = (.error error, after)) :
    Alike path volume after := by
  have hc := written_writeFile hw path limit record
  rw [h] at hc
  cases hc with
  | tooLong => exact .refl path volume
  | failed => exact hs.alike hw

/-- After a successful write the bytes of the record are in the file, and they are read
from there if the device gives out what it holds. -/
theorem readFile_of_saved {path : Path} {limit : Nat} {volume after : Volume}
    {record : CacheRecord} (hw : volume.WellFormed)
    (h : writeFile path limit volume record = (.ok (), after)) :
    record.encode.length ≤ limit ∧ after.contentOf path = .ok record.encode ∧
      (volume.device.Readable → after.readFile path = .ok record.encode) := by
  have hc := written_writeFile hw path limit record
  rw [h] at hc
  exact ⟨hc.saved.1, hc.saved.2, hc.readFile⟩

/-- The way from a directory `a` on, in reverse, after so many slashes that the
path of a file just fits. -/
def farTrail (rest : List String) : List String := rest ++ (List.replicate 4085 "" ++ ["a"])

/-- A path to a file of directory `a` that goes up from a directory `a/b`. -/
def strayPath : Path := Path.ofTrail false (farTrail ["f", "..", "b"])

/-- The content of a file that nobody has stored: a record with a token and
without a release. -/
def strayContent : Bytes := Text.bytes "\x7b\"v\":1,\"etag\":\"t\"\x7d"

/-- A volume with that file, in which the directory `a/b` is missing. -/
def strayVolume : Volume :=
  ((Volume.blank ["home"]).put ["home", "a"] .directory).put ["home", "a", "f"]
    (.file Files.standardMode strayContent)

/-- The volume once the missing directory has been made. -/
def strayVolumeAfter : Volume := strayVolume.put ["home", "a", "b"] .directory

/-- Where steps lead while the directory is missing. -/
theorem strayVolume_before :
    strayVolume.follow ["home"] ["a", "b", "..", "f"] = .error .notFound ∧
      strayVolume.follow ["home"] ["a", "b"] = .error .notFound ∧
      strayVolume.follow ["home"] ["a"] = .ok ["home", "a"] ∧
      strayVolume.isDirectory ["home", "a"] = true ∧
      strayVolume.stepTo ["home", "a"] "b" = .ok ["home", "a", "b"] ∧
      (strayVolume.get? ["home", "a", "b"]).isSome = false := by decide +kernel

/-- Where steps lead once the directory has been made, and what stands there. -/
theorem strayVolume_after :
    strayVolumeAfter.follow ["home"] ["a", "b", "..", "f"] = .ok ["home", "a", "f"] ∧
      strayVolumeAfter.follow ["home"] ["a", "b", ".."] = .ok ["home", "a"] ∧
      strayVolumeAfter.isDirectory ["home", "a"] = true ∧
      strayVolumeAfter.get? ["home", "a", "f"] =
        some (.file Files.standardMode strayContent) := by decide +kernel

/-- The name of the home directory is plain. -/
theorem plainName_home : ∀ name ∈ ["home"], Volume.PlainName name := by
  intro name hn
  rw [List.mem_singleton.mp hn]
  exact ⟨by decide, by decide, by decide, by decide⟩

/-- The volume with the stray file is well-formed. -/
theorem wellFormed_strayVolume : strayVolume.WellFormed := by
  have hblank := Volume.wellFormed_blank plainName_home
  have ha := @Volume.WellFormed.put _ hblank ["home"] "a" rfl .directory (.inl rfl)
  exact @Volume.WellFormed.put _ ha ["home", "a"] "f" rfl _ (.inr rfl)

/-- A trail that starts from the far directory is trimmed if its last step is a
name or goes up. -/
theorem trimmed_farTrail {piece : String} {rest : List String} (hp : piece ≠ "") (hd : piece ≠ ".")
    (hs : ∀ other ∈ piece :: rest, '/' ∉ other.toList) :
    Path.Trimmed false (farTrail (piece :: rest)) := by
  refine ⟨?_, ?_, ?_⟩
  · intro other ho
    simp only [farTrail, List.mem_append, List.mem_replicate, List.mem_singleton] at ho
    rcases ho with ho | ⟨-, rfl⟩ | rfl
    · exact hs other ho
    · decide
    · decide
  · rw [farTrail, List.cons_append, Path.dropFillers_of_name hp hd]
  · intro _ other ho
    rw [farTrail, ← List.append_assoc, List.getLast?_concat] at ho
    cases ho
    decide

/-- The trail of the stray path is trimmed. -/
theorem trimmed_file : Path.Trimmed false (farTrail ["f", "..", "b"]) :=
  trimmed_farTrail (by decide) (by decide) (by decide)

/-- The trail of the directory of the stray path is trimmed. -/
theorem trimmed_up : Path.Trimmed false (farTrail ["..", "b"]) :=
  trimmed_farTrail (by decide) (by decide) (by decide)

/-- The trail of the missing directory is trimmed. -/
theorem trimmed_missing : Path.Trimmed false (farTrail ["b"]) :=
  trimmed_farTrail (by decide) (by decide) (by decide)

/-- The steps from the far directory on. -/
theorem steps_farTrail {rest : List String} (ht : Path.Trimmed false (farTrail rest))
    (hn : ∀ piece ∈ rest, piece ≠ "") :
    Path.steps (Path.ofTrail false (farTrail rest)) = "a" :: rest.reverse := by
  have hrest : rest.reverse.filter (· ≠ "") = rest.reverse := by
    rw [List.filter_eq_self]
    intro piece hp
    exact decide_eq_true (hn piece (List.mem_reverse.mp hp))
  have hfill : (List.replicate 4085 "").filter (· ≠ "") = [] := by
    rw [List.filter_replicate]
    rfl
  rw [Path.steps_ofTrail ht, farTrail, List.reverse_append, List.reverse_append,
    List.reverse_replicate, List.filter_append, List.filter_append, hrest, hfill, List.append_nil]
  rfl

/-- The length of a path from the far directory on. -/
theorem utf8ByteSize_farTrail (rest : List String) :
    (Path.ofTrail false (farTrail rest)).utf8ByteSize =
      4086 + (rest.map String.utf8ByteSize).sum + rest.length := by
  have ha : "a".utf8ByteSize = 1 := rfl
  have h0 : "".utf8ByteSize = 0 := rfl
  have hn : (farTrail rest).reverse ≠ [] := by
    rw [farTrail, ← List.append_assoc, List.reverse_concat]
    exact List.cons_ne_nil _ _
  have hj := Text.utf8ByteSize_joined hn
  rw [List.map_reverse, List.sum_reverse, List.length_reverse] at hj
  simp only [farTrail, List.map_append, List.sum_append, List.map_replicate, List.sum_replicate,
    List.map_cons, List.map_nil, List.sum_cons, List.sum_nil, List.length_append,
    List.length_replicate, List.length_cons, List.length_nil, ha, h0, smul_eq_mul] at hj
  rw [Path.ofTrail_false, farTrail]
  omega

/-- A path from the far directory on is a proper one if it is not too long. -/
theorem checkPath_farTrail {rest : List String}
    (hz : ∀ piece ∈ rest, (piece.toList.any fun c => c.toNat == 0) = false)
    (hl : (rest.map String.utf8ByteSize).sum + rest.length ≤ 9) :
    Volume.checkPath (Path.ofTrail false (farTrail rest)) = .ok () := by
  have hsize := utf8ByteSize_farTrail rest
  have hany : ¬((Path.ofTrail false (farTrail rest)).toList.any fun c => c.toNat == 0) = true := by
    rw [Bool.not_eq_true, List.any_eq_false]
    intro c hc
    rw [beq_iff_eq]
    rw [Path.ofTrail_false] at hc
    rcases Text.mem_joined hc with rfl | ⟨piece, hp, hc⟩
    · decide
    · simp only [farTrail, List.mem_reverse, List.mem_append, List.mem_replicate,
        List.mem_singleton] at hp
      rcases hp with hp | ⟨-, rfl⟩ | rfl
      · exact fun h => List.any_eq_false.mp (hz piece hp) c hc (beq_iff_eq.mpr h)
      · exact absurd hc List.not_mem_nil
      · rw [List.mem_singleton.mp hc]
        decide
  have hne : Path.ofTrail false (farTrail rest) ≠ "" := by
    intro he
    rw [he, String.utf8ByteSize_empty] at hsize
    omega
  have hlong : ¬Files.maxPath < (Path.ofTrail false (farTrail rest)).utf8ByteSize := by
    rw [Files.maxPath]
    omega
  rw [Volume.checkPath, if_neg hany, if_neg hne, if_neg hlong]

/-- A path from the far directory on starts at the home directory. -/
theorem start_farTrail {rest : List String} (ht : Path.Trimmed false (farTrail rest))
    (volume : Volume) : volume.start (Path.ofTrail false (farTrail rest)) = volume.home := by
  rw [Volume.start, Path.isAbsolute_ofTrail ht, if_neg Bool.false_ne_true]

/-- A path from the far directory on without its last step. -/
theorem parent?_farTrail {piece : String} {rest : List String}
    (ht : Path.Trimmed false (farTrail (piece :: rest)))
    (hr : Path.Trimmed false (farTrail rest)) :
    Path.parent? (Path.ofTrail false (farTrail (piece :: rest))) =
      some (Path.ofTrail false (farTrail rest)) := by
  have h := Path.parent?_ofTrail ht
  rw [List.append_eq, ← farTrail, hr.dropFillers_eq] at h
  exact h

/-- The stray file is put into the directory one up from the missing one. -/
theorem directory_strayPath :
    Path.directory strayPath = Path.ofTrail false (farTrail ["..", "b"]) := by
  have hne : Path.ofTrail false (farTrail ["..", "b"]) ≠ "" := by
    intro he
    have hsize := utf8ByteSize_farTrail ["..", "b"]
    rw [he, String.utf8ByteSize_empty] at hsize
    omega
  rw [Path.directory, strayPath, parent?_farTrail trimmed_file trimmed_up]
  exact if_neg hne

/-- The steps of the path to the stray file. -/
theorem steps_strayPath : Path.steps strayPath = ["a", "b", "..", "f"] := by
  rw [strayPath, steps_farTrail trimmed_file (by decide)]
  rfl

/-- The path to the stray file is a proper one. -/
theorem checkPath_strayPath : Volume.checkPath strayPath = .ok () := by
  rw [strayPath, checkPath_farTrail (by decide) (by decide)]

/-- The path to the stray file starts at the home directory. -/
theorem start_strayPath (volume : Volume) : volume.start strayPath = volume.home := by
  rw [strayPath, start_farTrail trimmed_file]

/-- The stray file is not found as long as the directory is missing. -/
theorem contentOf_strayVolume : strayVolume.contentOf strayPath = .error .notFound := by
  apply Volume.contentOf_of_error checkPath_strayPath
  rw [steps_strayPath, start_strayPath]
  exact strayVolume_before.1

/-- The stray file is found once the directory has been made. -/
theorem readFile_strayVolumeAfter : strayVolumeAfter.readFile strayPath = .ok strayContent := by
  obtain ⟨hf, -, -, hg⟩ := strayVolume_after
  have hend : Path.endsInSlash strayPath = false := by
    have h := Path.endsInSlash_ofTrail trimmed_file (by decide)
    rw [List.append_eq, ← List.cons_append, ← farTrail, ← strayPath] at h
    exact h
  refine Volume.readFile_eq_ok.mpr ⟨Volume.contentOf_eq_ok.mpr
    ⟨_, _, Volume.resolve_eq_ok.mpr ⟨checkPath_strayPath, ?_, ?_⟩, hg⟩, rfl⟩
  · rw [steps_strayPath, start_strayPath]
    exact hf
  · rw [hend]
    exact fun h => absurd h Bool.false_ne_true

/-- The directory of the stray file cannot be made before the missing one. -/
theorem makeDirectory_up : strayVolume.makeDirectory (Path.ofTrail false (farTrail ["..", "b"])) =
    .error .notFound := by
  apply Volume.makeDirectory_of_error
  apply Volume.resolveParent_of_error (checkPath_farTrail (by decide) (by decide))
  rw [start_farTrail trimmed_up, steps_farTrail trimmed_up (by decide)]
  exact strayVolume_before.2.1

/-- The missing directory can be made. -/
theorem makeDirectory_missing :
    strayVolume.makeDirectory (Path.ofTrail false (farTrail ["b"])) = .ok strayVolumeAfter := by
  obtain ⟨-, -, hf, hd, hs, hg⟩ := strayVolume_before
  have hp : strayVolume.resolveParent (Path.ofTrail false (farTrail ["b"])) =
      .ok (["home", "a"], some "b") := by
    rw [Volume.resolveParent_eq_ok, start_farTrail trimmed_missing,
      steps_farTrail trimmed_missing (by decide)]
    exact ⟨checkPath_farTrail (by decide) (by decide), hf, hd, rfl⟩
  rw [Volume.makeDirectory_of_parent hp, if_neg (by decide)]
  simp only [hs, hg, Bool.false_eq_true, if_false]
  exact Volume.addDirectory_eq_ok.mpr ⟨rfl, rfl⟩

/-- The directory of the stray file is there after the missing one. -/
theorem leadsToDirectory_up : strayVolumeAfter.leadsToDirectory
    (Path.ofTrail false (farTrail ["..", "b"])) = true := by
  apply @Volume.leadsToDirectory_of_follow _ _ ["home", "a"]
    (checkPath_farTrail (by decide) (by decide))
  · rw [start_farTrail trimmed_up, steps_farTrail trimmed_up (by decide)]
    exact strayVolume_after.2.1
  · exact strayVolume_after.2.2.1

/-- Making the directory of the stray file makes the missing one. -/
theorem makeDirectories_strayVolume :
    (strayVolume.makeDirectories (Path.directory strayPath)).2 = strayVolumeAfter := by
  rw [directory_strayPath, Volume.makeDirectories_of_parent
    (parent?_farTrail trimmed_up trimmed_missing) (Path.parent?_ofTrail trimmed_missing)
    makeDirectory_up makeDirectory_missing leadsToDirectory_up]

/-- The stray file cannot be replaced, but trying makes the missing directory. -/
theorem writeFile_strayVolume {limit : Nat} {record : CacheRecord}
    (h : record.encode.length ≤ limit) :
    ∃ error, writeFile strayPath limit strayVolume record = (.error error, strayVolumeAfter) := by
  have hlong : 4090 ≤ (Path.directory strayPath).utf8ByteSize := by
    rw [directory_strayPath, utf8ByteSize_farTrail]
    decide
  obtain ⟨error, he⟩ := Volume.place_of_long_directory hlong strayVolume record.encode
  rw [makeDirectories_strayVolume] at he
  refine ⟨.files error, ?_⟩
  rw [writeFile]
  simp only [if_neg (Nat.not_lt.mpr h), he]

/-- The stray record. -/
def strayRecord : CacheRecord := ⟨1, none, some "t"⟩

/-- Before the write there is no record, after it there is the stray one. -/
theorem load_strayVolume :
    load (Store.file strayPath standardLimit) strayVolume 1 = .empty 1 ∧
      load (Store.file strayPath standardLimit) strayVolumeAfter 1 = strayRecord := by
  refine ⟨load_of_error (Volume.readFile_of_error contentOf_strayVolume) standardLimit 1, ?_⟩
  rw [load_of_ok readFile_strayVolumeAfter bounded_standardLimit (by decide +kernel)]
  decide +kernel

end ReleasePage.Cache
