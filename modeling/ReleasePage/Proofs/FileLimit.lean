import Mathlib
import ReleasePage.Proofs.FileStore

/-!
# The limit of a store in a file

A store in a file checks its limit twice: on the bytes of a record before they are
written, and on a few bytes of the file when it is read. Both checks agree, so what is
accepted is read back, and a file within the limit is read as if there were no limit.
-/

namespace ReleasePage.Cache

open ReleasePage.Files (Path Volume)
open ReleasePage.Text (Bytes)

/-- The record in a file that is read as a whole. -/
def readWhole (path : Path) (volume : Volume) : Except StoreError (Option CacheRecord) :=
  match volume.readIfExists path with
  | .error error => .error (.files error)
  | .ok none => .ok none
  | .ok (some content) =>
    match CacheRecord.parse content with
    | .error fault => .error (.decode fault)
    | .ok record => .ok (some record)

/-- The file at a path is longer than the limit. -/
def Overlong (path : Path) (limit : Nat) (volume : Volume) : Prop :=
  ∃ content, volume.readIfExists path = .ok (some content) ∧ limit < content.length

section Read

variable {path : Path} {limit : Nat} {volume : Volume}

/-- A file that is read if it exists is one that can be read. -/
theorem readIfExists_eq_some {content : Bytes} :
    volume.readIfExists path = .ok (some content) ↔ volume.readFile path = .ok content := by
  rw [Volume.readIfExists]
  cases volume.readFile path with
  | ok other => simp
  | error fault => cases fault <;> simp

/-- A file beyond the limit is not read. -/
theorem Overlong.readFile (h : Overlong path limit volume) (hb : Bounded limit) :
    readFile path limit volume = .error (.oversized limit) := by
  obtain ⟨content, hc, hl⟩ := h
  exact readFile_of_long (readIfExists_eq_some.mp hc) hb hl

/-- A file that is not beyond the limit is read as if there were no limit. -/
theorem readFile_of_not_overlong (hb : Bounded limit) (h : ¬Overlong path limit volume) :
    readFile path limit volume = readWhole path volume := by
  cases hr : volume.readFile path with
  | error fault =>
    simp only [readFile, readWhole, Volume.readCapped, Volume.readIfExists, hr]
    cases fault <;> rfl
  | ok content =>
    have hc := readIfExists_eq_some.mpr hr
    have hl : content.length ≤ limit := Nat.le_of_not_lt fun hl => h ⟨content, hc, hl⟩
    rw [readFile_of_fitting hr hb hl, readWhole, hc]
    cases hp : CacheRecord.parse content with
    | error fault => simp only [hp, Except.mapError, Except.map]
    | ok record => simp only [hp, Except.mapError, Except.map]

/-- A file that is read as a whole is never too long. -/
theorem readWhole_ne_oversized (path : Path) (volume : Volume) (bound : Nat) :
    readWhole path volume ≠ .error (.oversized bound) := by
  rw [readWhole]
  split
  · exact fun h => nomatch h
  · exact fun h => nomatch h
  · split
    · exact fun h => nomatch h
    · exact fun h => nomatch h

/-- Reading refuses a file exactly if it is beyond the limit. -/
theorem readFile_eq_oversized (hb : Bounded limit) {bound : Nat} :
    readFile path limit volume = .error (.oversized bound) ↔
      bound = limit ∧ Overlong path limit volume := by
  by_cases h : Overlong path limit volume
  · rw [h.readFile hb]
    simp [h, eq_comm]
  · rw [readFile_of_not_overlong hb h]
    simp [h, readWhole_ne_oversized path volume bound]

/-- No more than one byte beyond the limit is taken from a file. -/
theorem readCapped_of_readFile {content : Bytes} (h : volume.readFile path = .ok content) :
    volume.readCapped path limit = .ok (some (content.take (Files.cappedLength limit))) := by
  rw [Volume.readCapped, readIfExists_eq_some.mpr h]
  rfl

/-- Files that agree up to one byte beyond the limit are read alike. -/
theorem readFile_congr {other : Volume} {content content' : Bytes}
    (h : volume.readFile path = .ok content) (h' : other.readFile path = .ok content')
    (he : content.take (limit + 1) = content'.take (limit + 1)) :
    readFile path limit volume = readFile path limit other := by
  have hcapped : content.take (Files.cappedLength limit) =
      content'.take (Files.cappedLength limit) := by
    have h := congrArg (List.take (Files.cappedLength limit)) he
    simpa only [List.take_take, Nat.min_eq_left (Files.cappedLength_le limit)] using h
  simp only [readFile, readCapped_of_readFile h, readCapped_of_readFile h', hcapped]

end Read

section Write

variable {path : Path} {limit : Nat} {volume : Volume} {record : CacheRecord}

/-- A record beyond the limit is refused, and nothing is done. -/
theorem writeFile_of_long (h : limit < record.encode.length) :
    writeFile path limit volume record =
      (.error (.tooLarge record.encode.length limit), volume) := by
  rw [writeFile]
  exact if_pos h

/-- A record within the limit is placed. -/
theorem writeFile_of_fitting (h : record.encode.length ≤ limit) :
    writeFile path limit volume record =
      ((volume.place path record.encode .withParents).1.mapError .files,
        (volume.place path record.encode .withParents).2) := by
  rw [writeFile]
  simp only [if_neg (Nat.not_lt.mpr h)]
  rcases volume.place path record.encode .withParents with ⟨error | ⟨⟩, after⟩
  · rfl
  · rfl

/-- Writing refuses a record as too large exactly if it is beyond the limit. -/
theorem writeFile_eq_tooLarge {size bound : Nat} :
    (writeFile path limit volume record).1 = .error (.tooLarge size bound) ↔
      limit < record.encode.length ∧ size = record.encode.length ∧ bound = limit := by
  by_cases h : limit < record.encode.length
  · rw [writeFile_of_long h]
    simp [h, eq_comm]
  · rw [writeFile_of_fitting (Nat.le_of_not_lt h)]
    cases (volume.place path record.encode .withParents).1 with
    | error error => simp [h, Except.mapError]
    | ok => simp [h, Except.mapError]

/-- A record that was written is read back under the same limit. -/
theorem readFile_of_writeFile {after : Volume}
    (hh : ∀ name ∈ volume.home, Volume.PlainName name) (hv : record.Valid) (hb : Bounded limit)
    (hr : volume.device.Readable)
    (h : writeFile path limit volume record = (.ok (), after)) :
    readFile path limit after = .ok (some record) := by
  have hw := written_of_home hh path limit record
  rw [h] at hw
  exact readFile_eq_some.mpr
    ⟨hb, _, hw.readFile hr, hw.saved.1, CacheRecord.parse_encode hv⟩

end Write

/-- A store in a file reads back exactly what it accepts. A record is refused as too large
exactly if its bytes are beyond the limit, and then nothing is done; a record that was
written is read back under the same limit, if the device gives out what it holds. Reading
refuses a file exactly if it is beyond the limit; any other file is read as if there were no
limit, errors of reading included. No more than one byte beyond the limit is ever taken from
a file. Wherever reading goes by the limit, it is below the greatest one. -/
theorem file_store_reads_back_what_it_accepts (path : Path) (limit : Nat) (volume : Volume) :
    (∀ record,
      (∀ size bound,
        ((Store.file path limit).write volume record).1 = .error (.tooLarge size bound) ↔
          limit < record.encode.length ∧ size = record.encode.length ∧ bound = limit) ∧
      (limit < record.encode.length → ((Store.file path limit).write volume record).2 = volume) ∧
      ∀ after, (∀ name ∈ volume.home, Volume.PlainName name) → record.Valid → Bounded limit →
        volume.device.Readable → (Store.file path limit).write volume record = (.ok (), after) →
        (Store.file path limit).read after = .ok (some record)) ∧
    (Bounded limit →
      (∀ bound, (Store.file path limit).read volume = .error (.oversized bound) ↔
        bound = limit ∧ Overlong path limit volume) ∧
      (¬Overlong path limit volume → (Store.file path limit).read volume = readWhole path volume)) ∧
    ∀ content, volume.readFile path = .ok content →
      (∃ bytes, volume.readCapped path limit = .ok (some bytes) ∧ bytes <+: content ∧
        bytes.length ≤ limit + 1) ∧
      ∀ other content', other.readFile path = .ok content' →
        content.take (limit + 1) = content'.take (limit + 1) →
        (Store.file path limit).read volume = (Store.file path limit).read other := by
  simp only [read_file, write_file]
  refine ⟨fun record => ⟨fun size bound => writeFile_eq_tooLarge, ?_, ?_⟩,
    fun hb => ⟨fun bound => readFile_eq_oversized hb, readFile_of_not_overlong hb⟩,
    fun content h => ⟨?_, ?_⟩⟩
  · intro h
    rw [writeFile_of_long h]
  · exact fun after hh hv hb hr h => readFile_of_writeFile hh hv hb hr h
  · exact ⟨_, readCapped_of_readFile h, List.take_prefix _ _,
      (List.length_take_le _ _).trans (Files.cappedLength_le limit)⟩
  · exact fun other content' h' he => readFile_congr h h' he

/-- A volume whose cache file holds an empty record, which has 34 bytes. -/
def fullVolume : Volume :=
  (writeFile "cache/release.json" 34 (Volume.blank ["home"]) (.empty 1)).2

/-- The empty record has been stored. -/
theorem fullVolume_saved :
    writeFile "cache/release.json" 34 (Volume.blank ["home"]) (.empty 1) =
      (.ok (), fullVolume) := by
  have hok : (writeFile "cache/release.json" 34 (Volume.blank ["home"]) (.empty 1)).1 = .ok () := by
    decide +kernel
  rw [fullVolume, ← hok, Prod.mk.eta]

/-- An empty record of 34 bytes is read back under a limit of 34 bytes. One byte less is not
enough to write it or to read it, and under a limit of zero only one byte is taken. -/
theorem file_store_reads_back_what_it_accepts_sample :
    (Store.file "cache/release.json" 34).write (Volume.blank ["home"]) (.empty 1) =
        (.ok (), fullVolume) ∧
      (Store.file "cache/release.json" 34).read fullVolume = .ok (some (.empty 1)) ∧
      readWhole "cache/release.json" fullVolume = .ok (some (.empty 1)) ∧
      (Store.file "cache/release.json" 33).read fullVolume = .error (.oversized 33) ∧
      (∃ bytes, fullVolume.readCapped "cache/release.json" 0 = .ok (some bytes) ∧
        bytes.length ≤ 1) ∧
      ((Store.file "cache/release.json" 33).write (Volume.blank ["home"]) (.empty 1)).1 =
        .error (.tooLarge 34 33) ∧
      ((Store.file "cache/release.json" 33).write (Volume.blank ["home"]) (.empty 1)).2 =
        Volume.blank ["home"] := by
  have hlength : (CacheRecord.empty 1).encode.length = 34 := by decide +kernel
  have hvalid : (CacheRecord.empty 1).Valid := ⟨by decide, fun _ h => nomatch h⟩
  have hwrite : (Store.file "cache/release.json" 34).write (Volume.blank ["home"]) (.empty 1) =
      (.ok (), fullVolume) := (write_file _ _ _ _).trans fullVolume_saved
  have hbytes :=
    (readFile_of_saved (Volume.wellFormed_blank plainName_home) fullVolume_saved).2.2 rfl
  have hbounded : ∀ limit < 35, Bounded limit := by
    intro limit hl
    have hwords : 35 < Number.words64 := by decide
    rw [Bounded]
    omega
  have hwithin : ¬Overlong "cache/release.json" 34 fullVolume := by
    rintro ⟨content, hc, hl⟩
    rw [readIfExists_eq_some.mpr hbytes] at hc
    cases hc
    rw [hlength] at hl
    exact Nat.lt_irrefl 34 hl
  obtain ⟨hfits, -⟩ :=
    file_store_reads_back_what_it_accepts "cache/release.json" 34 (Volume.blank ["home"])
  obtain ⟨hlong, -⟩ :=
    file_store_reads_back_what_it_accepts "cache/release.json" 33 (Volume.blank ["home"])
  obtain ⟨-, hwhole, -⟩ :=
    file_store_reads_back_what_it_accepts "cache/release.json" 34 fullVolume
  obtain ⟨-, hover, -⟩ :=
    file_store_reads_back_what_it_accepts "cache/release.json" 33 fullVolume
  obtain ⟨bytes, hcapped, -, hone⟩ :=
    ((file_store_reads_back_what_it_accepts "cache/release.json" 0 fullVolume).2.2 _ hbytes).1
  have hread := (hfits (.empty 1)).2.2 _ plainName_home hvalid (hbounded 34 (by decide)) rfl hwrite
  refine ⟨hwrite, hread, ((hwhole (hbounded 34 (by decide))).2 hwithin).symm.trans hread, ?_,
    ⟨bytes, hcapped, hone⟩, ?_, ?_⟩
  · exact ((hover (hbounded 33 (by decide))).1 33).mpr
      ⟨rfl, _, readIfExists_eq_some.mpr hbytes, by rw [hlength]; decide⟩
  · exact ((hlong (.empty 1)).1 34 33).mpr ⟨by rw [hlength]; decide, hlength.symm, rfl⟩
  · exact (hlong (.empty 1)).2.1 (by rw [hlength]; decide)

end ReleasePage.Cache
