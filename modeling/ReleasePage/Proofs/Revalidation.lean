import Mathlib
import ReleasePage.Proofs.Snapshot
import ReleasePage.Proofs.Survival

/-!
# What one request does

The answer to the one request of a refresh alone decides how the refresh ends: it confirms
the record, brings a new one or is of no use. Only a new record is written to the store,
and it is shown whether or not it could be written. In a file a failed write leaves
everything that was there, as long as the path goes up only from directories that exist.
-/

namespace ReleasePage.Cache

open ReleasePage.Files (Path Volume)
open ReleasePage.Web (Answer FetchError Request Response)

/-- The answer confirms the record that it was requested for. -/
structure Confirms (options : RefreshOptions) (answer : Answer) : Prop where
  /-- The answer came in time. -/
  inTime : answer.delay.nanoseconds ≤ options.timeout.nanoseconds
  /-- The answer is a response that nothing has changed. -/
  response : ∃ response, answer.result = .ok response ∧ response.status = 304

/-- The answer is of no use, for the reason that the error gives. -/
inductive Useless (options : RefreshOptions) (answer : Answer) : FetchError → Prop where
  /-- It takes too long. -/
  | late (h : options.timeout.nanoseconds < answer.delay.nanoseconds) :
    Useless options answer (.timeout options.timeout)
  /-- There is no response. -/
  | lost (ht : answer.delay.nanoseconds ≤ options.timeout.nanoseconds) {text : String}
    (h : answer.result = .error text) : Useless options answer (.transport text)
  /-- The response neither confirms nor brings anything. -/
  | refused (ht : answer.delay.nanoseconds ≤ options.timeout.nanoseconds) {response : Response}
    (h : answer.result = .ok response) (h304 : response.status ≠ 304)
    (h200 : response.status ≠ 200) : Useless options answer (.status response.status options.url)
  /-- The content of the response is no record. -/
  | malformed (ht : answer.delay.nanoseconds ≤ options.timeout.nanoseconds)
    {response : Response} (h : answer.result = .ok response) (h200 : response.status = 200)
    {fault : Json.Fault} (hp : ReleaseRecord.parse response.body = .error fault) :
    Useless options answer (.release (.malformed fault))
  /-- The record in the response cannot be shown. -/
  | notShown (ht : answer.delay.nanoseconds ≤ options.timeout.nanoseconds)
    {response : Response} (h : answer.result = .ok response) (h200 : response.status = 200)
    {record : ReleaseRecord} (hp : ReleaseRecord.parse response.body = .ok record)
    {error : ReleaseError} (hn : options.normalizer.normalize record = .error error) :
    Useless options answer (.release error)

section Answer

variable {options : RefreshOptions} {answer : Answer}

/-- Every answer confirms the record, brings a new one or is of no use. -/
theorem confirms_or_brings_or_useless (options : RefreshOptions) (answer : Answer) :
    Confirms options answer ∨ (∃ fresh, Brings options answer fresh) ∨
      ∃ error, Useless options answer error := by
  by_cases ht : answer.delay.nanoseconds ≤ options.timeout.nanoseconds
  · cases hr : answer.result with
    | error text => exact .inr (.inr ⟨_, .lost ht hr⟩)
    | ok response =>
      by_cases h304 : response.status = 304
      · exact .inl ⟨ht, response, hr, h304⟩
      · by_cases h200 : response.status = 200
        · cases hp : ReleaseRecord.parse response.body with
          | error fault => exact .inr (.inr ⟨_, .malformed ht hr h200 hp⟩)
          | ok record =>
            cases hn : options.normalizer.normalize record with
            | error error => exact .inr (.inr ⟨_, .notShown ht hr h200 hp hn⟩)
            | ok release =>
              have hrelease := Normalizer.release_eq_ok.mpr ⟨record, hp, hn⟩
              exact .inr (.inl ⟨_, ht, response, release, hr, h200, hrelease, rfl⟩)
        · exact .inr (.inr ⟨_, .refused ht hr h304 h200⟩)
  · exact .inr (.inr ⟨_, .late (Nat.lt_of_not_le ht)⟩)

/-- A response that arrives in time is interpreted. -/
theorem settle_of_response (ht : answer.delay.nanoseconds ≤ options.timeout.nanoseconds)
    {response : Response} (h : answer.result = .ok response) :
    options.settle answer = options.interpret response := by
  rw [RefreshOptions.settle, if_neg (Nat.not_lt.mpr ht), h]

/-- A response whose content describes no release that can be shown. -/
theorem interpret_of_release {response : Response} (h200 : response.status = 200)
    {error : ReleaseError} (hn : options.normalizer.release response.body = .error error) :
    options.interpret response = .error (.release error) := by
  have h304 : response.status ≠ 304 := by omega
  simp only [RefreshOptions.interpret, if_neg h304, if_pos h200, hn]

/-- An answer that confirms the record brings nothing new. -/
theorem Confirms.settle (h : Confirms options answer) : options.settle answer = .ok none := by
  obtain ⟨response, hr, h304⟩ := h.response
  rw [settle_of_response h.inTime hr, RefreshOptions.interpret, if_pos h304]

/-- An answer that is of no use is a failure for its reason. -/
theorem Useless.settle {error : FetchError} (h : Useless options answer error) :
    options.settle answer = .error error := by
  cases h with
  | late h => rw [RefreshOptions.settle, if_pos h]
  | lost ht h => rw [RefreshOptions.settle, if_neg (Nat.not_lt.mpr ht), h]
  | refused ht h h304 h200 =>
    rw [settle_of_response ht h, RefreshOptions.interpret, if_neg h304, if_neg h200]
  | malformed ht h h200 hp =>
    rw [settle_of_response ht h]
    exact interpret_of_release h200 (by simp only [Normalizer.release, hp])
  | notShown ht h h200 hp hn =>
    rw [settle_of_response ht h]
    exact interpret_of_release h200 (by simp only [Normalizer.release, hp, hn])

/-- Nothing is new exactly after an answer that confirms the record. -/
theorem settle_eq_none : options.settle answer = .ok none ↔ Confirms options answer := by
  refine ⟨fun h => ?_, Confirms.settle⟩
  rcases confirms_or_brings_or_useless options answer with hc | ⟨fresh, hb⟩ | ⟨error, hu⟩
  · exact hc
  · rw [settle_eq_some.mpr hb] at h
    cases h
  · rw [hu.settle] at h
    cases h

/-- An answer fails for a reason exactly if it is useless for that reason. -/
theorem settle_eq_error {error : FetchError} :
    options.settle answer = .error error ↔ Useless options answer error := by
  refine ⟨fun h => ?_, Useless.settle⟩
  rcases confirms_or_brings_or_useless options answer with hc | ⟨fresh, hb⟩ | ⟨other, hu⟩
  · rw [hc.settle] at h
    cases h
  · rw [settle_eq_some.mpr hb] at h
    cases h
  · rw [hu.settle] at h
    cases h
    exact hu

end Answer

section Conclude

variable {σ : Type} (store : Store σ) (state : σ) (record : CacheRecord) (requests : List Request)
  {news : Except FetchError (Option CacheRecord)}

/-- A refresh without anything new ends unchanged, and no other. -/
theorem outcome_eq_unchanged :
    (conclude store state record requests news).1.outcome = .unchanged ↔ news = .ok none := by
  rcases news with error | _ | fresh <;> simp [conclude]

/-- A refresh fails with the error of its answer; errors of the store are none of its own. -/
theorem outcome_eq_failed {error : FetchError} :
    (conclude store state record requests news).1.outcome = .failed error ↔
      news = .error error := by
  rcases news with other | _ | fresh <;> simp [conclude]

/-- What is new is shown, whether or not it could be stored. -/
theorem changed_iff {fresh : CacheRecord} :
    ((conclude store state record requests news).1.outcome = .changed ∧
        (conclude store state record requests news).1.record = fresh) ↔
      news = .ok (some fresh) := by
  rcases news with error | _ | other <;> simp [conclude]

/-- What is new is written to the store. -/
theorem written_of_changed
    (h : (conclude store state record requests news).1.outcome = .changed) :
    (conclude store state record requests news).1.saved =
        some (store.write state (conclude store state record requests news).1.record).1 ∧
      (conclude store state record requests news).2 =
        (store.write state (conclude store state record requests news).1.record).2 := by
  rcases news with error | _ | fresh
  · cases h
  · cases h
  · exact ⟨rfl, rfl⟩

end Conclude

/-- A refresh from a record does exactly what the answer to its request says. -/
structure Exact {σ : Type} (store : Store σ) (options : RefreshOptions)
    (client : Request → Answer) (state : σ) (record : CacheRecord) (refreshed : Refreshed)
    (after : σ) : Prop where
  /-- There is one request, for the configured address, and it carries the token of the
  record if there is one. -/
  request : refreshed.requests = [⟨options.url, ("Accept", Web.mediaType) ::
    (record.token.map fun token => ("If-None-Match", token)).toList⟩]
  /-- The answer confirms the record. -/
  unchanged : refreshed.outcome = .unchanged ↔ Confirms options (client (options.request record))
  /-- The answer brings a new record, and this one is shown. -/
  changed : ∀ fresh, (refreshed.outcome = .changed ∧ refreshed.record = fresh) ↔
    Brings options (client (options.request record)) fresh
  /-- The answer is of no use. -/
  failed : ∀ error, refreshed.outcome = .failed error ↔
    Useless options (client (options.request record)) error
  /-- Without a new record nothing changes. -/
  kept : refreshed.outcome ≠ .changed → refreshed.record = record ∧ after = state
  /-- A new record is written once. -/
  written : refreshed.outcome = .changed →
    refreshed.saved = some (store.write state refreshed.record).1 ∧
      after = (store.write state refreshed.record).2

/-- A refresh from a record is exact in every store. -/
theorem exact_revalidate {σ : Type} (store : Store σ) (options : RefreshOptions)
    (client : Request → Answer) (state : σ) (record : CacheRecord) :
    Exact store options client state record (revalidate store options client state record).1
      (revalidate store options client state record).2 where
  request := requests_conclude store state record _ _
  unchanged := (outcome_eq_unchanged store state record _).trans settle_eq_none
  changed _ := (changed_iff store state record _).trans settle_eq_some
  failed _ := (outcome_eq_failed store state record _).trans settle_eq_error
  kept h := conclude_of_no_news store state record _ fun _ hn =>
    h ((changed_iff store state record _).mpr hn).1
  written := written_of_changed store state record _

/-- A file holds, as a whole, either the new record or what it held before. -/
inductive HoldsOne (path : Path) (limit : Nat) (volume : Volume) (refreshed : Refreshed)
    (after : Volume) : Prop where
  /-- The record was written: its bytes are in the file, and it is read from there, unless
  the limit is the greatest one or the device does not give out what it holds. -/
  | fresh (hsaved : refreshed.saved = some (.ok ()))
    (hbytes : after.contentOf path = .ok refreshed.record.encode)
    (hread : Bounded limit → volume.device.Readable →
      (Store.file path limit).read after = .ok (some refreshed.record)) :
    HoldsOne path limit volume refreshed after
  /-- The write failed: no file has changed, and the path leads to the same content, unless
  it goes up from a directory that was missing. -/
  | former {error : StoreError} (hsaved : refreshed.saved = some (.error error))
    (hfiles : SameFiles after volume)
    (hcontent : Settled path volume → ∀ content,
      after.contentOf path = .ok content ↔ volume.contentOf path = .ok content) :
    HoldsOne path limit volume refreshed after

/-- After a refresh with a new record a file holds this record or what it held before. -/
theorem Exact.holdsOne {path : Path} {limit : Nat} {options : RefreshOptions}
    {client : Request → Answer} {volume after : Volume} {record : CacheRecord}
    {refreshed : Refreshed}
    (h : Exact (Store.file path limit) options client volume record refreshed after)
    (hv : options.version < Number.words32) (hw : volume.WellFormed)
    (hc : refreshed.outcome = .changed) : HoldsOne path limit volume refreshed after := by
  obtain ⟨hsaved, hafter⟩ := h.written hc
  rw [write_file] at hsaved hafter
  have hwrite : writeFile path limit volume refreshed.record =
      ((writeFile path limit volume refreshed.record).1, after) := by rw [hafter]
  cases hr : (writeFile path limit volume refreshed.record).1 with
  | ok =>
    rw [hr] at hsaved hwrite
    obtain ⟨hlen, hbytes, hread⟩ := readFile_of_saved hw hwrite
    have hvalid := ((h.changed refreshed.record).mp ⟨hc, rfl⟩).valid hv
    refine .fresh hsaved hbytes fun hb hr => ?_
    rw [read_file]
    exact readFile_eq_some.mpr ⟨hb, _, hread hr, hlen, CacheRecord.parse_encode hvalid⟩
  | error error =>
    rw [hr] at hsaved hwrite
    refine .former hsaved (sameFiles_of_failed hw hwrite) fun hs content => ?_
    exact ((hs.alike_of_failed hw hwrite).content content).symm

/-- A refresh from a record makes one request and does exactly what the answer says; all
but a new record leaves the store as it is. After a new record, a store in memory holds it,
and a store in a file holds it or what it held before. -/
theorem revalidate_is_exact_and_atomic (options : RefreshOptions) (client : Request → Answer)
    (record : CacheRecord) :
    (∀ {σ : Type} (store : Store σ) (state : σ),
      Exact store options client state record (revalidate store options client state record).1
        (revalidate store options client state record).2) ∧
    (∀ held refreshed after,
      revalidate Store.memory options client held record = (refreshed, after) →
      refreshed.outcome = .changed → Store.memory.read after = .ok (some refreshed.record)) ∧
    ∀ path limit volume refreshed after, options.version < Number.words32 → volume.WellFormed →
      revalidate (Store.file path limit) options client volume record = (refreshed, after) →
      refreshed.outcome = .changed → HoldsOne path limit volume refreshed after := by
  refine ⟨fun store state => exact_revalidate store options client state record, ?_, ?_⟩
  · intro held refreshed after h hc
    have hexact := exact_revalidate Store.memory options client held record
    rw [h] at hexact
    have hafter : after = some refreshed.record := (hexact.written hc).2
    rw [hafter]
    rfl
  · intro path limit volume refreshed after hv hw h hc
    have hexact := exact_revalidate (Store.file path limit) options client volume record
    rw [h] at hexact
    exact hexact.holdsOne hv hw hc

/-- A record with the release that the sample answer describes, but with an older token. -/
def staleRecord : CacheRecord := ⟨1, some describedRelease, some "e0"⟩

/-- The sample answer replaces the record in a file of limited size. -/
def replaceStale (limit : Nat) : Refreshed × Volume :=
  revalidate (Store.file "cache/release.json" limit) sampleOptions (fun _ => sampleAnswer)
    (Volume.blank ["home"]) staleRecord

/-- The sample record is stored if there is room for it. If there is none, it is shown all
the same, and no file changes. -/
theorem revalidate_is_exact_and_atomic_sample :
    (replaceStale standardLimit).1.requests =
      [⟨"latest", [("Accept", Web.mediaType), ("If-None-Match", "e0")]⟩] ∧
    (Store.file "cache/release.json" standardLimit).read (replaceStale standardLimit).2 =
      .ok (some sampleRecord) ∧
    (replaceStale 0).1.record = sampleRecord ∧
    (replaceStale 0).1.saved = some (.error (.tooLarge sampleRecord.encode.length 0)) ∧
    SameFiles (replaceStale 0).2 (Volume.blank ["home"]) ∧
    ∀ content, (replaceStale 0).2.contentOf "cache/release.json" = .ok content ↔
      (Volume.blank ["home"]).contentOf "cache/release.json" = .ok content := by
  obtain ⟨hall, -, hfile⟩ :=
    revalidate_is_exact_and_atomic sampleOptions (fun _ => sampleAnswer) staleRecord
  have hstored := fun limit =>
    hfile "cache/release.json" limit (Volume.blank ["home"]) (replaceStale limit).1
      (replaceStale limit).2 (by decide) (Volume.wellFormed_blank plainName_home)
      (by rw [Prod.mk.eta, replaceStale])
  have hexact : ∀ limit, Exact (Store.file "cache/release.json" limit) sampleOptions
      (fun _ => sampleAnswer) (Volume.blank ["home"]) staleRecord (replaceStale limit).1
      (replaceStale limit).2 := fun limit => hall _ _
  have hshown : ∀ limit, (replaceStale limit).1.outcome = .changed ∧
      (replaceStale limit).1.record = sampleRecord := fun limit =>
    ((hexact limit).changed _).mpr brings_sample
  have hsaved : (replaceStale standardLimit).1.saved = some (.ok ()) := by
    rw [((hexact _).written (hshown _).1).1, (hshown _).2, write_file, firstRefresh_saved.2.2]
  have hlong : 0 < sampleRecord.encode.length := by decide +kernel
  have hunsaved : (replaceStale 0).1.saved =
      some (.error (.tooLarge sampleRecord.encode.length 0)) := by
    rw [((hexact _).written (hshown _).1).1, (hshown _).2, write_file, writeFile]
    simp only [if_pos hlong]
  have hsettled : Settled "cache/release.json" (Volume.blank ["home"]) :=
    Volume.grounded_of_not_mem (by decide +kernel) _ _
  refine ⟨(hexact standardLimit).request, ?_, (hshown 0).2, hunsaved, ?_⟩
  · cases hstored standardLimit (hshown _).1 with
    | fresh _ _ hread => rw [hread bounded_standardLimit rfl, (hshown _).2]
    | former herror =>
      rw [hsaved] at herror
      cases herror
  · cases hstored 0 (hshown _).1 with
    | fresh hok =>
      rw [hunsaved] at hok
      cases hok
    | former _ hfiles hcontent => exact ⟨hfiles, hcontent hsettled⟩

/-- The sample answer brings a record that cannot be written, since there is no room for a
staging file. -/
def replaceStray : Refreshed × Volume :=
  revalidate (Store.file strayPath standardLimit) sampleOptions (fun _ => sampleAnswer)
    strayVolume (.empty 1)

/-- A write that fails can uncover a record that was not there before: it makes a directory
on the way to a stranger's file. -/
theorem failed_write_uncovers_record :
    strayVolume.WellFormed ∧
    (Store.file strayPath standardLimit).read strayVolume = .ok none ∧
    replaceStray.1.outcome = .changed ∧ replaceStray.1.record = sampleRecord ∧
    (Store.file strayPath standardLimit).read replaceStray.2 = .ok (some strayRecord) ∧
    strayRecord ≠ sampleRecord := by
  have hexact := exact_revalidate (Store.file strayPath standardLimit) sampleOptions
    (fun _ => sampleAnswer) strayVolume (.empty 1)
  rw [← replaceStray] at hexact
  obtain ⟨hc, hshown⟩ := (hexact.changed _).mpr brings_sample
  obtain ⟨error, hfailed⟩ := @writeFile_strayVolume standardLimit sampleRecord (by decide +kernel)
  have hparse : CacheRecord.parse strayContent = .ok strayRecord := by decide +kernel
  have hafter := (hexact.written hc).2
  rw [hshown, write_file, hfailed] at hafter
  refine ⟨wellFormed_strayVolume, ?_, hc, hshown, ?_, by decide +kernel⟩
  · rw [read_file, readFile_of_notFound (Volume.readFile_of_error contentOf_strayVolume)]
  · rw [hafter, read_file]
    exact readFile_eq_some.mpr
      ⟨bounded_standardLimit, _, readFile_strayVolumeAfter, by decide +kernel, hparse⟩

end ReleasePage.Cache
