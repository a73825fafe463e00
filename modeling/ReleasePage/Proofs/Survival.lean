import Mathlib
import ReleasePage.Proofs.FileStore
import ReleasePage.Proofs.Refresh

/-!
# A cached release survives

Once a new release has been stored in a file it is what all later refreshes show,
and ask for with its own token, as long as they bring no news; and they leave the
file alone. A release that could not be stored leaves no trace: later refreshes
go on as if it had never arrived.

The second part needs that the directories a failed write leaves behind cannot be
seen through the path of the store. A path that goes up through a directory that
is missing can lead to another file once that directory has been made.
-/

namespace ReleasePage.Cache

open ReleasePage.Files (Path Volume)
open ReleasePage.Web (Answer Request)

/-- One refresh of the store at a path. -/
structure Visit where
  /-- How the refresh is made. -/
  options : RefreshOptions
  /-- The greatest length of a stored record. -/
  limit : Nat
  /-- What answers the request. -/
  client : Request → Answer

/-- Refreshes of the store at a path, one after the other, with their results. -/
def refreshAll (path : Path) : List Visit → Volume → List Refreshed × Volume
  | [], volume => ([], volume)
  | visit :: visits, volume =>
    let (refreshed, volume) :=
      refresh (Store.file path visit.limit) visit.options visit.client volume
    let (others, volume) := refreshAll path visits volume
    (refreshed :: others, volume)

/-- The answer brings no release. -/
inductive NoNews (options : RefreshOptions) (answer : Answer) : Prop where
  /-- It comes too late. -/
  | late (h : options.timeout.nanoseconds < answer.delay.nanoseconds)
  /-- The client got no response. -/
  | lost {text : String} (h : answer.result = .error text)
  /-- The response has another status than 200. -/
  | status {response : Web.Response} (h : answer.result = .ok response)
    (hs : response.status ≠ 200)
  /-- The content is no release that can be shown. -/
  | unusable {response : Web.Response} {error : ReleaseError} (h : answer.result = .ok response)
    (hn : options.normalizer.release response.body = .error error)

/-- An answer without a release brings no record. -/
theorem NoNews.not_brings {options : RefreshOptions} {answer : Answer} (h : NoNews options answer)
    (record : CacheRecord) : ¬Brings options answer record := by
  rintro ⟨ht, response, release, hr, hs, hn, -⟩
  cases h with
  | late h => exact absurd h (Nat.not_lt.mpr ht)
  | lost h =>
    rw [hr] at h
    cases h
  | status h hs' =>
    rw [hr] at h
    cases h
    exact hs' hs
  | unusable h hn' =>
    rw [hr] at h
    cases h
    rw [hn] at hn'
    cases hn'

/-- The refresh made one request, with the token of the record, and shows the
record. -/
structure Keeps (record : CacheRecord) (visit : Visit) (refreshed : Refreshed) : Prop where
  /-- There was one request. -/
  request : ∃ request, refreshed.requests = [request] ∧ request.url = visit.options.url ∧
    request.token? = record.token
  /-- The record is shown. -/
  record : refreshed.record = record

/-- A refresh without news keeps the record in the file. -/
theorem refresh_keeps {path : Path} {volume : Volume} {record : CacheRecord} {visit : Visit}
    (hload : load (Store.file path visit.limit) volume visit.options.version = record)
    (hn : NoNews visit.options (visit.client (visit.options.request record))) :
    Keeps record visit
        (refresh (Store.file path visit.limit) visit.options visit.client volume).1 ∧
      (refresh (Store.file path visit.limit) visit.options visit.client volume).2 = volume := by
  have hnews : ∀ fresh, visit.options.settle (visit.client (visit.options.request record)) ≠
      .ok (some fresh) := fun fresh he => hn.not_brings fresh (settle_eq_some.mp he)
  have hreq := requests_refresh (Store.file path visit.limit) visit.options visit.client volume
  obtain ⟨hrec, hvol⟩ := conclude_of_no_news (Store.file path visit.limit) volume record
    [visit.options.request record] hnews
  rw [hload] at hreq
  rw [refresh, revalidate, hload] at hreq ⊢
  exact ⟨⟨⟨_, hreq, rfl, Request.token?_conditional _ _⟩, hrec⟩, hvol⟩

/-- Refreshes without news keep the record in the file, however many there are. -/
theorem refreshAll_keeps {path : Path} {volume : Volume} {record : CacheRecord} {limit : Nat}
    (hload : load (Store.file path limit) volume record.version = record) {visits : List Visit}
    (hv : ∀ visit ∈ visits, visit.limit = limit ∧ visit.options.version = record.version ∧
      NoNews visit.options (visit.client (visit.options.request record))) :
    (refreshAll path visits volume).2 = volume ∧
      List.Forall₂ (Keeps record) visits (refreshAll path visits volume).1 := by
  induction visits with
  | nil => exact ⟨rfl, .nil⟩
  | cons visit visits ih =>
    obtain ⟨hlimit, hversion, hn⟩ := hv visit List.mem_cons_self
    obtain ⟨hvol, hall⟩ := ih fun other ho => hv other (List.mem_cons_of_mem _ ho)
    have hload' : load (Store.file path visit.limit) volume visit.options.version = record := by
      rw [hlimit, hversion]
      exact hload
    obtain ⟨hkeep, hsame⟩ := refresh_keeps hload' hn
    simp only [refreshAll, hsame]
    exact ⟨hvol, .cons hkeep hall⟩

/-- A refresh cannot tell volumes apart that are alike. -/
theorem Alike.refresh {path : Path} {volume other : Volume} (h : Alike path volume other)
    (visit : Visit) :
    (refresh (Store.file path visit.limit) visit.options visit.client volume).1 =
        (refresh (Store.file path visit.limit) visit.options visit.client other).1 ∧
      Alike path (refresh (Store.file path visit.limit) visit.options visit.client volume).2
        (refresh (Store.file path visit.limit) visit.options visit.client other).2 := by
  rw [Cache.refresh, Cache.refresh, load_congr h.readFile, revalidate, revalidate]
  generalize load (Store.file path visit.limit) other visit.options.version = record
  cases visit.options.settle (visit.client (visit.options.request record)) with
  | error error => exact ⟨rfl, h⟩
  | ok fresh =>
    cases fresh with
    | none => exact ⟨rfl, h⟩
    | some fresh =>
      obtain ⟨hsaved, halike⟩ := h.write visit.limit fresh
      simp only [conclude, Store.file, hsaved, true_and]
      exact halike

/-- Refreshes cannot tell volumes apart that are alike, however many there are. -/
theorem Alike.refreshAll {path : Path} {volume other : Volume} (h : Alike path volume other)
    (visits : List Visit) :
    (refreshAll path visits volume).1 = (refreshAll path visits other).1 ∧
      Alike path (refreshAll path visits volume).2 (refreshAll path visits other).2 := by
  induction visits generalizing volume other with
  | nil => exact ⟨rfl, h⟩
  | cons visit visits ih =>
    obtain ⟨hfirst, halike⟩ := h.refresh visit
    obtain ⟨hrest, hlast⟩ := ih halike
    simp only [Cache.refreshAll, hfirst, hrest, true_and]
    exact hlast

/-- A new release that was stored is what all later refreshes without news show and
ask for, and they leave the volume as it is; the limit is not the greatest one, and the
device gives out what it holds. One that could not be stored changes
no file, and if the path is settled, all later refreshes go on as if it had never
arrived. -/
theorem changed_release_survives {path : Path} {limit : Nat} {options : RefreshOptions}
    {client : Request → Answer} {volume after : Volume} {refreshed : Refreshed}
    (hv : options.version < Number.words32) (hw : volume.WellFormed)
    (h : refresh (Store.file path limit) options client volume = (refreshed, after))
    (hc : refreshed.outcome = .changed) :
    (refreshed.saved = some (.ok ()) → Bounded limit → volume.device.Readable →
      ∀ visits : List Visit,
      (∀ visit ∈ visits, visit.limit = limit ∧ visit.options.version = options.version ∧
        NoNews visit.options (visit.client (visit.options.request refreshed.record))) →
      (refreshAll path visits after).2 = after ∧
        List.Forall₂ (Keeps refreshed.record) visits (refreshAll path visits after).1) ∧
    ∀ error, refreshed.saved = some (.error error) →
      SameFiles after volume ∧
        (Settled path volume → ∀ visits : List Visit,
          (refreshAll path visits after).1 = (refreshAll path visits volume).1 ∧
            SameFiles (refreshAll path visits after).2 (refreshAll path visits volume).2) := by
  rw [refresh, revalidate] at h
  obtain ⟨hnews, saved, hwrite, hsaved⟩ := news_of_changed h hc
  rw [write_file] at hwrite
  have hbrings := settle_eq_some.mp hnews
  have hvalid := hbrings.valid hv
  have hversion : refreshed.record.version = options.version := by
    obtain ⟨response, release, -, -, -, hrec⟩ := hbrings.response
    rw [hrec]
  rw [hsaved]
  constructor
  · intro hok hb hr visits hvisits
    cases hok
    obtain ⟨hlen, -, hread⟩ := readFile_of_saved hw hwrite
    rw [← hversion] at hvisits
    exact refreshAll_keeps (load_of_readFile hvalid (hread hr) hb hlen) hvisits
  · intro error herror
    cases herror
    refine ⟨sameFiles_of_failed hw hwrite, ?_⟩
    intro hs visits
    obtain ⟨hsame, halike⟩ := (hs.alike_of_failed hw hwrite).refreshAll visits
    exact ⟨hsame.symm, fun location mode content => (halike.files location mode content).symm⟩

/-- A refresh that waits in vain. -/
def lateVisit : Visit := ⟨sampleOptions, standardLimit, fun _ => ⟨⟨6000000000⟩, .error "lost"⟩⟩

/-- A refresh that is told that nothing has changed. -/
def confirmedVisit : Visit := ⟨sampleOptions, standardLimit, fun _ => ⟨⟨0⟩, .ok (.ofStatus 304)⟩⟩

/-- A refresh that stores the sample release in a directory that was missing
before. -/
def firstRefresh : Refreshed × Volume :=
  refresh (Store.file "cache/release.json" standardLimit) sampleOptions (fun _ => sampleAnswer)
    (Volume.blank ["home"])

/-- The sample release is stored. -/
theorem firstRefresh_saved :
    firstRefresh.1.outcome = .changed ∧ firstRefresh.1.saved = some (.ok ()) ∧
      writeFile "cache/release.json" standardLimit (Volume.blank ["home"]) sampleRecord =
        (.ok (), firstRefresh.2) := by
  have hok : (writeFile "cache/release.json" standardLimit (Volume.blank ["home"])
      sampleRecord).1 = .ok () := by decide +kernel
  obtain ⟨-, houtcome, hsaved, hafter⟩ := @refresh_of_brings _
    (Store.file "cache/release.json" standardLimit) sampleOptions (fun _ => sampleAnswer)
    (Volume.blank ["home"]) sampleRecord brings_sample
  rw [write_file] at hsaved hafter
  rw [firstRefresh, hafter, ← hok, Prod.mk.eta]
  exact ⟨houtcome, hsaved, rfl⟩

/-- The sample release survives a timeout and a confirmation. -/
theorem changed_release_survives_sample :
    firstRefresh.1.outcome = .changed ∧ firstRefresh.1.saved = some (.ok ()) ∧
      (refreshAll "cache/release.json" [lateVisit, confirmedVisit] firstRefresh.2).2 =
        firstRefresh.2 ∧
      List.Forall₂ (Keeps firstRefresh.1.record) [lateVisit, confirmedVisit]
        (refreshAll "cache/release.json" [lateVisit, confirmedVisit] firstRefresh.2).1 := by
  obtain ⟨houtcome, hsaved, -⟩ := firstRefresh_saved
  have hfirst : refresh (Store.file "cache/release.json" standardLimit) sampleOptions
      (fun _ => sampleAnswer) (Volume.blank ["home"]) = (firstRefresh.1, firstRefresh.2) := by
    rw [Prod.mk.eta, firstRefresh]
  refine ⟨houtcome, hsaved, (changed_release_survives (by decide)
    (Volume.wellFormed_blank plainName_home) hfirst houtcome).1 hsaved bounded_standardLimit rfl
    _ ?_⟩
  intro visit hvisit
  rcases List.mem_cons.mp hvisit with rfl | hvisit
  · exact ⟨rfl, rfl, .late (by decide)⟩
  · rw [List.mem_singleton.mp hvisit]
    exact ⟨rfl, rfl, .status rfl (by decide)⟩

/-- A refresh whose release cannot be stored, since there is no room for a staging
file. -/
def strayRefresh : Refreshed × Volume :=
  refresh (Store.file strayPath standardLimit) sampleOptions (fun _ => sampleAnswer) strayVolume

/-- The release is shown but not stored, and the missing directory is made. -/
theorem strayRefresh_failed : strayRefresh.1.outcome = .changed ∧
    (∃ error, strayRefresh.1.saved = some (.error error)) ∧ strayRefresh.2 = strayVolumeAfter := by
  obtain ⟨error, hwrite⟩ := @writeFile_strayVolume standardLimit sampleRecord (by decide +kernel)
  obtain ⟨-, houtcome, hsaved, hafter⟩ := @refresh_of_brings _
    (Store.file strayPath standardLimit) sampleOptions (fun _ => sampleAnswer) strayVolume
    sampleRecord brings_sample
  rw [write_file, hwrite] at hsaved hafter
  rw [strayRefresh]
  exact ⟨houtcome, ⟨error, hsaved⟩, hafter⟩

/-- A refresh that waits in vain shows what the store holds. -/
theorem record_lateVisit (volume : Volume) :
    (refreshAll strayPath [lateVisit] volume).1.map Refreshed.record =
      [load (Store.file strayPath standardLimit) volume 1] := by
  have hlate : 5000000000 < 6000000000 := by decide
  have hkeep := (@refresh_keeps strayPath volume _ lateVisit rfl (.late hlate)).1
  simp only [refreshAll, List.map_cons, List.map_nil, hkeep.record]
  rfl

/-- A release that could not be stored can be followed by a refresh that shows what
was never shown before: the write made a directory on the way to another file. -/
theorem failed_write_can_be_seen :
    strayVolume.WellFormed ∧ strayRefresh.1.outcome = .changed ∧
      (∃ error, strayRefresh.1.saved = some (.error error)) ∧
      (refreshAll strayPath [lateVisit] strayVolume).1.map Refreshed.record = [.empty 1] ∧
      (refreshAll strayPath [lateVisit] strayRefresh.2).1.map Refreshed.record = [strayRecord] := by
  obtain ⟨houtcome, hsaved, hafter⟩ := strayRefresh_failed
  refine ⟨wellFormed_strayVolume, houtcome, hsaved, ?_, ?_⟩
  · rw [record_lateVisit, load_strayVolume.1]
  · rw [hafter, record_lateVisit, load_strayVolume.2]

end ReleasePage.Cache
