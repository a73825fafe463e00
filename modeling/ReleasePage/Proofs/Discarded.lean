import Mathlib
import ReleasePage.Proofs.FileStore
import ReleasePage.Proofs.Refresh

/-!
# Discarded caches

A cache is discarded if it holds no record, cannot be read or holds a record of another
version. A refresh then starts from the empty record, and nothing else of the store has
an effect on its request, on what it shows or on how it ends. Which files are discarded
is told by their content: those that cannot be read, are too long, are no record or are
a record of another version.
-/

namespace ReleasePage.Cache

open ReleasePage.Files (Path Volume)
open ReleasePage.Web (Answer FetchError Request)

/-- What was read of a store is of no use to a refresh with the given version. -/
inductive Discarded (version : Nat) : Except StoreError (Option CacheRecord) → Prop where
  /-- There is no record. -/
  | missing : Discarded version (.ok none)
  /-- The record could not be read. -/
  | unreadable (error : StoreError) : Discarded version (.error error)
  /-- The record has another version. -/
  | otherVersion {record : CacheRecord} (h : record.version ≠ version) :
    Discarded version (.ok (some record))

/-- Everything is discarded but records of the version. -/
theorem discarded_iff {version : Nat} {result : Except StoreError (Option CacheRecord)} :
    Discarded version result ↔
      ∀ record, result = .ok (some record) → record.version ≠ version := by
  constructor
  · rintro (_ | error | hv) record hr <;> cases hr
    exact hv
  · intro h
    cases result with
    | error error => exact .unreadable error
    | ok record? =>
      cases record? with
      | none => exact .missing
      | some record => exact .otherVersion (h record rfl)

/-- A file is discarded if it cannot be read, is too long, is no record or is a record of
another version. Under the greatest limit every file is. -/
theorem discarded_file {path : Path} {limit : Nat} {volume : Volume} {version : Nat} :
    Discarded version ((Store.file path limit).read volume) ↔
      (∃ fault, volume.readFile path = .error fault) ∨
      ∃ content, volume.readFile path = .ok content ∧
        (¬Bounded limit ∨ limit < content.length ∨
          (∃ fault, CacheRecord.parse content = .error fault) ∨
          ∃ record, CacheRecord.parse content = .ok record ∧ record.version ≠ version) := by
  rw [discarded_iff]
  constructor
  · intro h
    cases hc : volume.readFile path with
    | error fault => exact .inl ⟨fault, rfl⟩
    | ok content =>
      refine .inr ⟨content, rfl, ?_⟩
      by_cases hb : Bounded limit
      · right
        by_cases hl : limit < content.length
        · exact .inl hl
        · cases hp : CacheRecord.parse content with
          | error fault => exact .inr (.inl ⟨fault, rfl⟩)
          | ok record =>
            have hread := readFile_eq_some.mpr ⟨hb, content, hc, Nat.le_of_not_lt hl, hp⟩
            exact .inr (.inr ⟨record, rfl, h record hread⟩)
      · exact .inl hb
  · intro h record hread
    obtain ⟨hb, content, hc, hl, hp⟩ := readFile_eq_some.mp hread
    rw [hc] at h
    rcases h with ⟨fault, hf⟩ | ⟨other, ho, h⟩
    · cases hf
    · cases ho
      rw [hp] at h
      rcases h with hgreatest | hlong | ⟨fault, hf⟩ | ⟨found, hfound, hv⟩
      · exact absurd hb hgreatest
      · exact absurd hlong (Nat.not_lt.mpr hl)
      · cases hf
      · cases hfound
        exact hv

/-- A refresh starts from nothing if what it reads is discarded. -/
theorem load_of_discarded {σ : Type} {store : Store σ} {state : σ} {version : Nat}
    (h : Discarded version (store.read state)) : load store state version = .empty version := by
  rw [load]
  generalize store.read state = result at h
  cases h with
  | missing => rfl
  | unreadable error => rfl
  | otherVersion hv => exact if_neg hv

/-- A refresh that starts from nothing makes a plain request and concludes. -/
theorem refresh_of_discarded {σ : Type} {store : Store σ} {state : σ} {options : RefreshOptions}
    (h : Discarded options.version (store.read state)) (client : Request → Answer) :
    refresh store options client state =
      conclude store state (.empty options.version) [.plain options.url]
        (options.settle (client (.plain options.url))) := by
  rw [refresh, load_of_discarded h]
  rfl

/-- What is shown and how it came about do not depend on the store. -/
theorem conclude_congr {σ τ : Type} (first : Store σ) (second : Store τ) (a : σ) (b : τ)
    (record : CacheRecord) (requests : List Request)
    (news : Except FetchError (Option CacheRecord)) :
    (conclude first a record requests news).1.record =
        (conclude second b record requests news).1.record ∧
      (conclude first a record requests news).1.outcome =
        (conclude second b record requests news).1.outcome := by
  cases news with
  | error error => exact ⟨rfl, rfl⟩
  | ok fresh? =>
    cases fresh? with
    | none => exact ⟨rfl, rfl⟩
    | some fresh => exact ⟨rfl, rfl⟩

/-- Unless there is a new release, the record stays. -/
theorem record_conclude {σ : Type} (store : Store σ) (state : σ) (record : CacheRecord)
    (requests : List Request) (news : Except FetchError (Option CacheRecord))
    (h : (conclude store state record requests news).1.outcome ≠ .changed) :
    (conclude store state record requests news).1.record = record := by
  refine (conclude_of_no_news store state record requests fun fresh hf => h ?_).1
  rw [hf]
  rfl

/-- A discarded cache has no effect on a refresh. Whatever two stores hold, if it is
discarded, both refreshes make the same plain request, show the same record and end alike;
and without a new release they show the empty record. -/
theorem discarded_cache_does_not_leak :
    (∀ path limit volume version, Discarded version ((Store.file path limit).read volume) ↔
      (∃ fault, volume.readFile path = .error fault) ∨
      ∃ content, volume.readFile path = .ok content ∧
        (¬Bounded limit ∨ limit < content.length ∨
          (∃ fault, CacheRecord.parse content = .error fault) ∨
          ∃ record, CacheRecord.parse content = .ok record ∧ record.version ≠ version)) ∧
    ∀ (options : RefreshOptions) (client : Request → Answer) (σ τ : Type) (first : Store σ)
      (second : Store τ) (a : σ) (b : τ),
      Discarded options.version (first.read a) → Discarded options.version (second.read b) →
      (refresh first options client a).1.requests = [.plain options.url] ∧
      (refresh second options client b).1.requests = [.plain options.url] ∧
      (Request.plain options.url).token? = none ∧
      (refresh first options client a).1.record = (refresh second options client b).1.record ∧
      (refresh first options client a).1.outcome = (refresh second options client b).1.outcome ∧
      ((refresh first options client a).1.outcome ≠ .changed →
        (refresh first options client a).1.record = .empty options.version) := by
  refine ⟨fun path limit volume version => discarded_file, ?_⟩
  intro options client σ τ first second a b ha hb
  rw [refresh_of_discarded ha, refresh_of_discarded hb]
  obtain ⟨hrecord, houtcome⟩ := conclude_congr first second a b (.empty options.version)
    [.plain options.url] (options.settle (client (.plain options.url)))
  exact ⟨requests_conclude _ _ _ _ _, requests_conclude _ _ _ _ _, rfl, hrecord, houtcome,
    record_conclude _ _ _ _ _⟩

/-- A missing file and a record of another version in memory: a new release is shown alike,
and a confirmation shows nothing. -/
theorem discarded_cache_does_not_leak_sample :
    (refresh (Store.file "cache/release.json" standardLimit) sampleOptions
        (fun _ => sampleAnswer) (.blank ["home"])).1.record =
      (refresh Store.memory sampleOptions (fun _ => sampleAnswer)
        (some ⟨2, some describedRelease, some "old"⟩)).1.record ∧
    (refresh Store.memory sampleOptions (fun _ => ⟨⟨0⟩, .ok (.ofStatus 304)⟩)
        (some ⟨2, some describedRelease, some "old"⟩)).1.record = .empty 1 := by
  have hfile : Discarded sampleOptions.version
      ((Store.file "cache/release.json" standardLimit).read (.blank ["home"])) :=
    (discarded_cache_does_not_leak.1 _ _ _ _).mpr (.inl ⟨.notFound, by decide +kernel⟩)
  have hmemory : Discarded sampleOptions.version
      (Store.memory.read (some ⟨2, some describedRelease, some "old"⟩)) :=
    .otherVersion (by decide)
  obtain ⟨-, -, -, hrecord, -⟩ := discarded_cache_does_not_leak.2 sampleOptions
    (fun _ => sampleAnswer) _ _ _ _ _ _ hfile hmemory
  obtain ⟨-, -, -, -, -, hempty⟩ := discarded_cache_does_not_leak.2 sampleOptions
    (fun _ => ⟨⟨0⟩, .ok (.ofStatus 304)⟩) _ _ _ _ _ _ hmemory hfile
  exact ⟨hrecord, hempty (by decide)⟩

end ReleasePage.Cache
