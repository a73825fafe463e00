import Mathlib
import ReleasePage.Proofs.Survival

/-!
# Loads that share a store

Several loads read and write one store, each in four steps: it reads the store,
sends its request, receives the answer and stores what is new. The steps of
different loads come in any order. A load that takes its steps in a row is one
refresh.

In whatever order they come, release and token stay together: a record that is
stored, held or returned came as a whole from one response to a load of its
version, or is empty. This holds in memory, and in a file if the path is settled.
A path that goes up through a missing directory can lead to a stranger's file
once a failed write has made that directory.
-/

namespace ReleasePage.Cache

open ReleasePage.Files (Path Volume)
open ReleasePage.Web (Answer FetchError Request)

/-- One load: what it knows of the store and how it refreshes. -/
structure Loader (σ : Type) where
  /-- How the store is read and written. -/
  store : Store σ
  /-- How the cache is refreshed. -/
  options : RefreshOptions

/-- How far a load has come. -/
inductive Phase where
  /-- Nothing was done. -/
  | idle
  /-- The store was read. -/
  | loaded (record : CacheRecord)
  /-- The request for a record was sent. -/
  | waiting (record : CacheRecord)
  /-- The answer was received. -/
  | settled (record : CacheRecord) (news : Except FetchError (Option CacheRecord))
  /-- The load is over. -/
  | finished (refreshed : Refreshed)

/-- The record that a load holds, or has returned. -/
def Phase.record? : Phase → Option CacheRecord
  | .idle => none
  | .loaded record => some record
  | .waiting record => some record
  | .settled record _ => some record
  | .finished refreshed => some refreshed.record

/-- A request that was sent. -/
structure Asked (ι : Type) where
  /-- The load that sent it. -/
  loader : ι
  /-- The record it was sent for. -/
  record : CacheRecord
  /-- The request. -/
  request : Request

/-- The store, the loads, and what went over the wire so far. -/
structure Configuration (ι σ : Type) where
  /-- What the store holds. -/
  state : σ
  /-- How far each load has come. -/
  phase : ι → Phase
  /-- The requests that were sent. -/
  asked : List (Asked ι)
  /-- The answers that were received. -/
  answers : List (ι × Answer)

variable {ι σ : Type}

/-- The configuration before any load has begun. -/
def Configuration.start (state : σ) : Configuration ι σ := ⟨state, fun _ => .idle, [], []⟩

/-- The record came as a whole from one response to a load of the version. -/
def FromResponse (loaders : ι → Loader σ) (answers : List (ι × Answer)) (version : Nat)
    (record : CacheRecord) : Prop :=
  ∃ i answer, (i, answer) ∈ answers ∧ (loaders i).options.version = version ∧
    Brings (loaders i).options answer record

/-- The record is empty or came as a whole from one response. -/
def Genuine (loaders : ι → Loader σ) (answers : List (ι × Answer)) (version : Nat)
    (record : CacheRecord) : Prop :=
  record = .empty version ∨ FromResponse loaders answers version record

/-- What is known of a load: which record it holds, and what it has asked for. -/
def Phase.Sound (loaders : ι → Loader σ) (asked : List (Asked ι)) (answers : List (ι × Answer))
    (i : ι) : Phase → Prop
  | .idle => True
  | .loaded record => Genuine loaders answers (loaders i).options.version record
  | .waiting record => Genuine loaders answers (loaders i).options.version record ∧
    ⟨i, record, (loaders i).options.request record⟩ ∈ asked
  | .settled record news => Genuine loaders answers (loaders i).options.version record ∧
    ⟨i, record, (loaders i).options.request record⟩ ∈ asked ∧
    ∀ fresh, news = .ok (some fresh) →
      ∃ answer, (i, answer) ∈ answers ∧ Brings (loaders i).options answer fresh
  | .finished refreshed =>
    Genuine loaders answers (loaders i).options.version refreshed.record ∧
    ∃ record, ⟨i, record, (loaders i).options.request record⟩ ∈ asked ∧
      refreshed.requests = [(loaders i).options.request record] ∧
      (refreshed.outcome ≠ .changed → refreshed.record = record)

/-- A record that came from a response has the version of its load. -/
theorem FromResponse.version_eq {loaders : ι → Loader σ} {answers : List (ι × Answer)}
    {version : Nat} {record : CacheRecord} (h : FromResponse loaders answers version record) :
    record.version = version := by
  obtain ⟨i, answer, -, hv, hb⟩ := h
  obtain ⟨response, release, -, -, -, rfl⟩ := hb.response
  exact hv

/-- More answers take nothing back. -/
theorem FromResponse.mono {loaders : ι → Loader σ} {answers answers' : List (ι × Answer)}
    {version : Nat} {record : CacheRecord} (h : FromResponse loaders answers version record)
    (ha : answers ⊆ answers') : FromResponse loaders answers' version record := by
  obtain ⟨i, answer, hm, hv, hb⟩ := h
  exact ⟨i, answer, ha hm, hv, hb⟩

/-- More answers take nothing back. -/
theorem Genuine.mono {loaders : ι → Loader σ} {answers answers' : List (ι × Answer)}
    {version : Nat} {record : CacheRecord} (h : Genuine loaders answers version record)
    (ha : answers ⊆ answers') : Genuine loaders answers' version record :=
  h.imp_right fun hr => hr.mono ha

/-- More requests and answers take nothing back. -/
theorem Phase.Sound.mono {loaders : ι → Loader σ} {asked asked' : List (Asked ι)}
    {answers answers' : List (ι × Answer)} {i : ι} {phase : Phase}
    (h : phase.Sound loaders asked answers i) (hq : asked ⊆ asked') (ha : answers ⊆ answers') :
    phase.Sound loaders asked' answers' i := by
  cases phase with
  | idle => trivial
  | loaded record => exact Genuine.mono h ha
  | waiting record => exact ⟨h.1.mono ha, hq h.2⟩
  | settled record news =>
    refine ⟨h.1.mono ha, hq h.2.1, ?_⟩
    intro fresh hf
    obtain ⟨answer, hm, hb⟩ := h.2.2 fresh hf
    exact ⟨answer, ha hm, hb⟩
  | finished refreshed =>
    obtain ⟨hg, record, hm, hr⟩ := h
    exact ⟨hg.mono ha, record, hq hm, hr⟩

/-- A load has stored the record, which came from one response to a load of its
version. -/
def StoredBy (loaders : ι → Loader σ) (c : Configuration ι σ) (record : CacheRecord) : Prop :=
  ∃ i refreshed, c.phase i = .finished refreshed ∧ refreshed.saved = some (.ok ()) ∧
    refreshed.record = record ∧
    FromResponse loaders c.answers (loaders i).options.version record

/-- What the loads rely on: a load reads nothing but the record that the store
holds, and after a write the store holds the new record or, if the write failed,
still the old one. -/
structure StoreLaw (loaders : ι → Loader σ) (held : σ → Option CacheRecord) (sound : σ → Prop) :
    Prop where
  /-- Reading a sound state. -/
  load : ∀ i state version, sound state →
    load (loaders i).store state version = .empty version ∨
      ∃ record, held state = some record ∧ record.version = version ∧
        load (loaders i).store state version = record
  /-- Writing a record that a response has brought. -/
  write : ∀ i state answer record, sound state → Brings (loaders i).options answer record →
    sound ((loaders i).store.write state record).2 ∧
      (((loaders i).store.write state record).1 = .ok () ∧
          held ((loaders i).store.write state record).2 = some record ∨
        held ((loaders i).store.write state record).2 = held state)

/-- What holds whatever steps were taken. -/
structure Consistent (loaders : ι → Loader σ) (held : σ → Option CacheRecord) (sound : σ → Prop)
    (c : Configuration ι σ) : Prop where
  /-- The state of the store is sound. -/
  sound : sound c.state
  /-- The stored record was stored by a load. -/
  stored : ∀ record, held c.state = some record → StoredBy loaders c record
  /-- Every load holds what it should. -/
  phase : ∀ i, (c.phase i).Sound loaders c.asked c.answers i
  /-- Every request was made for the record that its load held. -/
  asked : ∀ asked ∈ c.asked,
    asked.request = (loaders asked.loader).options.request asked.record ∧
      Genuine loaders c.answers (loaders asked.loader).options.version asked.record

section Law

variable {loaders : ι → Loader σ} {held : σ → Option CacheRecord} {sound : σ → Prop}
  {c : Configuration ι σ}

/-- What is read is empty or came as a whole from one response. -/
theorem Consistent.genuine_load (h : Consistent loaders held sound c)
    (law : StoreLaw loaders held sound) (i : ι) :
    Genuine loaders c.answers (loaders i).options.version
      (load (loaders i).store c.state (loaders i).options.version) := by
  rcases law.load i c.state (loaders i).options.version h.sound with he | ⟨record, hr, hv, he⟩
  · exact .inl he
  · obtain ⟨j, refreshed, -, -, -, hf⟩ := h.stored record hr
    rw [he, ← hv, hf.version_eq]
    exact .inr hf

/-- What a load returns at its end. -/
theorem Consistent.sound_finished (h : Consistent loaders held sound c) {i : ι}
    {record : CacheRecord} {news : Except FetchError (Option CacheRecord)} {refreshed : Refreshed}
    {state : σ} (hi : c.phase i = .settled record news)
    (hc : conclude (loaders i).store c.state record [(loaders i).options.request record] news =
      (refreshed, state)) :
    (Phase.finished refreshed).Sound loaders c.asked c.answers i := by
  have hp := h.phase i
  rw [hi] at hp
  obtain ⟨hg, hm, hn⟩ := hp
  cases news with
  | error error =>
    cases hc
    exact ⟨hg, record, hm, rfl, fun _ => rfl⟩
  | ok fresh =>
    cases fresh with
    | none =>
      cases hc
      exact ⟨hg, record, hm, rfl, fun _ => rfl⟩
    | some fresh =>
      cases hc
      obtain ⟨answer, ha, hb⟩ := hn fresh rfl
      exact ⟨.inr ⟨i, answer, ha, rfl, hb⟩, record, hm, rfl, fun hne => absurd rfl hne⟩

/-- What the store holds at the end of a load: the new record, or still the old
one. -/
theorem Consistent.stored_finished (h : Consistent loaders held sound c)
    (law : StoreLaw loaders held sound) {i : ι} {record : CacheRecord}
    {news : Except FetchError (Option CacheRecord)} {refreshed : Refreshed} {state : σ}
    (hi : c.phase i = .settled record news)
    (hc : conclude (loaders i).store c.state record [(loaders i).options.request record] news =
      (refreshed, state)) :
    sound state ∧ (held state = held c.state ∨
      refreshed.saved = some (.ok ()) ∧ held state = some refreshed.record ∧
        FromResponse loaders c.answers (loaders i).options.version refreshed.record) := by
  have hp := h.phase i
  rw [hi] at hp
  cases news with
  | error error =>
    cases hc
    exact ⟨h.sound, .inl rfl⟩
  | ok fresh =>
    cases fresh with
    | none =>
      cases hc
      exact ⟨h.sound, .inl rfl⟩
    | some fresh =>
      cases hc
      obtain ⟨answer, ha, hb⟩ := hp.2.2 fresh rfl
      obtain ⟨hs, ⟨hok, hheld⟩ | hheld⟩ := law.write i c.state answer fresh h.sound hb
      · exact ⟨hs, .inr ⟨congrArg some hok, hheld, i, answer, ha, rfl, hb⟩⟩
      · exact ⟨hs, .inl hheld⟩

end Law

/-- Release and token have stayed together. -/
structure Together (loaders : ι → Loader σ) (held : σ → Option CacheRecord)
    (c : Configuration ι σ) : Prop where
  /-- The stored record was stored by a load, and came as a whole from one response
  to a load of its version. -/
  stored : ∀ record, held c.state = some record → StoredBy loaders c record
  /-- What a load holds or has returned is empty or came as a whole from one response
  to a load of its version. -/
  record : ∀ i record, (c.phase i).record? = some record →
    Genuine loaders c.answers (loaders i).options.version record
  /-- A request with a token was made for a record with that token and the release
  that came with it. -/
  token : ∀ asked ∈ c.asked, ∀ token, asked.request.token? = some token →
    ∃ release,
      asked.record = ⟨(loaders asked.loader).options.version, some release, some token⟩ ∧
      FromResponse loaders c.answers (loaders asked.loader).options.version asked.record
  /-- A load has made one request, and without news it has returned what the request
  was made for. -/
  returned : ∀ i refreshed, c.phase i = .finished refreshed →
    ∃ asked ∈ c.asked, asked.loader = i ∧ refreshed.requests = [asked.request] ∧
      (refreshed.outcome ≠ .changed → refreshed.record = asked.record)

/-- A genuine record with a token has the release that came with it. -/
theorem Genuine.release {loaders : ι → Loader σ} {answers : List (ι × Answer)} {version : Nat}
    {record : CacheRecord} (h : Genuine loaders answers version record) {token : String}
    (ht : record.token = some token) :
    ∃ release, record = ⟨version, some release, some token⟩ ∧
      FromResponse loaders answers version record := by
  rcases h with rfl | hf
  · cases ht
  · obtain ⟨i, answer, hm, rfl, hb⟩ := id hf
    obtain ⟨response, release, -, -, -, rfl⟩ := hb.response
    exact ⟨release, by rw [← ht], hf⟩

/-- Release and token stay together as long as the store keeps to its law. -/
theorem Consistent.together {loaders : ι → Loader σ} {held : σ → Option CacheRecord}
    {sound : σ → Prop} {c : Configuration ι σ} (h : Consistent loaders held sound c) :
    Together loaders held c := by
  refine ⟨h.stored, ?_, ?_, ?_⟩
  · intro i record hr
    have hp := h.phase i
    cases hi : c.phase i with
    | idle =>
      rw [hi] at hr
      cases hr
    | loaded held =>
      rw [hi] at hr hp
      cases hr
      exact hp
    | waiting held =>
      rw [hi] at hr hp
      cases hr
      exact hp.1
    | settled held news =>
      rw [hi] at hr hp
      cases hr
      exact hp.1
    | finished refreshed =>
      rw [hi] at hr hp
      cases hr
      exact hp.1
  · intro asked ha token ht
    obtain ⟨hr, hg⟩ := h.asked asked ha
    rw [hr, RefreshOptions.request, Request.token?_conditional] at ht
    exact hg.release ht
  · intro i refreshed hi
    have hp := h.phase i
    rw [hi] at hp
    obtain ⟨-, record, hm, hq, hr⟩ := hp
    exact ⟨_, hm, rfl, hq, hr⟩

/-- The store in memory keeps to the law. -/
theorem storeLaw_memory (options : ι → RefreshOptions) :
    StoreLaw (fun i => ⟨Store.memory, options i⟩) id fun _ => True := by
  constructor
  · intro i state version _
    cases state with
    | none => exact .inl rfl
    | some record =>
      by_cases hv : record.version = version
      · exact .inr ⟨record, rfl, hv, if_pos hv⟩
      · exact .inl (if_neg hv)
  · intro i state answer record _ _
    exact ⟨trivial, .inl ⟨rfl, rfl⟩⟩

/-- The store in a file keeps to the law if its path is settled. -/
theorem storeLaw_file (path : Path) (limits : ι → Nat) {options : ι → RefreshOptions}
    (hv : ∀ i, (options i).version < Number.words32) :
    StoreLaw (fun i => ⟨Store.file path (limits i), options i⟩) (stored? path)
      fun volume => volume.WellFormed ∧ Settled path volume := by
  constructor
  · intro i volume version _
    exact load_cases path (limits i) volume version
  · intro i volume answer record hs hb
    obtain ⟨hw, hp⟩ := hs
    simp only [write_file]
    have hwritten := written_writeFile hw path (limits i) record
    obtain ⟨hk, hh⟩ := hwritten.keeps
    refine ⟨⟨hwritten.wellFormed hw, hp.mono hk hh⟩, ?_⟩
    cases hc : writeFile path (limits i) volume record with
    | mk saved after =>
      cases saved with
      | ok =>
        exact .inl ⟨rfl, stored?_of_contentOf (hb.valid (hv i)) (readFile_of_saved hw hc).2.1⟩
      | error error =>
        exact .inr (stored?_congr (hp.alike_of_failed hw hc).content).symm

variable [DecidableEq ι]

/-- One step of one load. -/
inductive Step (loaders : ι → Loader σ) : Configuration ι σ → Configuration ι σ → Prop where
  /-- A load reads the store. -/
  | read {c : Configuration ι σ} {i : ι} (h : c.phase i = .idle) :
    Step loaders c ⟨c.state, Function.update c.phase i
      (.loaded (load (loaders i).store c.state (loaders i).options.version)), c.asked, c.answers⟩
  /-- A load sends its request. -/
  | ask {c : Configuration ι σ} {i : ι} {record : CacheRecord} (h : c.phase i = .loaded record) :
    Step loaders c ⟨c.state, Function.update c.phase i (.waiting record),
      ⟨i, record, (loaders i).options.request record⟩ :: c.asked, c.answers⟩
  /-- A load receives an answer, whatever it is. -/
  | receive {c : Configuration ι σ} {i : ι} {record : CacheRecord} (h : c.phase i = .waiting record)
    (answer : Answer) :
    Step loaders c ⟨c.state, Function.update c.phase i
      (.settled record ((loaders i).options.settle answer)), c.asked, (i, answer) :: c.answers⟩
  /-- A load stores what is new and returns. -/
  | finish {c : Configuration ι σ} {i : ι} {record : CacheRecord}
    {news : Except FetchError (Option CacheRecord)} {refreshed : Refreshed} {state : σ}
    (h : c.phase i = .settled record news)
    (hc : conclude (loaders i).store c.state record [(loaders i).options.request record] news =
      (refreshed, state)) :
    Step loaders c ⟨state, Function.update c.phase i (.finished refreshed), c.asked, c.answers⟩

/-- What the steps of all loads can lead to, in any order. -/
def Reachable (loaders : ι → Loader σ) (state : σ) (c : Configuration ι σ) : Prop :=
  Relation.ReflTransGen (Step loaders) (.start state) c

/-- A load that takes its steps in a row is one refresh, and the other loads stay
where they are. -/
theorem refresh_in_steps (loaders : ι → Loader σ) {c : Configuration ι σ} {i : ι}
    (h : c.phase i = .idle) (client : Request → Answer) :
    ∃ last : Configuration ι σ, Relation.ReflTransGen (Step loaders) c last ∧
      last.phase i = .finished
        (refresh (loaders i).store (loaders i).options client c.state).1 ∧
      last.state = (refresh (loaders i).store (loaders i).options client c.state).2 ∧
      ∀ j, j ≠ i → last.phase j = c.phase j := by
  let record := load (loaders i).store c.state (loaders i).options.version
  let answer := client ((loaders i).options.request record)
  let news := (loaders i).options.settle answer
  let asked := ⟨i, record, (loaders i).options.request record⟩ :: c.asked
  let reading : Configuration ι σ :=
    ⟨c.state, Function.update c.phase i (.loaded record), c.asked, c.answers⟩
  let asking : Configuration ι σ :=
    ⟨c.state, Function.update reading.phase i (.waiting record), asked, c.answers⟩
  let receiving : Configuration ι σ :=
    ⟨c.state, Function.update asking.phase i (.settled record news), asked,
      (i, answer) :: c.answers⟩
  have hread : Step loaders c reading := .read h
  have hask : Step loaders reading asking := .ask (Function.update_self ..)
  have hreceive : Step loaders asking receiving := .receive (Function.update_self ..) answer
  have hfinish := @Step.finish _ _ _ loaders receiving i record news _ _
    (Function.update_self ..) Prod.mk.eta.symm
  refine ⟨_, .tail (.tail (.tail (.single hread) hask) hreceive) hfinish,
    Function.update_self .., rfl, ?_⟩
  intro j hj
  simp only [receiving, asking, reading, Function.update_of_ne hj]

/-- A step keeps what went over the wire. -/
theorem Step.grows {loaders : ι → Loader σ} {c next : Configuration ι σ}
    (h : Step loaders c next) : c.asked ⊆ next.asked ∧ c.answers ⊆ next.answers := by
  cases h with
  | read => exact ⟨List.Subset.refl _, List.Subset.refl _⟩
  | ask => exact ⟨List.subset_cons_self _ _, List.Subset.refl _⟩
  | receive => exact ⟨List.Subset.refl _, List.subset_cons_self _ _⟩
  | finish => exact ⟨List.Subset.refl _, List.Subset.refl _⟩

/-- A load that is over takes no more steps. -/
theorem Step.finished {loaders : ι → Loader σ} {c next : Configuration ι σ}
    (h : Step loaders c next) {j : ι} {refreshed : Refreshed} (hj : c.phase j = .finished refreshed) :
    next.phase j = .finished refreshed := by
  have hother : ∀ {i : ι} {phase : Phase}, c.phase i ≠ .finished refreshed →
      Function.update c.phase i phase j = .finished refreshed := by
    intro i phase hi
    have hne : j ≠ i := by
      rintro rfl
      exact hi hj
    rw [Function.update_of_ne hne, hj]
  cases h with
  | read h => exact hother (by rw [h]; exact Phase.noConfusion)
  | ask h => exact hother (by rw [h]; exact Phase.noConfusion)
  | receive h => exact hother (by rw [h]; exact Phase.noConfusion)
  | finish h => exact hother (by rw [h]; exact Phase.noConfusion)

/-- What was stored by a load was stored by it after the next step, too. -/
theorem StoredBy.step {loaders : ι → Loader σ} {c next : Configuration ι σ}
    {record : CacheRecord} (h : StoredBy loaders c record) (hs : Step loaders c next) :
    StoredBy loaders next record := by
  obtain ⟨i, refreshed, hp, hok, hr, hf⟩ := h
  exact ⟨i, refreshed, hs.finished hp, hok, hr, hf.mono hs.grows.2⟩

/-- What holds whatever steps were taken is kept by one more. -/
theorem Consistent.step {loaders : ι → Loader σ} {held : σ → Option CacheRecord} {sound : σ → Prop}
    (law : StoreLaw loaders held sound) {c next : Configuration ι σ}
    (h : Consistent loaders held sound c) (hs : Step loaders c next) :
    Consistent loaders held sound next := by
  have hstored : ∀ record, held c.state = some record → StoredBy loaders next record :=
    fun record hr => (h.stored record hr).step hs
  have hother : ∀ j, (c.phase j).Sound loaders next.asked next.answers j :=
    fun j => (h.phase j).mono hs.grows.1 hs.grows.2
  have hasked : ∀ asked ∈ c.asked,
      asked.request = (loaders asked.loader).options.request asked.record ∧
        Genuine loaders next.answers (loaders asked.loader).options.version asked.record :=
    fun asked ha => ⟨(h.asked asked ha).1, (h.asked asked ha).2.mono hs.grows.2⟩
  have hphase : ∀ {i : ι} {phase : Phase}, phase.Sound loaders next.asked next.answers i →
      ∀ j, (Function.update c.phase i phase j).Sound loaders next.asked next.answers j :=
    fun hi => (Function.forall_update_iff _ fun j (phase : Phase) =>
      phase.Sound loaders next.asked next.answers j).mpr ⟨hi, fun j _ => hother j⟩
  cases hs with
  | @read i hi => exact ⟨h.sound, hstored, hphase (h.genuine_load law i), hasked⟩
  | @ask i record hi =>
    have hp := h.phase i
    rw [hi] at hp
    refine ⟨h.sound, hstored, hphase ⟨hp, List.mem_cons_self⟩, ?_⟩
    intro asked ha
    rcases List.mem_cons.mp ha with rfl | ha
    · exact ⟨rfl, hp⟩
    · exact hasked asked ha
  | @receive i record hi answer =>
    have hp := hother i
    rw [hi] at hp
    refine ⟨h.sound, hstored, hphase ⟨hp.1, hp.2, ?_⟩, hasked⟩
    intro fresh hf
    exact ⟨answer, List.mem_cons_self, settle_eq_some.mp hf⟩
  | @finish i record news refreshed state hi hc =>
    obtain ⟨hsound, hheld⟩ := h.stored_finished law hi hc
    refine ⟨hsound, ?_, hphase (h.sound_finished hi hc), hasked⟩
    intro other ho
    rcases hheld with hheld | ⟨hok, hheld, hf⟩
    · rw [hheld] at ho
      exact hstored other ho
    · rw [hheld] at ho
      cases ho
      exact ⟨i, refreshed, Function.update_self .., hok, rfl, hf⟩

/-- What holds whatever steps were taken. -/
theorem consistent_of_reachable {loaders : ι → Loader σ} {held : σ → Option CacheRecord}
    {sound : σ → Prop} (law : StoreLaw loaders held sound) {state : σ} (hs : sound state)
    (hn : held state = none) {c : Configuration ι σ} (h : Reachable loaders state c) :
    Consistent loaders held sound c := by
  induction h with
  | refl =>
    refine ⟨hs, ?_, fun _ => trivial, fun _ ha => absurd ha List.not_mem_nil⟩
    intro record hr
    rw [Configuration.start, hn] at hr
    cases hr
  | tail _ hstep ih => exact ih.step law hstep

/-- Whatever loads share a store, and in whatever order they take their steps,
release and token stay together: in memory, and in a file of a settled path that
holds no record at first. -/
theorem token_and_release_stay_together (options : ι → RefreshOptions) :
    (∀ c : Configuration ι (Option CacheRecord),
      Reachable (fun i => ⟨Store.memory, options i⟩) none c →
        Together (fun i => ⟨Store.memory, options i⟩) id c) ∧
    ∀ (path : Path) (limits : ι → Nat) (volume : Volume),
      (∀ i, (options i).version < Number.words32) → volume.WellFormed → Settled path volume →
      stored? path volume = none →
      ∀ c : Configuration ι Volume,
        Reachable (fun i => ⟨Store.file path (limits i), options i⟩) volume c →
          Together (fun i => ⟨Store.file path (limits i), options i⟩) (stored? path) c := by
  constructor
  · intro c h
    exact (consistent_of_reachable (storeLaw_memory options) trivial rfl h).together
  · intro path limits volume hv hw hs hn c h
    exact (consistent_of_reachable (storeLaw_file path limits hv) ⟨hw, hs⟩ hn h).together

/-- What the sample refresh has stored is what the next load reads. -/
theorem load_firstRefresh :
    load (Store.file "cache/release.json" standardLimit) firstRefresh.2 1 = sampleRecord := by
  obtain ⟨hl, -, hr⟩ := readFile_of_saved (Volume.wellFormed_blank plainName_home)
    firstRefresh_saved.2.2
  exact load_of_readFile (brings_sample.valid (by decide)) (hr rfl) bounded_standardLimit hl

/-- Two loads that share a file with a sample release. -/
def sampleLoaders : Fin 2 → Loader Volume :=
  fun _ => ⟨Store.file "cache/release.json" standardLimit, sampleOptions⟩

/-- One load stores the sample release, and the other one reads it. -/
theorem token_and_release_stay_together_sample :
    ∃ c : Configuration (Fin 2) Volume,
      Reachable sampleLoaders (Volume.blank ["home"]) c ∧
      (c.phase 1).record? = some sampleRecord ∧
      Together sampleLoaders (stored? "cache/release.json") c := by
  obtain ⟨last, hrun, -, hstate, hother⟩ := @refresh_in_steps _ _ _ sampleLoaders
    (.start (Volume.blank ["home"])) 0 rfl fun _ => sampleAnswer
  have hread := @Step.read _ _ _ sampleLoaders last 1 (hother 1 (by decide))
  have hall : Reachable sampleLoaders (Volume.blank ["home"]) _ := .tail hrun hread
  refine ⟨_, hall, ?_, (token_and_release_stay_together fun _ => sampleOptions).2
    "cache/release.json" (fun _ => standardLimit) (Volume.blank ["home"]) (fun _ => by decide)
    (Volume.wellFormed_blank plainName_home) (Volume.grounded_of_not_mem (by decide +kernel) _ _)
    (by decide +kernel) _ hall⟩
  change (Function.update last.phase 1 _ 1).record? = _
  rw [Function.update_self, hstate]
  exact congrArg some load_firstRefresh

/-- Two loads that share a file whose directory can only be reached once another
one has been made. -/
def strayLoaders : Fin 2 → Loader Volume :=
  fun _ => ⟨Store.file strayPath standardLimit, sampleOptions⟩

/-- If the path is not settled, a load can hold a token without a release that no
response has brought: another load fails to store its release and leaves a
directory behind, through which the path leads to another file. -/
theorem stray_token_can_be_held :
    strayVolume.WellFormed ∧ stored? strayPath strayVolume = none ∧
      ∃ c : Configuration (Fin 2) Volume, Reachable strayLoaders strayVolume c ∧
        (c.phase 1).record? = some strayRecord ∧
        ¬Genuine strayLoaders c.answers (strayLoaders 1).options.version strayRecord := by
  obtain ⟨last, hrun, -, hstate, hother⟩ := @refresh_in_steps _ _ _ strayLoaders
    (.start strayVolume) 0 rfl fun _ => sampleAnswer
  have hread := @Step.read _ _ _ strayLoaders last 1 (hother 1 (by decide))
  refine ⟨wellFormed_strayVolume, by rw [stored?, contentOf_strayVolume], _, .tail hrun hread,
    ?_, ?_⟩
  · change (Function.update last.phase 1 _ 1).record? = _
    have hafter : last.state = strayVolumeAfter := hstate.trans strayRefresh_failed.2.2
    rw [Function.update_self, hafter]
    exact congrArg some load_strayVolume.2
  · rintro (he | ⟨i, answer, -, -, hb⟩)
    · exact absurd he (by decide)
    · obtain ⟨response, release, -, -, -, hr⟩ := hb.response
      cases hr

end ReleasePage.Cache
