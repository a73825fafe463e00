import Mathlib
import ReleasePage.Proofs.Publishing
import ReleasePage.Proofs.Survival

/-!
# A check falls back on the cache

The check command shows the release that a refresh ends with, and offline the release
that is in the cache. Both ways read the cache alike, whatever the file holds: where the
answer brings no release the refresh ends with the record it has started from, so the
same text is printed as offline, and the volume is left alone. This holds for every database
of zones and for every limit of the cache: under the greatest one, where the sum with one is
zero, both ways read nothing.
-/

namespace ReleasePage

open ReleasePage.Cache (NoNews RefreshOptions load refresh refresh_keeps)
open ReleasePage.Command (Done Finish Task checkAgent runCheck runOfflineCheck)
open ReleasePage.Files (Fault Room Volume)
open ReleasePage.Log (Event Filter)
open ReleasePage.Time (Zone ZoneDatabase)
open ReleasePage.Web (Answer Client Request)

namespace Command

/-- A command that ends by printing a text: how it ends the run depends on the text, on the
room for it and on what comes of a fault. -/
theorem Done.finish_printing {room : Room} {text : String} {failure : Fault → Failure}
    {volume : Volume} {requests : List Request} {events : List Event} {filter : Filter}
    {agent : String} {finish : Finish}
    (hf : (Done.printing room text failure volume requests events).finish filter agent = finish) :
    finish.printed = room.taken (Text.bytes text) ∧ finish.volume = volume ∧
      finish.exitCode = ((room.overflow? (Text.bytes text)).map fun fault =>
        (failure fault).exitCode).getD 0 := by
  subst hf
  simp only [Done.printing, Done.finish]
  cases room.overflow? (Text.bytes text) with
  | none => exact ⟨rfl, rfl, rfl⟩
  | some fault => exact ⟨rfl, rfl, rfl⟩

/-- An offline check prints what is in the cache. -/
theorem printed_runOfflineCheck (settings : Settings) (room : Room) (volume : Volume)
    (filter : Filter) (agent : String) :
    ((runOfflineCheck settings room volume).finish filter agent).printed =
      room.taken (Text.bytes
        (Page.summary (load settings.store volume settings.caching.version).release)) :=
  (Done.finish_printing rfl).1

end Command

section Refresh

variable [ZoneDatabase] {settings : Settings} {options : RefreshOptions} {client : Client}
  {room : Room} {volume : Volume}

/-- Refreshes read records of the version that is set. -/
theorem Settings.version_of_refreshOptions (h : settings.refreshOptions = .ok options) :
    options.version = settings.caching.version := by
  rw [Settings.refreshOptions] at h
  cases hn : settings.normalizer .lenient with
  | error error =>
    rw [hn] at h
    cases h
  | ok normalizer =>
    rw [hn] at h
    rw [← Except.ok.inj h]

namespace Command

/-- A check whose client can be built and whose zone is known prints what a refresh ends
with and leaves the volume that the refresh leaves. -/
theorem runCheck_eq_refresh (ha : checkAgent settings = .ok ())
    (ho : settings.refreshOptions = .ok options) (client : Client) (room : Room)
    (volume : Volume) :
    ∃ requests events, runCheck settings client room volume =
      .printing room
        (Page.summary (refresh settings.store options (client []) volume).1.record.release)
        .unprinted (refresh settings.store options (client []) volume).2 requests events := by
  simp only [runCheck, ha, ho]
  exact ⟨_, _, rfl⟩

/-- Without news a check prints what is in the cache and leaves the volume alone. -/
theorem runCheck_of_noNews (ha : checkAgent settings = .ok ())
    (ho : settings.refreshOptions = .ok options)
    (hn : NoNews options
      (client [] (options.request (load settings.store volume options.version)))) :
    ∃ requests events, runCheck settings client room volume =
      .printing room (Page.summary (load settings.store volume settings.caching.version).release)
        .unprinted volume requests events := by
  obtain ⟨requests, events, hcheck⟩ := runCheck_eq_refresh ha ho client room volume
  obtain ⟨hkeeps, hsame⟩ := @refresh_keeps settings.caching.path volume _
    ⟨options, settings.caching.maxBytes, client []⟩ rfl hn
  refine ⟨requests, events, hcheck.trans ?_⟩
  rw [Settings.store, hkeeps.record, hsame, Settings.version_of_refreshOptions ho]

end Command

end Refresh

/-- A check falls back on the cache. Offline it changes nothing, and it succeeds where
standard output takes everything. With a zone that the database knows and a client that can
be built it succeeds there whatever the cache holds and whatever the answer is. If the
answer brings no release, it prints what would have been printed offline, ends alike
whatever standard output takes, and changes nothing. -/
theorem check_degrades_to_offline [ZoneDatabase] :
    (∀ (settings : Settings) (client : Client) (room : Room) (volume : Volume) (filter : Filter)
      (agent : String) (offline : Finish),
      ((Task.check true).run settings client room volume).finish filter agent = offline →
        (room = .endless → offline.exitCode = 0) ∧ offline.volume = volume) ∧
    ∀ (settings : Settings) (zone : Zone),
      ZoneDatabase.zone? settings.rendering.zone = some zone → checkAgent settings = .ok () →
      ∃ options, settings.refreshOptions = .ok options ∧
        ∀ (client : Client) (room : Room) (volume : Volume) (filter : Filter) (agent : String)
          (online offline : Finish),
          ((Task.check false).run settings client room volume).finish filter agent = online →
          ((Task.check true).run settings client room volume).finish filter agent = offline →
          (room = .endless → online.exitCode = 0) ∧
            (NoNews options
                (client [] (options.request (load settings.store volume options.version))) →
              online.printed = offline.printed ∧ online.exitCode = offline.exitCode ∧
                online.volume = volume) := by
  constructor
  · intro settings client room volume filter agent offline hoffline
    obtain ⟨-, hvolume, hcode⟩ := Done.finish_printing hoffline
    refine ⟨?_, hvolume⟩
    rintro rfl
    exact hcode
  · intro settings zone hz ha
    obtain ⟨options, ho⟩ : ∃ options, settings.refreshOptions = .ok options :=
      ⟨_, Settings.refreshOptions_of_zone hz⟩
    refine ⟨options, ho, ?_⟩
    intro client room volume filter agent online offline honline hoffline
    rw [Task.run] at honline
    constructor
    · rintro rfl
      obtain ⟨requests, events, hcheck⟩ :=
        Command.runCheck_eq_refresh ha ho client .endless volume
      rw [hcheck] at honline
      exact (Done.finish_printing honline).2.2
    · intro hn
      obtain ⟨requests, events, hcheck⟩ := Command.runCheck_of_noNews ha ho hn
      rw [hcheck] at honline
      -- Both runs end by printing the text of one record.
      obtain ⟨hprinted, hvolume, hcode⟩ := Done.finish_printing honline
      obtain ⟨hprinted', -, hcode'⟩ := Done.finish_printing hoffline
      exact ⟨hprinted.trans hprinted'.symm, hcode.trans hcode'.symm, hvolume⟩

/-- The volume with a cached release where the standard settings expect it. -/
def cachedVolume : Volume :=
  (Settings.standard.store.write (.blank ["home"])
    ⟨CacheRecord.currentVersion, some packagedRelease, some "e1"⟩).2

/-- An answer of a service that is broken. -/
def brokenAnswer : Answer := ⟨⟨0⟩, .ok (.ofStatus 500)⟩

/-- Under the standard settings the cached release is shown while the service is broken. -/
theorem check_degrades_to_offline_sample :
    ∃ online, ((Task.check false).run .standard (fun _ _ => brokenAnswer) .endless
        cachedVolume).finish [] "" = online ∧ online.exitCode = 0 ∧
      online.printed = Text.bytes (Page.summary (some packagedRelease)) ∧
      online.volume = cachedVolume := by
  obtain ⟨zone, hz⟩ : ∃ zone, ZoneDatabase.zone? Settings.standard.rendering.zone = some zone :=
    Option.isSome_iff_exists.mp (by decide +kernel)
  have hagent : checkAgent .standard = .ok () := by
    rw [checkAgent, if_pos (by decide +kernel)]
  have hload : (load Settings.standard.store cachedVolume
      Settings.standard.caching.version).release = some packagedRelease := by decide +kernel
  obtain ⟨options, -, hcheck⟩ := check_degrades_to_offline.2 .standard zone hz hagent
  obtain ⟨hcode, hsame⟩ := hcheck (fun _ _ => brokenAnswer) .endless cachedVolume [] "" _ _ rfl rfl
  obtain ⟨houtput, -, hvolume⟩ := hsame (.status rfl (by decide))
  refine ⟨_, rfl, hcode rfl, houtput.trans ?_, hvolume⟩
  rw [← hload]
  exact Command.printed_runOfflineCheck .standard .endless cachedVolume [] ""

end ReleasePage
