import ReleasePage.Cache.Refresh
import ReleasePage.Log.Event
import ReleasePage.Release.Normalizer

/-!
# Events of the commands

What the commands report while they work. Every event follows from what a
command did and how it ended, so the events are described here apart from the
work itself.
-/

namespace ReleasePage.Command

open ReleasePage.Cache (Outcome Refreshed RefreshOptions StoreError)
open ReleasePage.Log (Event Field)
open ReleasePage.Web (Answer)

/-- The part of the program that turns records into releases. -/
def normalizeTarget : String := "relsite_release::normalize"

/-- The part of the program that refreshes the cache. -/
def refreshTarget : String := "relsite_fetch::conditional"

/-- The part of the program that stores snapshots. -/
def stageTarget : String := "relsite_fetch::stage"

/-- The part of the program that reads issues. -/
def notesTarget : String := "relsite_fetch::notes"

/-- The part of the program that carries out the check command. -/
def checkTarget : String := "relsite::cli::check"

/-- The part of the program that carries out the render command. -/
def renderTarget : String := "relsite::cli::render"

/-- A file was left out because it is not uploaded. -/
def skippedEvent (asset : AssetRecord) : Event :=
  ⟨.debug, normalizeTarget, "skipping asset",
    [.shown "asset" asset.name, .shown "state" asset.state]⟩

/-- A file took the place of another one. -/
def replacedEvent (os : String) (old kept : String) : Event :=
  ⟨.debug, normalizeTarget, "asset replaced",
    [.shown "os" os, .shown "dropped" old, .shown "kept" kept]⟩

/-- The events of adding files to a table, up to the first that cannot be
classified. -/
def assetEvents (classifier : Classifier) : AssetTable → List AssetRecord → List Event
  | _, [] => []
  | table, asset :: rest =>
    if asset.isUploaded then
      match classifier.classify asset.name with
      | .error _ => []
      | .ok platform =>
        let (replaced, table) := table.exchange platform.os (Normalizer.assetOf asset platform)
        (replaced.map fun old => replacedEvent platform.os old.name asset.name).toList ++
          assetEvents classifier table rest
    else skippedEvent asset :: assetEvents classifier table rest

/-- The events of turning a record into a release: none before the files are
reached. -/
def normalizeEvents (normalizer : Normalizer) (record : ReleaseRecord) : List Event :=
  match record.timestamp with
  | some timestamp =>
    if record.isPublishable && (Normalizer.showDate normalizer.zone timestamp).isOk then
      assetEvents normalizer.classifier .empty record.assets
    else []
  | none => []

/-- The events of turning bytes into a release. -/
def contentEvents (normalizer : Normalizer) (content : Text.Bytes) : List Event :=
  match ReleaseRecord.parse content with
  | .ok record => normalizeEvents normalizer record
  | .error _ => []

/-- The events of reading the cache. -/
def loadEvents (version : Nat) : Except StoreError (Option CacheRecord) → List Event
  | .ok none => []
  | .ok (some record) =>
    if record.version = version then
      [⟨.debug, refreshTarget, "loaded cached release",
        [.truth "has_release" record.release.isSome]⟩]
    else
      [⟨.info, refreshTarget, "discarding cache with another schema version",
        [.number "found" record.version, .number "current" version]⟩]
  | .error error =>
    [⟨.warn, refreshTarget, "unreadable cache, starting empty", [.shown "error" error.message]⟩]

/-- The events of reading an answer, as far as it brings a record. -/
def answerEvents (options : RefreshOptions) (answer : Answer) : List Event :=
  match answer.result with
  | .ok response =>
    if response.status = 200 then contentEvents options.normalizer response.body else []
  | .error _ => []

/-- The event of a settled refresh. -/
def settledEvent (url : String) (refreshed : Refreshed) : Event :=
  match refreshed.outcome, refreshed.saved with
  | .unchanged, _ => ⟨.debug, refreshTarget, "release not modified", [.shown "url" url]⟩
  | .changed, some (.error error) =>
    ⟨.warn, refreshTarget, "failed to persist release cache", [.shown "error" error.message]⟩
  | .changed, _ =>
    ⟨.info, refreshTarget, "cached new release",
      (refreshed.record.release.map fun release => Field.quoted "release" release.name).toList⟩
  | .failed error, _ =>
    ⟨.warn, refreshTarget, "release refresh failed, keeping cached copy",
      [.shown "url" url, .shown "error" error.message]⟩

/-- The event of a check that shows what was cached. -/
def cachedShownEvent : Event := ⟨.debug, checkTarget, "showing cached release", []⟩

/-- The event of a stored snapshot. -/
def stagedEvent (path : String) (size : Nat) : Event :=
  ⟨.info, stageTarget, "staged release snapshot", [.shown "path" path, .number "bytes" size]⟩

/-- The event of a published release. -/
def renderedEvent (path name : String) : Event :=
  ⟨.info, renderTarget, "rendered release", [.shown "path" path, .quoted "release" name]⟩

/-- The event of a page of issues. -/
def pageEvent (url : String) (count : Nat) : Event :=
  ⟨.debug, notesTarget, "fetched issue page", [.shown "url" url, .number "count" count]⟩

end ReleasePage.Command
