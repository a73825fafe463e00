import ReleasePage.Command.Help
import ReleasePage.Command.Report
import ReleasePage.Command.Trace
import ReleasePage.Issues.Notes
import ReleasePage.Log.Filter
import ReleasePage.Page.Summary
import ReleasePage.Release.Snapshot
import ReleasePage.Text.Utf8
import ReleasePage.Web.Wire

/-!
# Carrying out commands

A run starts from a volume, environment variables, a client, a command line and the
room that standard output has. It ends with an exit code, what was printed, the
volume as it was left, and the requests and events on the way. What is printed and
whether the command fails are two things: standard output may take a part of a text
and refuse the rest. The zones are those of a database.
-/

namespace ReleasePage.Command

open ReleasePage.Files (Fault Path Room Volume)
open ReleasePage.Log (Event Filter)
open ReleasePage.Settings (Environment)
open ReleasePage.Text (Bytes)
open ReleasePage.Time (ZoneDatabase)
open ReleasePage.Web (Client Request)

/-- How a command fails. -/
inductive Failure where
  /-- The command reports what has gone wrong. -/
  | reported (report : Report)
  /-- A text could not be printed, which ends the run at once and without a report. -/
  | unprinted (fault : Fault)
  deriving Repr, DecidableEq

/-- The exit code of a run whose command fails. -/
def Failure.exitCode : Failure → Nat
  | .reported _ => 1
  | .unprinted _ => 101

/-- What is printed about a failure. -/
def Failure.text : Failure → String
  | .reported report => report.text
  | .unprinted fault => "failed printing to stdout: " ++ fault.message ++ "\n"

/-- How a command ended. -/
structure Done where
  /-- What standard output has taken. -/
  printed : Bytes
  /-- Why the command failed, if it did. -/
  result : Except Failure Unit
  /-- The volume afterwards. -/
  volume : Volume
  /-- The requests that were made. -/
  requests : List Request
  /-- What happened on the way. -/
  events : List Event

/-- A command that failed before it did anything. -/
def Done.failed (volume : Volume) (report : Report) : Done :=
  ⟨[], .error (.reported report), volume, [], []⟩

/-- A command that ends by printing a text: standard output takes what it has room for, and
what comes of a fault is up to the command. -/
def Done.printing (room : Room) (text : String) (failure : Fault → Failure) (volume : Volume)
    (requests : List Request) (events : List Event) : Done where
  printed := room.taken (Text.bytes text)
  result :=
    match room.overflow? (Text.bytes text) with
    | none => .ok ()
    | some fault => .error (failure fault)
  volume := volume
  requests := requests
  events := events

/-- A text that was to be published could not be printed. -/
def unpublished (fault : Fault) : Failure :=
  .reported ⟨"failed to write to stdout", [fault.message]⟩

/-- Requests need a name of the program that can be sent. -/
def checkAgent (settings : Settings) : Except Report Unit :=
  if Web.isSendable settings.service.agent then .ok ()
  else .error ⟨"failed to build HTTP client", ["builder error", "failed to parse header value"]⟩

/-- Stores the latest release record. -/
def runStage (settings : Settings) (client : Client) (volume : Volume) (output : Option Path) :
    Done :=
  let dest := output.getD settings.rendering.snapshot
  let url := settings.latestReleaseUrl
  match checkAgent settings with
  | .error report => .failed volume report
  | .ok () =>
    match stageSnapshot (client []) volume url dest with
    | (.error error, volume) =>
      ⟨[], .error (.reported ⟨"failed to stage " ++ url ++ " into " ++ dest, error.chain⟩), volume,
        [.plain url], []⟩
    | (.ok size, volume) => ⟨[], .ok (), volume, [.plain url], [stagedEvent dest size]⟩

/-- Reads the record in a snapshot file. -/
def readSnapshot (volume : Volume) (input : Path) : Except Report ReleaseRecord :=
  match volume.read input with
  | .error error => .error ⟨"failed to read release snapshot " ++ input, error.chain⟩
  | .ok content =>
    match ReleaseRecord.parse content with
    | .error fault =>
      .error ⟨"malformed release snapshot " ++ input, (ReleaseError.malformed fault).chain⟩
    | .ok record => .ok record

/-- The release in a snapshot file. Files that no rule knows are refused. -/
def loadRelease [ZoneDatabase] (settings : Settings) (volume : Volume) (input : Path) :
    Except Report Release :=
  match readSnapshot volume input with
  | .error report => .error report
  | .ok record =>
    match settings.normalizer .strict with
    | .error error => .error (.ofChain error.chain)
    | .ok normalizer =>
      match normalizer.normalize record with
      | .error error =>
        .error ⟨"cannot publish release " ++ Text.quoted record.name, error.chain⟩
      | .ok release => .ok release

/-- The events of reading the release in a snapshot file. -/
def snapshotEvents [ZoneDatabase] (settings : Settings) (volume : Volume) (input : Path) :
    List Event :=
  match readSnapshot volume input, settings.normalizer .strict with
  | .ok record, .ok normalizer => normalizeEvents normalizer record
  | _, _ => []

/-- Publishes the staged record. -/
def runRender [ZoneDatabase] (settings : Settings) (room : Room) (volume : Volume)
    (input output : Option Path) (format : Page.Format) : Done :=
  let input := input.getD settings.rendering.snapshot
  let events := snapshotEvents settings volume input
  match loadRelease settings volume input with
  | .error report => ⟨[], .error (.reported report), volume, [], events⟩
  | .ok release =>
    let rendered := Page.render format release
    match output with
    | none => .printing room rendered unpublished volume [] events
    | some path =>
      match volume.place path (Text.bytes rendered) .withParents with
      | (.error error, volume) =>
        ⟨[], .error (.reported ⟨"failed to write " ++ path, error.chain⟩), volume, [], events⟩
      | (.ok (), volume) =>
        ⟨[], .ok (), volume, [], events ++ [renderedEvent path release.name]⟩

/-- Shows the cached release without a request. -/
def runOfflineCheck (settings : Settings) (room : Room) (volume : Volume) : Done :=
  let version := settings.caching.version
  let events := loadEvents version (settings.store.read volume)
  .printing room (Page.summary (Cache.load settings.store volume version).release) .unprinted
    volume [] events

/-- Refreshes the cached release and shows it. -/
def runCheck [ZoneDatabase] (settings : Settings) (client : Client) (room : Room)
    (volume : Volume) : Done :=
  match checkAgent settings with
  | .error report => .failed volume report
  | .ok () =>
    match settings.refreshOptions with
    | .error error => .failed volume (.ofChain error.chain)
    | .ok options =>
      let store := settings.store
      let request := options.request (Cache.load store volume options.version)
      let (refreshed, volume') := Cache.refresh store options (client []) volume
      let events := loadEvents options.version (store.read volume) ++
        answerEvents options (client [] request) ++ [settledEvent options.url refreshed] ++
        (if refreshed.outcome.isFailed then [cachedShownEvent] else [])
      .printing room (Page.summary refreshed.record.release) .unprinted volume'
        refreshed.requests events

/-- Writes release notes. -/
def runNotes (settings : Settings) (client : Client) (room : Room) (volume : Volume)
    (milestone : String) : Done :=
  match checkAgent settings with
  | .error report => .failed volume report
  | .ok () =>
    let service := settings.service
    let collection := Issues.collect client ⟨service.base, service.owner, service.repo⟩ milestone
    let events := collection.pages.map fun (url, count) => pageEvent url count
    match collection.result with
    | .error error =>
      ⟨[], .error (.reported ⟨"failed to collect issues for milestone " ++ milestone,
        error.chain⟩), volume, collection.requests, events⟩
    | .ok notes => .printing room notes.text .unprinted volume collection.requests events

/-- Carries out a command. -/
def Task.run [ZoneDatabase] (task : Task) (settings : Settings) (client : Client) (room : Room)
    (volume : Volume) : Done :=
  match task with
  | .stage output => runStage settings client volume output
  | .render input output format => runRender settings room volume input output format
  | .check true => runOfflineCheck settings room volume
  | .check false => runCheck settings client room volume
  | .notes milestone => runNotes settings client room volume milestone

/-- How a run of the program ended. -/
structure Finish where
  /-- The exit code. -/
  exitCode : Nat
  /-- What standard output has taken. -/
  printed : Bytes
  /-- What was printed about a failure. -/
  failure : String
  /-- The volume afterwards. -/
  volume : Volume
  /-- The requests that were made. -/
  requests : List Request
  /-- What was logged. -/
  events : List Event
  /-- The name the program gives of itself in requests. -/
  agent : String

/-- The text on standard output, empty if it breaks off inside a character. -/
def Finish.output (finish : Finish) : String := (Text.Utf8.decode? finish.printed).getD ""

/-- The end of a run that does not get to a command. -/
def Finish.early (volume : Volume) (exitCode : Nat) (printed : Bytes) (failure : String) :
    Finish :=
  ⟨exitCode, printed, failure, volume, [], [], ""⟩

/-- The end of a run whose settings cannot be used. A split character ends the
run at once and without a report. -/
def Finish.unusable (volume : Volume) (error : Settings.SettingsError) : Finish :=
  match error with
  | .splitCharacter => .early volume 101 [] (error.message ++ "\n")
  | _ => .early volume 1 [] (Report.text ⟨error.message, []⟩)

/-- The end of a run whose command is done. -/
def Done.finish (done : Done) (filter : Filter) (agent : String) : Finish :=
  let events := done.events.filter filter.passes
  match done.result with
  | .ok () => ⟨0, done.printed, "", done.volume, done.requests, events, agent⟩
  | .error failure =>
    ⟨failure.exitCode, done.printed, failure.text, done.volume, done.requests, events, agent⟩

/-- The environment variable that says what is logged. -/
def logVariable : String := "RELSITE_LOG"

/-- The end of a run whose log directives are split inside a character. -/
def Finish.unfiltered (volume : Volume) : Finish :=
  .early volume 101 [] ("character split in " ++ logVariable ++ "\n")

/-- Runs the program where standard output has some room. A usage that was asked for is
printed as far as there is room. -/
def runInto [ZoneDatabase] (room : Room) (client : Client) (volume : Volume)
    (environment : Environment) (arguments : List String) : Finish :=
  match Invocation.parse arguments with
  | .error usage =>
    .early volume usage.exitCode (room.taken (Text.bytes usage.output)) usage.complaint
  | .ok invocation =>
    match Filter.choose? invocation.verbose (environment.lookup logVariable),
      Settings.load volume invocation.config environment with
    | none, _ => .unfiltered volume
    | _, .error error => .unusable volume error
    | some filter, .ok settings =>
      (invocation.task.run settings client room volume).finish filter settings.service.agent

end ReleasePage.Command
