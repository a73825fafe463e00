import ReleasePage.Web.Exchange
import ReleasePage.Web.FetchError

/-!
# Snapshots

The build of the download page works from a snapshot: the latest release record,
stored exactly as the hosting service sent it. It has to be a record, but whether
it can be published is left to the build.
-/

namespace ReleasePage

open ReleasePage.Files (Path PlaceOptions Volume)
open ReleasePage.Web (Answer FetchError Request)

/-- The content of a snapshot that an answer brings. -/
def snapshotContent (url : String) (answer : Answer) : Except FetchError Text.Bytes :=
  match answer.result with
  | .error text => .error (.transport text)
  | .ok response =>
    if response.status = 200 then
      match ReleaseRecord.parse response.body with
      | .error fault => .error (.release (.malformed fault))
      | .ok _ => .ok response.body
    else .error (.status response.status url)

/-- Fetches the record at an address and stores it. The result is the number of
bytes written. -/
def stageSnapshot (client : Request → Answer) (volume : Volume) (url : String) (dest : Path) :
    Except FetchError Nat × Volume :=
  match snapshotContent url (client (.plain url)) with
  | .error error => (.error error, volume)
  | .ok content =>
    match volume.place dest content .withParents with
    | (.error error, volume) => (.error (.files error), volume)
    | (.ok (), volume) => (.ok content.length, volume)

end ReleasePage
