import ReleasePage.Files.Volume

/-!
# Listing a volume

Everything below the home directory, in the order of the bytes of the shown
paths. A directory is shown with a slash at its end.
-/

namespace ReleasePage.Files

/-- How an entry is shown, given the names that lead to it. -/
def shownPath (names : List String) : Entry → String
  | .directory => Text.joined "/" names ++ "/"
  | .file _ _ => Text.joined "/" names

/-- The entries below a directory with the names that lead to them from
there. -/
def Volume.below (volume : Volume) (dir : Location) : List (List String × Entry) :=
  volume.entries.filterMap fun (location, entry) =>
    if dir.isPrefixOf location ∧ dir.length < location.length then
      some (location.drop dir.length, entry)
    else none

/-- Everything below the home directory with its shown path. -/
def Volume.listing (volume : Volume) : List (String × Entry) :=
  ((volume.below volume.home).map fun (names, entry) => (shownPath names entry, entry)).mergeSort
    fun a b => (Text.compareBytes a.1 b.1).isLE

end ReleasePage.Files
