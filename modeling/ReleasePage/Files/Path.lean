import ReleasePage.Text.Pieces

/-!
# Paths

A path is a text whose steps are separated by slashes. Empty steps, and single
dots other than a leading one, are fillers: they lead nowhere and do not count
when the last step of a path is asked for.
-/

namespace ReleasePage.Files

/-- A path as it was written. -/
abbrev Path := String

namespace Path

/-- The texts between the slashes. -/
def pieces (path : Path) : List String :=
  (Text.pieces (· == '/') path.toList).map String.ofList

/-- The path starts at the root. -/
def isAbsolute (path : Path) : Bool := path.toList.head? == some '/'

/-- The pieces of a path, without the empty one before the slash of the root. -/
def body (path : Path) : List String :=
  if isAbsolute path then (pieces path).drop 1 else pieces path

/-- The names that a walk along the path visits, one after the other. -/
def steps (path : Path) : List String := (pieces path).filter (· ≠ "")

/-- The path ends in a slash. -/
def endsInSlash (path : Path) : Bool := path.toList.getLast? == some '/'

/-- Leaves out the fillers at the front of a body that is given in reverse. -/
def dropFillers (absolute : Bool) : List String → List String
  | [] => []
  | [piece] => if piece = "" ∨ (piece = "." ∧ absolute) then [] else [piece]
  | piece :: rest =>
    if piece = "" ∨ piece = "." then dropFillers absolute rest else piece :: rest

/-- The body of a path in reverse, without fillers at its end. -/
def trail (path : Path) : List String := dropFillers (isAbsolute path) (body path).reverse

/-- The path of a body given in reverse. -/
def ofTrail (absolute : Bool) (trail : List String) : Path :=
  (if absolute then "/" else "") ++ Text.joined "/" trail.reverse

/-- The path without its last step; nothing for the root and the empty path. -/
def parent? (path : Path) : Option Path :=
  match trail path with
  | [] => none
  | _ :: rest => some (ofTrail (isAbsolute path) (dropFillers (isAbsolute path) rest))

/-- The last step of a path, if it is a name. -/
def fileName? (path : Path) : Option String :=
  match trail path with
  | [] => none
  | piece :: _ => if piece = "." ∨ piece = ".." then none else some piece

/-- The directory a file is put into: the parent of its path, or the current
directory if the path has no other. -/
def directory (path : Path) : Path :=
  match parent? path with
  | none => "."
  | some dir => if dir = "" then "." else dir

/-- A path and its parents, as long as there are any, at most `fuel` of them.
The empty path and the root are left out. -/
def ancestorsFrom : (fuel : Nat) → Path → List Path
  | 0, _ => []
  | fuel + 1, path =>
    match parent? path with
    | none => []
    | some dir => path :: ancestorsFrom fuel dir

/-- A path and all its parents but the empty path and the root. -/
def ancestors (path : Path) : List Path := ancestorsFrom (path.length + 1) path

end Path

end ReleasePage.Files
