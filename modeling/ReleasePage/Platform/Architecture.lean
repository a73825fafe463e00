import ReleasePage.Text.Case
import ReleasePage.Text.Pieces

/-!
# Processor architectures

Package file names carry the name of the processor architecture they are built
for, in several spellings. A spelling is recognised without regard to ASCII
case; in a whole file name the last recognised token counts, because packagers
put the architecture next to the extension.
-/

namespace ReleasePage

/-- A processor architecture. -/
inductive Architecture where
  /-- 32-bit x86. -/
  | x86
  /-- 64-bit x86. -/
  | x8664
  /-- 32-bit ARM. -/
  | arm
  /-- 64-bit ARM. -/
  | arm64
  /-- Not known. -/
  | unknown
  deriving Repr, DecidableEq

namespace Architecture

/-- The label of an architecture in the download table. -/
def label : Architecture → String
  | .x86 => "x86"
  | .x8664 => "x86_64"
  | .arm => "arm"
  | .arm64 => "arm64"
  | .unknown => "unknown"

/-- All recognised spellings, in lower case. -/
def spellings : List (String × Architecture) :=
  [("i386", .x86), ("i686", .x86), ("x86", .x86), ("x86_64", .x8664), ("amd64", .x8664),
   ("arm", .arm), ("armv7l", .arm), ("armhf", .arm), ("aarch64", .arm64), ("arm64", .arm64)]

/-- The architecture that a token spells, in any case. -/
def ofToken? (token : List Char) : Option Architecture :=
  spellings.lookup (String.ofList (Text.asciiLower token))

/-- A character that separates the tokens of a file name. -/
def isSeparator (c : Char) : Bool := c == '.' || c == '-' || c == '_'

/-- The architecture that a file name suggests. The spelling that itself
contains a separator is looked for in the whole name first. -/
def guess (filename : String) : Architecture :=
  if Text.occursIn "x86_64".toList (Text.asciiLower filename.toList) then .x8664
  else
    (((Text.pieces isSeparator filename.toList).filterMap ofToken?).getLast?).getD .unknown

end Architecture

end ReleasePage
