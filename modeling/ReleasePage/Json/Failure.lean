import ReleasePage.Number.Shortest
import ReleasePage.Text.Bytes
import ReleasePage.Text.Pieces
import ReleasePage.Text.Quoted

/-!
# Failures of reading JSON

A reading fails for a cause, at a place. A reader knows only the bytes it has
not consumed yet, so a failure carries their number; line and column are worked
out once, against the whole input, when the message is written.
-/

namespace ReleasePage.Json

open ReleasePage.Text (Bytes)

/-- The kind of value that stood where another one was expected. -/
inductive Found where
  /-- The literal `null`. -/
  | null
  /-- One of the two truth values. -/
  | boolean (value : Bool)
  /-- An integer that fits in 64 bits, signed or not. -/
  | integer (value : Int)
  /-- Any other number. -/
  | float (value : Number.Double)
  /-- A text. -/
  | text (value : String)
  /-- An array. -/
  | sequence
  /-- An object. -/
  | map
  deriving Repr, DecidableEq

/-- How a value is named in a message. -/
def Found.message : Found → String
  | .null => "null"
  | .boolean true => "boolean `true`"
  | .boolean false => "boolean `false`"
  | .integer n => "integer `" ++ toString n ++ "`"
  | .float x => "floating point `" ++ x.text Number.FloatStyle.json ++ "`"
  | .text s => "string " ++ Text.quoted s
  | .sequence => "sequence"
  | .map => "map"

/-- Why a text could not be read. -/
inductive Cause where
  /-- The input ends where a value is expected. -/
  | endInValue
  /-- The input ends inside an array. -/
  | endInList
  /-- The input ends inside an object. -/
  | endInObject
  /-- The input ends inside a text. -/
  | endInText
  /-- A key is not followed by a colon. -/
  | colonExpected
  /-- An element is followed by neither a comma nor the end of its array. -/
  | listEndExpected
  /-- A member is followed by neither a comma nor the end of its object. -/
  | objectEndExpected
  /-- A word other than `null`, `true` and `false`. -/
  | wordExpected
  /-- A byte that starts no value. -/
  | valueExpected
  /-- A backslash followed by something that is no escape. -/
  | badEscape
  /-- A malformed number. -/
  | badNumber
  /-- A number beyond the greatest double. -/
  | numberTooLarge
  /-- A text that is not UTF-8. -/
  | badUnicode
  /-- A control character that is not escaped. -/
  | controlCharacter
  /-- A key that is not a text. -/
  | keyExpected
  /-- Half of a surrogate pair. -/
  | loneSurrogate
  /-- A comma before a closing bracket. -/
  | trailingComma
  /-- Something after the end of the value. -/
  | trailingCharacters
  /-- A first half of a surrogate pair that no escape follows. -/
  | halfEscape
  /-- A value of another kind than the one expected. -/
  | wrongType (found : Found) (expected : String)
  /-- A value of the right kind that is out of range. -/
  | wrongValue (found : Found) (expected : String)
  /-- An array with the wrong number of elements. -/
  | wrongLength (length : Nat) (expected : String)
  /-- A required member that is absent. -/
  | missingField (key : String)
  /-- A known member that occurs again. -/
  | duplicateField (key : String)
  /-- A name that is not among the allowed ones. -/
  | unknownVariant (name : String) (allowed : List String)
  deriving Repr, DecidableEq

/-- The message of a cause, without its place. -/
def Cause.message : Cause → String
  | .endInValue => "EOF while parsing a value"
  | .endInList => "EOF while parsing a list"
  | .endInObject => "EOF while parsing an object"
  | .endInText => "EOF while parsing a string"
  | .colonExpected => "expected `:`"
  | .listEndExpected => "expected `,` or `]`"
  | .objectEndExpected => "expected `,` or `\x7d`"
  | .wordExpected => "expected ident"
  | .valueExpected => "expected value"
  | .badEscape => "invalid escape"
  | .badNumber => "invalid number"
  | .numberTooLarge => "number out of range"
  | .badUnicode => "invalid unicode code point"
  | .controlCharacter => "control character (\\u0000-\\u001F) found while parsing a string"
  | .keyExpected => "key must be a string"
  | .loneSurrogate => "lone leading surrogate in hex escape"
  | .trailingComma => "trailing comma"
  | .trailingCharacters => "trailing characters"
  | .halfEscape => "unexpected end of hex escape"
  | .wrongType found expected => "invalid type: " ++ found.message ++ ", expected " ++ expected
  | .wrongValue found expected => "invalid value: " ++ found.message ++ ", expected " ++ expected
  | .wrongLength length expected =>
    "invalid length " ++ Nat.repr length ++ ", expected " ++ expected
  | .missingField key => "missing field `" ++ key ++ "`"
  | .duplicateField key => "duplicate field `" ++ key ++ "`"
  | .unknownVariant name allowed =>
    "unknown variant `" ++ name ++ "`, expected " ++
      Text.joined " or " (allowed.map fun a => "`" ++ a ++ "`")

/-- A cause and the number of bytes after the place it is reported at. -/
structure Failure where
  /-- Why the reading failed. -/
  cause : Cause
  /-- How many bytes of the input follow the place of the failure. -/
  unread : Nat
  deriving Repr, DecidableEq

/-- A failure right before the bytes `rest`. -/
def Failure.before (cause : Cause) (rest : Bytes) : Failure := ⟨cause, rest.length⟩

/-- A failure right after the first byte of `rest`, or at the end if there is
none. -/
def Failure.at (cause : Cause) (rest : Bytes) : Failure := ⟨cause, rest.length - 1⟩

/-- A place in an input. -/
structure Place where
  /-- The line, counted from one. -/
  line : Nat
  /-- The number of bytes between the start of the line and the place. -/
  column : Nat
  deriving Repr, DecidableEq

/-- The place one byte further: a line feed starts a new line. -/
def Place.advance (place : Place) (b : UInt8) : Place :=
  if b = 10 then ⟨place.line + 1, 0⟩ else ⟨place.line, place.column + 1⟩

/-- The place after the first `count` bytes of an input. -/
def Place.after (count : Nat) (input : Bytes) : Place :=
  (input.take count).foldl Place.advance ⟨1, 0⟩

/-- What went wrong with an input, and where. -/
structure Fault where
  /-- Why the reading failed. -/
  cause : Cause
  /-- The place the failure is reported at. -/
  place : Place
  deriving Repr, DecidableEq

/-- The failure of reading `input`, with its place. -/
def Failure.locate (input : Bytes) (failure : Failure) : Fault :=
  ⟨failure.cause, Place.after (input.length - failure.unread) input⟩

/-- The message of a fault. -/
def Fault.message (fault : Fault) : String :=
  fault.cause.message ++ " at line " ++ Nat.repr fault.place.line ++
    " column " ++ Nat.repr fault.place.column

end ReleasePage.Json
