import ReleasePage.Json.Skip

/-!
# Decoders

A decoder reads a value of one type from the front of an input and returns it
with the bytes that follow. A value of another kind is consumed if it is a
scalar, so that the failure stands after it, and is left alone if it is an array
or an object.
-/

namespace ReleasePage.Json

open ReleasePage.Text (Bytes)

/-- Reads a value of type `α` and returns it with the rest of the input. -/
abbrev Decoder (α : Type) := Bytes → Except Failure (α × Bytes)

/-- Hands the first byte of a value and the bytes after it to `read`. -/
def startValue {α : Type} (input : Bytes) (read : UInt8 → Decoder α) :
    Except Failure (α × Bytes) :=
  match skipBlanks input with
  | [] => .error (.at .endInValue [])
  | b :: rest => read b rest

/-- The failure of finding `found` before the bytes `rest`. -/
def unexpected (expected : String) (found : Found) (rest : Bytes) : Failure :=
  .before (.wrongType found expected) rest

/-- The failure of a value that starts with byte `b` and is not what was
expected. The value itself may be malformed, and then that is the failure. -/
def mismatch (expected : String) (b : UInt8) (rest : Bytes) : Failure :=
  let after (found : Found) (result : Except Failure Bytes) : Failure :=
    match result with
    | .ok rest => unexpected expected found rest
    | .error e => e
  if b = 'n'.toUInt8 then after .null (readWord (Text.bytes "ull") rest)
  else if b = 't'.toUInt8 then after (.boolean true) (readWord (Text.bytes "rue") rest)
  else if b = 'f'.toUInt8 then after (.boolean false) (readWord (Text.bytes "alse") rest)
  else if b = '-'.toUInt8 || isDigit b then
    match readNumeral (b :: rest) with
    | .ok (n, rest) => unexpected expected n.found rest
    | .error e => e
  else if b = '"'.toUInt8 then
    match readText rest with
    | .ok (s, rest) => unexpected expected (.text s) rest
    | .error e => e
  else if b = '['.toUInt8 then unexpected expected .sequence (b :: rest)
  else if b = '{'.toUInt8 then unexpected expected .map (b :: rest)
  else .at .valueExpected (b :: rest)

/-- A text. -/
def text : Decoder String := fun input =>
  startValue input fun b rest =>
    if b = '"'.toUInt8 then readText rest else .error (mismatch "a string" b rest)

/-- A truth value. -/
def boolean : Decoder Bool := fun input =>
  startValue input fun b rest =>
    if b = 't'.toUInt8 then (readWord (Text.bytes "rue") rest).map (true, ·)
    else if b = 'f'.toUInt8 then (readWord (Text.bytes "alse") rest).map (false, ·)
    else .error (mismatch "a boolean" b rest)

/-- The literal `null`, where a value without content is expected. -/
def unit : Decoder Unit := fun input =>
  startValue input fun b rest =>
    if b = 'n'.toUInt8 then (readWord (Text.bytes "ull") rest).map ((), ·)
    else .error (mismatch "unit" b rest)

/-- An integer from zero up to and including `limit`. -/
def natural (limit : Nat) (expected : String) : Decoder Nat := fun input =>
  startValue input fun b rest =>
    if b = '-'.toUInt8 || isDigit b then
      match readNumeral (b :: rest) with
      | .error e => .error e
      | .ok (.float x, rest) => .error (unexpected expected (.float x) rest)
      | .ok (.integer n, rest) =>
        if 0 ≤ n ∧ n ≤ limit then .ok (n.toNat, rest)
        else .error (.before (.wrongValue (.integer n) expected) rest)
    else .error (mismatch expected b rest)

/-- An integer of 64 bits without sign. -/
def word64 : Decoder Nat := natural (Number.words64 - 1) "u64"

/-- An integer of 32 bits without sign. -/
def word32 : Decoder Nat := natural (Number.words32 - 1) "u32"

/-- A value that may be `null`. -/
def optional {α : Type} (item : Decoder α) : Decoder (Option α) := fun input =>
  match skipBlanks input with
  | [] => (item []).map fun (value, rest) => (some value, rest)
  | b :: rest =>
    if b = 'n'.toUInt8 then (readWord (Text.bytes "ull") rest).map (none, ·)
    else (item (b :: rest)).map fun (value, rest) => (some value, rest)

/-- Looks for another element of an array: whether there is one, and the input
from its first byte on, or from the closing bracket on. -/
def nextElement (first : Bool) (input : Bytes) : Except Failure (Bool × Bytes) :=
  match skipBlanks input with
  | [] => .error (.at .endInList [])
  | b :: rest =>
    if b = ']'.toUInt8 then .ok (false, b :: rest)
    else if first then .ok (true, b :: rest)
    else if b = ','.toUInt8 then
      match skipBlanks rest with
      | [] => .error (.at .endInValue [])
      | c :: after =>
        if c = ']'.toUInt8 then .error (.at .trailingComma (c :: after))
        else .ok (true, c :: after)
    else .error (.at .listEndExpected (b :: rest))

/-- The input after the closing bracket of an array whose elements have all
been read. -/
def closeList (input : Bytes) : Except Failure Bytes :=
  match skipBlanks input with
  | [] => .error (.at .endInList [])
  | b :: rest =>
    if b = ']'.toUInt8 then .ok rest
    else if b = ','.toUInt8 then
      match skipBlanks rest with
      | c :: after =>
        if c = ']'.toUInt8 then .error (.at .trailingComma (c :: after))
        else .error (.at .trailingCharacters (c :: after))
      | [] => .error (.at .trailingCharacters [])
    else .error (.at .trailingCharacters (b :: rest))

/-- Reads the elements of an array that follow those in `read` (kept in
reverse), at most `fuel` of them, and the closing bracket. -/
def elementsFrom {α : Type} (item : Decoder α) :
    (fuel : Nat) → (first : Bool) → (read : List α) → Decoder (List α)
  | 0, _, _, input => .error (.at .endInList input)
  | fuel + 1, first, read, input =>
    match nextElement first input with
    | .error e => .error e
    | .ok (false, rest) => .ok (read.reverse, rest.drop 1)
    | .ok (true, rest) =>
      match item rest with
      | .error e => .error e
      | .ok (value, rest) => elementsFrom item fuel false (value :: read) rest

/-- An array of any length. -/
def list {α : Type} (item : Decoder α) : Decoder (List α) := fun input =>
  startValue input fun b rest =>
    if b = '['.toUInt8 then elementsFrom item (rest.length + 1) true [] rest
    else .error (mismatch "a sequence" b rest)

/-- What an array of exactly two elements is called. -/
def pairTitle : String := "an array of length 2"

/-- Reads element number `index` of a pair. -/
def pairElement {α : Type} (item : Decoder α) (index : Nat) (input : Bytes) :
    Except Failure (α × Bytes) :=
  match nextElement (index == 0) input with
  | .error e => .error e
  | .ok (false, rest) => .error (.before (.wrongLength index pairTitle) (rest.drop 1))
  | .ok (true, rest) => item rest

/-- An array of exactly two elements. -/
def pair {α : Type} (item : Decoder α) : Decoder (α × α) := fun input =>
  startValue input fun b rest =>
    if b = '['.toUInt8 then do
      let (first, rest) ← pairElement item 0 rest
      let (second, rest) ← pairElement item 1 rest
      let rest ← closeList rest
      return ((first, second), rest)
    else .error (mismatch pairTitle b rest)

/-- Reads the key of the next member of an object, if there is one. The rest of
the input starts after the key or after the closing bracket. -/
def nextKey (first : Bool) (input : Bytes) : Except Failure (Option String × Bytes) :=
  let key (rest : Bytes) : Except Failure (Option String × Bytes) :=
    (readText rest).map fun (name, rest) => (some name, rest)
  match skipBlanks input with
  | [] => .error (.at .endInObject [])
  | b :: rest =>
    if b = '}'.toUInt8 then .ok (none, rest)
    else if first then
      if b = '"'.toUInt8 then key rest else .error (.at .keyExpected (b :: rest))
    else if b = ','.toUInt8 then
      match skipBlanks rest with
      | [] => .error (.at .endInValue [])
      | c :: after =>
        if c = '"'.toUInt8 then key after
        else if c = '}'.toUInt8 then .error (.at .trailingComma (c :: after))
        else .error (.at .keyExpected (c :: after))
    else .error (.at .objectEndExpected (b :: rest))

/-- The input after the colon of a member. -/
def readColon (input : Bytes) : Except Failure Bytes :=
  match skipBlanks input with
  | [] => .error (.at .endInObject [])
  | b :: rest =>
    if b = ':'.toUInt8 then .ok rest else .error (.at .colonExpected (b :: rest))

/-- Reads the members of an object, at most `fuel` of them, and the closing
bracket. Each member changes the state as `step` says, which gets the key and
the input after it. -/
def membersFrom {σ : Type} (step : σ → String → Decoder σ) :
    (fuel : Nat) → (first : Bool) → σ → Decoder σ
  | 0, _, _, input => .error (.at .endInObject input)
  | fuel + 1, first, state, input =>
    match nextKey first input with
    | .error e => .error e
    | .ok (none, rest) => .ok (state, rest)
    | .ok (some key, rest) =>
      match step state key rest with
      | .error e => .error e
      | .ok (state, rest) => membersFrom step fuel false state rest

/-- Reads the members of an object after its opening bracket. -/
def members {σ : Type} (step : σ → String → Decoder σ) (start : σ) : Decoder σ := fun input =>
  membersFrom step (input.length + 1) true start input

/-- Adds one member to a table. -/
def tableStep {α τ : Type} (item : Decoder α) (add : τ → String → α → τ) (table : τ)
    (key : String) (input : Bytes) : Except Failure (τ × Bytes) := do
  let rest ← readColon input
  let (value, rest) ← item rest
  return (add table key value, rest)

/-- An object with arbitrary keys, gathered with `add` in the order of its
members. -/
def table {α τ : Type} (expected : String) (item : Decoder α) (start : τ)
    (add : τ → String → α → τ) : Decoder τ := fun input =>
  startValue input fun b rest =>
    if b = '{'.toUInt8 then members (tableStep item add) start rest
    else .error (mismatch expected b rest)

/-- Finds a name among the allowed ones, or fails before the rest of the
input. -/
def pick {α : Type} (allowed : List (String × α)) (name : String) (rest : Bytes) :
    Except Failure α :=
  match allowed.lookup name with
  | some value => .ok value
  | none => .error (.before (.unknownVariant name (allowed.map (·.1))) rest)

/-- Reads the only key of an object that must have one. -/
def onlyKey (input : Bytes) : Except Failure (String × Bytes) :=
  match skipBlanks input with
  | [] => .error (.at .endInObject [])
  | b :: rest =>
    if b = '"'.toUInt8 then readText rest
    else if b = '}'.toUInt8 then .error (.at .valueExpected (b :: rest))
    else .error (.at .keyExpected (b :: rest))

/-- One of several names, given as a text or as the only key of an object whose
value is `null`. -/
def variant {α : Type} (allowed : List (String × α)) : Decoder α := fun input =>
  startValue input fun b rest =>
    if b = '"'.toUInt8 then do
      let (name, rest) ← readText rest
      return (← pick allowed name rest, rest)
    else if b = '{'.toUInt8 then do
      let (name, rest) ← onlyKey rest
      let value ← pick allowed name rest
      let rest ← readColon rest
      let (_, rest) ← unit rest
      match skipBlanks rest with
      | [] => .error (.before .endInObject [])
      | c :: after =>
        if c = '}'.toUInt8 then .ok (value, after)
        else .error (.before .valueExpected (c :: after))
    else .error (.at .valueExpected (b :: rest))

/-- Reads a whole input as one value. Only white space may follow it. -/
def decode {α : Type} (item : Decoder α) (input : Bytes) : Except Fault α :=
  match item input with
  | .error e => .error (e.locate input)
  | .ok (value, rest) =>
    match skipBlanks rest with
    | [] => .ok value
    | b :: after => .error ((Failure.at .trailingCharacters (b :: after)).locate input)

end ReleasePage.Json
