import ReleasePage.Json.Literal
import ReleasePage.Json.Numeral

/-!
# Passing over a value

Members that nobody asked for are passed over, however deeply their values are
nested. The open brackets are kept in a list, so one pass from left to right is
enough; numbers are checked for their form only and never computed.
-/

namespace ReleasePage.Json

open ReleasePage.Text (Bytes)

/-- An open bracket. -/
inductive Bracket where
  /-- An array is open. -/
  | list
  /-- An object is open. -/
  | object
  deriving Repr, DecidableEq

/-- What a pass over a value expects next. -/
inductive Expecting where
  /-- The first byte of a value. -/
  | value
  /-- What follows a value: a comma or a closing bracket. -/
  | next
  deriving Repr, DecidableEq

/-- Passes over an exponent after its letter. -/
def passExponent (input : Bytes) : Except Failure Bytes :=
  match (exponentSign input).2 with
  | [] => .error (.before .badNumber [])
  | b :: rest => if isDigit b then .ok (dropDigits rest) else .error (.before .badNumber rest)

/-- Passes over an exponent if there is one. -/
def passScale (input : Bytes) : Except Failure Bytes :=
  if atExponent input then passExponent (input.drop 1) else .ok input

/-- Passes over what follows the integer part of a number. -/
def passTail (input : Bytes) : Except Failure Bytes :=
  if atPoint input then
    match input.drop 1 with
    | [] => .error (.at .badNumber [])
    | b :: rest => if isDigit b then passScale (dropDigits rest) else .error (.at .badNumber (b :: rest))
  else passScale input

/-- Passes over a number after its sign. -/
def passNumeral : Bytes → Except Failure Bytes
  | [] => .error (.before .badNumber [])
  | b :: rest =>
    if b = '0'.toUInt8 then
      match rest with
      | d :: _ => if isDigit d then .error (.at .badNumber rest) else passTail rest
      | [] => .ok []
    else if isDigit b then passTail (dropDigits rest)
    else .error (.before .badNumber rest)

/-- Passes over the key of a member and its colon. -/
def passKey (input : Bytes) : Except Failure Bytes :=
  match skipBlanks input with
  | [] => .error (.at .endInObject [])
  | b :: rest =>
    if b = '"'.toUInt8 then
      match passText rest with
      | .error e => .error e
      | .ok after =>
        match skipBlanks after with
        | [] => .error (.at .endInObject [])
        | colon :: rest =>
          if colon = ':'.toUInt8 then .ok rest else .error (.at .colonExpected (colon :: rest))
    else .error (.at .keyExpected (b :: rest))

/-- One step of the pass: what is expected after it, the brackets open then and
the rest of the input. -/
abbrev SkipState := Expecting × List Bracket × Bytes

/-- Passes over the first byte of a value, and over the whole of it unless it is
an array or object with something in it. -/
def passStart (brackets : List Bracket) (input : Bytes) : Except Failure SkipState :=
  match skipBlanks input with
  | [] => .error (.at .endInValue [])
  | b :: rest =>
    let done (result : Except Failure Bytes) : Except Failure SkipState :=
      result.map fun rest => (.next, brackets, rest)
    if b = 'n'.toUInt8 then done (readWord (Text.bytes "ull") rest)
    else if b = 't'.toUInt8 then done (readWord (Text.bytes "rue") rest)
    else if b = 'f'.toUInt8 then done (readWord (Text.bytes "alse") rest)
    else if b = '-'.toUInt8 then done (passNumeral rest)
    else if isDigit b then done (passNumeral (b :: rest))
    else if b = '"'.toUInt8 then done (passText rest)
    else if b = '['.toUInt8 then
      match skipBlanks rest with
      | [] => .error (.at .endInList [])
      | c :: after =>
        if c = ']'.toUInt8 then .ok (.next, brackets, after)
        else .ok (.value, .list :: brackets, c :: after)
    else if b = '{'.toUInt8 then
      match skipBlanks rest with
      | [] => .error (.at .endInObject [])
      | c :: after =>
        if c = '}'.toUInt8 then .ok (.next, brackets, after)
        else (passKey (c :: after)).map fun rest => (.value, .object :: brackets, rest)
    else .error (.at .valueExpected (b :: rest))

/-- Passes over what follows a value inside the innermost open bracket. -/
def passNext (innermost : Bracket) (outer : List Bracket) (input : Bytes) :
    Except Failure SkipState :=
  match innermost, skipBlanks input with
  | .list, [] => .error (.at .endInList [])
  | .object, [] => .error (.at .endInObject [])
  | .list, b :: rest =>
    if b = ','.toUInt8 then .ok (.value, .list :: outer, rest)
    else if b = ']'.toUInt8 then .ok (.next, outer, rest)
    else .error (.at .listEndExpected (b :: rest))
  | .object, b :: rest =>
    if b = ','.toUInt8 then (passKey rest).map fun rest => (.value, .object :: outer, rest)
    else if b = '}'.toUInt8 then .ok (.next, outer, rest)
    else .error (.at .objectEndExpected (b :: rest))

/-- Goes on with a pass for at most `fuel` steps. Every step takes at least one
byte, so the length of the input is enough fuel. -/
def passFrom : (fuel : Nat) → SkipState → Except Failure Bytes
  | _, (.next, [], rest) => .ok rest
  | 0, (_, _, rest) => .error (.at .endInValue rest)
  | fuel + 1, (.value, brackets, input) =>
    match passStart brackets input with
    | .error e => .error e
    | .ok state => passFrom fuel state
  | fuel + 1, (.next, innermost :: outer, input) =>
    match passNext innermost outer input with
    | .error e => .error e
    | .ok state => passFrom fuel state

/-- The input after one value of any kind. -/
def skipValue (input : Bytes) : Except Failure Bytes :=
  passFrom (input.length + 1) (.value, [], input)

end ReleasePage.Json
