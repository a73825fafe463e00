import ReleasePage.Text.Bytes
import ReleasePage.Time.Civil

/-!
# Timestamps

A timestamp is a date, a time of day and a distance from universal time, written
as in `2020-05-17T12:30:00.5+02:00`. It is read from left to right, and the
first thing that does not fit decides the error.
-/

namespace ReleasePage.Time

open ReleasePage.Text (Bytes)

/-- What can be wrong with a timestamp. -/
inductive DateFault where
  /-- The text ends too early. -/
  | tooShort
  /-- A character that has no place there. -/
  | badCharacter
  /-- A date, time or distance that does not exist. -/
  | outOfRange
  /-- Something after the end of the timestamp. -/
  | trailing
  deriving Repr, DecidableEq

/-- The message of a fault. -/
def DateFault.message : DateFault → String
  | .tooShort => "premature end of input"
  | .badCharacter => "input contains invalid characters"
  | .outOfRange => "input is out of range"
  | .trailing => "trailing input"

/-- A date and time with its distance from universal time. -/
structure Timestamp where
  /-- The local date. -/
  date : CivilDate
  /-- The local time of day in seconds. A leap second counts as the second
  before it. -/
  second : Nat
  /-- The seconds by which local time is ahead of universal time. -/
  offset : Int
  deriving Repr, DecidableEq

/-- The number of days between the start of year zero and the start of 1970. -/
def epochDays : Int := 719528

/-- The seconds of universal time since the start of 1970. -/
def Timestamp.instant (stamp : Timestamp) : Int :=
  (stamp.date.toDays - epochDays) * 86400 + stamp.second - stamp.offset

/-- The value of a decimal digit. -/
def digit? (b : UInt8) : Option Nat :=
  if 48 ≤ b.toNat ∧ b.toNat ≤ 57 then some (b.toNat - 48) else none

/-- Reads `count` digits as a number that continues `value`. -/
def readDigits : (count value : Nat) → Bytes → Except DateFault (Nat × Bytes)
  | 0, value, input => .ok (value, input)
  | _ + 1, _, [] => .error .tooShort
  | count + 1, value, b :: rest =>
    match digit? b with
    | some d => readDigits count (value * 10 + d) rest
    | none => .error .badCharacter

/-- Passes over one of the given characters. -/
def readMark (marks : List Char) : Bytes → Except DateFault Bytes
  | [] => .error .tooShort
  | b :: rest =>
    if marks.any (fun mark => b == mark.toUInt8) then .ok rest else .error .badCharacter

/-- Reads a date, which has to exist. -/
def readDate (input : Bytes) : Except DateFault (CivilDate × Bytes) := do
  let (year, rest) ← readDigits 4 0 input
  let rest ← readMark ['-'] rest
  let (month, rest) ← readDigits 2 0 rest
  let rest ← readMark ['-'] rest
  let (day, rest) ← readDigits 2 0 rest
  let date : CivilDate := ⟨year, month, day⟩
  if date.valid then return (date, rest) else throw .outOfRange

/-- Passes over a fraction of a second, if there is one. -/
def readFraction (input : Bytes) : Except DateFault Bytes :=
  match input with
  | [] => .ok []
  | b :: rest =>
    if b = '.'.toUInt8 then
      match rest with
      | [] => .error .tooShort
      | d :: after =>
        if (digit? d).isSome then .ok (after.dropWhile fun b => (digit? b).isSome)
        else .error .badCharacter
    else .ok input

/-- Reads a time of day in seconds, with a fraction that is left out. -/
def readTime (input : Bytes) : Except DateFault (Nat × Bytes) := do
  let (hour, rest) ← readDigits 2 0 input
  let rest ← readMark [':'] rest
  let (minute, rest) ← readDigits 2 0 rest
  let rest ← readMark [':'] rest
  let (second, rest) ← readDigits 2 0 rest
  let second := if second = 60 then 59 else second
  let rest ← readFraction rest
  if hour < 24 ∧ minute < 60 ∧ second < 60 then
    return (hour * 3600 + minute * 60 + second, rest)
  else throw .outOfRange

/-- Reads the minutes of a distance from universal time. -/
def readOffsetMinutes : Bytes → Except DateFault (Nat × Bytes)
  | a :: b :: rest =>
    match digit? a, digit? b with
    | some m, some n => if m < 6 then .ok (m * 10 + n, rest) else .error .outOfRange
    | _, _ => .error .badCharacter
  | _ => .error .tooShort

/-- Reads hours and minutes of a distance from universal time, in minutes. -/
def readOffsetSize (input : Bytes) : Except DateFault (Nat × Bytes) := do
  if input.length < 2 then throw .tooShort
  let (hours, rest) ← readDigits 2 0 input
  let rest ← readMark [':'] rest
  let (minutes, rest) ← readOffsetMinutes rest
  return (hours * 60 + minutes, rest)

/-- Reads a distance from universal time in seconds: the letter for none, or a
sign with hours and minutes. The mathematical minus sign is a sign too. -/
def readOffset : Bytes → Except DateFault (Int × Bytes)
  | [] => .error .tooShort
  | 0xE2 :: 0x88 :: 0x92 :: rest => do
    let (minutes, rest) ← readOffsetSize rest
    return (-(minutes * 60 : Int), rest)
  | b :: rest =>
    if b = 'Z'.toUInt8 ∨ b = 'z'.toUInt8 then .ok (0, rest)
    else if b = '+'.toUInt8 then do
      let (minutes, rest) ← readOffsetSize rest
      return ((minutes * 60 : Int), rest)
    else if b = '-'.toUInt8 then do
      let (minutes, rest) ← readOffsetSize rest
      return (-(minutes * 60 : Int), rest)
    else .error .badCharacter

/-- Reads a timestamp. -/
def Timestamp.read (input : Bytes) : Except DateFault Timestamp := do
  if input.length < 19 then throw .tooShort
  let (date, rest) ← readDate input
  let rest ← readMark ['T', 't', ' '] rest
  let (second, rest) ← readTime rest
  let (offset, rest) ← readOffset rest
  if !rest.isEmpty then throw .trailing
  if 86400 ≤ offset.natAbs then throw .outOfRange
  return ⟨date, second, offset⟩

end ReleasePage.Time
