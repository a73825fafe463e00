import ReleasePage.Json.Failure

/-!
# Numbers in JSON texts

A number without fraction and exponent that fits in 64 bits is an integer;
every other number is a double. Digits are gathered in a significand below
`2 ^ 64`, and from the first digit that no longer fits on they only scale the
number. The significand is rounded to a double first and then multiplied or
divided by a rounded power of ten.
-/

namespace ReleasePage.Json

open ReleasePage.Text (Bytes)
open ReleasePage.Number (Double)

/-- A number as it was read. -/
inductive Numeral where
  /-- An integer from `-2 ^ 63` to `2 ^ 64 - 1`. -/
  | integer (value : Int)
  /-- Any other number. -/
  | float (value : Double)
  deriving Repr, DecidableEq

/-- How a number is named in a message. -/
def Numeral.found : Numeral → Found
  | .integer n => .integer n
  | .float x => .float x

/-- A decimal digit. -/
def isDigit (b : UInt8) : Bool := 48 ≤ b.toNat && b.toNat ≤ 57

/-- The value of a decimal digit. -/
def digitValue (b : UInt8) : Nat := b.toNat - 48

/-- The greatest significand. -/
def maxSignificand : Nat := Number.words64 - 1

/-- The greatest power of ten in an exponent that is read to its end. -/
def maxExponentValue : Nat := 2147483647

/-- Takes digits into a number as long as it stays within `limit`: the number,
how many digits were taken, and the rest of the input. -/
def gather (limit : Nat) : (value count : Nat) → Bytes → Nat × Nat × Bytes
  | value, count, [] => (value, count, [])
  | value, count, b :: rest =>
    if isDigit b && value * 10 + digitValue b ≤ limit then
      gather limit (value * 10 + digitValue b) (count + 1) rest
    else (value, count, b :: rest)

/-- The input after its leading digits. -/
def dropDigits (input : Bytes) : Bytes := input.dropWhile isDigit

/-- The next byte is the letter that opens an exponent. -/
def atExponent : Bytes → Bool
  | b :: _ => b == 'e'.toUInt8 || b == 'E'.toUInt8
  | [] => false

/-- The next byte is the point that opens a fraction. -/
def atPoint : Bytes → Bool
  | b :: _ => b == '.'.toUInt8
  | [] => false

/-- Divides by `10 ^ 308` until what is left of a negative power of ten is small
enough, then by the power that remains. -/
def scaleDown (x : Double) (power : Nat) : Double :=
  if power ≤ 308 then x.quotient (Double.tenPow power)
  else if x.isZero then x
  else scaleDown (x.quotient (Double.tenPow 308)) (power - 308)
termination_by power
decreasing_by omega

/-- The significand times a power of ten, with two roundings; nothing if it is
beyond the greatest double. -/
def scale (negative : Bool) (significand : Nat) (power : Int) : Option Double :=
  let x := Double.ofRatio false significand 1
  if power < 0 then some ((scaleDown x power.natAbs).withSign negative)
  else if 308 < power then
    if x.isZero then some (x.withSign negative) else none
  else
    match x.times (Double.tenPow power.toNat) with
    | .infinite _ => none
    | y => some (y.withSign negative)

/-- The scaled number, or a failure before the bytes that follow it. -/
def scaled (negative : Bool) (significand : Nat) (power : Int) (rest : Bytes) :
    Except Failure (Numeral × Bytes) :=
  match scale negative significand power with
  | some x => .ok (.float x, rest)
  | none => .error (.before .numberTooLarge rest)

/-- The input after an optional sign of an exponent, and whether the sign is a
minus. -/
def exponentSign : Bytes → Bool × Bytes
  | b :: rest =>
    if b = '+'.toUInt8 then (false, rest)
    else if b = '-'.toUInt8 then (true, rest)
    else (false, b :: rest)
  | [] => (false, [])

/-- Reads what follows the letter of an exponent. -/
def readExponent (negative : Bool) (significand : Nat) (start : Int) (input : Bytes) :
    Except Failure (Numeral × Bytes) :=
  let (down, input) := exponentSign input
  match input with
  | [] => .error (.before .endInValue [])
  | b :: rest =>
    if isDigit b then
      let (value, _, rest) := gather maxExponentValue (digitValue b) 0 rest
      match rest with
      | d :: after =>
        if isDigit d then
          if significand ≠ 0 ∧ down = false then .error (.before .numberTooLarge after)
          else .ok (.float (Double.zero negative), dropDigits after)
        else scaled negative significand (if down then start - value else start + value) rest
      | [] => scaled negative significand (if down then start - value else start + value) []
    else .error (.before .badNumber rest)

/-- Reads an exponent if there is one, and scales. -/
def readScale (negative : Bool) (significand : Nat) (power : Int) (input : Bytes) :
    Except Failure (Numeral × Bytes) :=
  if atExponent input then readExponent negative significand power (input.drop 1)
  else scaled negative significand power input

/-- Reads the digits after a point. -/
def readFraction (negative : Bool) (significand : Nat) (power : Int) (input : Bytes) :
    Except Failure (Numeral × Bytes) :=
  let (value, count, rest) := gather maxSignificand significand 0 input
  match rest with
  | [] =>
    if count = 0 then .error (.at .endInValue []) else scaled negative value (power - count) []
  | b :: _ =>
    if isDigit b then readScale negative value (power - count) (dropDigits rest)
    else if count = 0 then .error (.at .badNumber rest)
    else readScale negative value (power - count) rest

/-- Reads what follows the integer part of a number that is no integer, or
whose integer part does not fit. -/
def readTail (negative : Bool) (significand : Nat) (power : Int) (input : Bytes) :
    Except Failure (Numeral × Bytes) :=
  if atPoint input then readFraction negative significand power (input.drop 1)
  else readScale negative significand power input

/-- An integer part that nothing follows. A negative zero and everything below
`-2 ^ 63` are doubles. -/
def Numeral.ofInteger (negative : Bool) (significand : Nat) : Numeral :=
  if negative then
    if significand = 0 ∨ Number.twoTo 63 < significand then
      .float (Double.ofRatio true significand 1)
    else .integer (-significand)
  else .integer significand

/-- Reads the rest of a number whose integer part has been read. -/
def readAfterInteger (negative : Bool) (significand : Nat) (input : Bytes) :
    Except Failure (Numeral × Bytes) :=
  if atPoint input || atExponent input then readTail negative significand 0 input
  else .ok (.ofInteger negative significand, input)

/-- Reads a number after its sign. -/
def readUnsigned (negative : Bool) : Bytes → Except Failure (Numeral × Bytes)
  | [] => .error (.before .endInValue [])
  | b :: rest =>
    if b = '0'.toUInt8 then
      match rest with
      | d :: _ =>
        if isDigit d then .error (.at .badNumber rest) else readAfterInteger negative 0 rest
      | [] => readAfterInteger negative 0 []
    else if isDigit b then
      let (value, _, rest) := gather maxSignificand (digitValue b) 0 rest
      match rest with
      | d :: _ =>
        if isDigit d then
          let after := dropDigits rest
          readTail negative value (rest.length - after.length) after
        else readAfterInteger negative value rest
      | [] => readAfterInteger negative value []
    else .error (.before .badNumber rest)

/-- Reads a number that starts with a digit or a minus sign. -/
def readNumeral (input : Bytes) : Except Failure (Numeral × Bytes) :=
  match input with
  | b :: rest => if b = '-'.toUInt8 then readUnsigned true rest else readUnsigned false input
  | [] => readUnsigned false []

end ReleasePage.Json
