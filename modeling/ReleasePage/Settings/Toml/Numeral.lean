import ReleasePage.Settings.Value
import ReleasePage.Text.CodePoint

/-!
# Numbers in TOML documents

Integers in four bases and numbers with a fraction or an exponent. Single
underscores may stand between digits. Decimal integers have no leading zeros,
and every integer has to fit into 64 bits.
-/

namespace ReleasePage.Settings.Toml

open ReleasePage.Number (Double)

/-- Reads digits with single underscores between them, at least one. A digit
has to follow an underscore. -/
def readDigits (isDigit : Char → Bool) : List Char → Option (List Char × List Char)
  | [] => none
  | [c] => if isDigit c then some ([c], []) else none
  | c :: '_' :: rest =>
    if isDigit c then (readDigits isDigit rest).map fun (digits, rest) => (c :: digits, rest)
    else none
  | c :: d :: rest =>
    if !isDigit c then none
    else if isDigit d then
      (readDigits isDigit (d :: rest)).map fun (digits, rest) => (c :: digits, rest)
    else some ([c], d :: rest)

/-- The number that digits of a base denote. -/
def numberOf (base : Nat) (digits : List Char) : Nat :=
  digits.foldl (fun n c => base * n + (Text.hexDigit? c).getD 0) 0

/-- A digit of a base of at most sixteen. -/
def isDigitOf (base : Nat) (c : Char) : Bool := (Text.hexDigit? c).any (· < base)

/-- The value of an integer that fits. -/
def integer? (n : Int) : Option Value := if Number.isSigned64 n then some (.signed n) else none

/-- Reads an integer of a given base, after the mark of the base. -/
def readBased (base : Nat) (input : List Char) : Option (Value × List Char) := do
  let (digits, rest) ← readDigits (isDigitOf base) input
  let value ← integer? (numberOf base digits)
  return (value, rest)

/-- Reads the whole part of a decimal number: a zero, or digits that do not
start with one. -/
def readWhole : List Char → Option (List Char × List Char)
  | '0' :: rest => some (['0'], rest)
  | input => readDigits (isDigitOf 10) input

/-- Reads a fraction, if there is a point: its digits. -/
def readFraction : List Char → Option (Option (List Char) × List Char)
  | '.' :: rest => (readDigits (isDigitOf 10) rest).map fun (digits, rest) => (some digits, rest)
  | input => some (none, input)

/-- Reads a sign, if there is one: whether it is a minus. -/
def readSign : List Char → Option Bool × List Char
  | '+' :: rest => (some false, rest)
  | '-' :: rest => (some true, rest)
  | input => (none, input)

/-- Reads an exponent, if there is one. -/
def readExponent : List Char → Option (Option Int × List Char)
  | [] => some (none, [])
  | c :: rest =>
    if c == 'e' || c == 'E' then
      let (sign, rest) := readSign rest
      (readDigits (isDigitOf 10) rest).map fun (digits, rest) =>
        let n : Int := numberOf 10 digits
        (some (if sign == some true then -n else n), rest)
    else some (none, c :: rest)

/-- The value of a number with a fraction or an exponent. A number that is too
great is refused. -/
def float? (negative : Bool) (whole fraction : List Char) (exponent : Int) : Option Value :=
  let value := Double.ofDecimal negative (numberOf 10 (whole ++ fraction))
    (exponent - fraction.length)
  if value = .infinite false then none else some (.float value)

/-- Reads a decimal number after its sign. -/
def readDecimal (negative : Bool) (input : List Char) : Option (Value × List Char) := do
  let (whole, rest) ← readWhole input
  let (fraction, rest) ← readFraction rest
  let (exponent, rest) ← readExponent rest
  if fraction.isSome || exponent.isSome then
    let value ← float? negative whole (fraction.getD []) (exponent.getD 0)
    return (value, rest)
  else
    let n : Int := numberOf 10 whole
    let value ← integer? (if negative then -n else n)
    return (value, rest)

/-- Reads a number after its sign, which may be none. -/
def readUnsigned (sign : Option Bool) : List Char → Option (Value × List Char)
  | 'i' :: 'n' :: 'f' :: rest => some (.float (.infinite (sign == some true)), rest)
  | 'n' :: 'a' :: 'n' :: rest => some (.float .notANumber, rest)
  | '0' :: c :: rest =>
    if sign.isSome then readDecimal (sign == some true) ('0' :: c :: rest)
    else if c == 'x' then readBased 16 rest
    else if c == 'o' then readBased 8 rest
    else if c == 'b' then readBased 2 rest
    else readDecimal false ('0' :: c :: rest)
  | input => readDecimal (sign == some true) input

/-- Reads a number, if one starts here. -/
def readNumber (input : List Char) : Option (Value × List Char) :=
  let (sign, rest) := readSign input
  readUnsigned sign rest

end ReleasePage.Settings.Toml
