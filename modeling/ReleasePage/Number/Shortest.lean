import ReleasePage.Number.Double

/-!
# Shortest decimal texts of doubles

A double is written with the fewest decimal digits that read back as the same
double, and with the nearest such digits. How the digits are laid out, with a
point or with a power of ten, is a separate choice made by a `FloatStyle`.
-/

namespace ReleasePage.Number

/-- Decimal digits and a power of ten: `digits * 10 ^ power`. -/
structure Decimal where
  /-- The significant digits, read as one number. -/
  digits : Nat
  /-- The power of ten that the number is multiplied by. -/
  power : Int
  deriving Repr, DecidableEq

/-- The reals that round to one double, as fractions over one denominator. -/
structure Interval where
  /-- The lower end. -/
  low : Nat
  /-- The double itself. -/
  mid : Nat
  /-- The upper end. -/
  high : Nat
  /-- The common denominator. -/
  den : Nat
  /-- The ends belong to the interval. -/
  closed : Bool

/-- The interval of the double `m * 2 ^ e`: it reaches half way to each
neighbour, and a mantissa at a power of two has its lower neighbour at half the
distance. The ends round to an even mantissa. -/
def Interval.around (m : Nat) (e : Int) : Interval :=
  let below := if m = twoTo 52 ∧ Double.minExponent < e then 1 else 2
  let scale := if 0 ≤ e then twoTo e.toNat else 1
  let den := if 0 ≤ e then 4 else 4 * twoTo (-e).toNat
  ⟨(4 * m - below) * scale, 4 * m * scale, (4 * m + 2) * scale, den, m % 2 == 0⟩

/-- `n * 10 ^ p`, as a fraction over the denominator of the interval, lies in
the interval. -/
def Interval.holds (i : Interval) (n : Nat) (p : Int) : Bool :=
  let value := n * tenTo p.toNat * i.den
  let scale := tenTo (-p).toNat
  if i.closed then i.low * scale ≤ value && value ≤ i.high * scale
  else i.low * scale < value && value < i.high * scale

/-- Twice the distance of `n * 10 ^ p` from the double, in a unit that depends
on `p` alone. -/
def Interval.distance (i : Interval) (n : Nat) (p : Int) : Nat :=
  let value := n * tenTo p.toNat * i.den
  let mid := i.mid * tenTo (-p).toNat
  (value - mid) + (mid - value)

/-- The greatest `p` in `low, low + 1, …` below `low + steps` with
`10 ^ p ≤ num / den`, searched downwards. -/
def leadingPower (num den : Nat) (low : Int) : Nat → Int
  | 0 => low
  | steps + 1 =>
    let p := low + steps + 1
    if tenTo p.toNat * den ≤ num * tenTo (-p).toNat then p else leadingPower num den low steps

/-- The shortest decimal at `count` or more digits whose value lies in the
interval, `leading` being the power of its first digit. On each grid only the
two neighbours of the double are tried, the nearer one first. -/
def Interval.shortest (i : Interval) (leading : Int) (count : Nat) : Nat → Decimal
  | 0 => ⟨i.mid / i.den, 0⟩
  | fuel + 1 =>
    let p := leading - count + 1
    let below := i.mid * tenTo (-p).toNat / (i.den * tenTo p.toNat)
    let above := below + 1
    let near := i.distance below p
    let far := i.distance above p
    let belowFirst := near < far || (near == far && below % 2 == 0)
    let first := if belowFirst then below else above
    let second := if belowFirst then above else below
    if i.holds first p then ⟨first, p⟩
    else if i.holds second p then ⟨second, p⟩
    else i.shortest leading (count + 1) fuel

/-- Moves zeros at the end of the digits into the power of ten. -/
def Decimal.trim (d : Decimal) : Nat → Decimal
  | 0 => d
  | fuel + 1 =>
    if d.digits ≠ 0 ∧ d.digits % 10 = 0 then Decimal.trim ⟨d.digits / 10, d.power + 1⟩ fuel else d

/-- The shortest decimal that reads back as the double `m * 2 ^ e`. -/
def shortest (m : Nat) (e : Int) : Decimal :=
  if m = 0 then ⟨0, 0⟩
  else
    let i := Interval.around m e
    let leading := leadingPower i.mid i.den (-325) 640
    (i.shortest leading 1 20).trim 20

/-- How the digits of a double are laid out. -/
structure FloatStyle where
  /-- The least power of the first digit that is written with a point. -/
  pointFrom : Int
  /-- The greatest power of the first digit that is written with a point. -/
  pointTo : Int
  /-- What follows an integer that is written with a point. -/
  integerEnd : String
  /-- The text of an infinity, without sign. -/
  infinity : String
  /-- The text of an undefined number. -/
  undefined : String

/-- Numbers in messages about JSON texts: with a point from `10 ^ -5` up to
`10 ^ 16`, an integer ending in `.0`, otherwise with a signed power of ten. -/
def FloatStyle.json : FloatStyle := ⟨-5, 15, ".0", "inf", "NaN"⟩

/-- Numbers in messages about settings: always with all their digits, and an
integer without a point. -/
def FloatStyle.plain : FloatStyle := ⟨-400, 400, "", "inf", "NaN"⟩

/-- The digits of a decimal with a point at the right place. -/
def Decimal.positional (style : FloatStyle) (d : Decimal) : String :=
  let digits := (Nat.repr d.digits).toList
  let whole : Int := digits.length + d.power
  if 0 ≤ d.power then
    String.ofList (digits ++ List.replicate d.power.toNat '0') ++ style.integerEnd
  else if 0 < whole then
    String.ofList (digits.take whole.toNat ++ '.' :: digits.drop whole.toNat)
  else
    String.ofList ('0' :: '.' :: List.replicate (-whole).toNat '0' ++ digits)

/-- The digits of a decimal with the point after the first one and a power of
ten with its sign. -/
def Decimal.scientific (d : Decimal) : String :=
  let digits := (Nat.repr d.digits).toList
  let power : Int := d.power + digits.length - 1
  let tail := if digits.length = 1 then [] else '.' :: digits.drop 1
  String.ofList (digits.take 1 ++ tail) ++
    (if power < 0 then "e-" else "e+") ++ Nat.repr power.natAbs

/-- The text of a double in a style. -/
def Double.text (style : FloatStyle) : Double → String
  | .notANumber => style.undefined
  | .infinite negative => (if negative then "-" else "") ++ style.infinity
  | .finite negative m e =>
    let d := shortest m e
    let leading : Int := d.power + (Nat.repr d.digits).length - 1
    (if negative then "-" else "") ++
      (if style.pointFrom ≤ leading ∧ leading ≤ style.pointTo then d.positional style
       else d.scientific)

end ReleasePage.Number
