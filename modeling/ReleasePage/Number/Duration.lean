import ReleasePage.Number.Rounding

/-!
# Durations

A duration is a number of nanoseconds. It is shown in the largest unit of
seconds, milliseconds, microseconds and nanoseconds of which it holds at least
one, with the fraction written without zeros at its end.
-/

namespace ReleasePage.Number

/-- A length of time. -/
structure Duration where
  /-- The whole duration in nanoseconds. -/
  nanoseconds : Nat
  deriving Repr, DecidableEq

/-- A duration of whole seconds. -/
def Duration.ofSeconds (seconds : Nat) : Duration := ⟨seconds * 1000000000⟩

/-- A duration of whole milliseconds. -/
def Duration.ofMilliseconds (milliseconds : Nat) : Duration := ⟨milliseconds * 1000000⟩

/-- `n` units of `10 ^ places` parts each, with the fraction of the last unit
and without zeros at its end. -/
def fractional (n places : Nat) : String :=
  let digits := (padded places (n % tenTo places)).toList
  let kept := (digits.reverse.dropWhile (· == '0')).reverse
  Nat.repr (n / tenTo places) ++ (if kept.isEmpty then "" else "." ++ String.ofList kept)

/-- The duration in its largest unit. -/
def Duration.text (d : Duration) : String :=
  if 1000000000 ≤ d.nanoseconds then fractional d.nanoseconds 9 ++ "s"
  else if 1000000 ≤ d.nanoseconds then fractional d.nanoseconds 6 ++ "ms"
  else if 1000 ≤ d.nanoseconds then fractional d.nanoseconds 3 ++ "µs"
  else Nat.repr d.nanoseconds ++ "ns"

end ReleasePage.Number
