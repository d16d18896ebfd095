/-!
# Durations

A duration is a whole number of nanoseconds. It is shown in the largest of the units s, ms, µs and
ns of which it holds at least one, with the exact fraction and no trailing zeros.
-/

namespace Readiness

/-- A span of time. -/
structure Duration where
  nanos : Nat
  deriving DecidableEq, Repr

namespace Duration

def ofMillis (n : Nat) : Duration := ⟨n * 1000000⟩

/-- `secs` seconds and `nanos` nanoseconds. -/
def ofParts (secs nanos : Nat) : Duration := ⟨secs * 1000000000 + nanos⟩

/-- The digits behind the point, `places` of them less the zeros at the end. -/
def fraction (places value : Nat) : List Char :=
  let digits := Nat.toDigits 10 value
  let padded := List.replicate (places - digits.length) '0' ++ digits
  (padded.reverse.dropWhile (· == '0')).reverse

/-- An amount of a unit that is worth `10 ^ places` nanoseconds. -/
def amount (places nanos : Nat) (unit : String) : String :=
  let whole := toString (nanos / Nat.pow 10 places)
  match fraction places (nanos % Nat.pow 10 places) with
  | [] => whole ++ unit
  | ds => whole ++ "." ++ String.ofList ds ++ unit

/-- The text of a duration, as `1.5s` or `50ms`. -/
def text (d : Duration) : String :=
  if 1000000000 ≤ d.nanos then amount 9 d.nanos "s"
  else if 1000000 ≤ d.nanos then amount 6 d.nanos "ms"
  else if 1000 ≤ d.nanos then amount 3 d.nanos "µs"
  else toString d.nanos ++ "ns"

end Duration

end Readiness
