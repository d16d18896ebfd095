import Readiness.Text.Blank
import Readiness.Text.Numeral

/-!
# Accepted statuses

A probe accepts the statuses of an inclusive range. As a pattern, a range is one status or two with
at least two dots between them.

* One status may carry a plus sign and leading zeros.
* Either status of a range is digits only, leading zeros allowed, and blanks may stand before and
  behind the dots. The first must not be above the second.

Blanks around the pattern count for nothing. `text` writes a range as a pattern.
-/

namespace Readiness

/-- The statuses from `min` to `max`. -/
structure StatusRange where
  min : Nat
  max : Nat
  deriving DecidableEq, Repr

namespace StatusRange

/-- What a probe accepts if nothing else is asked for. -/
def default : StatusRange := ⟨200, 399⟩

def single (status : Nat) : StatusRange := ⟨status, status⟩

def contains (r : StatusRange) (status : Nat) : Bool := r.min ≤ status && status ≤ r.max

/-- Both ends belong to the range. -/
theorem contains_iff {r : StatusRange} {status : Nat} :
    r.contains status = true ↔ r.min ≤ status ∧ status ≤ r.max := by
  rw [contains, Bool.and_eq_true, decide_eq_true_iff, decide_eq_true_iff]

/-- A range as a pattern. -/
def text (r : StatusRange) : String :=
  if r.min = r.max then toString r.min else toString r.min ++ ".." ++ toString r.max

/-- The pieces on both sides of the dots, blanks beside the dots aside; `none` without at least two
    dots in a row behind digits and blanks. -/
def ends? (cs : List Char) : Option (List Char × List Char) :=
  let (first, rest) := cs.span fun c => (Numeral.digit? c).isSome
  match rest.dropWhile isBlank with
  | '.' :: '.' :: rest => some (first, (rest.dropWhile (· == '.')).dropWhile isBlank)
  | _ => none

/-- A status written in digits alone. -/
def status? (cs : List Char) : Option Nat :=
  if cs.any (· == '+') then none else (Numeral.parseChars Numeral.max16 cs).toOption

/-- The range that a pattern without blanks around it stands for. -/
def ofChars? (cs : List Char) : Option StatusRange :=
  match ends? cs with
  | some (first, second) => do
    let min ← status? first
    let max ← status? second
    if min ≤ max then some ⟨min, max⟩ else none
  | none => (Numeral.parseChars Numeral.max16 cs).toOption.map single

/-- The range that a pattern stands for. -/
def parse? (pattern : String) : Option StatusRange := ofChars? (trimChars pattern.toList)

end StatusRange

end Readiness
