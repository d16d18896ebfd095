/-!
# Unsigned numerals

The whole numbers of settings, options and status patterns: ASCII digits, leading zeros allowed,
with an optional plus sign, up to a limit that the kind of number sets. A numeral is read from left
to right and the first thing wrong with it decides the fault: a sign alone or any other character
that is no digit, or the limit being passed.
-/

namespace Readiness

/-- What is wrong with a numeral. -/
inductive NumeralFault
  | empty
  | invalidDigit
  | tooLarge
  deriving DecidableEq, Repr

namespace NumeralFault

def text : NumeralFault → String
  | empty => "cannot parse integer from empty string"
  | invalidDigit => "invalid digit found in string"
  | tooLarge => "number too large to fit in target type"

end NumeralFault

namespace Numeral

/-- The greatest whole number of 16 bits. -/
def max16 : Nat := 0xFFFF

/-- The greatest whole number of 64 bits. -/
def max64 : Nat := 0xFFFFFFFFFFFFFFFF

/-- The value of an ASCII digit. -/
def digit? (c : Char) : Option Nat :=
  if '0' ≤ c ∧ c ≤ '9' then some (c.toNat - '0'.toNat) else none

/-- Digits read after a value already gathered. -/
def digits (limit : Nat) (value : Nat) : List Char → Except NumeralFault Nat
  | [] => .ok value
  | c :: cs =>
    match digit? c with
    | none => .error .invalidDigit
    | some d => if value * 10 + d ≤ limit then digits limit (value * 10 + d) cs else .error .tooLarge

/-- The value of a numeral that may begin with a plus sign. -/
def parseChars (limit : Nat) : List Char → Except NumeralFault Nat
  | [] => .error .empty
  | ['+'] => .error .invalidDigit
  | '+' :: cs => digits limit 0 cs
  | cs => digits limit 0 cs

/-- The value of a numeral of at most `limit`. -/
def parse (limit : Nat) (s : String) : Except NumeralFault Nat := parseChars limit s.toList

end Numeral

end Readiness
