/-!
# Binary floating point

The numbers of binary floating point with 53 significant bits. `ofDecimal` gives the number nearest
to a decimal one; of two nearest the one with the even mantissa. `text` writes a number with the
fewest decimal digits that give it back, nearest to it among those, in positional notation and with
a point always.
-/

namespace Readiness

/-- A number of binary floating point. -/
inductive Binary
  /-- `mantissa * 2 ^ exponent`, or less than zero by as much. -/
  | finite (negative : Bool) (mantissa : Nat) (exponent : Int)
  | infinite (negative : Bool)
  | notANumber
  deriving DecidableEq, Repr

namespace Binary

/-- How many bits a mantissa has. -/
def precision : Nat := 53

/-- The exponents a mantissa may have. -/
def minExponent : Int := -1074

def maxExponent : Int := 971

/-- `10 ^ e` as a quotient. -/
def powerOfTen (e : Int) : Nat × Nat :=
  if 0 ≤ e then (Nat.pow 10 e.toNat, 1) else (1, Nat.pow 10 (-e).toNat)

/-- A quotient in units of `2 ^ q`, rounded; of two nearest the even one. -/
def rounded (num den : Nat) (q : Int) : Nat :=
  let (num, den) := if 0 ≤ q then (num, den * Nat.pow 2 q.toNat)
    else (num * Nat.pow 2 (-q).toNat, den)
  let whole := num / den
  let twice := 2 * (num % den)
  if den < twice || (twice == den && whole % 2 == 1) then whole + 1 else whole

/-- The number nearest to a positive quotient. -/
def ofQuotient (negative : Bool) (num den : Nat) : Binary :=
  let q := max minExponent ((Nat.log2 num : Int) - Nat.log2 den - precision)
  let settle (q : Int) : Nat × Int :=
    let m := rounded num den q
    if Nat.pow 2 precision ≤ m then (rounded num den (q + 1), q + 1) else (m, q)
  let (m, q) := settle q
  let (m, q) := if Nat.pow 2 precision ≤ m then (m / 2, q + 1) else (m, q)
  if maxExponent < q then .infinite negative else .finite negative m q

/-- The number nearest to `digits * 10 ^ e`. What is far out of range is not computed. -/
def ofDecimal (negative : Bool) (digits : Nat) (e : Int) : Binary :=
  let top := (Nat.toDigits 10 digits).length + e
  if digits = 0 || top < -330 then .finite negative 0 minExponent
  else if 310 < top then .infinite negative
  else
    let (num, den) := powerOfTen e
    ofQuotient negative (digits * num) den

/-- How many decimal digits stand before the point; none or fewer than none for a fraction. -/
def magnitude (mantissa : Nat) (exponent : Int) : Int :=
  let places : Nat := 400
  let scaled := if 0 ≤ exponent then mantissa * Nat.pow 2 exponent.toNat * Nat.pow 10 places
    else mantissa * Nat.pow 10 places / Nat.pow 2 (-exponent).toNat
  ((Nat.toDigits 10 scaled).length : Int) - places

/-- Of two decimal neighbours in units of `10 ^ e` those that give the number back, the nearer one
    first; of two as near the greater. -/
def neighbours (mantissa : Nat) (exponent : Int) (e : Int) : List Nat :=
  let (p, r) := powerOfTen e
  let (num, den) := if 0 ≤ exponent then (mantissa * Nat.pow 2 exponent.toNat * r, p)
    else (mantissa * r, p * Nat.pow 2 (-exponent).toNat)
  let low := num / den
  let candidates := if den ≤ 2 * (num % den) then [low + 1, low] else [low, low + 1]
  candidates.filter fun d => ofDecimal false d e == .finite false mantissa exponent

/-- The fewest digits that give a positive number back, and the power of ten they are in units
    of. -/
def shortest (mantissa : Nat) (exponent : Int) : Nat × Int :=
  let top := magnitude mantissa exponent
  let found := (List.range 17).findSome? fun (k : Nat) =>
    let e := top - ((k : Int) + 1)
    ((neighbours mantissa exponent e).head?).map (·, e)
  found.getD (0, 0)

/-- `digits * 10 ^ e` in positional notation, with a digit on both sides of the point. -/
def positional (digits : Nat) (e : Int) : String :=
  let ds := Nat.toDigits 10 digits
  if 0 ≤ e then String.ofList (ds ++ List.replicate e.toNat '0') ++ ".0"
  else
    let places := (-e).toNat
    let padded := List.replicate (places + 1 - ds.length) '0' ++ ds
    let (whole, fraction) := padded.splitAt (padded.length - places)
    String.ofList (whole ++ '.' :: fraction)

/-- A decimal without zeros at the end. -/
def strip (digits : Nat) (e : Int) : Nat × Int :=
  let ds := (Nat.toDigits 10 digits).reverse
  let zeros := (ds.takeWhile (· == '0')).length
  (digits / Nat.pow 10 zeros, e + zeros)

def text : Binary → String
  | finite negative mantissa exponent =>
    let sign := if negative then "-" else ""
    if mantissa = 0 then sign ++ "0.0"
    else
      let (digits, e) := shortest mantissa exponent
      let (digits, e) := strip digits e
      sign ++ positional digits e
  | infinite true => "-inf"
  | infinite false => "inf"
  | notANumber => "NaN"

end Binary

end Readiness
