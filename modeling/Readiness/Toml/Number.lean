import Readiness.Data.Datum
import Readiness.Toml.Quotes

/-!
# Numbers and times of a document

* A whole number has 64 bits with its sign. In decimal it may have a sign and has no leading zeros;
  with `0x`, `0o` or `0b` in front it is hexadecimal, octal or binary and has no sign. An underscore
  may stand between two digits.
* A number with a fraction, an exponent or both is rounded to binary floating point; one above all
  of those is malformed. There are also `inf` and `nan`, with a sign or without.
* A date, a time of day, or a date with a time, which may have an offset. Four digits and a dash
  begin a date, two digits and a colon a time.
-/

namespace Readiness.Toml

def isDigit (c : Char) : Bool := '0' ≤ c && c ≤ '9'

/-- The digits up to the first character that is none, and an underscore between two digits is. -/
def digitsBehind (isDigit : Char → Bool) : List Char → List Char × List Char
  | [] => ([], [])
  | '_' :: d :: cs =>
    if isDigit d then
      let (ds, rest) := digitsBehind isDigit cs
      (d :: ds, rest)
    else ([], '_' :: d :: cs)
  | d :: cs =>
    if isDigit d then
      let (ds, rest) := digitsBehind isDigit cs
      (d :: ds, rest)
    else ([], d :: cs)

/-- At least one digit. -/
def digits? (isDigit : Char → Bool) : Reader (List Char)
  | [] => none
  | d :: cs =>
    if isDigit d then
      let (ds, rest) := digitsBehind isDigit cs
      some (d :: ds, rest)
    else none

/-- The value of digits. -/
def value (radix : Nat) (ds : List Char) : Nat :=
  ds.foldl (fun n d => n * radix + (hexDigit? d).getD 0) 0

def minInteger : Int := -0x8000000000000000

def maxInteger : Int := 0x7FFFFFFFFFFFFFFF

/-- A whole number in range. -/
def inRange (n : Int) (rest : List Char) : Option (Datum × List Char) :=
  if minInteger ≤ n ∧ n ≤ maxInteger then some (.integer n, rest) else none

/-- A whole number behind the sign of its radix. -/
def radixed (radix : Nat) (cs : List Char) : Option (Datum × List Char) := do
  let isDigit (c : Char) : Bool := match hexDigit? c with
    | some n => n < radix
    | none => false
  let (ds, rest) ← digits? isDigit cs
  inRange (value radix ds) rest

/-- The digits before a fraction or exponent: a zero alone or none in front. -/
def wholeDigits : Reader (List Char)
  | '0' :: cs => some (['0'], cs)
  | cs => digits? isDigit cs

/-- A fraction, if there is one. -/
def fraction? (cs : List Char) : Option (List Char × List Char) :=
  match cs with
  | '.' :: cs => digits? isDigit cs
  | cs => some ([], cs)

/-- A sign, if there is one: whether it is a minus. -/
def sign : List Char → Bool × List Char
  | '-' :: cs => (true, cs)
  | '+' :: cs => (false, cs)
  | cs => (false, cs)

/-- An exponent, if there is one. -/
def exponent? (cs : List Char) : Option (Option Int × List Char) :=
  match cs with
  | e :: rest =>
    if e == 'e' || e == 'E' then do
      let (negative, rest) := sign rest
      let (ds, rest) ← digits? isDigit rest
      let n : Int := value 10 ds
      return (some (if negative then -n else n), rest)
    else some (none, cs)
  | [] => some (none, [])

/-- A number in decimal behind its sign. -/
def decimal (negative : Bool) (cs : List Char) : Option (Datum × List Char) := do
  let (whole, rest) ← wholeDigits cs
  let (fraction, rest) ← fraction? rest
  let (exponent, rest) ← exponent? rest
  if fraction.isEmpty && exponent.isNone then
    let n : Int := value 10 whole
    inRange (if negative then -n else n) rest
  else
    let x := Binary.ofDecimal negative (value 10 (whole ++ fraction))
      (exponent.getD 0 - fraction.length)
    if x == .infinite false then none else some (.float x, rest)

/-- A number that does not begin like a date or a time. -/
def number (cs : List Char) : Option (Datum × List Char) :=
  match cs with
  | '0' :: 'x' :: cs => radixed 16 cs
  | '0' :: 'o' :: cs => radixed 8 cs
  | '0' :: 'b' :: cs => radixed 2 cs
  | cs =>
    let (negative, rest) := sign cs
    match rest with
    | 'i' :: 'n' :: 'f' :: rest => some (.float (.infinite negative), rest)
    | 'n' :: 'a' :: 'n' :: rest => some (.float .notANumber, rest)
    | rest => decimal negative rest

/-! ## Dates and times -/

/-- `n` digits and their value. -/
def fixedDigits (n : Nat) (cs : List Char) : Option (Nat × List Char) :=
  let ds := cs.take n
  if ds.length = n ∧ ds.all isDigit then some (value 10 ds, cs.drop n) else none

/-- Two digits of a value in a range. -/
def pair (low high : Nat) (cs : List Char) : Option (Nat × List Char) := do
  let (n, rest) ← fixedDigits 2 cs
  if low ≤ n ∧ n ≤ high then some (n, rest) else none

/-- What is left behind a character. -/
def expect (c : Char) : List Char → Option (List Char)
  | d :: cs => if d = c then some cs else none
  | [] => none

/-- How many days a month has. -/
def daysIn (year month : Nat) : Nat :=
  if month = 2 then
    if year % 4 = 0 ∧ (year % 100 ≠ 0 ∨ year % 400 = 0) then 29 else 28
  else if month = 4 ∨ month = 6 ∨ month = 9 ∨ month = 11 then 30
  else 31

/-- A date: what is left behind it. -/
def date? (cs : List Char) : Option (List Char) := do
  let (year, rest) ← fixedDigits 4 cs
  let rest ← expect '-' rest
  let (month, rest) ← pair 1 12 rest
  let rest ← expect '-' rest
  let (_, rest) ← pair 1 (daysIn year month) rest
  return rest

/-- A time of day: what is left behind it. -/
def time? (cs : List Char) : Option (List Char) := do
  let (_, rest) ← pair 0 23 cs
  let rest ← expect ':' rest
  let (_, rest) ← pair 0 59 rest
  let rest ← expect ':' rest
  let (_, rest) ← pair 0 60 rest
  match rest with
  | '.' :: d :: rest => if isDigit d then some (rest.dropWhile isDigit) else none
  | rest => some rest

/-- An offset from universal time, if there is one. -/
def offset? (cs : List Char) : Option (List Char) :=
  match cs with
  | 'Z' :: rest | 'z' :: rest => some rest
  | '+' :: rest | '-' :: rest => do
    let (_, rest) ← pair 0 23 rest
    let rest ← expect ':' rest
    let (_, rest) ← pair 0 59 rest
    return rest
  | cs => some cs

/-- Whether a time of day follows a date. A blank alone is none. -/
def timeFollows : List Char → Bool
  | 'T' :: _ | 't' :: _ => true
  | ' ' :: d :: _ => isDigit d
  | _ => false

/-- A date, a time, or both. -/
def moment (cs : List Char) : Option (Datum × List Char) :=
  match cs with
  | _ :: _ :: ':' :: _ => (time? cs).map (.moment, ·)
  | cs => do
    let rest ← date? cs
    if timeFollows rest then
      let rest ← time? (rest.drop 1)
      let rest ← offset? rest
      return (.moment, rest)
    else return (.moment, rest)

/-- Whether a date or a time begins here. -/
def momentBegins : List Char → Bool
  | a :: b :: ':' :: _ => isDigit a && isDigit b
  | a :: b :: c :: d :: '-' :: _ => isDigit a && isDigit b && isDigit c && isDigit d
  | _ => false

/-- A number, a date or a time. -/
def scalar (cs : List Char) : Option (Datum × List Char) :=
  if momentBegins cs then moment cs else number cs

end Readiness.Toml
