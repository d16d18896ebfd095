/-!
# Internet addresses in URLs

An IPv4 address is written in up to four numbers, each decimal, octal or hexadecimal; the last one
fills the places that are left. An IPv6 address is eight pieces of sixteen bits, where one run of
zeros may be left out and the last two pieces may be an IPv4 address. `text` writes the normal form.
-/

namespace Readiness

/-- The value of a digit in a base up to 16. -/
def baseDigit? (base : Nat) (c : Char) : Option Nat :=
  let value :=
    if '0' ≤ c ∧ c ≤ '9' then c.toNat - '0'.toNat
    else if 'a' ≤ c ∧ c ≤ 'f' then c.toNat - 'a'.toNat + 10
    else if 'A' ≤ c ∧ c ≤ 'F' then c.toNat - 'A'.toNat + 10
    else base
  if value < base then some value else none

/-- The value of digits in a base up to 16, if all of them are digits. -/
def baseNumber? (base : Nat) (cs : List Char) : Option Nat :=
  cs.foldlM (fun n c => (baseDigit? base c).map (n * base + ·)) 0

/-- The pieces of some characters between separators: one more than there are separators. -/
def splitAt (sep : Char) : List Char → List (List Char)
  | [] => [[]]
  | c :: cs =>
    if c = sep then [] :: splitAt sep cs
    else match splitAt sep cs with
      | [] => [[c]]
      | p :: ps => (c :: p) :: ps

namespace Ipv4

/-- A number of an address; empty digits behind `0x` are a zero. -/
def number? : List Char → Option Nat
  | [] => none
  | '0' :: 'x' :: cs | '0' :: 'X' :: cs => baseNumber? 16 cs
  | '0' :: c :: cs => baseNumber? 8 (c :: cs)
  | cs => baseNumber? 10 cs

/-- Whether a host is meant as an address: its last part is a number. -/
def isMeant (cs : List Char) : Bool :=
  let last := match (splitAt '.' cs).reverse with
    | [] => []
    | [[]] => []
    | [] :: p :: _ => p
    | p :: _ => p
  (!last.isEmpty && last.all fun c => '0' ≤ c && c ≤ '9') || (number? last).isSome

/-- The address that some numbers make up, the last one given apart. -/
def assemble? (front : List Nat) (last : Nat) : Option Nat :=
  if last < Nat.pow 256 (4 - front.length) && front.all (· < 256) then
    some (front.foldl (fun a n => a * 256 + n) 0 * Nat.pow 256 (4 - front.length) + last)
  else none

def parse? (cs : List Char) : Option Nat :=
  let parts := match (splitAt '.' cs).reverse with
    | [] :: p :: ps => (p :: ps).reverse
    | ps => ps.reverse
  if 4 < parts.length then none
  else match parts.mapM number? with
    | none => none
    | some ns => match ns.reverse with
      | [] => none
      | last :: front => assemble? front.reverse last

def text (address : Nat) : String :=
  ".".intercalate ([3, 2, 1, 0].map fun k => toString (address / Nat.pow 256 k % 256))

end Ipv4

namespace Ipv6

/-- The pieces before and behind the run of zeros that is left out, where there is one. -/
structure Pieces where
  front : List Nat := []
  back : Option (List Nat) := none

namespace Pieces

def count (p : Pieces) : Nat := p.front.length + (p.back.getD []).length

def push (p : Pieces) (n : Nat) : Pieces :=
  match p.back with
  | none => { p with front := p.front ++ [n] }
  | some back => { p with back := some (back ++ [n]) }

/-- Eight pieces, with zeros where a run of them was left out. A run counts as one piece at least
    when it ends the address or is followed by others, so there is room for it. -/
def fill? (p : Pieces) : Option (List Nat) :=
  match p.back with
  | none => if p.front.length = 8 then some p.front else none
  | some back =>
    if p.count < 8 then some (p.front ++ List.replicate (8 - p.count) 0 ++ back) else none

end Pieces

/-- Up to four hexadecimal digits: their value, how many they are, and what follows. -/
def hexPiece : Nat → Nat → Nat → List Char → Nat × Nat × List Char
  | 0, value, seen, cs => (value, seen, cs)
  | _ + 1, value, seen, [] => (value, seen, [])
  | n + 1, value, seen, c :: cs =>
    match baseDigit? 16 c with
    | some d => hexPiece n (value * 16 + d) (seen + 1) cs
    | none => (value, seen, c :: cs)

/-- A decimal number up to 255 without leading zeros. -/
def octet? (cs : List Char) : Option Nat :=
  match cs with
  | ['0'] => some 0
  | '0' :: _ | [] => none
  | cs => (baseNumber? 10 cs).bind fun n => if n < 256 then some n else none

/-- The two pieces of an IPv4 address at the end. -/
def tail? (cs : List Char) : Option (Nat × Nat) :=
  match (splitAt '.' cs).mapM octet? with
  | some [a, b, c, d] => some (a * 256 + b, c * 256 + d)
  | _ => none

/-- A piece of an address leaves no more characters than it was given. -/
theorem length_hexPiece (n value seen : Nat) (cs : List Char) :
    (hexPiece n value seen cs).2.2.length ≤ cs.length := by
  induction n generalizing value seen cs with
  | zero => simp [hexPiece]
  | succ n ih =>
    cases cs with
    | nil => simp [hexPiece]
    | cons c cs =>
      unfold hexPiece
      split
      · exact Nat.le_trans (ih _ _ _) (by simp)
      · simp

/-- The pieces of an address, behind those already read. -/
def pieces? (p : Pieces) : List Char → Option Pieces
  | [] => some p
  | ':' :: cs =>
    if p.back.isSome || 8 ≤ p.count then none else pieces? { p with back := some [] } cs
  | c :: cs =>
    if 8 ≤ p.count then none
    else match _h : hexPiece 4 0 0 (c :: cs) with
      | (value, seen, []) => if seen = 0 then none else some (p.push value)
      | (value, _, ':' :: rest) => if rest.isEmpty then none else pieces? (p.push value) rest
      | (_, seen, '.' :: _) =>
        if seen = 0 || 6 < p.count then none
        else (tail? (c :: cs)).map fun (a, b) => (p.push a).push b
      | _ => none
termination_by cs => cs.length
decreasing_by
  · simp
  · have := length_hexPiece 4 0 0 (c :: cs)
    rw [_h] at this
    exact this

/-- The eight pieces of an address. -/
def parse? (cs : List Char) : Option (List Nat) :=
  if cs.length < 2 then none
  else
    let start := match cs with
      | ':' :: ':' :: rest => pieces? { back := some [] } rest
      | ':' :: _ => none
      | cs => pieces? {} cs
    start.bind Pieces.fill?

/-- How many zeros the pieces begin with. -/
def zeros (ps : List Nat) : Nat := (ps.takeWhile (· == 0)).length

/-- Where the longest run of at least two zeros begins, the first of them if several are, and its
    length. -/
def longestRun (index : Nat) : List Nat → Option (Nat × Nat)
  | [] => none
  | p :: ps =>
    let here := zeros (p :: ps)
    match longestRun (index + 1) ps with
    | some (i, n) => if 2 ≤ here ∧ n ≤ here then some (index, here) else some (i, n)
    | none => if 2 ≤ here then some (index, here) else none

def hexText (n : Nat) : String := String.ofList (Nat.toDigits 16 n)

def joinPieces (ps : List Nat) : String := ":".intercalate (ps.map hexText)

/-- Lower-case hexadecimal pieces without leading zeros, the longest run of zeros left out. -/
def text (pieces : List Nat) : String :=
  match longestRun 0 pieces with
  | none => joinPieces pieces
  | some (i, n) => joinPieces (pieces.take i) ++ "::" ++ joinPieces (pieces.drop (i + n))

end Ipv6

end Readiness
