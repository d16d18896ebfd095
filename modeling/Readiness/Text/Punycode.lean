/-!
# Punycode

A label with characters beyond ASCII is written in ASCII: its ASCII characters, a hyphen if there
are any, and then the other characters in ascending order as differences. A difference is a number
in base 36 of variable length, whose digits have thresholds that adapt to what was written so far.
-/

namespace Readiness.Punycode

def base : Nat := 36

/-- The digits: letters, then decimal digits. -/
def digit (d : Nat) : Char :=
  if d < 26 then Char.ofNat ('a'.toNat + d) else Char.ofNat ('0'.toNat + (d - 26))

def digitValue? (c : Char) : Option Nat :=
  if 'a' ≤ c ∧ c ≤ 'z' then some (c.toNat - 'a'.toNat)
  else if 'A' ≤ c ∧ c ≤ 'Z' then some (c.toNat - 'A'.toNat)
  else if '0' ≤ c ∧ c ≤ '9' then some (c.toNat - '0'.toNat + 26)
  else none

/-- The least value at which the digit with weight index `k` does not end a number. -/
def threshold (bias k : Nat) : Nat :=
  if k ≤ bias then 1 else if bias + 26 ≤ k then 26 else k - bias

/-- A threshold is at least 1 and at most 26. -/
theorem threshold_bounds (bias k : Nat) : 1 ≤ threshold bias k ∧ threshold bias k ≤ 26 := by
  unfold threshold
  split
  · omega
  · split <;> omega

/-- Divides a difference down to the range of the adapted bias. -/
def shrink (delta k : Nat) : Nat :=
  if 455 < delta then shrink (delta / 35) (k + base) else k + base * delta / (delta + 38)
termination_by delta
decreasing_by exact Nat.div_lt_self (by omega) (by omega)

/-- The bias behind a difference, when `count` characters have been written. -/
def adapt (delta count : Nat) (isFirst : Bool) : Nat :=
  let delta := if isFirst then delta / 700 else delta / 2
  shrink (delta + delta / count) 0

/-- The digits of a difference. -/
def digits (bias k delta : Nat) : List Char :=
  let t := threshold bias k
  if delta < t then [digit delta]
  else digit (t + (delta - t) % (base - t)) :: digits bias (k + base) ((delta - t) / (base - t))
termination_by delta
decreasing_by
  have := threshold_bounds bias k
  exact Nat.lt_of_le_of_lt (Nat.div_le_self _ _) (by omega)

structure Writer where
  out : List Char := []
  delta : Nat := 0
  bias : Nat := 72
  /-- How many characters of the label are written. -/
  written : Nat

/-- One character of the label in the pass that writes the character `m`. -/
def pass (basics m : Nat) (w : Writer) (c : Char) : Writer :=
  if c.toNat < m then { w with delta := w.delta + 1 }
  else if c.toNat = m then
    { out := w.out ++ digits w.bias base w.delta
      delta := 0
      bias := adapt w.delta (w.written + 1) (w.written == basics)
      written := w.written + 1 }
  else w

/-- The passes for some characters in ascending order, when all below `n` are written. -/
def passes (label : List Char) (basics : Nat) : Nat → Writer → List Nat → Writer
  | _, w, [] => w
  | n, w, m :: ms =>
    let w := label.foldl (pass basics m) { w with delta := w.delta + (m - n) * (w.written + 1) }
    passes label basics (m + 1) { w with delta := w.delta + 1 } ms

/-- A label in ASCII. -/
def encode (label : List Char) : List Char :=
  let basic := label.filter (·.toNat < 0x80)
  let others := (label.map Char.toNat).filter (0x80 ≤ ·)
  let ascending := (others.mergeSort (· ≤ ·)).eraseDups
  let w := passes label basic.length 0x80 { written := basic.length } ascending
  basic ++ (if basic.isEmpty then [] else ['-']) ++ w.out

/-- A difference read from its digits: its value and what follows. -/
def difference? (bias : Nat) : Nat → Nat → Nat → List Char → Option (Nat × List Char)
  | _, _, _, [] => none
  | k, weight, value, c :: cs =>
    match digitValue? c with
    | none => none
    | some d =>
      let value := value + d * weight
      let t := threshold bias k
      if d < t then some (value, cs)
      else difference? bias (k + base) (weight * (base - t)) value cs

/-- A difference is written with one character at least. -/
theorem length_of_difference? {bias k weight value n : Nat} {cs rest : List Char}
    (h : difference? bias k weight value cs = some (n, rest)) : rest.length < cs.length := by
  induction cs generalizing k weight value with
  | nil => simp [difference?] at h
  | cons c cs ih =>
    unfold difference? at h
    split at h
    · cases h
    · dsimp only at h
      split at h
      · cases h; simp
      · have := ih h
        simp; omega

/-- The label read from what is already known of it and the differences that follow: `n` and `i` are
    the character and the place that the last difference led to. -/
def insertAll? (label : List Char) (n i bias : Nat) (cs : List Char) : Option (List Char) :=
  if cs.isEmpty then some label
  else match _h : difference? bias base 1 0 cs with
    | none => none
    | some (delta, rest) =>
      let count := label.length + 1
      let n' := n + (i + delta) / count
      let i' := (i + delta) % count
      if (Char.ofNat n').toNat = n' then
        insertAll? (label.take i' ++ [Char.ofNat n'] ++ label.drop i') n' (i' + 1)
          (adapt delta count (i == 0 && n == 0x80)) rest
      else none
termination_by cs.length
decreasing_by exact length_of_difference? _h

/-- The label that an ASCII form stands for. -/
def decode? (cs : List Char) : Option (List Char) :=
  let back := cs.reverse
  let (basic, rest) :=
    if cs.contains '-' then
      ((back.dropWhile (· != '-')).drop 1 |>.reverse, (back.takeWhile (· != '-')).reverse)
    else ([], cs)
  insertAll? basic 0x80 0 72 rest

end Readiness.Punycode
