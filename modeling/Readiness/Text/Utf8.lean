/-!
# Text as bytes

Container output is bytes; lines, messages and prefixes are text. `encode` writes a text in UTF-8.
`decode` reads any bytes as text: what is not UTF-8 is shown as U+FFFD, one for each maximal piece
that begins a character but does not complete one, and one for each byte that cannot begin any.

The decoder is a machine that takes a byte at a time. Between two characters it holds nothing;
inside one it holds a `Partial`, the bits gathered so far and the bytes that may follow. So decoding
two pieces one after the other is decoding their concatenation whenever the machine holds nothing
at the cut (`decodeFrom_append`), as it does behind every byte below 0x80 (`step_ascii`).
-/

namespace Readiness

/-- A run of container output. -/
abbrev Bytes := List UInt8

namespace Utf8

/-- A character that has begun and is not complete. -/
structure Partial where
  /-- The bits gathered so far. -/
  code : Nat
  /-- How many more bytes it takes, at least one. -/
  owed : Nat
  /-- The least byte that may come next. -/
  low : UInt8
  /-- The greatest byte that may come next. -/
  high : UInt8
  deriving DecidableEq, Repr

/-- Shown for a piece that is not UTF-8. -/
def replacement : Char := '\uFFFD'

/-- What a byte between two characters does: it is one, begins one, or is shown as a replacement.
    The ranges exclude overlong forms, surrogates and what lies above U+10FFFF. -/
def first (b : UInt8) : List Char × Option Partial :=
  if b < 0x80 then ([Char.ofNat b.toNat], none)
  else if 0xC2 ≤ b ∧ b ≤ 0xDF then ([], some ⟨b.toNat - 0xC0, 1, 0x80, 0xBF⟩)
  else if b = 0xE0 then ([], some ⟨0, 2, 0xA0, 0xBF⟩)
  else if b = 0xED then ([], some ⟨0xD, 2, 0x80, 0x9F⟩)
  else if 0xE1 ≤ b ∧ b ≤ 0xEF then ([], some ⟨b.toNat - 0xE0, 2, 0x80, 0xBF⟩)
  else if b = 0xF0 then ([], some ⟨0, 3, 0x90, 0xBF⟩)
  else if b = 0xF4 then ([], some ⟨4, 3, 0x80, 0x8F⟩)
  else if 0xF1 ≤ b ∧ b ≤ 0xF3 then ([], some ⟨b.toNat - 0xF0, 3, 0x80, 0xBF⟩)
  else ([replacement], none)

/-- One byte: the characters it completes or gives up, and what the machine then holds. A byte that
    cannot go on with the character begun ends it as a replacement and is then read afresh. -/
def step : Option Partial → UInt8 → List Char × Option Partial
  | none, b => first b
  | some p, b =>
    if p.low ≤ b ∧ b ≤ p.high then
      let code := p.code * 64 + (b.toNat - 0x80)
      if p.owed ≤ 1 then ([Char.ofNat code], none)
      else ([], some ⟨code, p.owed - 1, 0x80, 0xBF⟩)
    else (replacement :: (first b).1, (first b).2)

/-- What is shown when the bytes end: a character begun and not completed is a replacement. -/
def finish : Option Partial → List Char
  | none => []
  | some _ => [replacement]

/-- The characters of the bytes, for a machine that already holds `p`. -/
def decodeFrom (p : Option Partial) : Bytes → List Char
  | [] => finish p
  | b :: bs =>
    let (cs, q) := step p b
    cs ++ decodeFrom q bs

/-- The bytes read as text. -/
def decode (bs : Bytes) : String := String.ofList (decodeFrom none bs)

/-- A text in UTF-8. -/
def encode (s : String) : Bytes := s.toList.flatMap String.utf8EncodeChar

/-- What the machine holds behind some bytes. -/
def held (p : Option Partial) : Bytes → Option Partial
  | [] => p
  | b :: bs => held (step p b).2 bs

/-- The characters that come out while the bytes are read, without what the end would add. -/
def emitted (p : Option Partial) : Bytes → List Char
  | [] => []
  | b :: bs => (step p b).1 ++ emitted (step p b).2 bs

theorem decodeFrom_cons (p : Option Partial) (b : UInt8) (bs : Bytes) :
    decodeFrom p (b :: bs) = (step p b).1 ++ decodeFrom (step p b).2 bs := rfl

/-- Decoding is reading the first piece and going on with the second from what is then held. -/
theorem decodeFrom_append (p : Option Partial) (as bs : Bytes) :
    decodeFrom p (as ++ bs) = emitted p as ++ decodeFrom (held p as) bs := by
  induction as generalizing p with
  | nil => rfl
  | cons a as ih => simp [decodeFrom_cons, emitted, held, ih]

/-- What is decoded is what was emitted, and what is held at the end. -/
theorem decodeFrom_eq (p : Option Partial) (bs : Bytes) :
    decodeFrom p bs = emitted p bs ++ finish (held p bs) := by
  simpa [decodeFrom] using decodeFrom_append p bs []

/-- A byte below 0x80 is a character of its own: behind it nothing is held. -/
theorem step_ascii {p : Option Partial} {b : UInt8} (hb : b < 0x80)
    (hp : ∀ q, p = some q → 0x80 ≤ q.low) : step p b = (finish p ++ [Char.ofNat b.toNat], none) := by
  cases p with
  | none => simp [step, first, hb, finish]
  | some q =>
    have hq := hp q rfl
    have : ¬(q.low ≤ b ∧ b ≤ q.high) := fun h =>
      absurd (UInt8.lt_of_lt_of_le hb (UInt8.le_trans hq h.1)) (UInt8.lt_irrefl b)
    simp [step, this, first, hb, finish]

end Utf8

end Readiness
