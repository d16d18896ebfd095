import Readiness.Text.Utf8

/-!
# Lines

`Lines.ofBytes` says what the lines of a finished log are: the bytes are split at LF, one CR
directly before an LF goes with it, a non-empty rest behind the last LF is a last line and keeps its
CR, and each line is read as text. `cut?` takes the first terminated line off.

`Lines.ofText` splits a text that was written line by line: a line ends at LF or CR LF, and nothing
follows the last end of line if it closes the text.
-/

namespace Readiness

def lf : UInt8 := 0x0A

def cr : UInt8 := 0x0D

namespace Lines

/-- The bytes before the first LF and those behind it. -/
def cut? : Bytes → Option (Bytes × Bytes)
  | [] => none
  | b :: bs =>
    if b = lf then some ([], bs)
    else match cut? bs with
      | none => none
      | some (line, rest) => some (b :: line, rest)

/-- A terminated line less the CR it may end in. -/
def chomp (line : Bytes) : Bytes :=
  match line.getLast? with
  | some b => if b = cr then line.dropLast else line
  | none => line

/-- The terminated lines of the bytes, without their LF, and the rest behind the last of them. -/
def split : Bytes → List Bytes × Bytes
  | [] => ([], [])
  | b :: bs =>
    if b = lf then ([] :: (split bs).1, (split bs).2)
    else match split bs with
      | ([], rest) => ([], b :: rest)
      | (line :: lines, rest) => ((b :: line) :: lines, rest)

/-- The last line of a finished log, if there is a rest behind the terminated ones. -/
def ofRest (rest : Bytes) : List Bytes := if rest.isEmpty then [] else [rest]

/-- The lines of a finished log. -/
def ofBytes (bs : Bytes) : List String :=
  (((split bs).1.map chomp) ++ ofRest (split bs).2).map Utf8.decode

/-- A line that is taken off lies in front of the first LF. -/
theorem eq_append_of_cut? {bs line rest : Bytes} (h : cut? bs = some (line, rest)) :
    bs = line ++ lf :: rest ∧ lf ∉ line := by
  induction bs generalizing line with
  | nil => cases h
  | cons b bs ih =>
    rw [cut?] at h
    split at h
    · next hb =>
      cases h
      exact ⟨by rw [hb]; rfl, List.not_mem_nil⟩
    · next hb =>
      split at h
      · cases h
      · next h' =>
        cases h
        obtain ⟨rfl, hl⟩ := ih h'
        exact ⟨rfl, by simp [hl, Ne.symm hb]⟩

/-- What lies in front of the first LF can be taken off. -/
theorem cut?_append_lf {line : Bytes} (hl : lf ∉ line) (rest : Bytes) :
    cut? (line ++ lf :: rest) = some (line, rest) := by
  induction line with
  | nil => simp [cut?]
  | cons b line ih =>
    obtain ⟨hb, hl⟩ := not_or.1 (mt List.mem_cons.2 hl)
    simp [cut?, Ne.symm hb, ih hl]

/-- Taking the first line off is taking the first of the terminated lines. -/
theorem split_of_cut? {bs line rest : Bytes} (h : cut? bs = some (line, rest)) :
    split bs = (line :: (split rest).1, (split rest).2) := by
  obtain ⟨rfl, hl⟩ := eq_append_of_cut? h
  clear h
  induction line with
  | nil => simp [split]
  | cons b line ih =>
    obtain ⟨hb, hl⟩ := not_or.1 (mt List.mem_cons.2 hl)
    simp [split, Ne.symm hb, ih hl]

/-- Where no line can be taken off, all is rest. -/
theorem split_of_cut?_eq_none {bs : Bytes} (h : cut? bs = none) : split bs = ([], bs) := by
  induction bs with
  | nil => rfl
  | cons b bs ih =>
    unfold cut? at h
    by_cases hb : b = lf
    · simp [hb] at h
    · simp only [hb, if_false] at h
      split at h
      · next h' => simp [split, hb, ih h']
      · cases h

/-- The lines of a text from what is left of it and the line begun, in reverse. -/
def ofChars (line : List Char) : List Char → List (List Char)
  | [] => if line.isEmpty then [] else [line.reverse]
  | '\n' :: cs =>
    (match line with
      | '\r' :: line => line.reverse
      | _ => line.reverse) :: ofChars [] cs
  | c :: cs => ofChars (c :: line) cs

/-- The lines of a text that was written line by line. -/
def ofText (s : String) : List String := (ofChars [] s.toList).map String.ofList

end Lines

end Readiness
