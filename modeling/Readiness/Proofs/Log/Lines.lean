import Readiness.Log.Lines

/-!
# Lines of bytes that come in pieces

The lines of a log that is not over are those that are complete (`Lines.complete`); what follows the
last of them is unfinished (`Lines.unfinished`) and becomes a line of its own only when the log is
over (`ofBytes_eq`). More bytes leave the complete lines as they are and go on with what was
unfinished (`complete_append`, `unfinished_append`). So it does not matter where the bytes are cut.
-/

namespace Readiness.Lines

/-- The lines of a log that may go on: those that are complete. -/
def complete (bs : Bytes) : List String := (split bs).1.map fun line => Utf8.decode (chomp line)

/-- What follows the last complete line. -/
def unfinished (bs : Bytes) : Bytes := (split bs).2

/-- The lines of a log, over or not. -/
def sofar (ended : Bool) (bs : Bytes) : List String := if ended then ofBytes bs else complete bs

/-- The lines of bytes are the complete ones, and the unfinished one if there is one. -/
theorem ofBytes_eq (bs : Bytes) :
    ofBytes bs = complete bs ++ (ofRest (unfinished bs)).map Utf8.decode := by
  simp [ofBytes, complete, unfinished]

theorem ofBytes_of_unfinished_ne_nil {bs : Bytes} (h : unfinished bs ≠ []) :
    ofBytes bs = complete bs ++ [Utf8.decode (unfinished bs)] := by
  simp [ofBytes_eq, ofRest, h]

theorem eq_of_mem_ofRest {piece rest : Bytes} (h : piece ∈ ofRest rest) : piece = rest := by
  unfold ofRest at h
  split at h
  · nomatch h
  · exact List.mem_singleton.1 h

/-- Every byte of a log is on some line. -/
theorem ofBytes_eq_nil_iff {bs : Bytes} : ofBytes bs = [] ↔ bs = [] := by
  refine ⟨fun h => ?_, fun h => by rw [h]; rfl⟩
  cases bs with
  | nil => rfl
  | cons b bs =>
    exfalso
    by_cases hb : b = lf
    · simp [ofBytes, split, hb] at h
    · rcases hs : split bs with ⟨_ | ⟨line, lines⟩, rest⟩ <;>
        simp [ofBytes, split, hb, hs, ofRest] at h

/-- Whether a log is over or not, its complete lines come first. -/
theorem complete_prefix_sofar (ended : Bool) (bs : Bytes) : complete bs <+: sofar ended bs := by
  cases ended with
  | false => exact List.prefix_rfl
  | true => exact ⟨_, (ofBytes_eq bs).symm⟩

/-- The lines so far are the first of all lines. -/
theorem sofar_prefix_ofBytes (ended : Bool) (bs : Bytes) : sofar ended bs <+: ofBytes bs := by
  cases ended with
  | false => exact ⟨_, (ofBytes_eq bs).symm⟩
  | true => exact List.prefix_rfl

/-- Splitting two pieces is splitting the first and going on with its rest. -/
theorem split_append (as bs : Bytes) :
    split (as ++ bs) =
      ((split as).1 ++ (split ((split as).2 ++ bs)).1, (split ((split as).2 ++ bs)).2) := by
  induction as with
  | nil => rfl
  | cons a as ih =>
    by_cases ha : a = lf
    · simp [split, ha, ih]
    · rcases hs : split as with ⟨_ | ⟨line, lines⟩, rest⟩
      · -- No line ends in the first piece: its rest is the whole of it.
        rw [hs] at ih
        simp only [List.cons_append, split, ha, if_false, hs, ih, List.nil_append]
      · rw [hs] at ih
        simp only [List.cons_append, split, ha, if_false, hs, ih]

/-- The complete lines of two pieces are those of the first, and those of what it leaves unfinished
    with the second behind it. -/
theorem complete_append (as bs : Bytes) :
    complete (as ++ bs) = complete as ++ complete (unfinished as ++ bs) := by
  simp [complete, unfinished, split_append as bs]

/-- What two pieces leave unfinished is what the second does behind what the first did. -/
theorem unfinished_append (as bs : Bytes) :
    unfinished (as ++ bs) = unfinished (unfinished as ++ bs) := by
  simp [unfinished, split_append as bs]

/-- A line that can be cut off is the first complete one. -/
theorem complete_of_cut? {bs line rest : Bytes} (h : cut? bs = some (line, rest)) :
    complete bs = Utf8.decode (chomp line) :: complete rest := by
  simp [complete, split_of_cut? h]

theorem unfinished_of_cut? {bs line rest : Bytes} (h : cut? bs = some (line, rest)) :
    unfinished bs = unfinished rest := by
  simp [unfinished, split_of_cut? h]

theorem complete_of_cut?_eq_none {bs : Bytes} (h : cut? bs = none) : complete bs = [] := by
  simp [complete, split_of_cut?_eq_none h]

theorem unfinished_of_cut?_eq_none {bs : Bytes} (h : cut? bs = none) : unfinished bs = bs := by
  simp [unfinished, split_of_cut?_eq_none h]

/-- A line that can be taken off a piece can be taken off whatever it begins. -/
theorem cut?_append {bs line rest : Bytes} (h : cut? bs = some (line, rest)) (cs : Bytes) :
    cut? (bs ++ cs) = some (line, rest ++ cs) := by
  obtain ⟨rfl, hl⟩ := eq_append_of_cut? h
  rw [List.append_assoc, List.cons_append, cut?_append_lf hl]

end Readiness.Lines
