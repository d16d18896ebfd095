import Mathlib.Data.List.TakeWhile
import Readiness.Text.Blank

/-!
# Blanks around a text

A text is what trimming leaves of it, with blanks around it (`exists_trimChars`). More blanks around it
do not matter (`trimChars_pad`), and a text that has other characters at both ends is left as it is
(`trimChars_of_ends`). Nothing is left of blanks alone (`trimChars_eq_nil_iff`).

A piece of a text in which all characters are of a kind is found where a character of another kind
stands behind it, or none (`takeWhile_piece`, `dropWhile_piece`).
-/

namespace Readiness

/-- Blanks and nothing else. -/
abbrev IsBlanks (cs : List Char) : Prop := ∀ c ∈ cs, isBlank c = true

variable {before cs behind : List Char}

theorem trimChars_append_left (hb : IsBlanks before) :
    trimChars (before ++ cs) = trimChars cs := by
  rw [trimChars, List.dropWhile_append_of_pos hb, trimChars]

theorem trimChars_append_right (hb : IsBlanks behind) :
    trimChars (cs ++ behind) = trimChars cs := by
  have hr : IsBlanks behind.reverse := fun c hc => hb c (List.mem_reverse.1 hc)
  have hn : behind.dropWhile isBlank = [] := List.dropWhile_eq_nil_iff.2 hb
  rw [trimChars, List.dropWhile_append, trimChars]
  split
  · rename_i h
    rw [hn, List.isEmpty_iff.1 h]
  · rw [List.reverse_append, List.dropWhile_append_of_pos hr]

/-- Blanks around a text are trimmed. -/
theorem trimChars_pad (hb : IsBlanks before) (hc : IsBlanks behind) :
    trimChars (before ++ cs ++ behind) = trimChars cs := by
  rw [trimChars_append_right hc, trimChars_append_left hb]

/-- A text is what trimming leaves of it, with blanks around it. -/
theorem exists_trimChars (cs : List Char) :
    ∃ before behind, IsBlanks before ∧ IsBlanks behind ∧ cs = before ++ trimChars cs ++ behind := by
  refine ⟨cs.takeWhile isBlank, ((cs.dropWhile isBlank).reverse.takeWhile isBlank).reverse,
    fun _ => List.mem_takeWhile_imp, fun _ h => List.mem_takeWhile_imp (List.mem_reverse.1 h), ?_⟩
  rw [trimChars, List.append_assoc, ← List.reverse_append, List.takeWhile_append_dropWhile,
    List.reverse_reverse, List.takeWhile_append_dropWhile]

/-- Trimming leaves nothing just of blanks. -/
theorem trimChars_eq_nil_iff : trimChars cs = [] ↔ IsBlanks cs := by
  constructor
  · intro h
    obtain ⟨before, behind, hb, hc, he⟩ := exists_trimChars cs
    rw [h, List.append_nil] at he
    rw [he]
    exact List.forall_mem_append.2 ⟨hb, hc⟩
  · intro h
    rw [← List.append_nil cs, trimChars_append_left h]
    rfl

theorem dropWhile_of_head (h : ∀ c ∈ cs.head?, isBlank c = false) : cs.dropWhile isBlank = cs := by
  cases cs with
  | nil => rfl
  | cons c cs => rw [List.dropWhile_cons_of_neg (by simp [h c rfl])]

/-- A text whose ends are no blanks is trimmed already. -/
theorem trimChars_of_ends (hh : ∀ c ∈ cs.head?, isBlank c = false)
    (hl : ∀ c ∈ cs.getLast?, isBlank c = false) : trimChars cs = cs := by
  rw [trimChars, dropWhile_of_head hh, dropWhile_of_head (by rwa [List.head?_reverse]),
    List.reverse_reverse]

theorem trimChars_eq_self (h : ∀ c ∈ cs, isBlank c = false) : trimChars cs = cs :=
  trimChars_of_ends (fun c hc => h c (List.mem_of_head? hc))
    fun c hc => h c (List.mem_of_getLast? hc)

section Pieces

variable {p : Char → Bool} {piece rest : List Char}

/-- What is behind a piece does not begin with a character of its kind. -/
abbrev Ends (p : Char → Bool) (rest : List Char) : Prop := ∀ c ∈ rest.head?, p c = false

theorem ends_append (hp : ∀ c ∈ piece, p c = false) (hr : Ends p rest) :
    Ends p (piece ++ rest) := by
  cases piece with
  | nil => exact hr
  | cons c piece =>
    rintro _ ⟨⟩
    exact hp c List.mem_cons_self

/-- The piece in front of the end is what is taken. -/
theorem takeWhile_piece (hp : ∀ c ∈ piece, p c = true) (hr : Ends p rest) :
    (piece ++ rest).takeWhile p = piece := by
  rw [List.takeWhile_append_of_pos hp]
  cases rest with
  | nil => rw [List.takeWhile_nil, List.append_nil]
  | cons c rest => rw [List.takeWhile_cons_of_neg (by simp [hr c rfl]), List.append_nil]

theorem dropWhile_piece (hp : ∀ c ∈ piece, p c = true) (hr : Ends p rest) :
    (piece ++ rest).dropWhile p = rest := by
  rw [List.dropWhile_append_of_pos hp]
  cases rest with
  | nil => rfl
  | cons c rest => rw [List.dropWhile_cons_of_neg (by simp [hr c rfl])]

/-- Whatever is dropped is a piece in front of the rest. -/
theorem exists_piece (p : Char → Bool) (cs : List Char) :
    ∃ piece, (∀ c ∈ piece, p c = true) ∧ cs = piece ++ cs.dropWhile p :=
  ⟨cs.takeWhile p, fun _ => List.mem_takeWhile_imp, List.takeWhile_append_dropWhile.symm⟩

end Pieces

end Readiness
