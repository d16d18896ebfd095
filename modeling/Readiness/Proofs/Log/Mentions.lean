import Mathlib.Data.List.Basic
import Readiness.Proofs.Log.Lines
import Readiness.Proofs.Text.Decoding
import Readiness.Text.Occurrence

/-!
# Messages in lines and in the whole log

A log can be searched line by line, or as one text. The text of the whole is that of its raw lines,
each with its LF, and of the rest (`Lines.decodeFrom_split`), since decoding can be cut at every LF.

* A line, even without the CR it may have ended in, is a piece of the whole, so a message found in a
  line is found in the whole log (`Lines.mentions_decode_of_mem`).
* A message without LF that is found in the whole lies within one raw line or the rest; without CR
  it lies in the line as it is handed over (`Lines.exists_mem_of_mentions_decode`). Only the empty
  message is found in a log that has no lines.
-/

namespace Readiness

section Pieces

variable {α : Type} {l s t : List α} {a : α}

/-- A beginning without the separator ends in front of it. -/
theorem prefix_append_cons (ha : a ∉ l) (h : l <+: s ++ a :: t) : l <+: s := by
  have h' : s ++ [a] <+: s ++ a :: t := by simp
  rcases List.prefix_or_prefix_of_prefix h h' with hl | hl
  · rcases List.prefix_concat_iff.1 hl with rfl | hl
    · simp at ha
    · exact hl
  · exact absurd (hl.subset (by simp)) ha

/-- A piece without the separator lies on one side of it. -/
theorem infix_append_cons_iff (ha : a ∉ l) : l <:+: s ++ a :: t ↔ l <:+: s ∨ l <:+: t := by
  constructor
  · induction s with
    | nil =>
      intro h
      rcases List.infix_cons_iff.1 h with h | h
      · exact .inl (prefix_append_cons (s := []) ha h).isInfix
      · exact .inr h
    | cons b s ih =>
      intro h
      rcases List.infix_cons_iff.1 h with h | h
      · exact .inl (prefix_append_cons (s := b :: s) ha h).isInfix
      · exact (ih h).imp_left List.infix_cons
  · rintro (h | h)
    · exact h.trans (List.prefix_append _ _).isInfix
    · exact h.trans ((List.suffix_cons a t).trans (List.suffix_append _ _)).isInfix

/-- A piece without the separator lies in one of the parts that end in it, or in the rest. -/
theorem infix_flatMap_append_iff {ls : List (List α)} {rest : List α} (ha : a ∉ l) :
    l <:+: ls.flatMap (· ++ [a]) ++ rest ↔ (∃ x ∈ ls, l <:+: x) ∨ l <:+: rest := by
  induction ls with
  | nil => simp
  | cons x ls ih =>
    rw [List.flatMap_cons, List.append_assoc, List.append_assoc, List.singleton_append,
      infix_append_cons_iff ha, ih]
    simp [or_assoc]

end Pieces

namespace Lines

open Utf8

/-- The raw lines, each with its LF, and the rest are all there is. -/
theorem flatMap_split (bs : Bytes) : (split bs).1.flatMap (· ++ [lf]) ++ (split bs).2 = bs := by
  induction bs with
  | nil => rfl
  | cons b bs ih =>
    by_cases hb : b = lf
    · simpa [split, hb] using ih
    · rcases hs : split bs with ⟨_ | ⟨line, lines⟩, rest⟩ <;> rw [hs] at ih <;>
        simpa [split, hb, hs] using ih

/-- The text of a log is that of its raw lines and of its rest. -/
theorem decodeFrom_split (bs : Bytes) :
    decodeFrom none bs = ((split bs).1.map (decodeFrom none)).flatMap (· ++ ['\n']) ++
      decodeFrom none (split bs).2 := by
  have h : ∀ (ls : List Bytes) (rest : Bytes), decodeFrom none (ls.flatMap (· ++ [lf]) ++ rest) =
      (ls.map (decodeFrom none)).flatMap (· ++ ['\n']) ++ decodeFrom none rest := by
    intro ls rest
    induction ls with
    | nil => rfl
    | cons l ls ih =>
      rw [List.flatMap_cons, List.append_assoc, List.append_assoc, List.singleton_append,
        decodeFrom_append_ascii _ _ (by decide), ih]
      simp [lf]
  conv_lhs => rw [← flatMap_split bs]
  exact h _ _

/-- The text of a raw line is that of the line as it is handed over, or has one CR more. -/
theorem decodeFrom_chomp_or (line : Bytes) :
    decodeFrom none line = decodeFrom none (chomp line) ∨
      decodeFrom none line = decodeFrom none (chomp line) ++ ['\r'] := by
  unfold chomp
  split
  · next b hb =>
    split
    · next hcr =>
      subst hcr
      right
      conv_lhs => rw [← List.dropLast_append_getLast? _ hb]
      exact decodeFrom_append_ascii _ [] (by decide)
    · exact .inl rfl
  · exact .inl rfl

/-- A chomped line reads as the beginning of the line. -/
theorem prefix_decodeFrom_chomp (line : Bytes) :
    decodeFrom none (chomp line) <+: decodeFrom none line := by
  rcases decodeFrom_chomp_or line with h | h
  · exact h ▸ List.prefix_rfl
  · exact h ▸ List.prefix_append _ _

/-- What is found in a line is found in the whole log. -/
theorem mentions_decode_of_mem {bs : Bytes} {line message : String} (hl : line ∈ ofBytes bs)
    (hm : mentions line message = true) : mentions (decode bs) message = true := by
  rw [mentions_iff] at hm ⊢
  obtain ⟨piece, hpiece, rfl⟩ := List.mem_map.1 hl
  refine hm.trans ?_
  rw [toList_decode, toList_decode, decodeFrom_split bs]
  rcases List.mem_append.1 hpiece with hmem | hmem
  · -- A line is what its raw line begins with.
    obtain ⟨raw, hraw, rfl⟩ := List.mem_map.1 hmem
    have hline : decodeFrom none (chomp raw) <:+: decodeFrom none raw ++ ['\n'] :=
      ((prefix_decodeFrom_chomp raw).trans (List.prefix_append _ _)).isInfix
    have hterm : decodeFrom none raw ++ ['\n'] <:+:
        ((split bs).1.map (decodeFrom none)).flatMap (· ++ ['\n']) := by
      rw [List.flatMap_def]
      exact List.infix_of_mem_flatten (List.mem_map_of_mem (List.mem_map_of_mem hraw))
    exact (hline.trans hterm).trans (List.prefix_append _ _).isInfix
  · -- The last line is the rest.
    rw [eq_of_mem_ofRest hmem]
    exact (List.suffix_append _ _).isInfix

/-- A message that is found in the whole log is found in a line, if it is not empty and has neither
    LF nor CR. -/
theorem exists_mem_of_mentions_decode {bs : Bytes} {message : String} (hne : message ≠ "")
    (hlf : '\n' ∉ message.toList) (hcr : '\r' ∉ message.toList)
    (hm : mentions (decode bs) message = true) :
    ∃ line ∈ ofBytes bs, mentions line message = true := by
  rw [mentions_iff, toList_decode, decodeFrom_split, infix_flatMap_append_iff hlf] at hm
  have hmem : ∀ piece ∈ (split bs).1.map chomp ++ ofRest (split bs).2,
      message.toList <:+: decodeFrom none piece →
        ∃ line ∈ ofBytes bs, mentions line message = true := fun piece hp hi =>
    ⟨decode piece, List.mem_map_of_mem hp, by rwa [mentions_iff, toList_decode]⟩
  rcases hm with ⟨text, htext, hin⟩ | hin
  · obtain ⟨raw, hraw, rfl⟩ := List.mem_map.1 htext
    refine hmem (chomp raw) (List.mem_append_left _ (List.mem_map_of_mem hraw)) ?_
    rcases decodeFrom_chomp_or raw with h | h <;> rw [h] at hin
    · exact hin
    · -- Nothing of the message lies in the CR.
      refine ((infix_append_cons_iff (t := []) hcr).1 hin).resolve_right fun h => hne ?_
      exact String.toList_eq_nil_iff.1 (List.infix_nil.1 h)
  · refine hmem _ (List.mem_append_right _ ?_) hin
    cases hr : (split bs).2 with
    | nil =>
      rw [hr] at hin
      exact absurd (String.toList_eq_nil_iff.1 (List.infix_nil.1 hin)) hne
    | cons b rest => simp [ofRest]

end Lines

end Readiness
