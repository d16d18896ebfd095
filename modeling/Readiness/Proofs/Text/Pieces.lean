import Mathlib.Data.List.Basic
import Readiness.Proofs.Text.Decoding

/-!
# Decoding piece by piece

Bytes can be decoded as a whole, or in pieces, each on its own. Where a piece ends inside a character
the end is shown as a replacement; whether that is right depends on the next byte. If it cannot go
on with the character, the whole shows the same replacement (`Utf8.decodeFrom_of_not_goesOn`). If it
can, the piece behind begins with a byte that begins no character and is shown as one replacement
more than in the whole (`Utf8.length_decodeFrom_some_le`).

So the text of the pieces is never shorter than that of the whole, and it is the same just if no cut
lies within a character (`Utf8.flatMap_decodeFrom_eq_iff`). This holds of any bytes, ill-formed ones
too.
-/

namespace Readiness.Utf8

/-- Whether a character that has begun goes on with the first of some bytes. -/
def goesOn : Option Partial → Bytes → Bool
  | some p, b :: _ => p.low ≤ b && b ≤ p.high
  | _, _ => false

/-- Whether none of the pieces ends inside a character that goes on behind it. -/
def areWhole : List Bytes → Bool
  | [] => true
  | c :: cs => !goesOn (held none c) cs.flatten && areWhole cs

/-- A byte that only goes on with a character begins none. -/
theorem first_of_tail {b : UInt8} (hl : 0x80 ≤ b) (hh : b ≤ 0xBF) : first b = ([replacement], none) := by
  simp only [UInt8.le_iff_toNat_le, UInt8.reduceToNat] at hl hh
  simp only [first, UInt8.lt_iff_toNat_lt, UInt8.le_iff_toNat_le, ← UInt8.toNat_inj,
    UInt8.reduceToNat]
  repeat rw [if_neg (by omega)]

/-- Where a character does not go on, it is given up, and the bytes are decoded as they would be
    alone. -/
theorem decodeFrom_of_not_goesOn {p : Option Partial} {bs : Bytes} (h : goesOn p bs = false) :
    decodeFrom p bs = finish p ++ decodeFrom none bs := by
  cases p with
  | none => rfl
  | some p =>
    cases bs with
    | nil => rfl
    | cons b bs =>
      have hb : ¬(p.low ≤ b ∧ b ≤ p.high) := by simpa [goesOn] using h
      simp only [decodeFrom_cons, step, if_neg hb]
      rfl

/-- What goes on with a character shows at least one character less than it would alone and behind a
    replacement. -/
theorem length_decodeFrom_some_le {p : Partial} (hp : p.IsProper) (bs : Bytes) :
    (decodeFrom (some p) bs).length + (if goesOn (some p) bs then 1 else 0) ≤
      (decodeFrom none bs).length + 1 := by
  induction bs generalizing p with
  | nil => simp [decodeFrom, finish, goesOn]
  | cons b bs ih =>
    cases hg : goesOn (some p) (b :: bs) with
    | false =>
      rw [decodeFrom_of_not_goesOn hg]
      simp [finish]
    | true =>
      have hb : p.low ≤ b ∧ b ≤ p.high := by simpa [goesOn] using hg
      have hfirst := first_of_tail (UInt8.le_trans hp.1 hb.1) (UInt8.le_trans hb.2 hp.2)
      simp only [decodeFrom_cons, step, if_pos hb, hfirst]
      split
      · simp
      · have := ih (p := ⟨p.code * 64 + (b.toNat - 0x80), p.owed - 1, 0x80, 0xBF⟩)
          ⟨UInt8.le_refl _, UInt8.le_refl _⟩
        simp
        omega

/-- Two pieces decoded one by one. -/
theorem length_decodeFrom_append_le (as bs : Bytes) :
    (decodeFrom none (as ++ bs)).length + (if goesOn (held none as) bs then 1 else 0) ≤
      (decodeFrom none as).length + (decodeFrom none bs).length := by
  rw [decodeFrom_append, decodeFrom_eq none as, List.length_append, List.length_append]
  cases hp : held none as with
  | none => simp [goesOn, finish]
  | some p =>
    have := length_decodeFrom_some_le (isProper_held (p := none) (by simp) as hp) bs
    simp only [finish, List.length_singleton]
    omega

/-- Pieces decoded one by one show no less than the whole. -/
theorem length_decodeFrom_flatten_le (cs : List Bytes) :
    (decodeFrom none cs.flatten).length ≤ (cs.flatMap (decodeFrom none)).length := by
  induction cs with
  | nil => exact Nat.le_refl _
  | cons c cs ih =>
    have := length_decodeFrom_append_le c cs.flatten
    rw [List.flatten_cons, List.flatMap_cons, List.length_append]
    omega

/-- Pieces decoded one by one show what the whole shows just if none of them ends inside a character
    that goes on behind it. -/
theorem flatMap_decodeFrom_eq_iff (cs : List Bytes) :
    cs.flatMap (decodeFrom none) = decodeFrom none cs.flatten ↔ areWhole cs = true := by
  induction cs with
  | nil => simp [areWhole, decodeFrom, finish]
  | cons c cs ih =>
    rw [List.flatMap_cons, List.flatten_cons, areWhole, Bool.and_eq_true, Bool.not_eq_true', ← ih]
    constructor
    · intro he
      have hlen := congrArg List.length he
      have hle := length_decodeFrom_append_le c cs.flatten
      have hle' := length_decodeFrom_flatten_le cs
      rw [List.length_append] at hlen
      -- All that a cut within a character could add would show in the length.
      have hg : goesOn (held none c) cs.flatten = false := by
        refine Bool.eq_false_iff.2 fun hg => ?_
        rw [if_pos hg] at hle
        omega
      refine ⟨hg, ?_⟩
      rw [decodeFrom_append, decodeFrom_of_not_goesOn hg, ← List.append_assoc, ← decodeFrom_eq] at he
      exact List.append_cancel_left he
    · rintro ⟨hg, he⟩
      rw [he, decodeFrom_append, decodeFrom_of_not_goesOn hg, ← List.append_assoc, ← decodeFrom_eq]

end Readiness.Utf8
