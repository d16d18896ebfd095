import Readiness.Text.Utf8

/-!
# Decoding at ASCII bytes

No piece of a character goes on across a byte below 0x80. What the decoder holds can only go on with
a byte that is no such byte (`Utf8.isProper_held`), so an ASCII byte is shown as the character that
it is, and the bytes around it are decoded as they would be alone (`Utf8.decodeFrom_append_ascii`).
This holds of any bytes, ill-formed ones too.
-/

namespace Readiness.Utf8

theorem toList_decode (bs : Bytes) : (decode bs).toList = decodeFrom none bs :=
  String.toList_ofList

/-- A character that has begun can only go on with a byte that begins none. -/
def Partial.IsProper (q : Partial) : Prop := 0x80 ≤ q.low ∧ q.high ≤ 0xBF

/-- A byte that begins a character begins a proper one. -/
theorem isProper_first {b : UInt8} {q : Partial} (h : (first b).2 = some q) : q.IsProper := by
  unfold first at h
  split at h
  · nomatch h
  iterate 7
    split at h
    · exact Option.some.inj h ▸ by dsimp only [Partial.IsProper]; decide
  nomatch h

theorem isProper_step {p : Option Partial} {b : UInt8} {q : Partial} (h : (step p b).2 = some q) :
    q.IsProper := by
  cases p with
  | none => exact isProper_first h
  | some p =>
    unfold step at h
    dsimp only at h
    split at h
    · split at h
      · nomatch h
      · exact Option.some.inj h ▸ ⟨UInt8.le_refl _, UInt8.le_refl _⟩
    · exact isProper_first h

/-- What is held behind bytes is proper, if it was before them. -/
theorem isProper_held {p : Option Partial} (hp : ∀ q, p = some q → q.IsProper) (bs : Bytes)
    {q : Partial} (h : held p bs = some q) : q.IsProper := by
  induction bs generalizing p with
  | nil => exact hp q h
  | cons b bs ih => exact ih (fun _ => isProper_step) h

/-- Bytes around an ASCII byte are decoded as they would be alone. -/
theorem decodeFrom_append_ascii (as bs : Bytes) {b : UInt8} (hb : b < 0x80) :
    decodeFrom none (as ++ b :: bs) =
      decodeFrom none as ++ Char.ofNat b.toNat :: decodeFrom none bs := by
  have hstep := step_ascii hb fun q hq => (isProper_held (p := none) nofun as (q := q) hq).1
  calc decodeFrom none (as ++ b :: bs)
      = emitted none as ++ (finish (held none as) ++ [Char.ofNat b.toNat] ++ decodeFrom none bs) := by
        rw [decodeFrom_append, decodeFrom_cons, hstep]
    _ = decodeFrom none as ++ Char.ofNat b.toNat :: decodeFrom none bs := by
        rw [decodeFrom_eq none as, List.append_assoc, List.append_assoc, List.singleton_append]

end Readiness.Utf8
