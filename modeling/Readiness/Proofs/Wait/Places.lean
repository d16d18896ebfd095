import Mathlib.Data.List.NodupEquivFin
import Readiness.Proofs.Wait.LogMatch

/-!
# Where the messages of a sequence are found

Messages are found in order if there are lines for them, each behind the one before it, that contain
them (`LogSequence.FoundInOrder`). These places are what `Embeds` stands for
(`LogSequence.foundInOrder_iff`), so a sequence has seen as many of its messages as there are places
for at all (`LogSequence.seen_hearAll`): to take each on the first line that has it loses nothing.
-/

namespace Readiness.LogSequence

/-- There are places for the first `k` messages, one line behind the other. -/
def FoundInOrder (texts lines : List String) (k : Nat) : Prop :=
  ∃ (hk : k ≤ texts.length) (place : Fin k → Fin lines.length), StrictMono place ∧
    ∀ j, texts[j.castLE hk].toList <:+: lines[place j].toList

/-- To embed is to have places, one behind the other. -/
theorem embeds_iff_exists_strictMono (texts lines : List String) :
    Embeds texts lines ↔ ∃ place : Fin texts.length → Fin lines.length, StrictMono place ∧
      ∀ j, texts[j].toList <:+: lines[place j].toList := by
  refine ⟨fun h => ?_, fun ⟨place, hp, hm⟩ => ?_⟩
  · obtain ⟨found, hf, hs⟩ := List.sublistForall₂_iff.1 h
    obtain ⟨hlen, hget⟩ := List.forall₂_iff_get.1 hf
    obtain ⟨at_, hat⟩ := List.sublist_iff_exists_fin_orderEmbedding_get_eq.1 hs
    refine ⟨fun j => at_ (j.cast hlen), at_.strictMono.comp (Fin.cast_strictMono hlen), fun j => ?_⟩
    have hj := hget j j.isLt (hlen ▸ j.isLt)
    rw [hat] at hj
    exact (mentions_iff _ _).1 hj
  · refine List.sublistForall₂_iff.2 ⟨List.ofFn fun j => lines[place j], ?_, ?_⟩
    · refine List.forall₂_iff_get.2 ⟨by simp, fun i hi _ => ?_⟩
      simpa [mentions_iff] using hm ⟨i, hi⟩
    · refine List.sublist_iff_exists_fin_orderEmbedding_get_eq.2 ⟨OrderEmbedding.ofStrictMono
        (fun j => place (j.cast (List.length_ofFn))) (hp.comp (Fin.cast_strictMono _)), fun j => ?_⟩
      exact List.get_ofFn _ j

/-- To be found in order is to be so many texts that embed. -/
theorem foundInOrder_iff {texts lines : List String} {k : Nat} :
    FoundInOrder texts lines k ↔ k ≤ texts.length ∧ Embeds (texts.take k) lines := by
  rw [embeds_iff_exists_strictMono]
  refine ⟨fun ⟨hk, place, hp, hm⟩ => ⟨hk, ?_⟩, fun ⟨hk, place, hp, hm⟩ => ⟨hk, ?_⟩⟩
  · have hlen : (texts.take k).length = k := List.length_take_of_le hk
    refine ⟨fun j => place (j.cast hlen), hp.comp (Fin.cast_strictMono hlen), fun j => ?_⟩
    simpa using hm (j.cast hlen)
  · have hlen : (texts.take k).length = k := List.length_take_of_le hk
    refine ⟨fun j => place (j.cast hlen.symm), hp.comp (Fin.cast_strictMono _), fun j => ?_⟩
    simpa using hm (j.cast hlen.symm)

/-- A line moves a sequence on by one message at most. -/
theorem seen_hear_le (q : LogSequence) (line : String) : (q.hear line).seen ≤ q.seen + 1 := by
  unfold hear
  split
  · split
    · exact Nat.le_refl _
    · exact Nat.le_succ _
  · exact Nat.le_succ _

/-- Lines can be heard in parts. -/
theorem hearAll_append (q : LogSequence) (lines more : List String) :
    q.hearAll (lines ++ more) = (q.hearAll lines).hearAll more := List.foldl_append

/-- What was seen stays seen. -/
theorem seen_le_seen_hearAll (q : LogSequence) (lines : List String) :
    q.seen ≤ (q.hearAll lines).seen := by
  rw [hearAll_eq]
  exact Nat.le_add_right _ _

/-- A fresh sequence that has heard lines:

* it has seen the greatest number of its messages for which there are places in the lines;
* it is ready if and only if there are places for all of them;
* one line more moves it on by one message at most;
* more lines never take it back, and it stays ready. -/
theorem seen_hearAll (texts lines : List String) :
    let q := hearAll { texts } lines
    IsGreatest { k | FoundInOrder texts lines k } q.seen ∧
    (q.ready = true ↔ FoundInOrder texts lines texts.length) ∧
    (∀ line, (hearAll { texts } (lines ++ [line])).seen ≤ q.seen + 1) ∧
    ∀ more, q.seen ≤ (hearAll { texts } (lines ++ more)).seen ∧
      (q.ready = true → (hearAll { texts } (lines ++ more)).ready = true) := by
  intro q
  have hready : q.ready = true ↔ FoundInOrder texts lines texts.length := by
    rw [foundInOrder_iff, List.take_length]
    exact (ready_hearAll_iff texts lines).trans ⟨fun h => ⟨Nat.le_refl _, h⟩, And.right⟩
  refine ⟨?_, hready, fun line => ?_, fun more => ⟨?_, fun h => ?_⟩⟩
  · simp only [foundInOrder_iff]
    exact isGreatest_seen texts lines
  · rw [hearAll_append]
    exact seen_hear_le q line
  · rw [hearAll_append]
    exact seen_le_seen_hearAll q more
  · -- Places in the lines are places in more lines.
    rw [hearAll_append]
    have h := LogWatch.ready_hearAll (w := .sequence q) h more
    rwa [LogWatch.hearAll_sequence] at h

-- A line that mentions two messages is taken for one, and any line is for an empty message.
example : (hearAll { texts := ["a", "", "a"] } ["a a", "b", "c", "a"]).seen = 3 := by decide

end Readiness.LogSequence
