import Mathlib.Data.List.Forall2
import Mathlib.Order.Bounds.Basic
import Readiness.Wait.LogMatch

/-!
# What watches make of lines

A message is found if some line mentions it (`LogMessage.found_hearAll`). A sequence takes each of
its messages on the first line that it can. No choice of lines finds more of them: the number of
messages seen is the greatest for which that many can be found on later and later lines
(`LogSequence.isGreatest_seen`), so a sequence is ready exactly if all of its messages can be
(`LogSequence.ready_hearAll_iff`).
-/

namespace Readiness

namespace LogMessage

/-- The message when it has heard lines, one after the other. -/
def hearAll (m : LogMessage) (lines : List String) : LogMessage := lines.foldl hear m

theorem text_hearAll (m : LogMessage) (lines : List String) : (m.hearAll lines).text = m.text := by
  induction lines generalizing m with
  | nil => rfl
  | cons line lines ih => exact ih (m.hear line)

theorem describe_hearAll (m : LogMessage) (lines : List String) :
    (m.hearAll lines).describe = m.describe := by
  rw [describe, text_hearAll]
  rfl

theorem hearAll_fresh (text : String) (lines : List String) :
    hearAll { text } lines = { text, found := (hearAll { text } lines).found } := by
  have ht : (hearAll { text } lines).text = text := text_hearAll _ lines
  generalize hearAll { text } lines = m at ht ⊢
  subst ht
  rfl

/-- A message is found if it was, or if one of the lines mentions it. -/
theorem found_hearAll (m : LogMessage) (lines : List String) :
    (m.hearAll lines).found = true ↔
      m.found = true ∨ ∃ line ∈ lines, mentions line m.text = true := by
  induction lines generalizing m with
  | nil => simp [hearAll]
  | cons line lines ih =>
    have h := ih (m.hear line)
    simpa [hearAll, hear, or_assoc] using h

end LogMessage

namespace LogSequence

/-- Messages can be found on later and later lines. -/
def Embeds (texts lines : List String) : Prop :=
  List.SublistForall₂ (fun text line => mentions line text = true) texts lines

/-- Texts embed without the first as well. -/
theorem Embeds.of_cons {text : String} {texts lines : List String}
    (h : Embeds (text :: texts) lines) : Embeds texts lines := by
  obtain ⟨ls, hf, hs⟩ := List.sublistForall₂_iff.1 h
  cases hf with
  | cons _ hf => exact List.sublistForall₂_iff.2 ⟨_, hf, (List.sublist_cons_self _ _).trans hs⟩

/-- The first message may as well be found on the first line that mentions it. -/
theorem embeds_cons_cons {text line : String} {texts lines : List String} :
    Embeds (text :: texts) (line :: lines) ↔
      if mentions line text = true then Embeds texts lines else Embeds (text :: texts) lines := by
  split
  · next hm =>
    -- Where the first message is found later, the others are found behind that.
    refine ⟨fun h => ?_, fun h => .cons hm h⟩
    cases h with
    | cons _ h => exact h
    | cons_right h => exact Embeds.of_cons h
  · next hm =>
    refine ⟨fun h => ?_, .cons_right⟩
    cases h with
    | cons hm' _ => exact absurd hm' hm
    | cons_right h => exact h

/-- `embeds` decides whether messages can be found. -/
theorem embeds_iff (texts lines : List String) :
    embeds texts lines = true ↔ Embeds texts lines := by
  fun_induction embeds texts lines with
  | case1 => exact ⟨fun _ => .nil, fun _ => rfl⟩
  | case2 => exact ⟨nofun, nofun⟩
  | case3 text texts line lines ih₁ ih₂ =>
    rw [embeds_cons_cons, Bool.or_eq_true, Bool.and_eq_true, ih₁, ih₂]
    split
    · next hm => exact ⟨fun h => h.elim And.right Embeds.of_cons, fun h => .inl ⟨hm, h⟩⟩
    · next hm => exact ⟨fun h => h.resolve_left fun h => hm h.1, .inr⟩

instance (texts lines : List String) : Decidable (Embeds texts lines) :=
  decidable_of_iff _ (embeds_iff texts lines)

/-- How many of the messages are found if each is taken on the first line that mentions it. -/
def reach : List String → List String → Nat
  | [], _ => 0
  | _ :: _, [] => 0
  | text :: texts, line :: lines =>
    if mentions line text then reach texts lines + 1 else reach (text :: texts) lines

theorem reach_le_length (texts lines : List String) : reach texts lines ≤ texts.length := by
  fun_induction reach texts lines with
  | case1 => exact Nat.le_refl _
  | case2 => exact Nat.zero_le _
  | case3 text texts line lines _ ih => exact Nat.succ_le_succ ih
  | case4 text texts line lines _ ih => exact ih

/-- No other choice of lines finds more of the messages. -/
theorem embeds_take_iff (texts lines : List String) {k : Nat} (hk : k ≤ texts.length) :
    Embeds (texts.take k) lines ↔ k ≤ reach texts lines := by
  -- By induction on the search, which takes a line for the first message or passes it over.
  fun_induction reach texts lines generalizing k with
  | case1 lines =>
    obtain rfl : k = 0 := Nat.le_zero.1 hk
    exact ⟨fun _ => Nat.le_refl _, fun _ => .nil⟩
  | case2 text texts =>
    cases k with
    | zero => exact ⟨fun _ => Nat.le_refl _, fun _ => .nil⟩
    | succ k => exact ⟨nofun, nofun⟩
  | case3 text texts line lines hm ih =>
    cases k with
    | zero => exact ⟨fun _ => Nat.zero_le _, fun _ => .nil⟩
    | succ k =>
      rw [List.take_succ_cons, embeds_cons_cons, if_pos hm, ih (Nat.le_of_succ_le_succ hk),
        Nat.succ_le_succ_iff]
  | case4 text texts line lines hm ih =>
    cases k with
    | zero => exact ⟨fun _ => Nat.zero_le _, fun _ => .nil⟩
    | succ k => rw [← ih hk, List.take_succ_cons, embeds_cons_cons, if_neg hm]

/-- The sequence when it has heard lines, one after the other. -/
def hearAll (q : LogSequence) (lines : List String) : LogSequence := lines.foldl hear q

/-- Hearing lines is reaching for the messages that have not been seen. -/
theorem hearAll_eq (q : LogSequence) (lines : List String) :
    q.hearAll lines = { q with seen := q.seen + reach (q.texts.drop q.seen) lines } := by
  induction lines generalizing q with
  | nil => cases hd : q.texts.drop q.seen <;> rfl
  | cons line lines ih =>
    rw [show q.hearAll (line :: lines) = (q.hear line).hearAll lines from rfl, ih]
    by_cases hl : q.seen < q.texts.length
    · rw [hear, List.getElem?_eq_getElem hl, List.drop_eq_getElem_cons hl]
      by_cases hm : mentions line q.texts[q.seen] = true
      · simp only [hm, if_true, reach, LogSequence.mk.injEq, true_and]
        omega
      · simp only [hm, if_false, reach, Bool.false_eq_true, List.drop_eq_getElem_cons hl]
    · -- All messages have been seen.
      have hn : q.texts.length ≤ q.seen := Nat.le_of_not_lt hl
      simp [hear, List.getElem?_eq_none hn, List.drop_eq_nil_of_le hn, reach]

theorem hearAll_fresh (texts lines : List String) :
    hearAll { texts } lines = { texts, seen := (hearAll { texts } lines).seen } := by
  rw [hearAll_eq]

/-- A fresh sequence sees as many of its messages as can be found at all. -/
theorem isGreatest_seen (texts lines : List String) :
    IsGreatest { k | k ≤ texts.length ∧ Embeds (texts.take k) lines }
      (hearAll { texts } lines).seen := by
  have hs : (hearAll { texts } lines).seen = reach texts lines := by simp [hearAll_eq]
  rw [hs]
  have hle := reach_le_length texts lines
  exact ⟨⟨hle, (embeds_take_iff texts lines hle).2 (Nat.le_refl _)⟩,
    fun k hk => (embeds_take_iff texts lines hk.1).1 hk.2⟩

/-- A sequence is ready just if its texts embed into the lines. -/
theorem ready_hearAll_iff (texts lines : List String) :
    (hearAll { texts } lines).ready = true ↔ Embeds texts lines := by
  have h := embeds_take_iff texts lines (Nat.le_refl _)
  have hle := reach_le_length texts lines
  rw [List.take_length] at h
  simp only [ready, hearAll_eq, beq_iff_eq, List.drop_zero, Nat.zero_add, h]
  omega

end LogSequence

namespace LogWatch

/-- The watch when it has heard lines, one after the other. -/
def hearAll (w : LogWatch) (lines : List String) : LogWatch := lines.foldl hear w

theorem hearAll_message (m : LogMessage) (lines : List String) :
    hearAll (.message m) lines = .message (m.hearAll lines) := by
  induction lines generalizing m with
  | nil => rfl
  | cons line lines ih => exact ih (m.hear line)

theorem hearAll_sequence (q : LogSequence) (lines : List String) :
    hearAll (.sequence q) lines = .sequence (q.hearAll lines) := by
  induction lines generalizing q with
  | nil => rfl
  | cons line lines ih => exact ih (q.hear line)

/-- Lines can be heard in parts. -/
theorem hearAll_append (w : LogWatch) (lines more : List String) :
    w.hearAll (lines ++ more) = (w.hearAll lines).hearAll more := List.foldl_append

/-- A watch that is ready stays so. -/
theorem ready_hear {w : LogWatch} (h : w.ready = true) (line : String) :
    (w.hear line).ready = true := by
  cases w with
  | message m =>
    have hf : m.found = true := h
    simp [hear, ready, LogMessage.hear, hf]
  | sequence q =>
    have hs : q.seen = q.texts.length := by simpa [ready, LogSequence.ready] using h
    have hn : q.texts[q.seen]? = none := List.getElem?_eq_none (Nat.le_of_eq hs.symm)
    simpa [hear, ready, LogSequence.hear, hn] using h

/-- A watch that is ready stays ready. -/
theorem ready_hearAll {w : LogWatch} (h : w.ready = true) (lines : List String) :
    (w.hearAll lines).ready = true := by
  induction lines generalizing w with
  | nil => exact h
  | cons line lines ih => exact ih (ready_hear h line)

/-- Watches in a fan-out hear every line each. -/
theorem notifyAll_eq (ws : List LogWatch) (lines : List String) :
    Fanout.notifyAll ws lines = (ws.map (·.hearAll lines), []) := by
  induction lines generalizing ws with
  | nil => simp [Fanout.notifyAll, hearAll]
  | cons line lines ih =>
    simp only [Fanout.notifyAll, Fanout.notify, ih]
    simp [hearAll, Listener.hear, Function.comp_def]

end LogWatch

end Readiness
