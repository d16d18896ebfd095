import Mathlib.Data.List.TakeDrop
import Mathlib.Data.List.TakeWhile
import Readiness.Http.StatusRange
import Readiness.Proofs.Text.Numeral

/-!
# Status patterns

What a pattern is and which statuses it stands for can be said without a word on how it is read
(`StatusRange.Denotes`): a number on its own, or two with dots between them. A number is digits whose
value fits in 16 bits (`StatusRange.IsStatus`).

The reader takes these patterns and no others, for the statuses that they stand for
(`StatusRange.ofChars?_eq_some_iff`), with blanks around them or without (`StatusRange.StandsFor`). A
range that is written as a pattern stands for itself (`StatusRange.denotes_text`), so what has been
read once is read again from its text (`StatusRange.parse?_exact`).
-/

namespace Readiness

variable {c : Char} {cs : List Char} {n limit : Nat}

theorem toOption_eq_some_iff {ε α : Type} {x : Except ε α} {a : α} :
    x.toOption = some a ↔ x = .ok a := by
  cases x <;> simp [Except.toOption]

/-! ### Patterns -/

namespace StatusRange

/-- A number of 16 bits. -/
abbrev IsStatus (cs : List Char) (n : Nat) : Prop := Numeral.IsDecimal Numeral.max16 cs n

/-- Two numbers with dots between them, and blanks beside the dots. -/
def dotted (first before : List Char) (dots : Nat) (behind second : List Char) : List Char :=
  first ++ (before ++ (List.replicate dots '.' ++ (behind ++ second)))

theorem dotted_add_two (first before : List Char) (k : Nat) (behind second : List Char) :
    dotted first before (k + 2) behind second =
      first ++ (before ++ '.' :: '.' :: (List.replicate k '.' ++ (behind ++ second))) := rfl

/-- What a pattern without blanks around it stands for. -/
inductive Denotes : List Char → StatusRange → Prop
  | single {ds : List Char} {n : Nat} : IsStatus ds n → Denotes ds (.single n)
  | signed {ds : List Char} {n : Nat} : IsStatus ds n → Denotes ('+' :: ds) (.single n)
  | range {first before behind second : List Char} {min max : Nat} (dots : Nat) :
      IsStatus first min → IsBlanks before → IsBlanks behind →
      IsStatus second max → 2 ≤ dots → min ≤ max →
      Denotes (dotted first before dots behind second) ⟨min, max⟩

/-- Characters are read as a status just if they are one. -/
theorem status?_eq_some_iff : status? cs = some n ↔ IsStatus cs n := by
  by_cases hp : '+' ∈ cs
  · have hany : cs.any (· == '+') = true := List.any_eq_true.2 ⟨_, hp, beq_self_eq_true _⟩
    rw [status?, if_pos hany]
    exact ⟨nofun, fun h => absurd hp (h.not_mem (by decide))⟩
  · have hany : ¬ cs.any (· == '+') = true := fun h => by
      obtain ⟨c, hc, h⟩ := List.any_eq_true.1 h
      exact hp (eq_of_beq h ▸ hc)
    rw [status?, if_neg hany, toOption_eq_some_iff, Numeral.parseChars_eq_ok_iff, Numeral.IsNumeral,
      or_iff_left]
    rintro ⟨ds, rfl, -⟩
    exact hp List.mem_cons_self

theorem ne_dot_of_isBlank (h : isBlank c = true) : (c == '.') = false :=
  beq_eq_false_iff_ne.2 fun hc => absurd (hc ▸ h) (by decide)

theorem isSome_digit?_of_isBlank (h : isBlank c = true) : (Numeral.digit? c).isSome = false := by
  rw [Numeral.isSome_digit?, Bool.eq_false_iff]
  exact fun hd => Bool.false_ne_true ((isBlank_of_isDigit hd).symm.trans h)

theorem IsStatus.ends (h : IsStatus cs n) {p : Char → Bool}
    (hp : ∀ c, c.isDigit = true → p c = false) : Ends p cs :=
  fun c hc => hp c (h.isDigit c (List.mem_of_head? hc))

/-- The dots of a range are found behind the first number. Blanks beside them are left out. -/
theorem ends?_append {first before behind second : List Char} {dots : Nat}
    (hf : ∀ c ∈ first, c.isDigit = true) (hb : IsBlanks before) (hdots : 2 ≤ dots)
    (hc : IsBlanks behind) (hs : IsStatus second n) :
    ends? (dotted first before dots behind second) = some (first, second) := by
  obtain ⟨k, rfl⟩ := Nat.exists_eq_add_of_le' hdots
  rw [dotted_add_two]
  have hfirst : ∀ c ∈ first, (Numeral.digit? c).isSome = true := fun c h => by
    rw [Numeral.isSome_digit?, hf c h]
  have hrest : Ends (fun c => (Numeral.digit? c).isSome)
      (before ++ '.' :: '.' :: (List.replicate k '.' ++ (behind ++ second))) :=
    ends_append (fun c h => isSome_digit?_of_isBlank (hb c h)) fun _ h => by cases h; rfl
  have hdot : Ends isBlank ('.' :: '.' :: (List.replicate k '.' ++ (behind ++ second))) :=
    fun _ h => by cases h; rfl
  have hreplicate : ∀ c ∈ List.replicate k '.', (c == '.') = true :=
    fun c h => beq_iff_eq.2 (List.eq_of_mem_replicate h)
  have hbehind : Ends (· == '.') (behind ++ second) :=
    ends_append (fun c h => ne_dot_of_isBlank (hc c h))
      (hs.ends fun _ => forall_isDigit (P := fun c => (c == '.') = false) (by decide))
  simp only [ends?, List.span_eq_takeWhile_dropWhile, takeWhile_piece hfirst hrest,
    dropWhile_piece hfirst hrest, dropWhile_piece hb hdot, dropWhile_piece hreplicate hbehind,
    dropWhile_piece hc (hs.ends fun _ => isBlank_of_isDigit)]

/-- What is split at dots has at least two of them, with blanks around them or without. -/
theorem ends?_eq_some {first second : List Char} (h : ends? cs = some (first, second)) :
    ∃ before behind dots, IsBlanks before ∧ IsBlanks behind ∧ 2 ≤ dots ∧
      cs = dotted first before dots behind second := by
  simp only [ends?, List.span_eq_takeWhile_dropWhile] at h
  split at h
  · rename_i rest hrest
    obtain ⟨rfl, rfl⟩ := Prod.mk.inj (Option.some.inj h)
    obtain ⟨before, hb, hbefore⟩ :=
      exists_piece isBlank (cs.dropWhile fun c => (Numeral.digit? c).isSome)
    obtain ⟨dots, hd, hdots⟩ := exists_piece (· == '.') rest
    obtain ⟨behind, hc, hbehind⟩ := exists_piece isBlank (rest.dropWhile (· == '.'))
    have hreplicate : dots = List.replicate dots.length '.' :=
      List.eq_replicate_of_mem fun c hc => eq_of_beq (hd c hc)
    refine ⟨before, behind, dots.length + 2, hb, hc, by omega, ?_⟩
    rw [dotted_add_two, ← hreplicate, ← hbehind, ← hdots, ← hrest, ← hbefore,
      List.takeWhile_append_dropWhile]
  · cases h

/-- Without dots there is one number at most. -/
theorem ends?_of_not_mem (h : '.' ∉ cs) : ends? cs = none := by
  rcases he : ends? cs with _ | ⟨first, second⟩
  · rfl
  · obtain ⟨before, behind, dots, -, -, hdots, rfl⟩ := ends?_eq_some he
    have hm : '.' ∈ List.replicate dots '.' := List.mem_replicate.2 ⟨by omega, rfl⟩
    exact absurd (List.mem_append_right _ (List.mem_append_right _ (List.mem_append_left _ hm))) h

/-- The reader takes what stands for a range, and nothing else. -/
theorem ofChars?_eq_some_iff {r : StatusRange} : ofChars? cs = some r ↔ Denotes cs r := by
  constructor
  · intro h
    unfold ofChars? at h
    split at h
    · rename_i first second he
      obtain ⟨before, behind, dots, hb, hc, hdots, rfl⟩ := ends?_eq_some he
      obtain ⟨min, hmin, h⟩ := Option.bind_eq_some_iff.1 h
      obtain ⟨max, hmax, h⟩ := Option.bind_eq_some_iff.1 h
      split at h
      · obtain rfl := Option.some.inj h
        exact .range dots (status?_eq_some_iff.1 hmin) hb hc (status?_eq_some_iff.1 hmax) hdots ‹_›
      · cases h
    · obtain ⟨n, hn, rfl⟩ := Option.map_eq_some_iff.1 h
      rcases Numeral.parseChars_eq_ok_iff.1 (toOption_eq_some_iff.1 hn) with
        hd | ⟨ds, rfl, hd⟩
      · exact .single hd
      · exact .signed hd
  · intro h
    cases h with
    | single hd =>
      rw [ofChars?, ends?_of_not_mem (hd.not_mem (by decide)),
        Numeral.parseChars_eq_ok_iff.2 (.inl hd)]
      rfl
    | @signed ds _ hd =>
      have hm : '.' ∉ '+' :: ds :=
        List.not_mem_cons_of_ne_of_not_mem (by decide) (hd.not_mem (by decide))
      rw [ofChars?, ends?_of_not_mem hm, Numeral.parseChars_eq_ok_iff.2 (.inr ⟨ds, rfl, hd⟩)]
      rfl
    | range dots hmin hb hc hmax hdots hle =>
      rw [ofChars?, ends?_append hmin.isDigit hb hdots hc hmax]
      simp only [status?_eq_some_iff.2 hmin, status?_eq_some_iff.2 hmax, Option.bind_eq_bind,
        Option.bind_some, if_pos hle]

/-! ### Texts -/

variable {r : StatusRange}

/-- A number of 16 bits is written as a status. -/
theorem isStatus_toDigits (h : n ≤ Numeral.max16) : IsStatus (Nat.toDigits 10 n) n where
  ne_nil := Nat.toDigits_ne_nil
  isDigit _ := isDigit_of_mem_toDigits
  value := Nat.ofDigitChars_ten_toDigits
  le := h

/-- The text of a range is one number, or two with two dots between them. -/
theorem toList_text (r : StatusRange) : r.text.toList =
    if r.min = r.max then Nat.toDigits 10 r.min
    else dotted (Nat.toDigits 10 r.min) [] 2 [] (Nat.toDigits 10 r.max) := by
  unfold text
  split
  · exact toList_toString _
  · rw [String.toList_append, String.toList_append, toList_toString, toList_toString,
      List.append_assoc]
    rfl

/-- The bounds of what is denoted are in order, and of 16 bits. -/
theorem Denotes.le (h : Denotes cs r) : r.min ≤ r.max ∧ r.max ≤ Numeral.max16 := by
  cases h with
  | single hd => exact ⟨Nat.le_refl _, hd.le⟩
  | signed hd => exact ⟨Nat.le_refl _, hd.le⟩
  | range _ _ _ _ hmax _ hle => exact ⟨hle, hmax.le⟩

/-- The text of a range denotes it. -/
theorem denotes_text (hle : r.min ≤ r.max) (hmax : r.max ≤ Numeral.max16) :
    Denotes r.text.toList r := by
  have hmin := Nat.le_trans hle hmax
  rw [toList_text]
  split
  · rename_i he
    obtain ⟨min, max⟩ := r
    obtain rfl : min = max := he
    exact .single (isStatus_toDigits hmin)
  · exact .range 2 (isStatus_toDigits hmin) (List.forall_mem_nil _) (List.forall_mem_nil _)
      (isStatus_toDigits hmax) (Nat.le_refl _) hle

/-! ### Blanks -/

/-- What a text stands for: a pattern, with blanks around it or without. -/
def StandsFor (text : String) (r : StatusRange) : Prop :=
  ∃ before pattern behind, IsBlanks before ∧ IsBlanks behind ∧
    text.toList = before ++ pattern ++ behind ∧ Denotes pattern r

/-- Patterns begin and end with other characters than blanks. -/
theorem Denotes.trimChars_eq (h : Denotes cs r) : trimChars cs = cs := by
  have hblank {ds : List Char} {n : Nat} (hd : IsStatus ds n) : ∀ c ∈ ds, isBlank c = false :=
    fun c hc => isBlank_of_isDigit (hd.isDigit c hc)
  cases h with
  | single hd => exact trimChars_eq_self (hblank hd)
  | signed hd => exact trimChars_eq_self (List.forall_mem_cons.2 ⟨rfl, hblank hd⟩)
  | range dots hmin _ _ hmax =>
    refine trimChars_of_ends (fun c hc => ?_) fun c hc => ?_
    · rw [dotted, List.head?_append, List.head?_eq_some_head hmin.ne_nil] at hc
      obtain rfl := Option.some.inj hc
      exact hblank hmin _ (List.head_mem hmin.ne_nil)
    · simp only [dotted, ← List.append_assoc] at hc
      rw [List.getLast?_append, List.getLast?_eq_some_getLast hmax.ne_nil] at hc
      obtain rfl := Option.some.inj hc
      exact hblank hmax _ (List.getLast_mem hmax.ne_nil)

/-- A text is parsed as the range that it stands for, if it stands for one. -/
theorem parse?_eq_some_iff {text : String} : parse? text = some r ↔ StandsFor text r := by
  rw [parse?, ofChars?_eq_some_iff]
  constructor
  · intro h
    obtain ⟨before, behind, hb, hc, hcs⟩ := exists_trimChars text.toList
    exact ⟨before, _, behind, hb, hc, hcs, h⟩
  · rintro ⟨before, pattern, behind, hb, hc, hcs, h⟩
    rw [hcs, trimChars_pad hb hc, h.trimChars_eq]
    exact h

theorem StandsFor.le {text : String} (h : StandsFor text r) :
    r.min ≤ r.max ∧ r.max ≤ Numeral.max16 := by
  obtain ⟨_, _, _, -, -, -, h⟩ := h
  exact h.le

/-- The text of a range is parsed as that range. -/
theorem parse?_text (hle : r.min ≤ r.max) (hmax : r.max ≤ Numeral.max16) :
    parse? r.text = some r :=
  parse?_eq_some_iff.2 ⟨[], _, [], List.forall_mem_nil _, List.forall_mem_nil _,
    (List.append_nil _).symm, denotes_text hle hmax⟩

/-- A text is accepted, for the statuses that it stands for, just if it stands for some. These are a
    range that has a lower end and an upper one, within 16 bits. Every such range is read again from
    its text. -/
theorem parse?_exact :
    (∀ text r, parse? text = some r ↔ StandsFor text r) ∧
      (∀ text r, parse? text = some r →
        r.min ≤ r.max ∧ r.max ≤ Numeral.max16 ∧ parse? r.text = some r) ∧
      ∀ r, r.min ≤ r.max → r.max ≤ Numeral.max16 → parse? r.text = some r := by
  refine ⟨fun _ _ => parse?_eq_some_iff, fun _ r h => ?_, fun _ => parse?_text⟩
  obtain ⟨hle, hmax⟩ := (parse?_eq_some_iff.1 h).le
  exact ⟨hle, hmax, parse?_text hle hmax⟩

/-- A range with blanks and more dots than two is parsed like any other, and so are texts of
    ranges. -/
theorem parse?_exact_blanks :
    parse? "\u00A00200\u2003.... 399\n" = some ⟨200, 399⟩ ∧
      StandsFor "\u00A00200\u2003.... 399\n" ⟨200, 399⟩ ∧
      parse? (text ⟨200, 399⟩) = some ⟨200, 399⟩ ∧
      parse? (text ⟨302, 302⟩) = some ⟨302, 302⟩ := by
  have h : parse? "\u00A00200\u2003.... 399\n" = some ⟨200, 399⟩ := by decide
  exact ⟨h, (parse?_exact.1 _ _).1 h, (parse?_exact.2.1 _ _ h).2.2,
    parse?_exact.2.2 ⟨302, 302⟩ (by decide) (by decide)⟩

/-- Digits of other scripts, and a sign in a range, are refused. -/
example : parse? "+302" = some ⟨302, 302⟩ ∧ parse? "+200..302" = none ∧
    parse? "\u0662..302" = none := by decide

end StatusRange

end Readiness
