import Readiness.Proofs.Text.Blank
import Readiness.Text.Numeral

/-!
# Numbers in decimal

A number that is written in decimal has no blanks around it (`trim_toString`) and reads as itself, up
to the limit of the reader (`Numeral.parse_toString`).

What a numeral is can be said without the reader: digits whose value keeps to the limit
(`Numeral.IsDecimal`), with a plus sign in front or without (`Numeral.IsNumeral`). The reader takes
these and no others (`Numeral.parseChars_eq_ok_iff`).
-/

namespace Readiness

variable {c : Char} {cs : List Char} {n limit : Nat}

/-! ### Digits -/

/-- What the ten digits have every digit has. -/
theorem forall_isDigit {P : Char → Prop} (hp : ∀ d < 10, P (Nat.digitChar d))
    (hc : c.isDigit = true) : P c := by
  obtain ⟨hl, hu⟩ := Char.isDigit_iff_toNat.1 hc
  have hd : c.toNat - '0'.toNat < 10 := by
    simp only [Char.reduceToNat] at hl hu ⊢
    omega
  have h : Nat.digitChar (c.toNat - '0'.toNat) = c := by
    rw [← Char.toNat_inj, Nat.toNat_digitChar_of_lt_ten hd]
    exact Nat.add_sub_of_le hl
  exact h ▸ hp _ hd

theorem isDigit_of_mem_toDigits (h : c ∈ Nat.toDigits 10 n) : c.isDigit = true :=
  Nat.isDigit_of_mem_toDigits (by decide) (by decide) h

theorem toList_toString (n : Nat) : (toString n).toList = Nat.toDigits 10 n := by
  rw [Nat.toString_eq_ofList_toDigits, String.toList_ofList]

theorem exists_toDigits (n : Nat) : ∃ c cs, Nat.toDigits 10 n = c :: cs ∧ c.isDigit = true ∧
    ∀ d ∈ cs, d.isDigit = true := by
  obtain ⟨c, cs, hc⟩ := List.exists_cons_of_ne_nil (Nat.toDigits_ne_nil (n := n) (b := 10))
  have hd : ∀ d ∈ c :: cs, d.isDigit = true := hc ▸ fun _ => isDigit_of_mem_toDigits
  exact ⟨c, cs, hc, List.forall_mem_cons.1 hd⟩

/-- No zero stands in front of other digits. -/
theorem toDigits_eq_cons (hn : 0 < n) : ∃ c cs, Nat.toDigits 10 n = c :: cs ∧ c ≠ '0' := by
  induction n using Nat.base_induction 10 (by decide) with
  | single n hl =>
    have h : n.digitChar ≠ '0' := mt Nat.digitChar_eq_zero.1 (Nat.pos_iff_ne_zero.1 hn)
    exact ⟨n.digitChar, [], Nat.toDigits_of_lt_base hl, h⟩
  | digit n d hd hn' ih =>
    obtain ⟨c, cs, hc, h⟩ := ih hn'
    exact ⟨c, cs ++ Nat.toDigits 10 d, by
      rw [← Nat.toDigits_append_toDigits (by decide) hn' hd, hc, List.cons_append], h⟩

/-! ### Blanks -/

theorem isBlank_of_isDigit : c.isDigit = true → isBlank c = false :=
  forall_isDigit (P := fun c => isBlank c = false) (by decide)

theorem trimChars_toString (n : Nat) : trimChars (toString n).toList = (toString n).toList := by
  rw [toList_toString]
  exact trimChars_eq_self fun _ h => isBlank_of_isDigit (isDigit_of_mem_toDigits h)

/-- A number in decimal has no blanks around it. -/
theorem trim_toString (n : Nat) : trim (toString n) = toString n := by
  rw [trim, trimChars_toString, String.ofList_toList]

/-! ### Reading -/

namespace Numeral

theorem digit?_of_isDigit : c.isDigit = true → digit? c = some (c.toNat - '0'.toNat) :=
  forall_isDigit (P := fun c => digit? c = some (c.toNat - '0'.toNat)) (by decide)

theorem le_ofDigitChars (value : Nat) : value ≤ Nat.ofDigitChars 10 cs value := by
  rw [Nat.ofDigitChars_eq_ofDigitChars_zero]
  have hp : 0 < 10 ^ cs.length := Nat.pow_pos (by decide)
  exact Nat.le_trans (Nat.le_mul_of_pos_left _ hp) (Nat.le_add_right _ _)

/-- Digits can be read if what they are worth keeps to the limit. -/
theorem digits_eq_ok {value : Nat} (hd : ∀ c ∈ cs, c.isDigit = true)
    (hl : Nat.ofDigitChars 10 cs value ≤ limit) :
    digits limit value cs = .ok (Nat.ofDigitChars 10 cs value) := by
  induction cs generalizing value with
  | nil => rw [digits, Nat.ofDigitChars_nil]
  | cons c cs ih =>
    obtain ⟨hc, hd⟩ := List.forall_mem_cons.1 hd
    rw [Nat.ofDigitChars_cons, Nat.mul_comm 10] at hl ⊢
    have hle := Nat.le_trans (le_ofDigitChars _) hl
    simp only [digits, digit?_of_isDigit hc, if_pos hle]
    exact ih hd hl

theorem parseChars_of_isDigit (hc : c.isDigit = true) :
    parseChars limit (c :: cs) = digits limit 0 (c :: cs) := by
  have hn : c ≠ '+' := fun h => by rw [h] at hc; exact absurd hc (by decide)
  unfold parseChars
  split <;> simp_all

/-- A number in decimal reads as itself. -/
theorem parse_toString (h : n ≤ limit) : parse limit (toString n) = .ok n := by
  have hn : Nat.ofDigitChars 10 (Nat.toDigits 10 n) 0 = n := Nat.ofDigitChars_ten_toDigits
  obtain ⟨c, cs, hcs, hc, hd⟩ := exists_toDigits n
  rw [parse, toList_toString]
  rw [hcs] at hn ⊢
  rw [parseChars_of_isDigit hc, digits_eq_ok (List.forall_mem_cons.2 ⟨hc, hd⟩) (hn ▸ h), hn]

/-! ### What a numeral is -/

/-- The digits of a number that keeps to a limit, leading zeros allowed. -/
structure IsDecimal (limit : Nat) (cs : List Char) (n : Nat) : Prop where
  ne_nil : cs ≠ []
  isDigit : ∀ c ∈ cs, c.isDigit = true
  value : Nat.ofDigitChars 10 cs 0 = n
  le : n ≤ limit

/-- Digits of a number, with a plus sign in front or without. -/
abbrev IsNumeral (limit : Nat) (cs : List Char) (n : Nat) : Prop :=
  IsDecimal limit cs n ∨ ∃ ds, cs = '+' :: ds ∧ IsDecimal limit ds n

/-- A text has a numeral in it and nothing else but blanks around it. -/
def StandsIn (limit : Nat) (text : String) (n : Nat) : Prop :=
  ∃ before numeral behind, IsBlanks before ∧ IsBlanks behind ∧
    text.toList = before ++ numeral ++ behind ∧ IsNumeral limit numeral n

theorem isSome_digit? (c : Char) : (digit? c).isSome = c.isDigit := by
  rw [Bool.eq_iff_iff, Char.isDigit_iff_toNat, digit?, Option.isSome_ite]
  simp only [Char.le_def, UInt32.le_iff_toNat_le]
  rfl

theorem isDigit_of_digit?_eq_some {d : Nat} (h : digit? c = some d) : c.isDigit = true := by
  rw [← isSome_digit?, h, Option.isSome_some]

/-- What has been read is digits, and what they are worth with the value gathered before. -/
theorem of_digits_eq_ok {value : Nat} (hv : value ≤ limit) (h : digits limit value cs = .ok n) :
    (∀ c ∈ cs, c.isDigit = true) ∧ Nat.ofDigitChars 10 cs value = n ∧ n ≤ limit := by
  induction cs generalizing value with
  | nil =>
    obtain rfl := Except.ok.inj h
    exact ⟨List.forall_mem_nil _, Nat.ofDigitChars_nil, hv⟩
  | cons c cs ih =>
    rw [digits] at h
    split at h
    · cases h
    · rename_i d hd
      split at h
      · rename_i hle
        have hc := isDigit_of_digit?_eq_some hd
        obtain rfl := Option.some.inj (hd.symm.trans (digit?_of_isDigit hc))
        obtain ⟨hcs, hvalue, hn⟩ := ih hle h
        rw [Nat.ofDigitChars_cons, Nat.mul_comm 10]
        exact ⟨List.forall_mem_cons.2 ⟨hc, hcs⟩, hvalue, hn⟩
      · cases h

/-- Digits are read as the decimal that they are. -/
theorem digits_eq_ok_iff (hn : cs ≠ []) : digits limit 0 cs = .ok n ↔ IsDecimal limit cs n := by
  constructor
  · intro h
    obtain ⟨hd, hvalue, hle⟩ := of_digits_eq_ok (Nat.zero_le _) h
    exact ⟨hn, hd, hvalue, hle⟩
  · rintro ⟨-, hd, rfl, hle⟩
    exact digits_eq_ok hd hle

theorem IsDecimal.not_mem {d : Char} (h : IsDecimal limit cs n) (hd : d.isDigit = false) :
    d ∉ cs :=
  fun hm => Bool.false_ne_true (hd.symm.trans (h.isDigit d hm))

theorem parseChars_of_not_mem (hp : '+' ∉ cs) (hn : cs ≠ []) :
    parseChars limit cs = digits limit 0 cs := by
  unfold parseChars
  split <;> simp_all

theorem parseChars_plus (hn : cs ≠ []) : parseChars limit ('+' :: cs) = digits limit 0 cs := by
  unfold parseChars
  split <;> simp_all

/-- The reader takes numerals and nothing else. -/
theorem parseChars_eq_ok_iff : parseChars limit cs = .ok n ↔ IsNumeral limit cs n := by
  constructor
  · intro h
    unfold parseChars at h
    split at h
    · cases h
    · cases h
    · rename_i ds hn
      exact .inr ⟨ds, rfl, (digits_eq_ok_iff hn).1 h⟩
    · rename_i hn _ _
      exact .inl ((digits_eq_ok_iff hn).1 h)
  · rintro (hd | ⟨ds, rfl, hd⟩)
    · rw [parseChars_of_not_mem (hd.not_mem (by decide)) hd.ne_nil, digits_eq_ok_iff hd.ne_nil]
      exact hd
    · rw [parseChars_plus hd.ne_nil, digits_eq_ok_iff hd.ne_nil]
      exact hd

theorem IsNumeral.isBlank_eq_false (h : IsNumeral limit cs n) : ∀ c ∈ cs, isBlank c = false := by
  rcases h with hd | ⟨ds, rfl, hd⟩
  · exact fun c hc => isBlank_of_isDigit (hd.isDigit c hc)
  · exact List.forall_mem_cons.2 ⟨rfl, fun c hc => isBlank_of_isDigit (hd.isDigit c hc)⟩

/-- A text is at most one number. -/
theorem IsNumeral.eq {m : Nat} (h : IsNumeral limit cs n) (h' : IsNumeral limit cs m) : m = n :=
  Except.ok.inj ((parseChars_eq_ok_iff.2 h').symm.trans (parseChars_eq_ok_iff.2 h))

theorem IsNumeral.ne_nil (h : IsNumeral limit cs n) : cs ≠ [] := by
  rcases h with hd | ⟨ds, rfl, -⟩
  · exact hd.ne_nil
  · exact List.cons_ne_nil _ _

/-- Trimmed, a text reads as the numeral in it. -/
theorem parse_trim_eq_ok_iff {text : String} :
    parse limit (trim text) = .ok n ↔ StandsIn limit text n := by
  rw [parse, trim, String.toList_ofList, parseChars_eq_ok_iff]
  constructor
  · intro h
    obtain ⟨before, behind, hb, hc, he⟩ := exists_trimChars text.toList
    exact ⟨before, _, behind, hb, hc, he, h⟩
  · rintro ⟨before, numeral, behind, hb, hc, he, h⟩
    rwa [he, trimChars_pad hb hc, trimChars_eq_self h.isBlank_eq_false]

/-- A text in which a number stands has more than blanks in it. -/
theorem StandsIn.not_isBlanks {text : String} (h : StandsIn limit text n) :
    ¬ IsBlanks text.toList := by
  obtain ⟨before, numeral, behind, -, -, he, h⟩ := h
  obtain ⟨c, hc⟩ := List.exists_mem_of_ne_nil _ h.ne_nil
  intro hb
  rw [he] at hb
  have hblank := hb c (List.mem_append_left _ (List.mem_append_right _ hc))
  exact Bool.false_ne_true ((h.isBlank_eq_false c hc).symm.trans hblank)

end Numeral

end Readiness
