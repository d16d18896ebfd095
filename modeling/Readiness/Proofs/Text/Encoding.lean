import Mathlib.Algebra.Group.Nat.Defs
import Mathlib.Tactic.SplitIfs
import Readiness.Proofs.Text.Decoding

/-!
# Text written and read back

What is written in UTF-8 reads as itself, whatever follows it (`Utf8.decodeFrom_encodeChar`,
`Utf8.decode_encode`). The first byte of a character that takes more than one holds its highest bits
and says how many bytes follow (`Utf8.Begins`); each of those adds six bits, and behind the last one
the decoder holds nothing (`Utf8.decodeFrom_tails`).

The other way round, an ASCII character comes from no byte but its own, in ill-formed bytes too
(`Utf8.mem_of_mem_decode`): a character that has begun never comes to a code below 0x80, as the
ranges of its bytes leave no room for a form that is longer than need be (`Utf8.Partial.least`).
-/

namespace Readiness.Utf8

theorem encode_append (s t : String) : encode (s ++ t) = encode s ++ encode t := by
  simp [encode]

/-! ### Written text reads as itself -/

/-- The bytes behind the first one of a character, by its code: six bits each, the highest first. -/
def tails (n : Nat) : Nat → Bytes
  | 0 => []
  | k + 1 => UInt8.ofNat (n / 64 ^ k % 64 + 0x80) :: tails n k

/-- Whether a character that has begun goes on with six bits. -/
def Partial.Admits (q : Partial) (bits : Nat) : Prop :=
  q.low.toNat ≤ bits + 0x80 ∧ bits + 0x80 ≤ q.high.toNat

/-- Whether a byte begins the character of a code that takes `k + 1` bytes more. -/
def Begins (b : UInt8) (n k : Nat) : Prop :=
  ∃ q, first b = ([], some q) ∧ q.code = n / 64 ^ (k + 1) ∧ q.owed = k + 1 ∧
    q.Admits (n / 64 ^ k % 64)

/-- A byte that is admitted adds its bits, and completes the character if it is the last. -/
theorem step_tail {q : Partial} {bits : Nat} (hb : bits < 64) (hq : q.Admits bits) :
    step (some q) (UInt8.ofNat (bits + 0x80)) =
      if q.owed ≤ 1 then ([Char.ofNat (q.code * 64 + bits)], none)
      else ([], some ⟨q.code * 64 + bits, q.owed - 1, 0x80, 0xBF⟩) := by
  have hn : (UInt8.ofNat (bits + 0x80)).toNat = bits + 0x80 := by
    rw [UInt8.toNat_ofNat']
    omega
  have hr : q.low ≤ UInt8.ofNat (bits + 0x80) ∧ UInt8.ofNat (bits + 0x80) ≤ q.high := by
    rw [UInt8.le_iff_toNat_le, UInt8.le_iff_toNat_le, hn]
    exact hq
  rw [step, if_pos hr, hn, Nat.add_sub_cancel]

/-- A character that has begun with the highest bits of a code is complete behind the others. -/
theorem decodeFrom_tails {n k : Nat} {q : Partial} (hc : q.code = n / 64 ^ (k + 1))
    (ho : q.owed = k + 1) (hq : q.Admits (n / 64 ^ k % 64)) (bs : Bytes) :
    decodeFrom (some q) (tails n (k + 1) ++ bs) = Char.ofNat n :: decodeFrom none bs := by
  induction k generalizing q with
  | zero =>
    have hn : n / 64 * 64 + n % 64 = n := Nat.div_add_mod' n 64
    rw [tails, List.cons_append, decodeFrom_cons, step_tail (Nat.mod_lt _ (by decide)) hq,
      if_pos (Nat.le_of_eq ho), hc]
    simp [tails, hn]
  | succ k ih =>
    have hn : n / 64 ^ (k + 1 + 1) * 64 + n / 64 ^ (k + 1) % 64 = n / 64 ^ (k + 1) := by
      rw [Nat.pow_succ 64 (k + 1), ← Nat.div_div_eq_div_mul]
      exact Nat.div_add_mod' _ 64
    have hlt : n / 64 ^ k % 64 < 64 := Nat.mod_lt _ (by decide)
    rw [tails, List.cons_append, decodeFrom_cons, step_tail (Nat.mod_lt _ (by decide)) hq,
      if_neg (by omega), hc, hn, ho]
    -- Behind a byte that is not the first, any six bits may come.
    exact ih rfl rfl ⟨Nat.le_add_left _ _, by simp only [UInt8.reduceToNat]; omega⟩

/-- A character that begins with its first byte is decoded from it and its tails. -/
theorem Begins.decodeFrom {b : UInt8} {n k : Nat} (h : Begins b n k) (bs : Bytes) :
    decodeFrom none (b :: tails n (k + 1) ++ bs) = Char.ofNat n :: decodeFrom none bs := by
  obtain ⟨q, hb, hc, ho, hq⟩ := h
  rw [List.cons_append, decodeFrom_cons, step, hb]
  exact decodeFrom_tails hc ho hq bs

theorem begins_oneMore {n : Nat} (hl : 0x7F < n) (hh : n ≤ 0x7FF) :
    Begins (UInt8.ofNat (n / 64 % 0x20 + 0xC0)) n 0 := by
  have hn : (UInt8.ofNat (n / 64 % 0x20 + 0xC0)).toNat = n / 64 + 0xC0 := by
    rw [UInt8.toNat_ofNat']
    omega
  have hf : first (UInt8.ofNat (n / 64 % 0x20 + 0xC0)) = ([], some ⟨n / 64, 1, 0x80, 0xBF⟩) := by
    simp only [first, UInt8.lt_iff_toNat_lt, UInt8.le_iff_toNat_le, hn, UInt8.reduceToNat]
    rw [if_neg (by omega), if_pos (by omega), Nat.add_sub_cancel]
  refine ⟨_, hf, rfl, rfl, ?_⟩
  simp only [Partial.Admits, UInt8.reduceToNat]
  omega

/-- The first of more than two bytes, by the highest bits and the mark in front of them. Behind two of
    them fewer bytes than usual may come next: behind the mark alone none that make a longer form of a
    code below, and behind one other none that make a code that no character has. -/
theorem begins_of_first {b : UInt8} {n k mark : Nat} (low high : UInt8) (cut : Nat)
    (hb : b.toNat = n / 64 ^ (k + 1) + mark)
    (hf : first b = ([], some (
      if b.toNat = mark then ⟨0, k + 1, low, 0xBF⟩
      else if b.toNat = cut then ⟨cut - mark, k + 1, 0x80, high⟩
      else ⟨b.toNat - mark, k + 1, 0x80, 0xBF⟩)))
    (hlow : b.toNat = mark → low.toNat ≤ n / 64 ^ k % 64 + 0x80)
    (hhigh : b.toNat = cut → n / 64 ^ k % 64 + 0x80 ≤ high.toNat) : Begins b n k := by
  have hlt : n / 64 ^ k % 64 < 64 := Nat.mod_lt _ (by decide)
  have hbits : b.toNat - mark = n / 64 ^ (k + 1) := by rw [hb, Nat.add_sub_cancel]
  have hmost : n / 64 ^ k % 64 + 0x80 ≤ (0xBF : UInt8).toNat := Nat.add_le_add_right
    (Nat.le_of_lt_succ hlt) 0x80
  by_cases hm : b.toNat = mark
  · rw [if_pos hm] at hf
    rw [hm, Nat.sub_self] at hbits
    exact ⟨_, hf, hbits, rfl, hlow hm, hmost⟩
  rw [if_neg hm] at hf
  by_cases hc : b.toNat = cut
  · rw [if_pos hc] at hf
    rw [hc] at hbits
    exact ⟨_, hf, hbits, rfl, Nat.le_add_left _ _, hhigh hc⟩
  · rw [if_neg hc] at hf
    exact ⟨_, hf, hbits, rfl, Nat.le_add_left _ _, hmost⟩

/-- The first of three bytes. The codes that no character has are the surrogates. -/
theorem begins_twoMore {n : Nat} (hl : 0x7FF < n) (hh : n ≤ 0xFFFF)
    (hs : n < 0xD800 ∨ 0xDFFF < n) : Begins (UInt8.ofNat (n / 4096 % 0x10 + 0xE0)) n 1 := by
  have hn : (UInt8.ofNat (n / 4096 % 0x10 + 0xE0)).toNat = n / 4096 + 0xE0 := by
    rw [UInt8.toNat_ofNat']
    omega
  refine begins_of_first 0xA0 0x9F 0xED hn ?_ ?_ ?_ <;> rw [hn]
  · simp only [first, UInt8.lt_iff_toNat_lt, UInt8.le_iff_toNat_le, ← UInt8.toNat_inj, hn,
      UInt8.reduceToNat]
    split_ifs <;> first | omega | rfl
  · simp only [UInt8.reduceToNat]
    omega
  · simp only [UInt8.reduceToNat]
    omega

/-- The first of four bytes. The codes that no character has are those above the last one. -/
theorem begins_threeMore {n : Nat} (hl : 0xFFFF < n) (hh : n < 0x110000) :
    Begins (UInt8.ofNat (n / 262144 % 0x8 + 0xF0)) n 2 := by
  have hn : (UInt8.ofNat (n / 262144 % 0x8 + 0xF0)).toNat = n / 262144 + 0xF0 := by
    rw [UInt8.toNat_ofNat']
    omega
  refine begins_of_first 0x90 0x8F 0xF4 hn ?_ ?_ ?_ <;> rw [hn]
  · simp only [first, UInt8.lt_iff_toNat_lt, UInt8.le_iff_toNat_le, ← UInt8.toNat_inj, hn,
      UInt8.reduceToNat]
    split_ifs <;> first | omega | rfl
  · simp only [UInt8.reduceToNat]
    omega
  · simp only [UInt8.reduceToNat]
    omega

theorem encodeChar_of_le {c : Char} (h : c.toNat ≤ 0x7F) :
    String.utf8EncodeChar c = [UInt8.ofNat c.toNat] := if_pos h

/-- A character that takes more than one byte is written as one that begins it, and the others. -/
theorem exists_begins {c : Char} (h : 0x7F < c.toNat) :
    ∃ b k, Begins b c.toNat k ∧ String.utf8EncodeChar c = b :: tails c.toNat (k + 1) := by
  have hv : c.toNat < 0xD800 ∨ 0xDFFF < c.toNat ∧ c.toNat < 0x110000 := c.valid
  have he : c.val.toNat = c.toNat := rfl
  simp only [String.utf8EncodeChar, he]
  rw [if_neg (Nat.not_le.2 h)]
  by_cases h2 : c.toNat ≤ 0x7FF
  · exact ⟨_, 0, begins_oneMore h h2, by simp [tails, h2]⟩
  by_cases h3 : c.toNat ≤ 0xFFFF
  · exact ⟨_, 1, begins_twoMore (Nat.lt_of_not_le h2) h3 (hv.imp_right And.left),
      by simp [tails, h2, h3]⟩
  · exact ⟨_, 2, begins_threeMore (Nat.lt_of_not_le h3) (by omega), by simp [tails, h2, h3]⟩

/-- A character is read back, whatever follows it. -/
theorem decodeFrom_encodeChar (c : Char) (bs : Bytes) :
    decodeFrom none (String.utf8EncodeChar c ++ bs) = c :: decodeFrom none bs := by
  by_cases h : c.toNat ≤ 0x7F
  · have hn : (UInt8.ofNat c.toNat).toNat = c.toNat := by
      rw [UInt8.toNat_ofNat']
      omega
    have hlt : UInt8.ofNat c.toNat < 0x80 := by
      rw [UInt8.lt_iff_toNat_lt, hn]
      exact Nat.lt_succ_of_le h
    rw [encodeChar_of_le h]
    have hr := decodeFrom_append_ascii [] bs hlt
    rwa [hn, Char.ofNat_toNat] at hr
  · obtain ⟨b, k, hb, he⟩ := exists_begins (Nat.lt_of_not_le h)
    rw [he, hb.decodeFrom, Char.ofNat_toNat]

/-- Characters are decoded from their encodings, whatever comes behind them. -/
theorem decodeFrom_flatMap_encodeChar (cs : List Char) (bs : Bytes) :
    decodeFrom none (cs.flatMap String.utf8EncodeChar ++ bs) = cs ++ decodeFrom none bs := by
  induction cs with
  | nil => rfl
  | cons c cs ih =>
    rw [List.flatMap_cons, List.append_assoc, decodeFrom_encodeChar, ih, List.cons_append]

/-- What is written reads as itself. -/
theorem decode_encode (s : String) : decode (encode s) = s := by
  have h := decodeFrom_flatMap_encodeChar s.toList []
  rw [List.append_nil] at h
  rw [decode, encode, h, decodeFrom, finish, List.append_nil, String.ofList_toList]

/-! ### ASCII characters come from their own bytes -/

/-- The least code that a character that has begun may come to. -/
def Partial.least (q : Partial) : Nat :=
  (q.code * 64 + (q.low.toNat - 0x80)) * 64 ^ (q.owed - 1)

/-- A character that is begun will not be an ASCII one. -/
theorem le_least_first {b : UInt8} {q : Partial} (h : (first b).2 = some q) : 0x80 ≤ q.least := by
  unfold first at h
  simp only [UInt8.lt_iff_toNat_lt, UInt8.le_iff_toNat_le, UInt8.reduceToNat] at h
  split at h
  · nomatch h
  iterate 7
    split at h
    · obtain rfl := Option.some.inj h
      unfold Partial.least
      dsimp only
      simp only [UInt8.reduceToNat]
      omega
  nomatch h

/-- A further byte adds no less than the least one that may come. -/
theorem least_le_goOn {r : Partial} {b : UInt8} (hb : r.low ≤ b) (ho : ¬r.owed ≤ 1) :
    r.least ≤ (Partial.mk (r.code * 64 + (b.toNat - 0x80)) (r.owed - 1) 0x80 0xBF).least := by
  have hlow : r.low.toNat ≤ b.toNat := UInt8.le_iff_toNat_le.1 hb
  have ho' : r.owed - 1 = r.owed - 1 - 1 + 1 := by omega
  calc r.least = (r.code * 64 + (r.low.toNat - 0x80)) * 64 * 64 ^ (r.owed - 1 - 1) := by
        rw [Partial.least, ho', Nat.pow_succ', Nat.mul_assoc, ← ho']
    _ ≤ (r.code * 64 + (b.toNat - 0x80)) * 64 * 64 ^ (r.owed - 1 - 1) :=
        Nat.mul_le_mul_right _ (Nat.mul_le_mul_right _ (by omega))
    _ = _ := by
        unfold Partial.least
        simp only [UInt8.reduceToNat, Nat.sub_self, Nat.add_zero]

theorem le_least_step {p : Option Partial} (hp : ∀ r, p = some r → 0x80 ≤ r.least) {b : UInt8}
    {q : Partial} (h : (step p b).2 = some q) : 0x80 ≤ q.least := by
  cases p with
  | none => exact le_least_first h
  | some r =>
    unfold step at h
    dsimp only at h
    split at h
    · next hb =>
      split at h
      · nomatch h
      · next ho =>
        obtain rfl := Option.some.inj h
        exact Nat.le_trans (hp r rfl) (least_le_goOn hb.1 ho)
    · exact le_least_first h

/-- A byte that begins no character is one itself, or is replaced. -/
theorem mem_first {b : UInt8} {c : Char} (h : c ∈ (first b).1) :
    c = Char.ofNat b.toNat ∨ c = replacement := by
  unfold first at h
  split at h
  · exact .inl (List.mem_singleton.1 h)
  iterate 7
    split at h
    · nomatch h
  exact .inr (List.mem_singleton.1 h)

/-- A code that is not ASCII has no ASCII character. Zero stands for one that has none at all. -/
theorem ofNat_ne_of_le {n : Nat} (hn : 0x80 ≤ n) {c : Char} (h0 : c ≠ '\x00')
    (hc : c.toNat < 0x80) : c ≠ Char.ofNat n := by
  intro he
  by_cases hv : n.isValidChar
  · have hn' : Char.ofNat n = Char.ofNatAux n hv := dif_pos hv
    have hcn : c.toNat = n := congrArg Char.toNat (he.trans hn')
    omega
  · have hn' : Char.ofNat n = '\x00' := dif_neg hv
    exact h0 (he.trans hn')

/-- What comes out at a byte and is ASCII is the character of the byte. -/
theorem eq_of_mem_step {p : Option Partial} (hp : ∀ r, p = some r → 0x80 ≤ r.least) {b : UInt8}
    {c : Char} (h0 : c ≠ '\x00') (hc : c.toNat < 0x80) (h : c ∈ (step p b).1) :
    c = Char.ofNat b.toNat := by
  have hne : c ≠ replacement := by
    rintro rfl
    exact absurd hc (by decide)
  cases p with
  | none => exact (mem_first h).resolve_right hne
  | some r =>
    unfold step at h
    dsimp only at h
    split at h
    · next hb =>
      split at h
      · next ho =>
        -- The byte completes a character, which is not an ASCII one.
        have hlow : r.low.toNat ≤ b.toNat := UInt8.le_iff_toNat_le.1 hb.1
        have hr := hp r rfl
        rw [Partial.least, Nat.sub_eq_zero_of_le ho, Nat.pow_zero, Nat.mul_one] at hr
        exact absurd (List.mem_singleton.1 h) (ofNat_ne_of_le (by omega) h0 hc)
      · nomatch h
    · rcases List.mem_cons.1 h with h | h
      · exact absurd h hne
      · exact (mem_first h).resolve_right hne

theorem toNat_ofNat_byte (b : UInt8) : (Char.ofNat b.toNat).toNat = b.toNat := by
  have hv : b.toNat.isValidChar := .inl (Nat.lt_trans b.toNat_lt (by decide))
  have hb : Char.ofNat b.toNat = Char.ofNatAux b.toNat hv := dif_pos hv
  rw [hb]
  rfl

/-- An ASCII character is among those of some bytes only if its byte is among the bytes. -/
theorem mem_of_mem_decodeFrom {c : Char} (h0 : c ≠ '\x00') (hc : c.toNat < 0x80)
    {p : Option Partial} (hp : ∀ r, p = some r → 0x80 ≤ r.least) {bs : Bytes}
    (h : c ∈ decodeFrom p bs) : UInt8.ofNat c.toNat ∈ bs := by
  induction bs generalizing p with
  | nil =>
    cases p with
    | none => nomatch h
    | some r =>
      obtain rfl : c = replacement := List.mem_singleton.1 h
      exact absurd hc (by decide)
  | cons b bs ih =>
    rw [decodeFrom_cons] at h
    rcases List.mem_append.1 h with h | h
    · have hb : UInt8.ofNat c.toNat = b := by
        rw [eq_of_mem_step hp h0 hc h, toNat_ofNat_byte, UInt8.ofNat_toNat]
      exact hb ▸ List.mem_cons_self
    · exact List.mem_cons_of_mem _ (ih (fun _ hr => le_least_step hp hr) h)

/-- An ASCII character in what was decoded was a byte of its own. -/
theorem mem_of_mem_decode {c : Char} (h0 : c ≠ '\x00') (hc : c.toNat < 0x80) {bs : Bytes}
    (h : c ∈ (decode bs).toList) : UInt8.ofNat c.toNat ∈ bs := by
  rw [toList_decode] at h
  exact mem_of_mem_decodeFrom h0 hc (p := none) (fun _ hr => nomatch hr) h

end Readiness.Utf8
