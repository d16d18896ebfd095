import Mathlib.Data.List.TakeDrop
import Readiness.Command.Invocation
import Readiness.Proofs.Data.Reading
import Readiness.Proofs.Text.Blank

/-!
# How items are spelled

What a word of a command line means can be said without its reader: `Spelled` is the syntax of one
word, `Cluster` that of the letters behind a dash, and `Spells` that of a line, up to a command.

The reader holds items that have taken effect, and maybe one more that has its value or waits for it
(`Reading.soFar`, `Reading.waitsFor`). Whatever it takes is spelled, and adds what is spelled to the
items; and what is spelled is taken as that, if it is taken at all. Both hold of letters
(`Reading.exists_cluster`, `Reading.gains_of_cluster`), of words (`Reading.exists_spelled`,
`Reading.gains_of_spelled`) and, by induction over the words, of lines (`Reading.exists_spells`,
`Reading.completes_of_spells`). What has taken effect is sound (`Reading.IsSound`).
-/

namespace Readiness.Command

/-! ### Spelling -/

/-- What an item was given, in order. -/
def valuesOf (items : List (Item × String)) (i : Item) : List String :=
  (items.filter (·.1 == i)).map Prod.snd

/-- A word that is no option. -/
def IsPlain (word : String) : Prop := ∀ c cs, word.toList ≠ '-' :: c :: cs

/-- What letters behind a dash are, and the option among them whose value is still to come. -/
inductive Cluster (l : Level) : List Char → List (Item × String) → Option Item → Prop
  | nil : Cluster l [] [] none
  | switch {i : Item} {c : Char} {cs : List Char} {items : List (Item × String)}
      {a : Option Item} : i ∈ l.options → i.letter? = some c → i.takesValue = false →
      Cluster l cs items a → Cluster l (c :: cs) ((i, "") :: items) a
  /-- The rest of the word is the value. -/
  | attached {i : Item} {c : Char} {value : List Char} : i ∈ l.options → i.letter? = some c →
      i.takesValue = true → value ≠ [] → value.head? ≠ some '=' →
      Cluster l (c :: value) [(i, String.ofList value)] none
  | equals {i : Item} {c : Char} {value : List Char} : i ∈ l.options → i.letter? = some c →
      i.takesValue = true → Cluster l (c :: '=' :: value) [(i, String.ofList value)] none
  | apart {i : Item} {c : Char} : i ∈ l.options → i.letter? = some c → i.takesValue = true →
      Cluster l [c] [] (some i)

/-- What a word is if an option waits for its value or none does, and which one does then. -/
inductive Spelled (l : Level) :
    Option Item → String → List (Item × String) → Option Item → Prop
  | value {i : Item} {word : String} : IsPlain word → Spelled l (some i) word [(i, word)] none
  | operand {word : String} : IsPlain word → 0 < l.operands →
      Spelled l none word [(.container, word)] none
  | switch {i : Item} {name : String} : i ∈ l.options → i.long? = some name →
      i.takesValue = false → Spelled l none ("--" ++ name) [(i, "")] none
  | attached {i : Item} {name value : String} : i ∈ l.options → i.long? = some name →
      i.takesValue = true → Spelled l none ("--" ++ name ++ "=" ++ value) [(i, value)] none
  | apart {i : Item} {name : String} : i ∈ l.options → i.long? = some name →
      i.takesValue = true → Spelled l none ("--" ++ name) [] (some i)
  | letters {c : Char} {cs : List Char} {items : List (Item × String)} {a : Option Item} :
      Cluster l (c :: cs) items a → Spelled l none (String.ofList ('-' :: c :: cs)) items a

/-- What words are, from where an option waits for its value or none does. -/
inductive Spells (l : Level) : Option Item → List (Item × String) → List String → Prop
  | done : Spells l none [] []
  | word {a a' : Option Item} {items more : List (Item × String)} {word : String}
      {words : List String} : Spelled l a word items a' → Spells l a' more words →
      Spells l a (items ++ more) (word :: words)
  /-- Behind two dashes alone there are operands only. -/
  | rest (words : List String) : Spells l none (words.map (Item.container, ·)) ("--" :: words)

variable {l : Level} {i : Item} {a a' : Option Item} {items more : List (Item × String)}
  {name word : String} {words : List String} {c : Char} {cs : List Char}

/-! ### Names -/

namespace Level

/-- A name stands for an option of the level that bears it, and for no other. -/
theorem ofLong?_eq_some_iff :
    l.ofLong? name = some i ↔ i ∈ l.options ∧ i.long? = some name := by
  have hown : ∀ i ∈ l.options, ∀ name ∈ i.long?, l.ofLong? name = some i := by
    cases l <;> decide
  refine ⟨fun h => ⟨List.mem_of_find?_eq_some h, ?_⟩, fun h => hown i h.1 name h.2⟩
  simpa using List.find?_some h

theorem ofLetter?_eq_some_iff :
    l.ofLetter? c = some i ↔ i ∈ l.options ∧ i.letter? = some c := by
  have hown : ∀ i ∈ l.options, ∀ c, i.letter? = some c → l.ofLetter? c = some i := by
    intro i hi c hc
    cases l <;> cases i <;> cases hc <;> first | rfl | exact absurd hi (by decide)
  refine ⟨fun h => ⟨List.mem_of_find?_eq_some h, ?_⟩, fun h => hown i h.1 c h.2⟩
  simpa using List.find?_some h

/-- No name has an equals sign in it. -/
theorem long?_ne (h : i.long? = some name) : '=' ∉ name.toList ∧ name.toList ≠ [] := by
  cases i <;> cases h <;> decide

/-- No option has a dash for its letter. -/
theorem letter?_ne (h : i.letter? = some c) : c ≠ '-' := by
  cases i <;> cases h <;> decide

end Level

namespace Reading

variable {r r' : Reading} {value : String}

/-! ### Taking effect -/

/-- What has been read, whether it has taken effect or not. -/
def soFar (r : Reading) : List (Item × String) :=
  r.given ++ match r.pending with
    | some ⟨i, some value⟩ => [(i, value)]
    | _ => []

/-- The option that waits for its value. -/
def waitsFor (r : Reading) : Option Item :=
  match r.pending with
  | some ⟨i, none⟩ => some i
  | _ => none

/-- What has taken effect has values that it may have, and nothing twice that is given once. -/
structure IsSound (given : List (Item × String)) : Prop where
  value : ∀ i value, (i, value) ∈ given → checkValue i value = .ok ()
  once : ∀ i, i.repeatable = false → (valuesOf given i).length ≤ 1

/-- Items have been added to what was read, and maybe an option that waits for its value. -/
structure Gains (r r' : Reading) (items : List (Item × String)) (a : Option Item) : Prop where
  soFar_eq : r'.soFar = r.soFar ++ items
  waitsFor_eq : r'.waitsFor = a
  trailing_eq : r'.trailing = r.trailing
  isSound : IsSound r.given → IsSound r'.given

theorem Gains.trans {r'' : Reading} (h : Gains r r' items a) (h' : Gains r' r'' more a') :
    Gains r r'' (items ++ more) a' where
  soFar_eq := by rw [h'.soFar_eq, h.soFar_eq, List.append_assoc]
  waitsFor_eq := h'.waitsFor_eq
  trailing_eq := h'.trailing_eq.trans h.trailing_eq
  isSound := h'.isSound ∘ h.isSound

theorem values_eq (r : Reading) (i : Item) : r.values i = valuesOf r.given i := rfl

theorem valuesOf_append (items more : List (Item × String)) (i : Item) :
    valuesOf (items ++ more) i = valuesOf items i ++ valuesOf more i := by
  simp [valuesOf]

theorem has_eq_false_iff : r.has i = false ↔ valuesOf r.given i = [] := by
  simp [has, valuesOf, List.filter_eq_nil_iff]

/-- What takes effect is added to what was given, which stays sound. -/
theorem take_eq_ok (h : r.take i value = .ok r') :
    r' = { r with given := r.given ++ [(i, value)] } ∧
      (IsSound r.given → IsSound r'.given) := by
  unfold take at h
  split at h
  · cases h
  · cases h
  · next hhelp hversion =>
    split at h
    · cases h
    · next hrep =>
      obtain ⟨hc, h⟩ := then_eq_ok_iff.1 h
      cases h
      refine ⟨rfl, fun hs => ⟨fun j v hm => ?_, fun j hj => ?_⟩⟩
      · simp only [List.mem_append, List.mem_singleton, Prod.mk.injEq] at hm
        obtain hm | ⟨rfl, rfl⟩ := hm
        · exact hs.value j v hm
        · exact hc
      · rw [valuesOf_append]
        by_cases hji : j = i
        · subst hji
          have : r.has j = false := by simpa [hj] using hrep
          rw [has_eq_false_iff.1 this]
          simp [valuesOf]
        · have : valuesOf [(i, value)] j = [] := by simp [valuesOf, Ne.symm hji]
          rw [this, List.append_nil]
          exact hs.once j hj

/-- What is settled has taken effect, and no option is left that waits for its value. -/
theorem settle_eq_ok (h : r.settle = .ok r') :
    r.waitsFor = none ∧ r' = { r with given := r.soFar, pending := none } ∧
      (IsSound r.given → IsSound r'.given) := by
  obtain ⟨given, pending, operands, trailing⟩ := r
  rw [settle] at h
  obtain _ | ⟨i, _ | value⟩ := pending
  · cases h
    simp [waitsFor, soFar]
  · cases h
  · obtain ⟨rfl, hs⟩ := take_eq_ok h
    exact ⟨rfl, rfl, hs⟩

/-- An item that takes effect at once is gained, with its value. -/
theorem gains_of_takeNow (h : r.takeNow i value = .ok r') :
    r.waitsFor = none ∧ Gains r r' [(i, value)] none := by
  obtain ⟨s, hs, h⟩ := bind_eq_ok_iff.1 h
  obtain ⟨hw, rfl, hsound⟩ := settle_eq_ok hs
  obtain ⟨rfl, hsound'⟩ := take_eq_ok h
  refine ⟨hw, ?_, rfl, rfl, hsound' ∘ hsound⟩
  simp [soFar]

/-- An option whose effect is put off is gained with its value, or else waits for it. -/
theorem gains_of_takeLater {o : Option String} (h : r.takeLater i o = .ok r') :
    r.waitsFor = none ∧
      Gains r r' (o.map (i, ·)).toList (if o = none then some i else none) := by
  obtain ⟨s, hs, h⟩ := bind_eq_ok_iff.1 h
  obtain ⟨hw, rfl, hsound⟩ := settle_eq_ok hs
  cases h
  refine ⟨hw, ?_, ?_, rfl, hsound⟩
  · cases o <;> simp [soFar]
  · cases o <;> simp [waitsFor]

/-! ### Letters -/

theorem gains_refl (h : r.waitsFor = none) : Gains r r [] none :=
  ⟨(List.append_nil _).symm, h, rfl, id⟩

/-- Letters are only read where no option waits for its value. -/
theorem waitsFor_of_letters (h : r.letters l (c :: cs) = .ok r') : r.waitsFor = none := by
  unfold letters at h
  split at h
  · cases h
  · split at h
    · split at h
      · exact (gains_of_takeLater h).1
      · exact (gains_of_takeNow h).1
      · exact (gains_of_takeNow h).1
    · obtain ⟨s, hs, -⟩ := bind_eq_ok_iff.1 h
      exact (gains_of_takeNow hs).1

/-- Letters that are read are spelled. -/
theorem exists_cluster (hw : r.waitsFor = none) (h : r.letters l cs = .ok r') :
    ∃ items a, Cluster l cs items a ∧ Gains r r' items a := by
  induction cs generalizing r with
  | nil =>
    cases h
    exact ⟨_, _, .nil, gains_refl hw⟩
  | cons c cs ih =>
    unfold letters at h
    split at h
    · cases h
    · next i hi =>
      obtain ⟨hi, hc⟩ := Level.ofLetter?_eq_some_iff.1 hi
      split at h
      · next hv =>
        split at h
        · exact ⟨_, _, .apart hi hc hv, (gains_of_takeLater h).2⟩
        · exact ⟨_, _, .equals hi hc hv, (gains_of_takeNow h).2⟩
        · next hnil heq =>
          refine ⟨_, _, .attached hi hc hv hnil ?_, (gains_of_takeNow h).2⟩
          rintro he
          obtain ⟨value, rfl⟩ := List.head?_eq_some_iff.1 he
          exact heq value rfl
      · next hv =>
        obtain ⟨s, hs, h⟩ := bind_eq_ok_iff.1 h
        have hg := (gains_of_takeNow hs).2
        obtain ⟨items, a, hcl, hg'⟩ := ih hg.waitsFor_eq h
        exact ⟨_, _, .switch hi hc (by simpa using hv) hcl, hg.trans hg'⟩

/-- Letters that are spelled are read as that, if they are read. -/
theorem gains_of_cluster (hc : Cluster l cs items a) (hw : r.waitsFor = none)
    (h : r.letters l cs = .ok r') : Gains r r' items a := by
  induction hc generalizing r with
  | nil =>
    cases h
    exact gains_refl hw
  | switch hi hl hv _ ih =>
    rw [letters, Level.ofLetter?_eq_some_iff.2 ⟨hi, hl⟩] at h
    simp only [hv, Bool.false_eq_true, if_false] at h
    obtain ⟨s, hs, h⟩ := bind_eq_ok_iff.1 h
    have hg := (gains_of_takeNow hs).2
    exact hg.trans (ih hg.waitsFor_eq h)
  | @attached _ _ value hi hl hv hne heq =>
    rw [letters, Level.ofLetter?_eq_some_iff.2 ⟨hi, hl⟩] at h
    simp only [hv, if_true] at h
    split at h
    · exact absurd rfl hne
    · exact absurd rfl heq
    · exact (gains_of_takeNow h).2
  | equals hi hl hv =>
    rw [letters, Level.ofLetter?_eq_some_iff.2 ⟨hi, hl⟩] at h
    simp only [hv, if_true] at h
    exact (gains_of_takeNow h).2
  | apart hi hl hv =>
    rw [letters, Level.ofLetter?_eq_some_iff.2 ⟨hi, hl⟩] at h
    simp only [hv, if_true] at h
    exact (gains_of_takeLater h).2

/-! ### Words -/

/-- The name of a long option is what is in front of the first equals sign. -/
theorem splitLong_eq_iff {attached : Option String} : splitLong cs = (name, attached) ↔
    '=' ∉ name.toList ∧
      cs = name.toList ++ (attached.map fun value => '=' :: value.toList).getD [] := by
  have hother {piece : List Char} : (∀ c ∈ piece, (c != '=') = true) ↔ '=' ∉ piece := by
    simp only [bne_iff_ne, ne_eq]
    exact ⟨fun h hm => h _ hm rfl, fun h c hm hc => h (hc ▸ hm)⟩
  rw [splitLong, List.span_eq_takeWhile_dropWhile]
  constructor
  · intro h
    have hname : '=' ∉ cs.takeWhile (· != '=') := hother.1 fun _ => List.mem_takeWhile_imp
    have hcs := (List.takeWhile_append_dropWhile (p := (· != '=')) (l := cs)).symm
    have hhead := List.head?_dropWhile_not (· != '=') cs
    cases hd : cs.dropWhile (· != '=') with
    | nil =>
      rw [hd] at h hcs
      cases h
      rw [String.toList_ofList]
      exact ⟨hname, hcs⟩
    | cons c value =>
      rw [hd] at h hcs hhead
      obtain rfl : c = '=' := by simpa using hhead
      cases h
      rw [String.toList_ofList, Option.map_some, Option.getD_some, String.toList_ofList]
      exact ⟨hname, hcs⟩
  · rintro ⟨hname, rfl⟩
    have hends : Ends (· != '=') ((attached.map fun value => '=' :: value.toList).getD []) := by
      cases attached with
      | none => nofun
      | some value => rintro _ ⟨⟩; rfl
    rw [takeWhile_piece (hother.2 hname) hends, dropWhile_piece (hother.2 hname) hends]
    cases attached <;> simp

/-- A plain word is the value of the option that waits for one, or else an operand. -/
theorem argument_of_isPlain (hp : IsPlain word) : r.argument l word =
    match r.pending with
    | some ⟨i, none⟩ => .ok { r with pending := some ⟨i, some word⟩ }
    | _ => r.operand l word := by
  unfold argument
  split
  · next h => exact absurd h (hp _ _)
  · next h => exact absurd h (hp _ _)
  · next h => exact absurd h (hp _ _)
  · rfl

/-- A word behind two dashes is read as a long option. -/
theorem argument_long (hw : word.toList = '-' :: '-' :: cs) (hne : cs ≠ []) :
    r.argument l word = r.long l (splitLong cs).1 (splitLong cs).2 := by
  unfold argument
  split
  · next h =>
    cases hw.symm.trans h
    exact absurd rfl hne
  · next h =>
    cases hw.symm.trans h
    rfl
  · next hne' h =>
    cases hw.symm.trans h
    exact absurd rfl hne'
  · next h _ => exact absurd hw (h _)

/-- A word behind one dash is read letter by letter. -/
theorem argument_letters (hw : word.toList = '-' :: c :: cs) (hc : c ≠ '-') :
    r.argument l word = r.letters l (c :: cs) := by
  unfold argument
  split
  · next h =>
    cases hw.symm.trans h
    exact absurd rfl hc
  · next h =>
    cases hw.symm.trans h
    exact absurd rfl hc
  · next h =>
    cases hw.symm.trans h
    rfl
  · next h => exact absurd hw (h _ _)

/-- What a long option comes to, by whether it takes a value and whether one is attached to it. -/
inductive Long (r r' : Reading) (i : Item) : Option String → Prop
  | switch : i.takesValue = false → Gains r r' [(i, "")] none → Long r r' i none
  | attached {value : String} : i.takesValue = true → Gains r r' [(i, value)] none →
      Long r r' i (some value)
  | apart : i.takesValue = true → Gains r r' [] (some i) → Long r r' i none

/-- A long option that is read is one of the level, and comes to what it may. -/
theorem long_of_long {attached : Option String} (h : r.long l name attached = .ok r') :
    r.waitsFor = none ∧ ∃ i, l.ofLong? name = some i ∧ Long r r' i attached := by
  unfold long at h
  split at h
  · cases h
  · next i hi =>
    split at h
    · next hv =>
      obtain ⟨hw, hg⟩ := gains_of_takeNow h
      exact ⟨hw, i, hi, .attached hv hg⟩
    · next hv =>
      obtain ⟨hw, hg⟩ := gains_of_takeLater h
      exact ⟨hw, i, hi, .apart hv hg⟩
    · cases h
    · next hv =>
      obtain ⟨hw, hg⟩ := gains_of_takeNow h
      exact ⟨hw, i, hi, .switch hv hg⟩

/-- An operand that is read is one that the level takes. -/
theorem gains_of_operand (h : r.operand l word = .ok r') :
    0 < l.operands ∧ r.waitsFor = none ∧ Gains r r' [(.container, word)] none := by
  unfold operand at h
  split at h
  · next hlt =>
    obtain ⟨s, hs, h⟩ := bind_eq_ok_iff.1 h
    cases h
    obtain ⟨hw, hg⟩ := gains_of_takeLater hs
    exact ⟨Nat.zero_lt_of_lt hlt, hw, hg.soFar_eq, hg.waitsFor_eq, hg.trailing_eq, hg.isSound⟩
  · split at h <;> cases h

/-- A value for the option that waits for it. -/
theorem gains_value (hp : r.pending = some ⟨i, none⟩) :
    r.waitsFor = some i ∧ Gains r { r with pending := some ⟨i, some word⟩ } [(i, word)] none := by
  have hw : r.waitsFor = some i := by rw [waitsFor, hp]
  refine ⟨hw, ?_, rfl, rfl, id⟩
  simp [soFar, hp]

/-- A word that is read is spelled. -/
theorem exists_spelled (hne : word ≠ "--") (h : r.argument l word = .ok r') :
    ∃ items a, Spelled l r.waitsFor word items a ∧ Gains r r' items a := by
  by_cases hp : IsPlain word
  · rw [argument_of_isPlain hp] at h
    split at h
    · next i hpending =>
      cases h
      obtain ⟨hw, hg⟩ := gains_value hpending
      exact ⟨_, _, hw ▸ .value hp, hg⟩
    · obtain ⟨hl, hw, hg⟩ := gains_of_operand h
      exact ⟨_, _, hw ▸ .operand hp hl, hg⟩
  · obtain ⟨c, cs, hcs⟩ : ∃ c cs, word.toList = '-' :: c :: cs := by
      simpa [IsPlain] using hp
    have hword : word = String.ofList ('-' :: c :: cs) := by rw [← hcs, String.ofList_toList]
    by_cases hc : c = '-'
    · subst hc
      have hnil : cs ≠ [] := by
        rintro rfl
        exact hne hword
      rw [argument_long hcs hnil] at h
      obtain ⟨-, hsplit⟩ := splitLong_eq_iff.1 (Prod.eta (splitLong cs)).symm
      obtain ⟨hw, i, hi, hlong⟩ := long_of_long h
      obtain ⟨hi, hn⟩ := Level.ofLong?_eq_some_iff.1 hi
      generalize (splitLong cs).1 = name at hn hsplit
      generalize (splitLong cs).2 = attached at hlong hsplit
      rw [hw]
      cases hlong with
      | switch hv hg =>
        obtain rfl : word = "--" ++ name := String.toList_inj.1 (by simp [hcs, hsplit])
        exact ⟨_, _, .switch hi hn hv, hg⟩
      | @attached value hv hg =>
        obtain rfl : word = "--" ++ name ++ "=" ++ value :=
          String.toList_inj.1 (by simp [hcs, hsplit])
        exact ⟨_, _, .attached hi hn hv, hg⟩
      | apart hv hg =>
        obtain rfl : word = "--" ++ name := String.toList_inj.1 (by simp [hcs, hsplit])
        exact ⟨_, _, .apart hi hn hv, hg⟩
    · rw [argument_letters hcs hc] at h
      have hw := waitsFor_of_letters h
      obtain ⟨items, a, hcl, hg⟩ := exists_cluster hw h
      exact ⟨items, a, by rw [hw, hword]; exact .letters hcl, hg⟩

/-- The words of long options. -/
theorem argument_name (hn : i.long? = some name) :
    r.argument l ("--" ++ name) = r.long l name none := by
  obtain ⟨heq, hne⟩ := Level.long?_ne hn
  have hs : splitLong name.toList = (name, none) := splitLong_eq_iff.2 ⟨heq, by simp⟩
  rw [argument_long (by rw [String.toList_append]; rfl) hne, hs]

/-- A long option may have its value attached to it. -/
theorem argument_name_value (hn : i.long? = some name) :
    r.argument l ("--" ++ name ++ "=" ++ value) = r.long l name (some value) := by
  obtain ⟨heq, hne⟩ := Level.long?_ne hn
  have hs : splitLong (name.toList ++ '=' :: value.toList) = (name, some value) :=
    splitLong_eq_iff.2 ⟨heq, by simp⟩
  have hw : ("--" ++ name ++ "=" ++ value).toList =
      '-' :: '-' :: (name.toList ++ '=' :: value.toList) := by simp
  rw [argument_long hw (by simp), hs]

theorem waitsFor_eq_some_iff : r.waitsFor = some i ↔ r.pending = some ⟨i, none⟩ := by
  unfold waitsFor
  split
  · next hp => simp [hp]
  · next hp =>
    refine ⟨nofun, fun h => absurd h (hp i)⟩

theorem long_of_ofLong? {attached : Option String} (hi : i ∈ l.options) (hn : i.long? = some name)
    (h : r.long l name attached = .ok r') : Long r r' i attached := by
  obtain ⟨-, j, hj, hlong⟩ := long_of_long h
  obtain rfl : i = j := Option.some.inj ((Level.ofLong?_eq_some_iff.2 ⟨hi, hn⟩).symm.trans hj)
  exact hlong

/-- A word that is spelled is read as that, if it is read. -/
theorem gains_of_spelled (hs : Spelled l r.waitsFor word items a) (h : r.argument l word = .ok r') :
    Gains r r' items a := by
  generalize hw : r.waitsFor = b at hs
  cases hs with
  | value hp =>
    have hpending := waitsFor_eq_some_iff.1 hw
    rw [argument_of_isPlain hp, hpending] at h
    cases h
    exact (gains_value hpending).2
  | operand hp hl =>
    rw [argument_of_isPlain hp] at h
    split at h
    · next hpending => exact absurd (hw.symm.trans (waitsFor_eq_some_iff.2 hpending)) nofun
    · exact (gains_of_operand h).2.2
  | switch hi hn hv =>
    rw [argument_name hn] at h
    obtain ⟨-, hg⟩ | - | ⟨hv', -⟩ := long_of_ofLong? hi hn h
    · exact hg
    · exact absurd (hv.symm.trans hv') Bool.false_ne_true
  | attached hi hn hv =>
    rw [argument_name_value hn] at h
    obtain - | ⟨-, hg⟩ | - := long_of_ofLong? hi hn h
    exact hg
  | apart hi hn hv =>
    rw [argument_name hn] at h
    obtain ⟨hv', -⟩ | - | ⟨-, hg⟩ := long_of_ofLong? hi hn h
    · exact absurd (hv'.symm.trans hv) Bool.false_ne_true
    · exact hg
  | @letters c cs _ _ hc =>
    have hdash : c ≠ '-' := by
      cases hc with
      | switch _ hl | attached _ hl | equals _ hl | apart _ hl => exact Level.letter?_ne hl
    rw [argument_letters String.toList_ofList hdash] at h
    exact gains_of_cluster hc hw h

/-! ### Lines -/

theorem awaits_eq (r : Reading) : r.awaits = r.waitsFor.isSome := by
  unfold awaits waitsFor
  obtain _ | ⟨i, _ | value⟩ := r.pending <;> rfl

/-- No option is a command. -/
theorem not_mem_commands (hs : Spelled l none word items a) : word ∉ l.commands := by
  have hdash : ∀ w ∈ l.commands, w.toList.head? ≠ some '-' := by cases l <;> decide
  intro hm
  have hhead := hdash _ hm
  cases hs with
  | operand _ hl => cases l <;> simp [Level.commands, Level.operands] at hm hl
  | letters _ => simp at hhead
  | _ => simp at hhead

/-- What a word comes to that is not behind two dashes alone. -/
inductive Steps (l : Level) (r : Reading) (word : String) : Next → Prop
  | command : r.waitsFor = none → word ∈ l.commands → Steps l r word (.command word)
  | dashes : word = "--" → Steps l r word (.more { r with trailing := true })
  | spelled {r' : Reading} {items : List (Item × String)} {a : Option Item} :
      Spelled l r.waitsFor word items a → Gains r r' items a → Steps l r word (.more r')

/-- A step that is taken is a command, two dashes alone, or a word that is spelled. -/
theorem steps_of_step {next : Next} (ht : r.trailing = false) (h : r.step l word = .ok next) :
    Steps l r word next := by
  rw [step, ht, if_neg Bool.false_ne_true] at h
  split at h
  · next hc =>
    cases h
    simp only [awaits_eq, Bool.and_eq_true, Bool.not_eq_true', Option.isSome_eq_false_iff,
      Option.isNone_iff_eq_none, List.contains_iff_mem] at hc
    exact .command hc.1 hc.2
  · cases hr : r.argument l word with
    | error refusal =>
      rw [hr] at h
      cases h
    | ok r' =>
      rw [hr] at h
      cases h
      by_cases hword : word = "--"
      · subst hword
        cases hr
        exact .dashes rfl
      · obtain ⟨items, a, hs, hg⟩ := exists_spelled hword hr
        exact .spelled hs hg

/-- A word that is spelled gains what it spells, if it is taken. -/
theorem step_of_spelled {next : Next} (ht : r.trailing = false)
    (hs : Spelled l r.waitsFor word items a) (h : r.step l word = .ok next) :
    ∃ r', next = .more r' ∧ Gains r r' items a := by
  have hc : ¬ (!r.awaits && l.commands.contains word) = true := by
    simp only [awaits_eq, Bool.and_eq_true, Bool.not_eq_true', Option.isSome_eq_false_iff,
      Option.isNone_iff_eq_none, List.contains_iff_mem]
    rintro ⟨hw, hm⟩
    exact not_mem_commands (hw ▸ hs) hm
  rw [step, ht, if_neg Bool.false_ne_true, if_neg hc] at h
  cases hr : r.argument l word with
  | error refusal =>
    rw [hr] at h
    cases h
  | ok r' =>
    rw [hr] at h
    cases h
    exact ⟨r', rfl, gains_of_spelled hs hr⟩

/-- The command that ends a level, and the words behind it. -/
def behind : Option (String × List String) → List String
  | none => []
  | some (name, words) => name :: words

/-- Items have been added, and nothing waits for its value. -/
structure Completes (r r' : Reading) (items : List (Item × String)) : Prop where
  soFar_eq : r'.soFar = r.soFar ++ items
  waitsFor_eq : r'.waitsFor = none
  isSound : IsSound r.given → IsSound r'.given

theorem Gains.completes {r'' : Reading} (h : Gains r r' items a) (h' : Completes r' r'' more) :
    Completes r r'' (items ++ more) where
  soFar_eq := by rw [h'.soFar_eq, h.soFar_eq, List.append_assoc]
  waitsFor_eq := h'.waitsFor_eq
  isSound := h'.isSound ∘ h.isSound

theorem completes_refl (h : r.waitsFor = none) : Completes r r [] :=
  ⟨(List.append_nil _).symm, h, id⟩

/-- Behind two dashes alone all words are operands. -/
theorem gains_of_trailing {rest : Option (String × List String)} {back : List String}
    (ht : r.trailing = true) (h : r.run l (words ++ back) = .ok (r', rest)) :
    ∃ r₁, run l r₁ back = .ok (r', rest) ∧
      Gains r r₁ (words.map (Item.container, ·)) r.waitsFor := by
  induction words generalizing r with
  | nil => exact ⟨r, h, (List.append_nil _).symm, rfl, rfl, id⟩
  | cons word words ih =>
    rw [List.cons_append, run, step, ht, if_pos rfl] at h
    cases ho : r.operand l word with
    | error refusal =>
      rw [ho] at h
      cases h
    | ok s =>
      rw [ho] at h
      obtain ⟨-, hw, hg⟩ := gains_of_operand ho
      obtain ⟨r₁, hrun, hg'⟩ := ih (hg.trailing_eq.trans ht) h
      rw [hg.waitsFor_eq] at hg'
      exact ⟨r₁, hrun, hw ▸ hg.trans hg'⟩

/-- A line that is read is spelled, up to the command that ends it. -/
theorem exists_spells {rest : Option (String × List String)} (ht : r.trailing = false)
    (h : r.run l words = .ok (r', rest)) (hw : r'.waitsFor = none) :
    ∃ front items, words = front ++ behind rest ∧ (∀ c ∈ rest, c.1 ∈ l.commands) ∧
      Spells l r.waitsFor items front ∧ Completes r r' items := by
  induction words generalizing r with
  | nil =>
    cases h
    exact ⟨[], [], rfl, nofun, hw ▸ .done, completes_refl hw⟩
  | cons word words ih =>
    rw [run] at h
    split at h
    · cases h
    · next name hstep =>
      cases h
      generalize hn : Next.command name = next at hstep
      cases steps_of_step ht hstep with
      | command hwait hm =>
        cases hn
        refine ⟨[], [], rfl, ?_, hwait ▸ .done, completes_refl hwait⟩
        rintro _ ⟨⟩
        exact hm
      | dashes _ | spelled _ _ => cases hn
    · next r₁ hstep =>
      generalize hn : Next.more r₁ = next at hstep
      cases steps_of_step ht hstep with
      | command _ _ => cases hn
      | dashes hword =>
        cases hn
        subst hword
        rw [← List.append_nil words] at h
        obtain ⟨r₁, hrun, hg⟩ := gains_of_trailing rfl h
        cases hrun
        have hwait : r.waitsFor = none := hg.waitsFor_eq.symm.trans hw
        exact ⟨_, _, (List.append_nil _).symm, nofun, hwait ▸ .rest words, hg.soFar_eq, hw,
          hg.isSound⟩
      | spelled hs hg =>
        cases hn
        obtain ⟨front, items, rfl, hm, hs', hc⟩ := ih (hg.trailing_eq.trans ht) h
        exact ⟨word :: front, _, rfl, hm, .word hs (hg.waitsFor_eq ▸ hs'), hg.completes hc⟩

/-- A line that is spelled is read as that, if it is read. -/
theorem completes_of_spells {rest : Option (String × List String)} {front back : List String}
    (hs : Spells l a items front) (ha : r.waitsFor = a) (ht : r.trailing = false)
    (h : r.run l (front ++ back) = .ok (r', rest)) :
    ∃ r₁, run l r₁ back = .ok (r', rest) ∧ Completes r r₁ items := by
  induction hs generalizing r with
  | done => exact ⟨r, h, completes_refl ha⟩
  | word hs _ ih =>
    subst ha
    rw [List.cons_append, run] at h
    cases hn : r.step l _ with
    | error refusal =>
      rw [hn] at h
      cases h
    | ok next =>
      obtain ⟨s, rfl, hg⟩ := step_of_spelled ht hs hn
      rw [hn] at h
      obtain ⟨r₁, hrun, hc⟩ := ih hg.waitsFor_eq (hg.trailing_eq.trans ht) h
      exact ⟨r₁, hrun, hg.completes hc⟩
  | rest words =>
    have hstep : r.step l "--" = .ok (.more { r with trailing := true }) := by
      have hc : "--" ∉ l.commands := by cases l <;> decide
      have hc : ¬ (!r.awaits && l.commands.contains "--") = true := by simp [hc]
      rw [step, ht, if_neg Bool.false_ne_true, if_neg hc]
      rfl
    rw [List.cons_append, run, hstep] at h
    obtain ⟨r₁, hrun, hg⟩ := gains_of_trailing rfl h
    exact ⟨r₁, hrun, hg.soFar_eq, hg.waitsFor_eq.trans ha, hg.isSound⟩

end Reading

end Readiness.Command
