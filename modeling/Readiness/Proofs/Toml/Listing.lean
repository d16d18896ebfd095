import Mathlib.Data.List.TakeDrop
import Readiness.Proofs.Data.Reading
import Readiness.Proofs.Text.Numeral
import Readiness.Toml.Document

/-!
# Documents that list plain fields

A listing has a field in every line, whose value is a number without a sign or a truth value. It reads
as what it lists, in the same order (`parse_listing`): a line is one statement, and the document goes
on behind its end (`statements_append`); and statements whose keys have one part put their values one
after the other (`build_defines`).
-/

namespace Readiness.Toml

theorem ne_of_class {p : Char → Bool} {c d : Char} (hc : p c = true) (hd : p d = false) : c ≠ d :=
  fun h => absurd (h ▸ hc) (Bool.eq_false_iff.1 hd)

/-- What begins with a character of a class does not begin with one outside. -/
theorem cons_ne_of_class {p : Char → Bool} {c d : Char} {cs ds : List Char} (hc : p c = true)
    (hd : p d = false) : c :: cs ≠ d :: ds := fun h => ne_of_class hc hd (List.cons.inj h).1

/-! ### Ends of lines -/

/-- The end of a line or of the document, and what is left behind it. -/
inductive LineEnd : List Char → List Char → Prop
  | document : LineEnd [] []
  | line (rest : List Char) : LineEnd ('\n' :: rest) rest

variable {c : Char} {cs ds rest : List Char} {n : Nat}

namespace LineEnd

theorem endOfLine? (h : LineEnd cs rest) : endOfLine? cs = some rest := by
  cases h <;> rfl

theorem skipSpaces_eq (h : LineEnd cs rest) : skipSpaces cs = cs := by
  cases h <;> rfl

theorem length_le (h : LineEnd cs rest) : rest.length ≤ cs.length := by
  cases h <;> simp

end LineEnd

/-! ### Numbers -/

theorem isDigit_eq (c : Char) : isDigit c = c.isDigit := by
  rw [Bool.eq_iff_iff, Char.isDigit_iff_toNat]
  simp only [isDigit, Bool.and_eq_true, decide_eq_true_eq, Char.le_def, UInt32.le_iff_toNat_le]
  rfl

theorem hexDigit?_of_isDigit : c.isDigit = true → hexDigit? c = some (c.toNat - '0'.toNat) :=
  forall_isDigit (P := fun c => hexDigit? c = some (c.toNat - '0'.toNat)) (by decide)

/-- The value of digits in base ten is that of the decimal. -/
theorem value_eq (hd : ∀ d ∈ ds, d.isDigit = true) : value 10 ds = Nat.ofDigitChars 10 ds 0 := by
  -- By induction on the digits, behind any value already gathered.
  suffices h : ∀ n, ds.foldl (fun n d => n * 10 + (hexDigit? d).getD 0) n =
      Nat.ofDigitChars 10 ds n from h 0
  induction ds with
  | nil => exact fun n => Nat.ofDigitChars_nil.symm
  | cons d ds ih =>
    intro n
    obtain ⟨hc, hd⟩ := List.forall_mem_cons.1 hd
    rw [List.foldl_cons, Nat.ofDigitChars_cons, ih hd, hexDigit?_of_isDigit hc, Nat.mul_comm]
    rfl

/-- The digits behind a digit are read up to the end of the line. -/
theorem digitsBehind_append (hd : ∀ d ∈ ds, d.isDigit = true) (he : LineEnd cs rest) :
    digitsBehind isDigit (ds ++ cs) = (ds, cs) := by
  induction ds with
  | nil => cases he <;> rfl
  | cons d ds ih =>
    obtain ⟨hc, hd⟩ := List.forall_mem_cons.1 hd
    have hu : d ≠ '_' := ne_of_class hc rfl
    rw [List.cons_append, digitsBehind]
    · simp only [isDigit_eq, hc, if_true, ih hd]
    · simp [hu]

theorem digits?_append (hn : ds ≠ []) (hd : ∀ d ∈ ds, d.isDigit = true) (he : LineEnd cs rest) :
    digits? isDigit (ds ++ cs) = some (ds, cs) := by
  cases ds with
  | nil => contradiction
  | cons d ds =>
    obtain ⟨hc, hd⟩ := List.forall_mem_cons.1 hd
    rw [List.cons_append, digits?, isDigit_eq, if_pos hc, digitsBehind_append hd he]

theorem wholeDigits_append (n : Nat) (he : LineEnd cs rest) :
    wholeDigits (Nat.toDigits 10 n ++ cs) = some (Nat.toDigits 10 n, cs) := by
  obtain rfl | hn := Nat.eq_zero_or_pos n
  · simp [wholeDigits]
  · obtain ⟨c, ds, hc, h0⟩ := toDigits_eq_cons hn
    have h := digits?_append Nat.toDigits_ne_nil (fun _ => isDigit_of_mem_toDigits (n := n)) he
    rw [hc, List.cons_append] at h ⊢
    rw [wholeDigits]
    · exact h
    · simp [h0]

/-- A number in decimal is read up to the end of the line. -/
theorem decimal_append (hn : (n : Int) ≤ maxInteger) (he : LineEnd cs rest) :
    decimal false (Nat.toDigits 10 n ++ cs) = some (.integer n, cs) := by
  have hf : fraction? cs = some ([], cs) := by cases he <;> rfl
  have hx : exponent? cs = some (none, cs) := by cases he <;> rfl
  have hv : value 10 (Nat.toDigits 10 n) = n := by
    rw [value_eq fun _ => isDigit_of_mem_toDigits, Nat.ofDigitChars_ten_toDigits]
  have hm : minInteger ≤ n := by unfold minInteger; omega
  simp [decimal, wholeDigits_append n he, hf, hx, hv, inRange, hm, hn]

/-- A time and a date go on behind their first digits. -/
theorem dropWhile_of_momentBegins (h : momentBegins cs = true) :
    ∃ rest, cs.dropWhile isDigit = ':' :: rest ∨ cs.dropWhile isDigit = '-' :: rest := by
  unfold momentBegins at h
  split at h
  · rename_i rest
    obtain ⟨ha, hb⟩ := Bool.and_eq_true_iff.1 h
    refine ⟨rest, .inl ?_⟩
    rw [List.dropWhile_cons_of_pos ha, List.dropWhile_cons_of_pos hb,
      List.dropWhile_cons_of_neg (by decide)]
  · rename_i rest _
    simp only [Bool.and_eq_true] at h
    obtain ⟨⟨⟨ha, hb⟩, hc⟩, hd⟩ := h
    refine ⟨rest, .inr ?_⟩
    rw [List.dropWhile_cons_of_pos ha, List.dropWhile_cons_of_pos hb, List.dropWhile_cons_of_pos hc,
      List.dropWhile_cons_of_pos hd, List.dropWhile_cons_of_neg (by decide)]
  · cases h

/-- No digits in front of an end of a line begin a date. -/
theorem momentBegins_append (hd : ∀ d ∈ ds, d.isDigit = true) (he : LineEnd cs rest) :
    momentBegins (ds ++ cs) = false := by
  rw [← Bool.not_eq_true]
  intro hm
  obtain ⟨_, h⟩ := dropWhile_of_momentBegins hm
  rw [List.dropWhile_append_of_pos fun d h => (isDigit_eq d).trans (hd d h)] at h
  cases he <;> obtain h | h := h <;> cases h

theorem sign_of_isDigit (hc : c.isDigit = true) : sign (c :: cs) = (false, c :: cs) := by
  unfold sign
  split
  · rename_i h
    exact absurd h (cons_ne_of_class hc rfl)
  · rename_i h
    exact absurd h (cons_ne_of_class hc rfl)
  · rfl

/-- A number in decimal: no letter that names a radix is behind the first digit. -/
theorem number_of_isDigit (hc : c.isDigit = true)
    (hr : ∀ d tail, cs = d :: tail → d.isDigit = true ∨ d = '\n') :
    number (c :: cs) = decimal false (c :: cs) := by
  -- A zero with a letter behind it would begin a number of another radix.
  have hx : ∀ d tail, d.isDigit = false → d ≠ '\n' → c :: cs ≠ '0' :: d :: tail := by
    intro d tail hd hl h
    obtain h | h := hr d tail (List.cons.inj h).2
    · exact ne_of_class h hd rfl
    · exact hl h
  unfold number
  split
  · rename_i h
    exact absurd h (hx 'x' _ rfl (by decide))
  · rename_i h
    exact absurd h (hx 'o' _ rfl (by decide))
  · rename_i h
    exact absurd h (hx 'b' _ rfl (by decide))
  · rw [sign_of_isDigit hc]
    dsimp only
    split
    · rename_i h
      exact absurd h (cons_ne_of_class hc rfl)
    · rename_i h
      exact absurd h (cons_ne_of_class hc rfl)
    · rfl

/-- A number is read as a scalar, and nothing else. -/
theorem scalar_append (hn : (n : Int) ≤ maxInteger) (he : LineEnd cs rest) :
    scalar (Nat.toDigits 10 n ++ cs) = some (.integer n, cs) := by
  rw [scalar, momentBegins_append (fun _ => isDigit_of_mem_toDigits) he, if_neg Bool.false_ne_true,
    ← decimal_append hn he]
  obtain ⟨c, ds, hcs, hc, hd⟩ := exists_toDigits n
  rw [hcs]
  refine number_of_isDigit hc fun d tail h => ?_
  cases ds with
  | nil => cases he <;> cases h; exact .inr rfl
  | cons d' ds => cases h; exact .inl (hd _ List.mem_cons_self)

/-! ### Lines -/

/-- A value of one word: a number without a sign, or a truth value. -/
inductive Word
  | number (n : Nat)
  | switch (on : Bool)
  deriving DecidableEq, Repr

namespace Word

def text : Word → String
  | number n => toString n
  | switch on => toString on

def datum : Word → Datum
  | number n => .integer n
  | switch on => .boolean on

/-- A document has no greater numbers than those of 64 bits with a sign. -/
def Fits : Word → Prop
  | number n => (n : Int) ≤ maxInteger
  | switch _ => True

end Word

/-- What begins with a digit is a scalar. -/
theorem datum_of_isDigit (depth : Nat) (hc : c.isDigit = true) :
    datum depth (c :: cs) = scalar (c :: cs) := by
  unfold datum
  split
  all_goals first
    | rename_i h; exact absurd h (cons_ne_of_class hc rfl)
    | rfl

theorem datum_true (depth : Nat) (cs : List Char) :
    datum depth ('t' :: cs) = (word "true" ('t' :: cs)).map (.boolean true, ·) := by
  unfold datum; rfl

theorem datum_false (depth : Nat) (cs : List Char) :
    datum depth ('f' :: cs) = (word "false" ('f' :: cs)).map (.boolean false, ·) := by
  unfold datum; rfl

theorem word_append (w : String) (cs : List Char) : word w (w.toList ++ cs) = some cs := by
  rw [word, if_pos (List.isPrefixOf_iff_prefix.2 (List.prefix_append _ _)),
    List.drop_left' String.length_toList]

/-- The word of a field is read as its datum, up to the end of the line. -/
theorem datum_append (depth : Nat) {w : Word} (hw : w.Fits) (he : LineEnd cs rest) :
    datum depth (w.text.toList ++ cs) = some (w.datum, cs) := by
  cases w with
  | number n =>
    have hs := scalar_append hw he
    obtain ⟨c, ds, hcs, hc, -⟩ := exists_toDigits n
    rw [Word.text, toList_toString]
    rw [hcs, List.cons_append] at hs ⊢
    rw [datum_of_isDigit depth hc, hs]
    rfl
  | switch on =>
    cases on with
    | false =>
      exact (datum_false depth _).trans
        (congrArg (Option.map (Datum.boolean false, ·)) (word_append "false" cs))
    | true =>
      exact (datum_true depth _).trans
        (congrArg (Option.map (Datum.boolean true, ·)) (word_append "true" cs))

/-- A key that may stand as it is. -/
def IsBareKey (name : String) : Prop := name ≠ "" ∧ name.toList.all isBare = true

instance (name : String) : Decidable (IsBareKey name) := inferInstanceAs (Decidable (_ ∧ _))

theorem IsBareKey.forall_isBare {name : String} (hn : IsBareKey name) :
    ∀ c ∈ name.toList, isBare c = true :=
  List.all_eq_true.1 hn.2

theorem IsBareKey.exists_cons {name : String} (hn : IsBareKey name) :
    ∃ c cs, name.toList = c :: cs ∧ isBare c = true := by
  obtain ⟨c, cs, hc⟩ := List.exists_cons_of_ne_nil (mt String.toList_eq_nil_iff.1 hn.1)
  exact ⟨c, cs, hc, hn.forall_isBare c (hc ▸ List.mem_cons_self)⟩

theorem skipSpaces_of_isBare (hc : isBare c = true) : skipSpaces (c :: cs) = c :: cs := by
  have hs : isSpace c = false := by
    simp only [isSpace, Bool.or_eq_false_iff, beq_eq_false_iff_ne]
    exact ⟨ne_of_class hc rfl, ne_of_class hc rfl⟩
  rw [skipSpaces, List.dropWhile_cons_of_neg (by simp [hs])]

/-- A bare key is read up to the first character that is not bare. -/
theorem simpleKey_append {name : String} (hn : IsBareKey name) (hc : isBare c = false) :
    simpleKey (name.toList ++ c :: cs) = some (name, c :: cs) := by
  have hs : (name.toList ++ c :: cs).span isBare = (name.toList, c :: cs) := by
    rw [List.span_eq_takeWhile_dropWhile, List.takeWhile_append_of_pos hn.forall_isBare,
      List.dropWhile_append_of_pos hn.forall_isBare, List.takeWhile_cons_of_neg (by simp [hc]),
      List.dropWhile_cons_of_neg (by simp [hc]), List.append_nil]
  have hne : name.toList ≠ [] := mt String.toList_eq_nil_iff.1 hn.1
  obtain ⟨d, ds, hd, hb⟩ := hn.exists_cons
  unfold simpleKey
  split
  · rename_i h
    rw [hd] at h
    exact absurd h (cons_ne_of_class hb rfl)
  · rename_i h
    rw [hd] at h
    exact absurd h (cons_ne_of_class hb rfl)
  · rw [hs]
    simp [hne]

/-- A key of one part is read up to the equals sign. -/
theorem keyPath_append {name : String} (hn : IsBareKey name) (cs : List Char) :
    keyPath (name.toList ++ ' ' :: '=' :: cs) = some ([name], '=' :: cs) := by
  obtain ⟨c, ds, hc, hb⟩ := hn.exists_cons
  have hs : simpleKey (name.toList ++ ' ' :: '=' :: cs) = some (name, ' ' :: '=' :: cs) :=
    simpleKey_append hn rfl
  rw [keyPath, key]
  have hk : skipSpaces (name.toList ++ ' ' :: '=' :: cs) = name.toList ++ ' ' :: '=' :: cs := by
    rw [hc, List.cons_append, skipSpaces_of_isBare hb]
  rw [hk, hs]
  have hq : skipSpaces (' ' :: '=' :: cs) = '=' :: cs := rfl
  simp [hq, maxKeyParts]

/-- A field in a line of its own. -/
def line (field : String × Word) : String := field.1 ++ " = " ++ field.2.text

theorem toList_line (field : String × Word) :
    (line field).toList = field.1.toList ++ ' ' :: '=' :: ' ' :: field.2.text.toList := by
  simp [line]

theorem exists_toList_line {field : String × Word} (hn : IsBareKey field.1) :
    ∃ c cs, (line field).toList = c :: cs ∧ isBare c = true := by
  obtain ⟨c, cs, hc, hb⟩ := hn.exists_cons
  exact ⟨c, cs ++ ' ' :: '=' :: ' ' :: field.2.text.toList, by rw [toList_line, hc]; rfl, hb⟩

theorem isBare_of_isDigit : c.isDigit = true → isBare c = true :=
  forall_isDigit (P := fun c => isBare c = true) (by decide)

theorem Word.exists_toList_text (w : Word) :
    ∃ c cs, w.text.toList = c :: cs ∧ isBare c = true := by
  cases w with
  | number n =>
    obtain ⟨c, cs, hcs, hc, -⟩ := exists_toDigits n
    exact ⟨c, cs, (toList_toString n).trans hcs, isBare_of_isDigit hc⟩
  | switch on =>
    cases on with
    | false => exact ⟨'f', _, rfl, rfl⟩
    | true => exact ⟨'t', _, rfl, rfl⟩

theorem Word.skipSpaces_text (w : Word) (cs : List Char) :
    skipSpaces (w.text.toList ++ cs) = w.text.toList ++ cs := by
  obtain ⟨c, ds, hc, hb⟩ := w.exists_toList_text
  rw [hc, List.cons_append, skipSpaces_of_isBare hb]

/-- A line is read as its key and its datum. -/
theorem pair?_append (depth : Nat) {field : String × Word} (hn : IsBareKey field.1)
    (hw : field.2.Fits) (he : LineEnd cs rest) :
    pair? (datum depth) ((line field).toList ++ cs) = some (([field.1], field.2.datum), cs) := by
  rw [toList_line, List.append_assoc]
  have hs : skipSpaces (' ' :: (field.2.text.toList ++ cs)) = field.2.text.toList ++ cs :=
    field.2.skipSpaces_text cs
  simp [pair?, keyPath_append hn, expect, hs, datum_append depth hw he, he.skipSpaces_eq]

/-- A line is read as one statement. -/
theorem statement_append {field : String × Word} (hn : IsBareKey field.1) (hw : field.2.Fits)
    (he : LineEnd cs rest) :
    statement ((line field).toList ++ cs) = some (.define [field.1] field.2.datum, rest) := by
  have hp := pair?_append maxDepth hn hw he
  obtain ⟨c, ds, hc, hb⟩ := exists_toList_line hn
  rw [hc, List.cons_append] at hp ⊢
  unfold statement
  split
  · rename_i h
    exact absurd h (cons_ne_of_class hb rfl)
  · rename_i h
    exact absurd h (cons_ne_of_class hb rfl)
  · simp [hp, he.endOfLine?]

/-- A line is one statement, and the document goes on behind its end. -/
theorem statements_append {field : String × Word} (hn : IsBareKey field.1) (hw : field.2.Fits)
    (he : LineEnd cs rest) : statements ((line field).toList ++ cs) =
      (statements rest).map (.define [field.1] field.2.datum :: ·) := by
  have hs := statement_append hn hw he
  obtain ⟨c, ds, hc, hb⟩ := exists_toList_line hn
  have hl : rest.length < (c :: (ds ++ cs)).length := by
    have := he.length_le
    simp only [List.length_cons, List.length_append]
    omega
  have hnl : (c == '#' || c == '\n' || c == '\r') = false := by
    simp only [Bool.or_eq_false_iff, beq_eq_false_iff_ne]
    exact ⟨⟨ne_of_class hb rfl, ne_of_class hb rfl⟩, ne_of_class hb rfl⟩
  rw [hc, List.cons_append] at hs ⊢
  rw [statements, skipSpaces_of_isBare hb]
  simp only [hnl, Bool.false_eq_true, if_false, hs, if_pos hl]

/-! ### Listings -/

/-- Fields in lines, with an end behind the last line or without. -/
def listing (fields : List (String × Word)) (ending : String) : String :=
  "\n".intercalate (fields.map line) ++ ending

/-- What is listed. -/
def contents (fields : List (String × Word)) : List (String × Datum) :=
  fields.map fun field => (field.1, field.2.datum)

theorem distinctNames_contents {fields : List (String × Word)} (hd : DistinctNames fields) :
    DistinctNames (contents fields) := by
  rw [DistinctNames, contents, List.map_map]
  exact hd

theorem listing_nil {ending : String} : listing [] ending = ending := by
  rw [listing, List.map_nil, String.intercalate_nil, String.empty_append]

variable {fields : List (String × Word)} {field next : String × Word} {ending : String}

theorem listing_singleton : listing [field] ending = line field ++ ending := by
  rw [listing, List.map_cons, List.map_nil, String.intercalate_singleton]

theorem listing_cons_cons :
    listing (field :: next :: fields) ending =
      line field ++ ("\n" ++ listing (next :: fields) ending) := by
  simp only [listing, List.map_cons, String.intercalate_cons_cons, String.append_assoc]

/-- An end of a document holds no statement. -/
theorem statements_ending (he : LineEnd cs []) : statements cs = some [] := by
  have hn : statements [] = some [] := by rw [statements]; rfl
  cases he with
  | document => exact hn
  | line =>
    rw [statements]
    simp [skipSpaces, isSpace, endOfLine?, skipComment, newline?, hn]

/-- A listing is read as its fields, in their order. -/
theorem statements_listing (hn : ∀ field ∈ fields, IsBareKey field.1)
    (hw : ∀ field ∈ fields, field.2.Fits) (he : LineEnd ending.toList []) :
    statements (listing fields ending).toList =
      some ((contents fields).map fun field => .define [field.1] field.2) := by
  induction fields with
  | nil =>
    rw [listing_nil, statements_ending he]
    rfl
  | cons field fields ih =>
    obtain ⟨hf, hn⟩ := List.forall_mem_cons.1 hn
    obtain ⟨hv, hw⟩ := List.forall_mem_cons.1 hw
    -- Only behind the last line there may be nothing.
    cases fields with
    | nil =>
      rw [listing_singleton, String.toList_append, statements_append hf hv he,
        statements_ending .document]
      rfl
    | cons next fields =>
      have hl : LineEnd ("\n".toList ++ (listing (next :: fields) ending).toList)
          (listing (next :: fields) ending).toList := .line _
      rw [listing_cons_cons, String.toList_append, String.toList_append, statements_append hf hv hl,
        ih hn hw]
      rfl

/-! ### The fields of a document -/

/-- A name that is not there yet is put at the end. -/
theorem put_of_not_mem {root : Fields} {name : String} (node : Node)
    (hn : name ∉ root.map Prod.fst) : root.put name node = root ++ [(name, node)] := by
  induction root with
  | nil => rfl
  | cons field root ih =>
    rw [List.map_cons, List.mem_cons, not_or] at hn
    rw [Fields.put, if_neg (Ne.symm hn.1), ih hn.2, List.cons_append]

/-- A key of one part puts its value at the end of the document. -/
theorem define_of_not_mem {root : Fields} {name : String} (x : Datum)
    (hn : name ∉ root.map Prod.fst) :
    root.define .header [name] x = some (root ++ [(name, .value x)]) := by
  have hg : root.get? name = none := lookup_eq_none_iff_not_mem.2 hn
  rw [← put_of_not_mem _ hn]
  simp [Fields.define, Fields.updateAt, Fields.insert, hg]

/-- Keys of one part, none of them twice, give the fields of the document in their order. -/
theorem build_defines {root : Fields} {fields : List (String × Datum)}
    (hd : (root.map Prod.fst ++ fields.map Prod.fst).Nodup) :
    build [] root (fields.map fun field => .define [field.1] field.2) =
      some (root ++ fields.map fun field => (field.1, .value field.2)) := by
  induction fields generalizing root with
  | nil => simp [build]
  | cons field fields ih =>
    have hn : field.1 ∉ root.map Prod.fst := fun h =>
      (List.nodup_append.1 hd).2.2 _ h _ List.mem_cons_self rfl
    have hd : ((root ++ [(field.1, Node.value field.2)]).map Prod.fst ++
        fields.map Prod.fst).Nodup := by simpa using hd
    have hb := ih hd
    rw [List.append_assoc] at hb
    rw [List.map_cons, build]
    simp only [Fields.updateAt, define_of_not_mem _ hn]
    exact hb

theorem fieldData_values (fields : List (String × Datum)) :
    Node.fieldData (fields.map fun field => (field.1, .value field.2)) = fields := by
  induction fields with
  | nil => rfl
  | cons field fields ih => rw [List.map_cons, Node.fieldData, ih]; rfl

/-- No mark of the byte order is in front. -/
theorem ne_mark_of_listing (hn : ∀ field ∈ fields, IsBareKey field.1)
    (he : LineEnd ending.toList []) (h : (listing fields ending).toList = c :: cs) :
    c ≠ '\uFEFF' := by
  cases fields with
  | nil =>
    rw [listing_nil] at h
    rw [h] at he
    cases he
    decide
  | cons field fields =>
    obtain ⟨d, ds, hd, hb⟩ := exists_toList_line (hn field List.mem_cons_self)
    have hc : c = d := by
      cases fields with
      | nil =>
        rw [listing_singleton, String.toList_append, hd] at h
        exact (List.cons.inj h).1.symm
      | cons =>
        rw [listing_cons_cons, String.toList_append, hd] at h
        exact (List.cons.inj h).1.symm
    exact hc ▸ ne_of_class hb rfl

/-- A listing reads as what it lists, in the same order. -/
theorem parse_listing (hd : DistinctNames fields) (hn : ∀ field ∈ fields, IsBareKey field.1)
    (hw : ∀ field ∈ fields, field.2.Fits) (he : LineEnd ending.toList []) :
    parse (listing fields ending) = some (contents fields) := by
  have hb : build [] [] ((contents fields).map fun field => .define [field.1] field.2) =
      some ((contents fields).map fun field => (field.1, .value field.2)) :=
    build_defines (distinctNames_contents hd)
  unfold parse
  split
  · rename_i h
    exact absurd rfl (ne_mark_of_listing hn he h)
  · simp only [statements_listing hn hw he, hb, Option.bind_eq_bind, Option.bind_some,
      fieldData_values]
    rfl

end Readiness.Toml
