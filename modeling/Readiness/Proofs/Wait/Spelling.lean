import Readiness.Proofs.Data.Reading
import Readiness.Wait.Spec

/-!
# Spellings of what to wait for

A spec is written with its kind first and without what is unset (`WaitFor.entries`). Reading is
freer. On tables in which no name comes twice:

* *what reads as a spec* has its kind, and for every field of the kind what is written there; null
  and nothing are the same (`WaitFor.ofDatum_table_eq_ok_iff`);
* *respelling* such a table (`WaitFor.Respelled`) puts its fields in another order, adds fields that
  the kind does not have, or writes null for what is unset; none of it changes what is read
  (`WaitFor.Respelled.ofDatum_eq_ok_iff`);
* *respellings of what is written* are all there is to read
  (`WaitFor.respelled_of_ofDatum_eq_ok`): what is written is a normal form.
-/

namespace Readiness.WaitFor

variable {k : Kind} {w : WaitFor} {name : String} {d : Datum}
  {fields others : List (String × Datum)}

/-! ### What is written -/

def kind : WaitFor → Kind
  | logMessage _ => .logMessage
  | logMessageSequence _ => .logMessageSequence
  | fullLogMessage _ => .fullLogMessage
  | httpPing .. => .httpPing

/-- What is written beside the kind. -/
def own : WaitFor → List (String × Datum)
  | logMessage message | fullLogMessage message => [("message", .string message)]
  | logMessageSequence messages => [("messages", .list (messages.map .string))]
  | httpPing url method status =>
    ("url", .string url) :: (optionalField "method" method ++ optionalField "status" status)

/-- What is written. -/
def entries (w : WaitFor) : List (String × Datum) := (typeField, .string w.kind.tag) :: w.own

theorem toDatum_eq (w : WaitFor) : w.toDatum = .table w.entries := by
  cases w <;> rfl

section

variable (url : String) (method status : Option String)

theorem own_httpPing_url :
    (httpPing url method status).own.lookup "url" = some (.string url) := rfl

theorem own_httpPing_method :
    (httpPing url method status).own.lookup "method" = method.map .string := by
  cases method <;> cases status <;> rfl

theorem own_httpPing_status :
    (httpPing url method status).own.lookup "status" = status.map .string := by
  cases method <;> cases status <;> rfl

end

/-- The fields of a kind that may be unset. -/
def Kind.optionalNames : Kind → List String
  | httpPing => ["method", "status"]
  | _ => []

/-- The field of the kind is none of the fields of any kind. -/
theorem typeField_not_mem_fieldNames : typeField ∉ k.fieldNames := by
  cases k <;> decide

theorem Kind.optionalNames_subset : k.optionalNames ⊆ k.fieldNames := by
  cases k <;> decide

/-- What is written beside the kind is one of its fields, and never null. -/
theorem mem_own (hm : (name, d) ∈ w.own) : name ∈ w.kind.fieldNames ∧ d ≠ .null := by
  cases w with
  | httpPing url method status =>
    have hm : name = "url" ∧ d = .string url ∨
        (∃ m, method = some m ∧ name = "method" ∧ d = .string m) ∨
        ∃ s, status = some s ∧ name = "status" ∧ d = .string s := by
      simpa [own, optionalField, eq_comm] using hm
    obtain ⟨rfl, rfl⟩ | ⟨_, -, rfl, rfl⟩ | ⟨_, -, rfl, rfl⟩ := hm <;> simp [kind, Kind.fieldNames]
  | _ => simp_all [own, kind, Kind.fieldNames]

/-- A field of the kind that is not written may be unset. -/
theorem mem_optionalNames (hn : name ∈ w.kind.fieldNames) (hl : w.own.lookup name = none) :
    name ∈ w.kind.optionalNames := by
  cases w with
  | httpPing url method status =>
    have hn : name = "url" ∨ name = "method" ∨ name = "status" := by
      simpa [kind, Kind.fieldNames] using hn
    obtain rfl | rfl | rfl := hn
    · cases hl
    all_goals simp [kind, Kind.optionalNames]
  | _ => simp_all [own, kind, Kind.fieldNames]

theorem distinctNames_own (w : WaitFor) : DistinctNames w.own := by
  cases w with
  | httpPing url method status =>
    cases method <;> cases status <;> simp [DistinctNames, own, optionalField]
  | _ => simp [DistinctNames, own]

/-- No entry of a condition comes twice. -/
theorem distinctNames_entries (w : WaitFor) : DistinctNames w.entries := by
  refine distinctNames_cons.2 ⟨fun hm => ?_, distinctNames_own w⟩
  obtain ⟨⟨name, d⟩, hm, rfl⟩ := List.mem_map.1 hm
  exact typeField_not_mem_fieldNames (mem_own hm).1

theorem lookup_entries_typeField (w : WaitFor) :
    w.entries.lookup typeField = some (.string w.kind.tag) :=
  List.lookup_cons_self

/-- Apart from the kind, the entries are the fields. -/
theorem lookup_entries (hn : name ∈ w.kind.fieldNames) :
    w.entries.lookup name = w.own.lookup name :=
  lookup_cons_of_ne (ne_of_mem_of_not_mem hn typeField_not_mem_fieldNames)

/-! ### What reads as a spec -/

/-- What a field is set to; null counts as unset. -/
def settled : Option Datum → Option Datum
  | some .null => none
  | d => d

/-- What is settled is there, and is not null. -/
theorem settled_eq_some_iff {o : Option Datum} (hd : d ≠ .null) :
    settled o = some d ↔ o = some d := by
  unfold settled
  split
  · simp [hd.symm]
  · rfl

theorem settled_of_ne {o : Option Datum} (ho : ∀ d ∈ o, d ≠ .null) : settled o = o := by
  unfold settled
  split
  · exact absurd rfl (ho _ rfl)
  · rfl

/-- A kind is read from its tag alone. -/
theorem ofDatum_kind_eq_ok_iff : Kind.ofDatum d = .ok k ↔ d = .string k.tag := by
  constructor
  · intro h
    cases d with
    | string name =>
      simp only [Kind.ofDatum] at h
      split at h
      · rename_i found hf
        cases h
        have hn : k.tag = name := by simpa using List.find?_some hf
        rw [hn]
      · cases h
    | _ => cases h
  · rintro rfl
    cases k <;> rfl

theorem asTexts_eq_ok_iff {texts : List String} :
    asTexts d = .ok texts ↔ d = .list (texts.map .string) := by
  cases d with
  | list items =>
    have h : asTexts (.list items) = items.mapM Datum.asString := rfl
    simp only [h, mapM_eq_ok_iff, asString_eq_ok_iff, Datum.list.injEq]
    rw [← List.forall₂_eq_eq_eq, List.forall₂_map_right_iff]
  | _ => simp [asTexts, Datum.asList, Datum.unexpected, bind, Except.bind]

/-- A text that may be missing is read from a string, or from null. -/
theorem asOptionalText_eq_ok_iff {text : Option String} :
    asOptionalText d = .ok text ↔ settled (some d) = text.map .string := by
  cases text <;> cases d <;>
    simp [asOptionalText, settled, Datum.asString, Datum.unexpected, Except.map]

/-- A field that is required has to be there. -/
theorem required_eq_ok_iff : required fields name = .ok d ↔ fields.lookup name = some d := by
  rw [required]
  cases fields.lookup name <;> simp

/-- A field that may be missing may also be null. -/
theorem optionalText_eq_ok_iff {text : Option String} :
    optionalText fields name = .ok text ↔ settled (fields.lookup name) = text.map .string := by
  rw [optionalText]
  cases fields.lookup name with
  | none => cases text <;> simp [settled]
  | some d => exact asOptionalText_eq_ok_iff

/-- What is not a field of the kind is passed over. -/
theorem checkField_of_not_mem (hn : name ∉ k.fieldNames) : checkField k (name, d) = .ok () := by
  unfold checkField
  split <;> simp_all [Kind.fieldNames]

/-- A field that holds what is written passes. -/
theorem checkField_of_settled (hn : name ∈ w.kind.fieldNames)
    (hs : settled (some d) = w.own.lookup name) : checkField w.kind (name, d) = .ok () := by
  cases w with
  | logMessage message | fullLogMessage message =>
    obtain rfl := List.mem_singleton.1 hn
    have hd : d = .string message := by simpa [own, settled_eq_some_iff] using hs
    exact discard_eq_ok (asString_eq_ok_iff.2 hd)
  | logMessageSequence messages =>
    obtain rfl := List.mem_singleton.1 hn
    have hd : d = .list (messages.map .string) := by simpa [own, settled_eq_some_iff] using hs
    exact discard_eq_ok (asTexts_eq_ok_iff.2 hd)
  | httpPing url method status =>
    have hn : name = "url" ∨ name = "method" ∨ name = "status" := by
      simpa [kind, Kind.fieldNames] using hn
    obtain rfl | rfl | rfl := hn
    · rw [own_httpPing_url, settled_eq_some_iff (by simp), Option.some_inj] at hs
      exact discard_eq_ok (asString_eq_ok_iff.2 hs)
    · rw [own_httpPing_method] at hs
      exact discard_eq_ok (asOptionalText_eq_ok_iff.2 hs)
    · rw [own_httpPing_status] at hs
      exact discard_eq_ok (asOptionalText_eq_ok_iff.2 hs)

/-- Every field of the kind holds what is written there. -/
def Holding (w : WaitFor) (fields : List (String × Datum)) : Prop :=
  ∀ name ∈ w.kind.fieldNames, settled (fields.lookup name) = w.own.lookup name

/-- Fields that hold a condition pass all checks. -/
theorem Holding.checks (hw : Holding w fields) (hd : DistinctNames fields) :
    fields.forM (checkField w.kind) = .ok () := by
  refine forM_eq_ok_iff.2 fun (name, d) hm => ?_
  by_cases hn : name ∈ w.kind.fieldNames
  · refine checkField_of_settled hn ?_
    rw [← hw name hn, (lookup_eq_some_iff hd).2 hm]
  · exact checkField_of_not_mem hn

/-- No hypothesis on the names: with one twice the first counts, and the others have to pass. -/
theorem ofFields_eq_ok_iff : ofFields k fields = .ok w ↔
    fields.forM (checkField k) = .ok () ∧ k = w.kind ∧ Holding w fields := by
  unfold ofFields
  rw [then_eq_ok_iff]
  cases k with
  | logMessage | fullLogMessage =>
    cases w <;> simp [Holding, bind_eq_ok_iff, required_eq_ok_iff, asString_eq_ok_iff, pure,
      Except.pure, kind, own, Kind.fieldNames, settled_eq_some_iff]
  | logMessageSequence =>
    cases w <;> simp [Holding, bind_eq_ok_iff, required_eq_ok_iff, asTexts_eq_ok_iff, pure,
      Except.pure, kind, own, Kind.fieldNames, settled_eq_some_iff]
  | httpPing =>
    cases w <;> simp [Holding, bind_eq_ok_iff, required_eq_ok_iff, asString_eq_ok_iff,
      optionalText_eq_ok_iff, pure, Except.pure, kind, Kind.fieldNames, own_httpPing_url,
      own_httpPing_method, own_httpPing_status, settled_eq_some_iff]

/-- A table reads as a spec if it names the kind and holds what is written. -/
theorem ofDatum_table_eq_ok_iff (hd : DistinctNames fields) :
    ofDatum (.table fields) = .ok w ↔
      fields.lookup typeField = some (.string w.kind.tag) ∧ Holding w fields := by
  have hh : Holding w (fields.filter (·.1 != typeField)) ↔ Holding w fields :=
    forall₂_congr fun name hn => by
      rw [lookup_filter_of_ne (ne_of_mem_of_not_mem hn typeField_not_mem_fieldNames)]
  have hf : DistinctNames (fields.filter (·.1 != typeField)) :=
    hd.sublist (List.filter_sublist.map _)
  have hr : ofDatum (.table fields) = (do
      ofFields (← Kind.ofDatum (← required fields typeField))
        (fields.filter (·.1 != typeField))) := rfl
  simp only [hr, bind_eq_ok_iff, required_eq_ok_iff, ofDatum_kind_eq_ok_iff, ofFields_eq_ok_iff, hh]
  constructor
  · rintro ⟨_, hl, _, rfl, -, rfl, hw⟩
    exact ⟨hl, hw⟩
  · rintro ⟨hl, hw⟩
    exact ⟨_, hl, _, rfl, (hh.2 hw).checks hf, rfl, hw⟩

/-- What a condition is written as reads as that condition. -/
theorem ofDatum_toDatum (w : WaitFor) : ofDatum w.toDatum = .ok w := by
  rw [toDatum_eq, ofDatum_table_eq_ok_iff (distinctNames_entries w)]
  refine ⟨lookup_entries_typeField w, fun name hn => ?_⟩
  rw [lookup_entries hn]
  exact settled_of_ne fun d hl => (mem_own (mem_of_lookup hl)).2

/-! ### Respelling -/

/-- The fields of a kind, spelled in another way. -/
inductive Respelled (k : Kind) (fields : List (String × Datum)) : List (String × Datum) → Prop
  | same : Respelled k fields fields
  | permuted {others more : List (String × Datum)} (h : Respelled k fields others)
      (hp : others.Perm more) : Respelled k fields more
  /-- A field is added that the kind does not have. -/
  | added {others : List (String × Datum)} {name : String} (h : Respelled k fields others)
      (hf : name ∉ others.map Prod.fst) (ht : name ≠ typeField) (hn : name ∉ k.fieldNames)
      (d : Datum) : Respelled k fields ((name, d) :: others)
  /-- Null is written for what is unset. -/
  | unset {others : List (String × Datum)} {name : String} (h : Respelled k fields others)
      (hf : name ∉ others.map Prod.fst) (hn : name ∈ k.optionalNames) :
      Respelled k fields ((name, .null) :: others)

namespace Respelled

theorem distinctNames (h : Respelled k fields others) (hd : DistinctNames fields) :
    DistinctNames others := by
  induction h with
  | same => exact hd
  | permuted _ hp ih => exact ih.perm hp
  | added _ hf _ _ d ih => exact distinctNames_cons.2 ⟨hf, ih⟩
  | unset _ hf _ ih => exact distinctNames_cons.2 ⟨hf, ih⟩

/-- Respelling keeps the kind. -/
theorem lookup_typeField (h : Respelled k fields others) (hd : DistinctNames fields) :
    others.lookup typeField = fields.lookup typeField := by
  induction h with
  | same => rfl
  | permuted h hp ih => rw [lookup_eq_of_perm (h.distinctNames hd) hp, ih]
  | added _ _ ht _ _ ih => rw [lookup_cons_of_ne ht.symm, ih]
  | unset _ _ hn ih =>
    have ht := ne_of_mem_of_not_mem (Kind.optionalNames_subset hn) typeField_not_mem_fieldNames
    rw [lookup_cons_of_ne ht.symm, ih]

/-- Respelled fields are set to the same. -/
theorem settled_lookup (h : Respelled k fields others) (hd : DistinctNames fields)
    (hk : name ∈ k.fieldNames) : settled (others.lookup name) = settled (fields.lookup name) := by
  induction h with
  | same => rfl
  | permuted h hp ih => rw [lookup_eq_of_perm (h.distinctNames hd) hp, ih]
  | added _ _ _ hn _ ih => rw [lookup_cons_of_ne (ne_of_mem_of_not_mem hk hn), ih]
  | @unset others name' _ hf _ ih =>
    by_cases hs : name = name'
    · subst hs
      rw [← ih, List.lookup_cons_self, lookup_eq_none_iff_not_mem.2 hf]
      rfl
    · rw [lookup_cons_of_ne hs, ih]

/-- What is respelled reads as before. -/
theorem ofDatum_eq_ok_iff (h : Respelled w.kind fields others) (hd : DistinctNames fields) :
    ofDatum (.table others) = .ok w ↔ ofDatum (.table fields) = .ok w := by
  rw [ofDatum_table_eq_ok_iff hd, ofDatum_table_eq_ok_iff (h.distinctNames hd),
    h.lookup_typeField hd]
  exact and_congr_right fun _ => forall₂_congr fun name hn => by rw [h.settled_lookup hd hn]

/-- Further fields of which each is none of the kind's, or a null for one that may be unset. -/
theorem of_append (hd : DistinctNames (others ++ fields))
    (ho : ∀ field ∈ others, field.1 ≠ typeField ∧
      (field.1 ∈ k.fieldNames → field.1 ∈ k.optionalNames ∧ field.2 = .null)) :
    Respelled k fields (others ++ fields) := by
  induction others with
  | nil => exact .same
  | cons field others ih =>
    obtain ⟨name, d⟩ := field
    obtain ⟨hf, hd⟩ := distinctNames_cons.1 hd
    obtain ⟨⟨ht, hn⟩, ho⟩ := List.forall_mem_cons.1 ho
    have hr := ih hd ho
    by_cases hk : name ∈ k.fieldNames
    · obtain ⟨hn, rfl⟩ := hn hk
      exact .unset hr hf hn
    · exact .added hr hf ht hk d

end Respelled

/-- What reads as a spec has all that is written. -/
theorem entries_subset (hd : DistinctNames fields) (h : ofDatum (.table fields) = .ok w) :
    w.entries ⊆ fields := by
  obtain ⟨ht, hw⟩ := (ofDatum_table_eq_ok_iff hd).1 h
  rintro ⟨name, d⟩ hm
  obtain hm | hm := List.mem_cons.1 hm
  · cases hm
    exact mem_of_lookup ht
  · obtain ⟨hn, hnull⟩ := mem_own hm
    have hs := hw name hn
    rw [(lookup_eq_some_iff (distinctNames_own w)).2 hm, settled_eq_some_iff hnull] at hs
    exact mem_of_lookup hs

/-- What reads as a spec is what is written, respelled. -/
theorem respelled_of_ofDatum_eq_ok (hd : DistinctNames fields)
    (h : ofDatum (.table fields) = .ok w) : Respelled w.kind w.entries fields := by
  obtain ⟨-, hw⟩ := (ofDatum_table_eq_ok_iff hd).1 h
  -- The fields are those written and others, in some order.
  obtain ⟨_, hp, hs⟩ := List.subperm_of_subset (distinctNames_entries w).nodup (entries_subset hd h)
  obtain ⟨others, hp'⟩ := hs.exists_perm_append
  have hp : fields.Perm (others ++ w.entries) :=
    hp'.trans ((hp.append_right _).trans List.perm_append_comm)
  have hdo := hd.perm hp
  refine .permuted (.of_append hdo fun (name, d) hm => ?_) hp.symm
  -- A field beside those written bears none of their names.
  have hne : name ∉ w.entries.map Prod.fst := fun hn => by
    rw [DistinctNames, List.map_append, List.nodup_append] at hdo
    exact hdo.2.2 _ (List.mem_map_of_mem hm) _ hn rfl
  refine ⟨fun h => hne (List.mem_cons.2 (.inl h)), fun hn => ?_⟩
  have hl : w.own.lookup name = none :=
    lookup_eq_none_iff_not_mem.2 fun h => hne (List.mem_cons_of_mem _ h)
  refine ⟨mem_optionalNames hn hl, ?_⟩
  have hs := hw name hn
  rw [hl, (lookup_eq_some_iff hd).2 (hp.mem_iff.2 (List.mem_append_left _ hm))] at hs
  by_contra hnull
  rw [(settled_eq_some_iff hnull).2 rfl] at hs
  cases hs

/-- What is read, written anew. -/
def rewritten (d : Datum) : Except DataFault Datum := (ofDatum d).map toDatum

/-- Specs survive writing and reading. Of the tables in which no name comes twice, those that are
    what is written, respelled, read as a spec, and no others; respelling any of them keeps the
    reading. What is read from whatever data, written anew, reads as it did; written anew once more,
    it stays the same. -/
theorem written_reads (w : WaitFor) :
    ofDatum w.toDatum = .ok w ∧
    (∀ fields, DistinctNames fields →
      (ofDatum (.table fields) = .ok w ↔ Respelled w.kind w.entries fields)) ∧
    (∀ fields others, DistinctNames fields → ofDatum (.table fields) = .ok w →
      Respelled w.kind fields others → ofDatum (.table others) = .ok w) ∧
    ∀ d, ofDatum d = .ok w →
      rewritten d = .ok w.toDatum ∧ ofDatum w.toDatum = ofDatum d ∧
        rewritten w.toDatum = .ok w.toDatum := by
  have hw := ofDatum_toDatum w
  refine ⟨hw, fun fields hd => ⟨respelled_of_ofDatum_eq_ok hd, fun h => ?_⟩,
    fun fields others hd hf h => (h.ofDatum_eq_ok_iff hd).2 hf, fun d hd => ⟨?_, ?_, ?_⟩⟩
  · rw [h.ofDatum_eq_ok_iff (distinctNames_entries w), ← toDatum_eq, hw]
  · rw [rewritten, hd]; rfl
  · rw [hw, hd]
  · rw [rewritten, hw]; rfl

/-- Fields of a ping as somebody may write them. -/
def handwritten : List (String × Datum) :=
  [("status", .null), ("note", .list [.null]), ("url", .string "http://db/"),
    ("type", .string "http_ping")]

/-- Null for a field that may be missing is no setting, nor is a field of another name. Neither is
    written anew. -/
theorem written_reads_handwritten :
    ofDatum (.table handwritten) = .ok (httpPing "http://db/" none none) ∧
      ofDatum (.table (("method", .null) :: handwritten)) = .ok (httpPing "http://db/" none none) ∧
      rewritten (.table handwritten) =
        .ok (.table [("type", .string "http_ping"), ("url", .string "http://db/")]) := by
  have hd : DistinctNames handwritten := by decide
  obtain ⟨-, hreads, hkept, hanew⟩ := written_reads (httpPing "http://db/" none none)
  have hr : Respelled .httpPing (httpPing "http://db/" none none).entries handwritten :=
    .unset (.added (.permuted .same (.swap _ _ _)) (by decide) (by decide) (by decide) _)
      (by decide) (by decide)
  have hf := (hreads handwritten hd).2 hr
  exact ⟨hf, hkept handwritten _ hd hf (.unset .same (by decide) (by decide)), (hanew _ hf).1⟩

end Readiness.WaitFor
