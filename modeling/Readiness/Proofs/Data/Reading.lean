import Mathlib.Data.List.Forall2
import Mathlib.Data.List.Nodup
import Mathlib.Data.List.Perm.Subperm
import Readiness.Data.Datum

/-!
# Reading data

A reader in steps returns a value where every step does. What a table is read for is looked up by
name; where no name comes twice (`DistinctNames`), looking one up finds what stands with it anywhere
in the table (`lookup_eq_some_iff`), in whatever order the fields come (`lookup_eq_of_perm`).
-/

namespace Readiness

/-! ### Steps -/

section

variable {α β ε : Type}

/-- A sequence goes well just if its first part does, and then the rest. -/
theorem bind_eq_ok_iff {x : Except ε α} {f : α → Except ε β} {b : β} :
    x >>= f = .ok b ↔ ∃ a, x = .ok a ∧ f a = .ok b := by
  cases x <;> simp [bind, Except.bind]

theorem then_eq_ok_iff {x : Except ε Unit} {y : Except ε β} {b : β} :
    (x >>= fun _ => y) = .ok b ↔ x = .ok () ∧ y = .ok b := by
  cases x <;> simp [bind, Except.bind]

/-- A list is gone through if every element of it is accepted. -/
theorem forM_eq_ok_iff {f : α → Except ε Unit} {as : List α} :
    as.forM f = .ok () ↔ ∀ a ∈ as, f a = .ok () := by
  induction as with
  | nil => simp [List.forM, pure, Except.pure]
  | cons a as ih => rw [List.forM, then_eq_ok_iff, List.forall_mem_cons, ← ih]

/-- A list is mapped to another if each element is, to that at its place. -/
theorem mapM_eq_ok_iff {f : α → Except ε β} {as : List α} {bs : List β} :
    as.mapM f = .ok bs ↔ List.Forall₂ (fun a b => f a = .ok b) as bs := by
  induction as generalizing bs with
  | nil => cases bs <;> simp [pure, Except.pure]
  | cons a as ih =>
    simp only [List.mapM_cons, bind_eq_ok_iff, ih, List.forall₂_cons_left_iff, pure, Except.pure,
      Except.ok.injEq]
    exact ⟨fun ⟨b, hb, bs', hm, h⟩ => ⟨b, bs', hb, hm, h.symm⟩,
      fun ⟨b, bs', hb, hm, h⟩ => ⟨b, hb, bs', hm, h.symm⟩⟩

theorem discard_eq_ok {x : Except ε α} {a : α} (h : x = .ok a) : discard x = .ok () := by
  rw [h]; rfl

end

theorem asString_eq_ok_iff {d : Datum} {s : String} : d.asString = .ok s ↔ d = .string s := by
  cases d <;> simp [Datum.asString, Datum.unexpected]

/-! ### Fields -/

/-- No name comes twice. -/
def DistinctNames {α : Type} (fields : List (String × α)) : Prop := (fields.map Prod.fst).Nodup

instance {α : Type} (fields : List (String × α)) : Decidable (DistinctNames fields) :=
  inferInstanceAs (Decidable (fields.map Prod.fst).Nodup)

variable {α : Type} {name : String} {a : α} {fields others : List (String × α)}

theorem distinctNames_cons :
    DistinctNames ((name, a) :: fields) ↔ name ∉ fields.map Prod.fst ∧ DistinctNames fields :=
  List.nodup_cons

/-- Names are distinct in whatever order. -/
theorem DistinctNames.perm (hd : DistinctNames fields) (hp : fields.Perm others) :
    DistinctNames others :=
  (hp.map Prod.fst).nodup_iff.1 hd

theorem DistinctNames.nodup (hd : DistinctNames fields) : fields.Nodup := List.Nodup.of_map _ hd

theorem mem_of_lookup (h : fields.lookup name = some a) : (name, a) ∈ fields := by
  obtain ⟨before, after, rfl, -⟩ := List.lookup_eq_some_iff.1 h
  simp

theorem lookup_eq_none_iff_not_mem :
    fields.lookup name = none ↔ name ∉ fields.map Prod.fst := by
  simp only [List.lookup_eq_none_iff, bne_iff_ne, List.mem_map, not_exists, not_and]
  exact forall₂_congr fun _ _ => ne_comm

/-- A name that comes once is found with what stands beside it. -/
theorem lookup_eq_some_iff (hd : DistinctNames fields) :
    fields.lookup name = some a ↔ (name, a) ∈ fields := by
  refine ⟨mem_of_lookup, fun hm => ?_⟩
  obtain ⟨before, after, rfl⟩ := List.append_of_mem hm
  refine List.lookup_eq_some_iff.2 ⟨before, after, rfl, fun field hf => ?_⟩
  rw [DistinctNames, List.map_append, List.map_cons, List.nodup_append] at hd
  exact bne_iff_ne.2 (hd.2.2 _ (List.mem_map_of_mem hf) _ List.mem_cons_self).symm

/-- With distinct names it does not matter for a lookup in which order they stand. -/
theorem lookup_eq_of_perm (hd : DistinctNames fields) (hp : fields.Perm others) :
    others.lookup name = fields.lookup name := by
  refine Option.ext fun a => ?_
  rw [lookup_eq_some_iff hd, lookup_eq_some_iff (hd.perm hp), hp.mem_iff]

theorem lookup_cons_of_ne {other : String} (hn : other ≠ name) :
    ((name, a) :: fields).lookup other = fields.lookup other := by
  simp [List.lookup_cons, beq_eq_false_iff_ne.2 hn]

theorem lookup_filter_of_ne {other : String} (hn : name ≠ other) :
    (fields.filter (·.1 != other)).lookup name = fields.lookup name := by
  induction fields with
  | nil => rfl
  | cons field fields ih =>
    by_cases hf : field.1 = other
    · rw [List.filter_cons_of_neg (by simpa using hf), ih, lookup_cons_of_ne (hf ▸ hn)]
    · rw [List.filter_cons_of_pos (by simpa using hf), List.lookup_cons, List.lookup_cons, ih]

end Readiness
