import Readiness.Proofs.Container.Fetching

/-!
# The record of a log

Following a live log takes chunks from its stream and leaves its record alone, so hosts that differ
only by what was taken (`Host.Alike`) show the same of their logs. They stay alike whatever happens to
both, and whoever follows one of them (`Course.alike_undergo`).
-/

namespace Readiness

namespace Host

/-- The same host, up to what has been taken from the stream of a live log, and to the fetches from a
    staged one. -/
inductive Alike : Host → Host → Prop
  | refl (h : Host) : Alike h h
  | live {log log' : LiveLog} : log.recorded = log'.recorded → log.finished = log'.finished →
      Alike (.live log) (.live log')
  | staged {attachment : Attachment} {n m : Nat} {log : String} : n ≤ m →
      Alike (.staged attachment n log) (.staged attachment m log)

/-- A host that does not count fetches: any but a staged one that has fetches to fail. -/
def IsSteady (h : Host) : Prop := h.fetched = h

variable {h h' h'' : Host} {container message : String}

theorem Alike.trans (h₁ : Alike h h') (h₂ : Alike h' h'') : Alike h h'' := by
  cases h₁ with
  | refl => exact h₂
  | live hr hf =>
    cases h₂ with
    | refl => exact .live hr hf
    | live hr' hf' => exact .live (hr.trans hr') (hf.trans hf')
  | staged hle =>
    cases h₂ with
    | refl => exact .staged hle
    | staged hle' => exact .staged (Nat.le_trans hle hle')

/-- A fetch leaves a host alike. -/
theorem alike_fetched (h : Host) : h.fetched.Alike h := by
  cases h with
  | staged attachment failures log =>
    cases failures with
    | zero => exact .refl _
    | succ n => exact .staged (Nat.le_succ n)
  | _ => exact .refl _

/-- What happens to hosts that are alike leaves them alike. -/
theorem Alike.undergo (ha : Alike h h') (e : Happening) : Alike (h.undergo e) (h'.undergo e) := by
  cases ha with
  | refl => exact .refl _
  | live hr hf =>
    rw [undergo_live, undergo_live, hf]
    split
    · exact .live hr hf
    · cases e with
      | pushed c => exact .live (congrArg (· ++ [c]) hr) rfl
      | finished => exact .live hr rfl
  | staged hle => cases e <;> exact .staged hle

/-- Alike hosts show the same. -/
theorem Alike.shows_eq (ha : Alike h h') (hs : h'.IsSteady) (container message : String) :
    h.shows container message = h'.shows container message := by
  cases ha with
  | refl => rfl
  | live hr _ => rw [shows_live, shows_live, hr]
  | @staged _ n m _ hle =>
    cases m with
    | zero => rw [Nat.le_zero.1 hle]
    | succ m => cases hs

theorem alike_of_attach {sel : Selection} {t : Tail} (ha : h.attach container sel = .stream t h') :
    Alike h' h := by
  cases h with
  | live log =>
    unfold attach at ha
    dsimp only at ha
    split at ha <;> cases ha
    exact .live rfl rfl
  | _ => exact attach_of_not_live (by simp) ha ▸ .refl _

/-- Taking a chunk leaves a host alike. -/
theorem alike_of_next {t t' : Tail} {n : Next} (hn : h.next t = (n, t', h')) : Alike h' h := by
  cases h with
  | live log =>
    unfold next at hn
    split at hn
    · cases hn; exact .refl _
    · cases hn; exact .refl _
    · dsimp only at hn
      split at hn <;> cases hn <;> exact .live rfl rfl
  | _ => exact next_of_not_live (by simp) hn ▸ .refl _

theorem IsSteady.undergo (hs : h.IsSteady) (e : Happening) : (h.undergo e).IsSteady := by
  rw [IsSteady, ← undergo_fetched, hs]

theorem Alike.isSteady (ha : Alike h h') (hs : h'.IsSteady) : h.IsSteady := by
  cases ha with
  | refl => exact hs
  | live _ _ => rfl
  | @staged _ n m _ hle =>
    cases m with
    | zero => rw [Nat.le_zero.1 hle]; rfl
    | succ m => cases hs

end Host

namespace Pipeline

variable {σ ν : Type} [Listener σ ν]

/-- No task changes the record. -/
theorem alike_of_step {h h' : Host} {p p' : Pipeline σ ν} {t : TaskId}
    (hs : p.step h t = some (h', p')) : h'.Alike h := by
  cases followed_of_step hs with
  | alone => exact .refl _
  | attached ha => exact Host.alike_of_attach ha
  | taken hn => exact Host.alike_of_next hn

/-- The moves of tasks leave a host alike. -/
theorem Run.alike {x y : Host × Pipeline σ ν} {ts : List TaskId} (h : Run x (ts.map .task) y) :
    y.1.Alike x.1 := by
  induction ts generalizing x with
  | nil => cases h; exact .refl _
  | cons t ts ih =>
    cases h with
    | task hs hr => exact (ih hr).trans (alike_of_step hs)

theorem alike_settle (h : Host) (p : Pipeline σ ν) : (p.settle h).1.Alike h := by
  obtain ⟨ts, hr⟩ := run_settle h p
  exact hr.alike

end Pipeline

/-- Closing a session does not change the record. -/
theorem Session.alike_close {σ ν : Type} [Listener σ ν] (h : Host) (s : Session σ ν) :
    (s.close h).1.Alike h := by
  unfold Session.close
  dsimp only
  repeat' split
  all_goals first | exact .refl _ | exact Pipeline.alike_settle _ _

namespace Course

theorem alike_settle (c : Course) : c.settle.1.Alike c.1 := by
  obtain ⟨h, _ | s⟩ := c
  · exact .refl _
  · exact Pipeline.alike_settle h s.pipeline

/-- What happens to a host that is followed happens to one that is not. -/
theorem alike_undergo {c : Course} {h : Host} (ha : c.1.Alike h) (e : Happening) :
    (c.undergo e).1.Alike (h.undergo e) :=
  (alike_settle _).trans (ha.undergo e)

end Course

end Readiness
