import Readiness.Log.Printer

/-!
# What printers make of lines

Delivering lines one after the other is telling them to the listeners (`told_deliverAll`), counting
them, and writing them to the sink for as long as that does not fail.
A sink that has not failed holds every line behind its label (`written_deliverAll`); one that has no
limit and no failing flush does not fail (`silenced_deliverAll`).
-/

namespace Readiness

namespace Sink

/-- Whether nothing can fail at the sink. -/
def IsReliable (s : Sink) : Prop := s.limit = none ∧ s.failingFlush = none

/-- A write that goes well leaves all of the bytes in the sink. -/
theorem written_of_write {s s' : Sink} {bs : Bytes} (h : s.write bs = (true, s')) :
    s'.written = s.written ++ bs := by
  unfold write at h
  split at h
  · cases h; rfl
  · simp only [Prod.mk.injEq, decide_eq_true_eq] at h
    obtain ⟨hroom, rfl⟩ := h
    rw [List.take_of_length_le hroom]

/-- A line that goes well is in the sink as a whole. -/
theorem written_of_writeLine {s s' : Sink} {label line : String}
    (h : s.writeLine label line = (true, s')) : s'.written = s.written ++ lineBytes label line := by
  unfold writeLine at h
  rcases hw : s.write (lineBytes label line) with ⟨_ | _, s₁⟩
  · simp [hw] at h
  · simp only [hw, if_true, flush, Prod.mk.injEq] at h
    rw [← written_of_write hw, ← h.2]

/-- A reliable sink takes a line, and stays reliable. -/
theorem IsReliable.writeLine {s : Sink} (h : s.IsReliable) (label line : String) :
    (s.writeLine label line).1 = true ∧ (s.writeLine label line).2.IsReliable := by
  obtain ⟨hl, hf⟩ := h
  simp [Sink.writeLine, write, flush, IsReliable, hl, hf]

end Sink

namespace Printer

variable {σ ν : Type}

@[simp] theorem listeners_echo (p : Printer σ ν) (line : String) :
    (p.echo line).listeners = p.listeners := by
  unfold echo; repeat' split
  all_goals rfl

@[simp] theorem notes_echo (p : Printer σ ν) (line : String) : (p.echo line).notes = p.notes := by
  unfold echo; repeat' split
  all_goals rfl

/-- A sink that has not failed had not failed before. -/
theorem silenced_of_echo {p : Printer σ ν} {line : String} (h : (p.echo line).silenced = false) :
    p.silenced = false := by
  unfold echo at h
  split at h
  · exact h
  · split at h
    · exact h
    · next hs => exact Bool.eq_false_iff.2 hs

variable [Listener σ ν]

theorem deliverAll_cons (p : Printer σ ν) (line : String) (lines : List String) :
    p.deliverAll (line :: lines) = (p.deliver line).deliverAll lines := rfl

theorem deliverAll_append (p : Printer σ ν) (as bs : List String) :
    p.deliverAll (as ++ bs) = (p.deliverAll as).deliverAll bs := List.foldl_append

theorem deliverAll_concat (p : Printer σ ν) (lines : List String) (line : String) :
    p.deliverAll (lines ++ [line]) = (p.deliverAll lines).deliver line :=
  deliverAll_append p lines [line]

/-! ## Listeners -/

/-- The listeners end up as telling them the lines leaves them, and what they note comes behind what
    was noted before. -/
theorem told_deliverAll (p : Printer σ ν) (lines : List String) :
    (p.deliverAll lines).listeners = (Fanout.notifyAll p.listeners lines).1 ∧
      (p.deliverAll lines).notes = p.notes ++ (Fanout.notifyAll p.listeners lines).2 := by
  induction lines generalizing p with
  | nil => exact ⟨rfl, (List.append_nil _).symm⟩
  | cons line lines ih =>
    obtain ⟨hlisteners, hnotes⟩ := ih (p.deliver line)
    rw [deliverAll_cons, hlisteners, hnotes]
    simp [deliver, announce, Fanout.notifyAll]

/-! ## Sinks -/

@[simp] theorem label_deliver (p : Printer σ ν) (line : String) :
    (p.deliver line).label = p.label := by
  unfold deliver announce echo; repeat' split
  all_goals rfl

@[simp] theorem sink_deliver (p : Printer σ ν) (line : String) :
    (p.deliver line).sink = (p.echo line).sink := rfl

@[simp] theorem silenced_deliver (p : Printer σ ν) (line : String) :
    (p.deliver line).silenced = (p.echo line).silenced := rfl

/-- A printer that was silenced stays silenced. -/
theorem silenced_of_deliverAll {p : Printer σ ν} {lines : List String}
    (h : (p.deliverAll lines).silenced = false) : p.silenced = false := by
  induction lines generalizing p with
  | nil => exact h
  | cons line lines ih =>
    have hd : (p.deliver line).silenced = false := ih h
    exact silenced_of_echo hd

/-- A printer whose sink has not failed has written every line to it, behind the label. -/
theorem written_deliverAll {p : Printer σ ν} {k : Sink} (hk : p.sink = some k)
    {lines : List String} (hh : (p.deliverAll lines).silenced = false) :
    ∃ k', (p.deliverAll lines).sink = some k' ∧
      k'.written = k.written ++ lines.flatMap (Sink.lineBytes p.label) := by
  induction lines generalizing p k with
  | nil => exact ⟨k, hk, by simp⟩
  | cons line lines ih =>
    rw [deliverAll_cons] at hh ⊢
    -- The sink did not fail before this line, nor at it: else it would be silenced at the end.
    have hd : (p.deliver line).silenced = false := silenced_of_deliverAll hh
    have hp : p.silenced = false := silenced_of_echo hd
    rcases hw : k.writeLine p.label line with ⟨ok, k₁⟩
    have hok : ok = true := by simpa [echo, hk, hp, hw] using hd
    subst hok
    obtain ⟨k', hk', hwr⟩ := ih (p := p.deliver line) (k := k₁) (by simp [echo, hk, hp, hw]) hh
    refine ⟨k', hk', ?_⟩
    rw [hwr, label_deliver, Sink.written_of_writeLine hw, List.flatMap_cons, List.append_assoc]

/-- A reliable sink never fails. -/
theorem silenced_deliverAll {p : Printer σ ν} (hp : p.silenced = false)
    (hr : ∀ k, p.sink = some k → k.IsReliable) (lines : List String) :
    (p.deliverAll lines).silenced = false := by
  induction lines generalizing p with
  | nil => exact hp
  | cons line lines ih =>
    rw [deliverAll_cons]
    cases hk : p.sink with
    | none => exact ih (by simp [echo, hk, hp]) (by simp [echo, hk])
    | some k =>
      obtain ⟨hok, hr'⟩ := (hr k hk).writeLine p.label line
      exact ih (by simp [echo, hk, hp, hok]) (by simpa [echo, hk, hp] using hr')

end Printer

end Readiness
