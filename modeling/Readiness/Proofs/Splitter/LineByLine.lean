import Mathlib
import Readiness.Proofs.Splitter.Ending
import Readiness.Proofs.Splitter.Reading

/-!
# Reading line by line

Whoever takes nothing out of an output but lines (`ReadsByLine`) gets the lines of the bytes that the
output accepted, wherever these were cut into chunks and whenever the reader was asked.

* A step of anybody else leaves what the reader has gathered alone and at most puts a chunk behind
  what is queued, so it keeps what the reader has handed over in line with what its output received
  (`HasRead.of_not_reads`); so does an attempt to read a line (`HasRead.of_nextLine`), which comes to
  one of three answers (`TellsNextLine`). By induction this holds over any steps
  (`HasRead.useAll`).
* So the next answer is settled by the bytes alone (`HasRead.nextLine_fst`): the line at the place
  where the reader stands, if the bytes have one, and else the end or a wait.

`LineReading.lines_prefix_ofBytes` puts this together for readers that remember the end.
-/

namespace Readiness

open Use (Answer)

namespace Use

/-- The line that a step hands over from an output, by its answer. -/
def line? (o : Outlet) : Use × Answer → Option String
  | (.nextLine o', .line (.got text)) => if o' = o then some text else none
  | _ => none

end Use

/-- Whoever reads from an output in these steps reads a line. -/
def ReadsByLine (o : Outlet) (us : List Use) : Prop := ∀ u ∈ us, u.reads o = true → u = .nextLine o

instance (o : Outlet) (us : List Use) : Decidable (ReadsByLine o us) :=
  inferInstanceAs (Decidable (∀ u ∈ us, u.reads o = true → u = .nextLine o))

/-- The lines handed over from an output in some steps, by their answers. -/
def linesRead (o : Outlet) (us : List Use) (answers : List Answer) : List String :=
  (us.zip answers).filterMap (Use.line? o)

/-- The answer to whoever has been handed some of a list of lines and asks for the next: to wait, if
    the list may still grow. -/
def nextOf (ended : Bool) (all handed : List String) : ReadOutcome String :=
  match all[handed.length]? with
  | some text => .got text
  | none => if ended then .ended else .waiting

/-- Only who has been handed all of a list that is over is told its end. -/
theorem eq_of_nextOf_eq_ended {ended : Bool} {all handed : List String} (hp : handed <+: all)
    (h : nextOf ended all handed = .ended) : ended = true ∧ handed = all := by
  unfold nextOf at h
  split at h
  · cases h
  · next hn =>
    refine ⟨?_, hp.eq_of_length_le (List.getElem?_eq_none_iff.1 hn)⟩
    cases ended with
    | true => rfl
    | false => cases h

namespace Splitter

open Lines

variable {s s' : Splitter} {o : Outlet} {received : Bytes} {lines : List String}

/-! ### Steps that do not read from the output -/

theorem drawn_of_not_reads {u : Use} (hr : u.reads o = false) : s.drawn o u = [] := by
  cases u with
  | nextLine o' => simp_all [Use.reads, drawn]
  | nextChunk o' =>
    have hne : o' ≠ o := by simpa [Use.reads] using hr
    simp only [drawn, if_neg hne]
    split <;> rfl
  | rest o' => simp_all [Use.reads, drawn]
  | _ => rfl

/-- A chunk is accepted behind what is queued. -/
theorem queue_of_not_reads {u : Use} (hr : u.reads o = false)
    (hl : ((s.use u).2.output o).reader.live = true) :
    ((s.use u).2.output o).queue = (s.output o).queue ++ s.accepted o u := by
  have h := ((s.changes_of_use o u).balance hl).2
  rw [drawn_of_not_reads hr, List.nil_append] at h
  exact h.symm

/-! ### What the reader has handed over -/

/-- What becomes of a reader that has handed over lines of what its output received and is asked for
    the next: it hands one over, or all lines have been, or all that are complete. -/
inductive TellsNextLine (o : Outlet) (received : Bytes) (lines : List String) :
    ReadOutcome String × Splitter → Prop
  | got {s : Splitter} {text : String} : s.HasRead o received (lines ++ [text]) →
      TellsNextLine o received lines (.got text, s)
  | ended {s : Splitter} : s.HasRead o received lines → s.finished = true →
      lines = ofBytes received → TellsNextLine o received lines (.ended, s)
  | waiting {s : Splitter} : s.HasRead o received lines → s.finished = false →
      lines = complete received → TellsNextLine o received lines (.waiting, s)

namespace HasRead

/-- A reader that asks for a line is told what there is, and has read on. -/
theorem tellsNextLine (h : s.HasRead o received lines) :
    TellsNextLine o received lines (s.nextLine o) := by
  -- By induction on the moves of the reader: it goes on only where it has gathered a chunk.
  fun_induction nextLine s o with
  | case1 s text s' ha => exact .got (h.line (advances_of_eq ha))
  | case2 s s' ha ih => exact ih (h.gathered (advances_of_eq ha))
  | case3 s s' ha =>
    have hl := h.of_ended (advances_of_eq ha)
    cases advances_of_eq ha with
    | ended _ _ hf => exact .ended h hf hl
  | case4 s s' ha =>
    have hl := h.of_waiting (advances_of_eq ha)
    cases advances_of_eq ha with
    | waiting _ _ hf => exact .waiting h hf hl

/-- What was handed over are the first lines of what was received. -/
theorem prefix_sofar (h : s.HasRead o received lines) : lines <+: sofar s.finished received := by
  cases h with
  | reading hc _ =>
    have hp : lines <+: complete received := ⟨_, hc⟩
    exact hp.trans (complete_prefix_sofar _ _)
  | done hf _ _ hl => rw [hf, hl]; exact List.prefix_rfl

/-- The bytes settle what the reader answers. -/
theorem nextLine_fst (h : s.HasRead o received lines) :
    (s.nextLine o).1 = nextOf s.finished (sofar s.finished received) lines := by
  have hf : (s.nextLine o).2.finished = s.finished := (s.draws_nextLine o).finished
  have ht := h.tellsNextLine
  rcases hn : s.nextLine o with ⟨outcome, s'⟩
  rw [hn] at hf ht
  rw [← hf]
  cases ht with
  | @got _ text hr =>
    obtain ⟨more, he⟩ := hr.prefix_sofar
    rw [nextOf, ← he, List.append_assoc, List.getElem?_append_right (Nat.le_refl _), Nat.sub_self]
    rfl
  | ended _ hd hl =>
    rw [nextOf, hd, sofar, if_pos rfl, ← hl, List.getElem?_eq_none (Nat.le_refl _)]
    rfl
  | waiting _ hd hl =>
    rw [nextOf, hd, sofar, if_neg nofun, ← hl, List.getElem?_eq_none (Nat.le_refl _)]
    rfl

/-- A step of whoever does not read from the output at most lets it accept a chunk. -/
theorem of_not_reads (h : s.HasRead o received lines) {u : Use} (hr : u.reads o = false)
    (hl : ((s.use u).2.output o).reader.live = true) :
    (s.use u).2.HasRead o (received ++ (s.accepted o u).flatten) lines :=
  h.extend ((s.steps_of_use u).pending hr hl) (queue_of_not_reads hr hl) fun hf =>
    ⟨(s.steps_of_use u).finished hf, accepted_of_finished hf o u⟩

/-- Asking for the next line hands it over, if there is one. -/
theorem of_nextLine (h : s.HasRead o received lines) :
    (s.use (.nextLine o)).2.HasRead o received
      (lines ++ (Use.line? o (.nextLine o, (s.use (.nextLine o)).1)).toList) := by
  have ht := h.tellsNextLine
  by_cases hh : s.holds (.reader o) = true
  · simp only [use, if_pos hh]
    rcases hn : s.nextLine o with ⟨outcome, s'⟩
    rw [hn] at ht
    cases ht with
    | got hr => simpa [Use.line?] using hr
    | ended hr _ _ => simpa [Use.line?] using hr
    | waiting hr _ _ => simpa [Use.line?] using hr
  · simpa [use, hh, Use.line?] using h

end HasRead

theorem line?_of_not_reads {u : Use} (hr : u.reads o = false) (a : Answer) :
    Use.line? o (u, a) = none := by
  unfold Use.line?
  split
  · next o' text he =>
    cases he
    rw [if_neg (ne_of_beq_false hr)]
  · rfl

/-- In some steps by which an output is read line by line, the lines handed over stay those of what
    was received. -/
theorem HasRead.useAll {us : List Use} (h : s.HasRead o received lines) (hr : ReadsByLine o us)
    (hl : ((s.useAll us).output o).reader.live = true) :
    (s.useAll us).HasRead o (received ++ (s.acceptedAll o us).flatten)
      (lines ++ linesRead o us (s.answersAll us)) := by
  induction us generalizing s received lines with
  | nil => simpa [Splitter.useAll, acceptedAll, linesRead] using h
  | cons u us ih =>
    -- A reader that is not dropped in the end was not dropped by the first step.
    have hl' : ((s.use u).2.output o).reader.live = true := (balance_useAll _ o us hl).1
    have hstep : (s.use u).2.HasRead o (received ++ (s.accepted o u).flatten)
        (lines ++ (Use.line? o (u, (s.use u).1)).toList) := by
      cases hu : u.reads o with
      | false => simpa [line?_of_not_reads hu] using h.of_not_reads hu hl'
      | true =>
        cases hr u List.mem_cons_self hu
        simpa [accepted] using h.of_nextLine
    have hi := ih hstep (fun u hu => hr u (List.mem_cons_of_mem _ hu)) hl
    have hlines : linesRead o (u :: us) (s.answersAll (u :: us)) =
        (Use.line? o (u, (s.use u).1)).toList ++ linesRead o us ((s.use u).2.answersAll us) := by
      simp only [linesRead, answersAll, List.zip_cons_cons, List.filterMap_cons]
      cases Use.line? o (u, (s.use u).1) <;> rfl
    rw [hlines, acceptedAll, List.flatten_append, ← List.append_assoc, ← List.append_assoc]
    exact hi

end Splitter

/-! ### Readings -/

/-- A use of a new splitter in which an output is read line by line, by a reader that is not
    dropped. The readers remember the end. -/
structure LineReading (o : Outlet) where
  capacity : Nat
  uses : List Use
  byLine : ReadsByLine o uses
  live : (((MarkedSplitter.ofCapacity capacity).useAll uses).output o).reader.live = true

namespace LineReading

open Lines Splitter

variable {o : Outlet}

/-- The splitter behind the use. -/
def final (r : LineReading o) : MarkedSplitter :=
  (MarkedSplitter.ofCapacity r.capacity).useAll r.uses

/-- The lines that were handed over. -/
def lines (r : LineReading o) : List String :=
  linesRead o r.uses ((MarkedSplitter.ofCapacity r.capacity).answersAll r.uses)

/-- The bytes that the output accepted. What the readers remember has no part in that. -/
def received (r : LineReading o) : Bytes :=
  ((Splitter.ofCapacity r.capacity).acceptedAll o r.uses).flatten

/-- What the reader is told if it asks for the next line. -/
def next (r : LineReading o) : ReadOutcome String := (r.final.nextLine o).1

/-- With its marks a splitter answers a reader by lines as it does without them. -/
theorem mirrors (r : LineReading o) :
    (MarkedSplitter.ofCapacity r.capacity).Mirrors
      ((MarkedSplitter.ofCapacity r.capacity).answersAll r.uses, r.final)
      ((Splitter.ofCapacity r.capacity).answersAll r.uses,
        (Splitter.ofCapacity r.capacity).useAll r.uses) :=
  MarkedSplitter.mirrors_useAll (MarkedSplitter.isSound_ofCapacity r.capacity) r.uses

/-- The lines handed over and what lies ahead of the reader make up what was received. -/
theorem hasRead (r : LineReading o) : r.final.splitter.HasRead o r.received r.lines := by
  have hm := r.mirrors
  have hl := r.live
  have hs : r.final.splitter = (Splitter.ofCapacity r.capacity).useAll r.uses := hm.splitter
  have ha : (MarkedSplitter.ofCapacity r.capacity).answersAll r.uses =
    (Splitter.ofCapacity r.capacity).answersAll r.uses := hm.answer
  have hnew : (Splitter.ofCapacity r.capacity).HasRead o [] [] :=
    .start (by simp [output, Splitter.ofCapacity]) (by simp [output, Splitter.ofCapacity])
  change (r.final.splitter.output o).reader.live = true at hl
  rw [hs] at hl
  rw [lines, ha, hs]
  exact hnew.useAll r.byLine hl

/-- The next answer is the next of the lines so far, or else the end. -/
theorem next_eq (r : LineReading o) :
    r.next = nextOf r.final.splitter.finished (sofar r.final.splitter.finished r.received)
      r.lines := by
  rw [← r.hasRead.nextLine_fst]
  exact (MarkedSplitter.mirrors_nextLine r.mirrors.sound o).answer

/-- At the end all lines have been handed over. -/
theorem lines_eq_of_next_eq_ended (r : LineReading o) (h : r.next = .ended) :
    r.lines = ofBytes r.received := by
  rw [next_eq] at h
  obtain ⟨hf, hl⟩ := eq_of_nextOf_eq_ended r.hasRead.prefix_sofar h
  rw [hl, hf, sofar, if_pos rfl]

/-- In every reading of an output by line:

* the lines that were handed over are the first of the lines of the bytes that the output accepted;
* when the reader is told the end they are all of them;
* the next answer is the line at which the reader stands, for as long as the bytes have one that is
  complete, or one at all if they are over;
* whoever reads the same bytes, cut into chunks in another way, beside other steps, with other calls
  that had to wait, has been handed the same lines when told the end. -/
theorem lines_prefix_ofBytes (r : LineReading o) :
    r.lines <+: ofBytes r.received ∧
    (r.next = .ended → r.lines = ofBytes r.received) ∧
    r.next = nextOf r.final.splitter.finished (sofar r.final.splitter.finished r.received)
      r.lines ∧
    ∀ o' (r' : LineReading o'), r'.received = r.received → r'.next = .ended → r.next = .ended →
      r'.lines = r.lines := by
  refine ⟨?_, r.lines_eq_of_next_eq_ended, r.next_eq, fun o' r' hr he' he => ?_⟩
  · exact r.hasRead.prefix_sofar.trans (sofar_prefix_ofBytes _ _)
  · rw [r'.lines_eq_of_next_eq_ended he', hr, r.lines_eq_of_next_eq_ended he]

/-- A line that ends in CR LF comes in three chunks, one of which is cut inside a character, to a
    reader that had to wait for each; two of the writes got no further than the combined output. -/
def cutThrice : LineReading .combined where
  capacity := 1
  uses := [.take .input, .take (.reader .combined), .nextLine .combined,
    .write ⟨.stdout, [0x68, 0xC3]⟩, .nextLine .combined, .write ⟨.stdout, [0xA9, 0x0D]⟩,
    .nextLine .combined, .write ⟨.stdout, [0x0A, 0x74]⟩, .nextLine .combined, .close,
    .nextLine .combined]
  byLine := by decide
  live := by cbv

/-- The same bytes in one chunk of the other channel, and an empty one behind it. -/
def uncut : LineReading .stderr where
  capacity := 8
  uses := [.take .input, .take (.reader .stderr),
    .write ⟨.stderr, [0x68, 0xC3, 0xA9, 0x0D, 0x0A, 0x74]⟩, .write ⟨.stderr, []⟩, .drop .input,
    .nextLine .stderr, .nextLine .stderr]
  byLine := by decide
  live := by cbv

/-- One text in two cuts, within a CRLF and within a character: the lines are the same, and are all
    of it. -/
theorem lines_prefix_ofBytes_cutThrice :
    cutThrice.received = uncut.received ∧ cutThrice.next = .ended ∧ uncut.next = .ended ∧
      cutThrice.lines = uncut.lines ∧ uncut.lines = ["hé", "t"] := by
  have hr : cutThrice.received = uncut.received := by cbv
  have he : cutThrice.next = .ended := by cbv
  have he' : uncut.next = .ended := by cbv
  obtain ⟨-, hall, -, hsame⟩ := lines_prefix_ofBytes uncut
  refine ⟨hr, he, he', hsame _ cutThrice hr he he', (hall he').trans ?_⟩
  cbv

end LineReading

end Readiness
