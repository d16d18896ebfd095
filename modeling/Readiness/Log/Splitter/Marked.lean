import Readiness.Log.Splitter.Use

/-!
# Readers that remember the end

A reader that has seen the end of its output sets a mark. From then on it does not look at its queue
any more, nor at the close signal: every further attempt to read ends at once. `MarkedSplitter` is a
splitter in use with the marks of its readers.

* `nextChunk`: looks at the mark first, and sets it where the end is seen;
* `nextLine`, `rest`: gather chunk by chunk, by `nextChunk`.
-/

namespace Readiness

open Use (Answer)

/-- A splitter with the marks of its readers. -/
structure MarkedSplitter where
  splitter : Splitter
  /-- Which readers have seen the end of their output. -/
  marks : PerOutlet Bool := .all false

namespace MarkedSplitter

def ofCapacity (capacity : Nat) : MarkedSplitter := { splitter := .ofCapacity capacity }

def output (m : MarkedSplitter) (o : Outlet) : Output := m.splitter.output o

def setOutput (m : MarkedSplitter) (o : Outlet) (x : Output) : MarkedSplitter :=
  { m with splitter := m.splitter.setOutput o x }

/-- Whether the reader of an output has seen the end of it. -/
def sawEnd (m : MarkedSplitter) (o : Outlet) : Bool := m.marks.get o

def mark (m : MarkedSplitter) (o : Outlet) : MarkedSplitter :=
  { m with marks := m.marks.set true o }

@[simp] theorem output_setOutput (m : MarkedSplitter) (o : Outlet) (x : Output) :
    (m.setOutput o x).output o = x := Splitter.output_setOutput_self _ _ _

@[simp] theorem output_mark (m : MarkedSplitter) (o o' : Outlet) :
    (m.mark o).output o' = m.output o' := rfl

@[simp] theorem sawEnd_mark (m : MarkedSplitter) (o : Outlet) : (m.mark o).sawEnd o = true :=
  PerOutlet.get_set_self _ _ _

/-- The oldest queued chunk. Where there is none and none can arrive any more, the reader is
    marked. -/
def nextChunk (m : MarkedSplitter) (o : Outlet) : ReadOutcome Bytes × MarkedSplitter :=
  if m.sawEnd o then (.ended, m)
  else match m.splitter.nextChunk o with
    | (.ended, s) => (.ended, { m with splitter := s }.mark o)
    | (outcome, s) => (outcome, { m with splitter := s })

/-- Which chunk comes next depends on the mark, then on the queue, and then on the end of the
    input. -/
theorem nextChunk_eq (m : MarkedSplitter) (o : Outlet) :
    m.nextChunk o =
      if m.sawEnd o then (.ended, m)
      else match (m.output o).queue with
        | c :: cs => (.got c, m.setOutput o { m.output o with queue := cs })
        | [] => if m.splitter.finished then (.ended, m.mark o) else (.waiting, m) := by
  unfold nextChunk Splitter.nextChunk
  split
  · rfl
  · cases hq : (m.output o).queue with
    | nil =>
      have hq' : (m.splitter.output o).queue = [] := hq
      cases hf : m.splitter.finished <;> simp [hq']
    | cons c cs =>
      have hq' : (m.splitter.output o).queue = c :: cs := hq
      simp only [hq']; rfl

theorem nextChunk_got {m m' : MarkedSplitter} {o : Outlet} {c : Bytes}
    (h : m.nextChunk o = (.got c, m')) : ∃ cs, (m.output o).queue = c :: cs ∧
      m' = m.setOutput o { m.output o with queue := cs } := by
  rw [nextChunk_eq] at h
  split at h
  · cases h
  · split at h
    · next cs hq => cases h; exact ⟨cs, hq, rfl⟩
    · split at h <;> cases h

theorem nextChunk_ended {m m' : MarkedSplitter} {o : Outlet} (hm : m.sawEnd o = false)
    (h : m.nextChunk o = (.ended, m')) :
    (m.output o).queue = [] ∧ m.splitter.finished = true ∧ m' = m.mark o := by
  rw [nextChunk_eq, if_neg (by rw [hm]; nofun)] at h
  split at h
  · cases h
  · next hq =>
    split at h
    · next hf => cases h; exact ⟨hq, hf, rfl⟩
    · cases h

theorem nextChunk_waiting {m m' : MarkedSplitter} {o : Outlet}
    (h : m.nextChunk o = (.waiting, m')) :
    (m.output o).queue = [] ∧ m.splitter.finished = false ∧ m' = m := by
  rw [nextChunk_eq] at h
  split at h
  · cases h
  · split at h
    · cases h
    · next hq =>
      split at h
      · cases h
      · next hf => cases h; exact ⟨hq, Bool.eq_false_iff.2 hf, rfl⟩

/-- The next line, gathered from as many chunks as it takes. A marked reader hands over the rest as
    a last line. -/
def nextLine (m : MarkedSplitter) (o : Outlet) : ReadOutcome String × MarkedSplitter :=
  let x := m.output o
  match Lines.cut? x.pending with
  | some (line, rest) =>
    (.got (Utf8.decode (Lines.chomp line)), m.setOutput o (x.keep rest))
  | none =>
    if _hm : m.sawEnd o then
      if x.pending.isEmpty then (.ended, m)
      else (.got (Utf8.decode x.pending), m.setOutput o (x.keep []))
    else match _h : m.nextChunk o with
      | (.got c, m') => nextLine (m'.setOutput o ((m'.output o).keep (x.pending ++ c))) o
      | (.ended, m') => nextLine m' o
      | (.waiting, m') => (.waiting, m')
-- The queue gets shorter, until the reader is marked.
termination_by ((m.output o).queue.length, if m.sawEnd o then 0 else 1)
decreasing_by
  · obtain ⟨cs, hq, rfl⟩ := nextChunk_got _h
    exact Prod.Lex.left _ _ (by simp [hq, Output.keep])
  · obtain ⟨-, -, rfl⟩ := nextChunk_ended (Bool.eq_false_iff.2 _hm) _h
    exact Prod.Lex.right _ (by simp [_hm])

/-- All bytes up to the end of the output, behind those that are gathered already. -/
def drain (m : MarkedSplitter) (o : Outlet) (gathered : Bytes) :
    ReadOutcome Bytes × MarkedSplitter :=
  match _h : m.nextChunk o with
  | (.got c, m') => drain m' o (gathered ++ c)
  | (.ended, m') => (.got gathered, m')
  | (.waiting, m') => (.waiting, m')
termination_by (m.output o).queue.length
decreasing_by
  obtain ⟨cs, hq, rfl⟩ := nextChunk_got _h
  simp [hq]

/-- All bytes up to the end of the output, beginning with those being gathered. Where the end has
    not come, what could be read is lost. -/
def rest (m : MarkedSplitter) (o : Outlet) : ReadOutcome Bytes × MarkedSplitter :=
  (m.setOutput o ((m.output o).keep [])).drain o (m.output o).pending

/-- One step. Only what a reader does involves the marks. -/
def use (m : MarkedSplitter) : Use → Answer × MarkedSplitter
  | .nextLine o =>
    if m.splitter.holds (.reader o) then
      let (outcome, m') := m.nextLine o
      (.line outcome, m')
    else (.notHeld, m)
  | .nextChunk o =>
    if m.splitter.holds (.reader o) then
      let (outcome, m') := m.nextChunk o
      (.bytes outcome, m')
    else (.notHeld, m)
  | .rest o =>
    if m.splitter.holds (.reader o) then
      let (outcome, m') := m.rest o
      (.bytes outcome, m')
    else (.notHeld, m)
  | u =>
    let (answer, s) := m.splitter.use u
    (answer, { m with splitter := s })

end MarkedSplitter

end Readiness
