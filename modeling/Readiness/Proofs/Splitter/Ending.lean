import Readiness.Log.Splitter.Marked
import Readiness.Proofs.Splitter.Conservation

/-!
# Closing, and the end of an output

An output is at its end (`Splitter.AtEnd`) when nothing is queued and nothing can arrive any more,
behind the close signal or without an input. No step leads away from there (`AtEnd.use`), and no
chunk is accepted any more (`AtEnd.acceptedAll_eq_nil`). So a reader may remember that it has seen
the end and need not look again: the marks of a `MarkedSplitter` stand at ended outputs only
(`IsSound`), and with its marks it answers every step as the splitter without them does, and leaves
the same behind (`mirrors_use`).

`MarkedSplitter.closes_and_ends` puts together what holds in every use of a new splitter: what a
raised signal means from then on, what a reader that asks for a chunk is told, and that an end, once
told, is final.
-/

namespace Readiness

open Use (Answer)

/-- An empty queue stays empty where nothing is accepted. -/
theorem Output.Changes.queue_eq_nil {capacity : Nat} {x x' : Output} {drawn accepted : List Bytes}
    (h : Changes capacity x x' drawn accepted) (ha : accepted = []) (hq : x.queue = []) :
    x'.queue = [] := by
  cases h with
  | draws _ hd => exact (List.append_eq_nil_iff.1 (hd.symm.trans hq)).2
  | accepts => cases ha
  | passes _ hx => rwa [hx]
  | drops hx => rw [hx]; rfl

namespace Splitter

/-- What is answered over some steps. -/
def answersAll : Splitter → List Use → List Answer
  | _, [] => []
  | s, u :: us => (s.use u).1 :: answersAll (s.use u).2 us

/-- No chunk is queued for an output, and none can arrive any more. -/
structure AtEnd (s : Splitter) (o : Outlet) : Prop where
  queue : (s.output o).queue = []
  finished : s.finished = true

/-- The signal is up behind some steps if it was before, or if a step said so. -/
theorem closed_useAll (s : Splitter) (us : List Use) :
    (s.useAll us).closed = true ↔ s.closed = true ∨ .closed ∈ s.answersAll us := by
  induction us generalizing s with
  | nil => simp [useAll, answersAll]
  | cons u us ih =>
    have h := (s.steps_of_use u).closed_iff
    rw [answersAll, List.mem_cons, ← or_assoc, eq_comm (a := Answer.closed), ← h]
    exact ih _

/-! ## The end of an output -/

/-- A finished splitter lets no write through. -/
theorem accepted_of_finished {s : Splitter} (hf : s.finished = true) (o : Outlet) (u : Use) :
    s.accepted o u = [] := by
  cases u with
  | write c =>
    by_cases hi : s.holds .input = true
    · -- The input is held, so it is the signal that finished the splitter.
      have hin : s.input = .taken := by simpa [holds, holding] using hi
      have hc : s.closed = true := by simpa [finished, hin, Holding.live] using hf
      simp [accepted, use, hi, write_eq, hc]
    · simp [accepted, use, hi]
  | _ => rfl

namespace AtEnd

variable {s : Splitter} {o : Outlet}

/-- A step leaves an output at its end. -/
protected theorem use (h : s.AtEnd o) (u : Use) : (s.use u).2.AtEnd o := by
  refine ⟨?_, (s.steps_of_use u).finished h.finished⟩
  exact (s.changes_of_use o u).queue_eq_nil (accepted_of_finished h.finished o u) h.queue

protected theorem useAll (h : s.AtEnd o) (us : List Use) : (s.useAll us).AtEnd o := by
  induction us generalizing s with
  | nil => exact h
  | cons u us ih => exact ih (h.use u)

/-- An output at its end accepts nothing. -/
theorem acceptedAll_eq_nil (h : s.AtEnd o) (us : List Use) : s.acceptedAll o us = [] := by
  induction us generalizing s with
  | nil => rfl
  | cons u us ih =>
    rw [acceptedAll, accepted_of_finished h.finished, List.nil_append]
    exact ih (h.use u)

end AtEnd

theorem nextChunk_of_queue_eq_cons {s : Splitter} {o : Outlet} {c : Bytes} {cs : List Bytes}
    (h : (s.output o).queue = c :: cs) :
    s.nextChunk o = (.got c, s.setOutput o { s.output o with queue := cs }) := by
  simp [nextChunk, h]

theorem nextChunk_of_queue_eq_nil {s : Splitter} {o : Outlet} (h : (s.output o).queue = []) :
    s.nextChunk o = (if s.finished then .ended else .waiting, s) := by
  simp [nextChunk, h]

end Splitter

/-! ## Marks -/

namespace MarkedSplitter

variable {m m' : MarkedSplitter} {o : Outlet}

def useAll (m : MarkedSplitter) (us : List Use) : MarkedSplitter :=
  us.foldl (fun m u => (m.use u).2) m

def answersAll : MarkedSplitter → List Use → List Answer
  | _, [] => []
  | m, u :: us => (m.use u).1 :: answersAll (m.use u).2 us

/-- Every mark stands at an output that is at its end. -/
def IsSound (m : MarkedSplitter) : Prop := ∀ o, m.sawEnd o = true → m.splitter.AtEnd o

/-- With its marks a splitter comes from one step to the same as without them. Marks stay. -/
structure Mirrors {α : Type} (m : MarkedSplitter) (r : α × MarkedSplitter) (p : α × Splitter) :
    Prop where
  answer : r.1 = p.1
  splitter : r.2.splitter = p.2
  sound : r.2.IsSound
  marks : ∀ o, m.sawEnd o = true → r.2.sawEnd o = true

theorem Mirrors.mono {α : Type} {r : α × MarkedSplitter} {p : α × Splitter}
    (h : m'.Mirrors r p) (hm : ∀ o, m.sawEnd o = true → m'.sawEnd o = true) : m.Mirrors r p :=
  ⟨h.answer, h.splitter, h.sound, fun o ho => h.marks o (hm o ho)⟩

theorem setOutput_setOutput (m : MarkedSplitter) (o : Outlet) (x y : Output) :
    (m.setOutput o x).setOutput o y = m.setOutput o y := by
  simp [setOutput, Splitter.setOutput_setOutput]

theorem sawEnd_mark_of_sawEnd {o o' : Outlet} (h : m.sawEnd o' = true) :
    (m.mark o).sawEnd o' = true := by
  unfold sawEnd mark at *
  rw [PerOutlet.get_set]
  split
  · rfl
  · exact h

namespace IsSound

/-- A mark may be set where the end is. -/
theorem mark (h : m.IsSound) (ho : m.splitter.AtEnd o) : (m.mark o).IsSound := fun o' ho' => by
  by_cases hne : o' = o
  · exact hne ▸ ho
  · unfold sawEnd MarkedSplitter.mark at ho'
    rw [PerOutlet.get_set_of_ne _ _ hne] at ho'
    exact h o' ho'

/-- An output may change as long as nothing is added to an empty queue. -/
theorem setOutput {x : Output} (h : m.IsSound) (hx : (m.output o).queue = [] → x.queue = []) :
    (m.setOutput o x).IsSound := fun o' ho' => by
  refine ⟨?_, (h o' ho').finished⟩
  simp only [MarkedSplitter.setOutput, Splitter.output_setOutput]
  split
  · next he => exact hx (he ▸ (h o' ho').queue)
  · exact (h o' ho').queue

/-- A step of the splitter leaves its marks sound. -/
protected theorem use (h : m.IsSound) (u : Use) :
    IsSound { m with splitter := (m.splitter.use u).2 } := fun o ho => (h o ho).use u

end IsSound

/-- With its marks a splitter hands over the next chunk as it does without them. -/
theorem mirrors_nextChunk (h : m.IsSound) (o : Outlet) :
    m.Mirrors (m.nextChunk o) (m.splitter.nextChunk o) := by
  unfold nextChunk
  split
  · next hm =>
    -- A mark is set, so the splitter is at the end of the output as well.
    rw [Splitter.nextChunk_of_queue_eq_nil (h o hm).queue, if_pos (h o hm).finished]
    exact ⟨rfl, rfl, h, fun _ => id⟩
  · cases hq : (m.splitter.output o).queue with
    | cons c cs =>
      rw [Splitter.nextChunk_of_queue_eq_cons hq]
      have hx : (m.output o).queue ≠ [] := by rw [output, hq]; nofun
      exact ⟨rfl, rfl, h.setOutput fun hn => absurd hn hx, fun _ => id⟩
    | nil =>
      rw [Splitter.nextChunk_of_queue_eq_nil hq]
      cases hf : m.splitter.finished with
      | true => exact ⟨rfl, rfl, h.mark ⟨hq, hf⟩, fun _ => sawEnd_mark_of_sawEnd⟩
      | false => exact ⟨rfl, rfl, h, fun _ => id⟩

/-- Who is told the end has come to it, and the splitter is as it was. -/
theorem IsSound.nextChunk_ended (h : m.IsSound) (hn : m.nextChunk o = (.ended, m')) :
    m.splitter.AtEnd o ∧ m'.splitter = m.splitter := by
  cases hm : m.sawEnd o with
  | true =>
    rw [nextChunk_eq, if_pos hm] at hn
    cases hn
    exact ⟨h o hm, rfl⟩
  | false =>
    obtain ⟨hq, hf, rfl⟩ := MarkedSplitter.nextChunk_ended hm hn
    exact ⟨⟨hq, hf⟩, rfl⟩

theorem mirrors_nextLine (h : m.IsSound) (o : Outlet) :
    m.Mirrors (m.nextLine o) (m.splitter.nextLine o) := by
  fun_induction nextLine m o with
  | case1 m x line rest hc =>
    rw [Splitter.nextLine_eq, (Splitter.Advances.line hc).eq]
    exact ⟨rfl, rfl, h.setOutput id, fun _ => id⟩
  | case2 m x hc hm hp =>
    have hp' : (m.splitter.output o).pending = [] := List.isEmpty_iff.1 hp
    rw [Splitter.nextLine_eq, (Splitter.Advances.ended hp' (h o hm).queue (h o hm).finished).eq]
    exact ⟨rfl, rfl, h, fun _ => id⟩
  | case3 m x hc hm hp =>
    have hp' : (m.splitter.output o).pending ≠ [] := fun hn => hp (List.isEmpty_iff.2 hn)
    rw [Splitter.nextLine_eq, (Splitter.Advances.tail hc (h o hm).queue (h o hm).finished hp').eq]
    exact ⟨rfl, rfl, h.setOutput id, fun _ => id⟩
  | case4 m x hc hm c m' hn ih =>
    obtain ⟨cs, hq, rfl⟩ := nextChunk_got hn
    have hx : (m.output o).queue ≠ [] := by rw [hq]; nofun
    have hi := ih ((h.setOutput fun hn => absurd hn hx).setOutput id)
    rw [Splitter.nextLine_eq, (Splitter.Advances.gathered hc hq).eq]
    rw [output_setOutput, setOutput_setOutput] at hi ⊢
    exact hi.mono fun _ => id
  | case5 m x hc hm m' hn ih =>
    obtain ⟨hq, hf, rfl⟩ := nextChunk_ended (Bool.eq_false_iff.2 hm) hn
    exact (ih (h.mark ⟨hq, hf⟩)).mono fun _ => sawEnd_mark_of_sawEnd
  | case6 m x hc hm m' hn =>
    obtain ⟨hq, hf, rfl⟩ := nextChunk_waiting hn
    rw [Splitter.nextLine_eq, (Splitter.Advances.waiting hc hq hf).eq]
    exact ⟨rfl, rfl, h, fun _ => id⟩

/-- Draining comes to all that is queued, behind what was gathered before. -/
theorem mirrors_drain (h : m.IsSound) (o : Outlet) (gathered : Bytes) :
    m.Mirrors (m.drain o gathered)
      (if m.splitter.finished then .got (gathered ++ (m.output o).queue.flatten) else .waiting,
        m.splitter.setOutput o { m.output o with queue := [] }) := by
  fun_induction drain m o gathered with
  | case1 m gathered c m' hn ih =>
    obtain ⟨cs, hq, rfl⟩ := nextChunk_got hn
    have hx : (m.output o).queue ≠ [] := by rw [hq]; nofun
    have hi := ih (h.setOutput fun hn => absurd hn hx)
    rw [output_setOutput] at hi
    rw [hq, List.flatten_cons, ← List.append_assoc,
      ← Splitter.setOutput_setOutput m.splitter o { m.output o with queue := cs }]
    exact hi.mono fun _ => id
  | case2 m gathered m' hn =>
    obtain ⟨⟨hq, hf⟩, hs⟩ := h.nextChunk_ended hn
    have hm := mirrors_nextChunk h o
    rw [hn] at hm
    have hx : { m.output o with queue := [] } = m.splitter.output o := by rw [← hq]; rfl
    rw [hx, Splitter.setOutput_output, if_pos hf]
    refine ⟨?_, hs, hm.sound, hm.marks⟩
    rw [show (m.output o).queue = [] from hq, List.flatten_nil, List.append_nil]
  | case3 m gathered m' hn =>
    obtain ⟨hq, hf, rfl⟩ := nextChunk_waiting hn
    have hx : { m'.output o with queue := [] } = m'.splitter.output o := by rw [← hq]; rfl
    rw [hx, Splitter.setOutput_output, if_neg (by rw [hf]; nofun)]
    exact ⟨rfl, rfl, h, fun _ => id⟩

theorem mirrors_rest (h : m.IsSound) (o : Outlet) :
    m.Mirrors (m.rest o) (m.splitter.rest o) := by
  have hd := mirrors_drain (m := m.setOutput o ((m.output o).keep [])) (h.setOutput id) o
    (m.output o).pending
  rw [output_setOutput] at hd
  unfold rest Splitter.rest
  dsimp only
  rw [← Splitter.setOutput_setOutput m.splitter o ((m.output o).keep [])]
  exact hd.mono fun _ => id

/-- With its marks a splitter answers every step as it does without them, and leaves the same. -/
theorem mirrors_use (h : m.IsSound) (u : Use) : m.Mirrors (m.use u) (m.splitter.use u) := by
  have hs := h.use u
  cases u with
  | nextLine o =>
    simp only [use, Splitter.use]
    split
    · have hr := mirrors_nextLine h o
      exact ⟨congrArg _ hr.answer, hr.splitter, hr.sound, hr.marks⟩
    · exact ⟨rfl, rfl, h, fun _ => id⟩
  | nextChunk o =>
    simp only [use, Splitter.use]
    split
    · have hr := mirrors_nextChunk h o
      exact ⟨congrArg _ hr.answer, hr.splitter, hr.sound, hr.marks⟩
    · exact ⟨rfl, rfl, h, fun _ => id⟩
  | rest o =>
    simp only [use, Splitter.use]
    split
    · have hr := mirrors_rest h o
      exact ⟨congrArg _ hr.answer, hr.splitter, hr.sound, hr.marks⟩
    · exact ⟨rfl, rfl, h, fun _ => id⟩
  | _ => exact ⟨rfl, rfl, hs, fun _ => id⟩

/-- The same over any steps. -/
theorem mirrors_useAll (h : m.IsSound) (us : List Use) :
    m.Mirrors (m.answersAll us, m.useAll us) (m.splitter.answersAll us, m.splitter.useAll us) := by
  induction us generalizing m with
  | nil => exact ⟨rfl, rfl, h, fun _ => id⟩
  | cons u us ih =>
    have hu := mirrors_use h u
    have hi := ih hu.sound
    rw [hu.splitter] at hi
    exact ⟨congr (congrArg List.cons hu.answer) hi.answer, hi.splitter, hi.sound,
      fun o ho => hi.marks o (hu.marks o ho)⟩

theorem isSound_ofCapacity (capacity : Nat) : (ofCapacity capacity).IsSound := fun o ho => by
  simp [ofCapacity, sawEnd] at ho

/-! ## Reported ends -/

/-- Whether an answer to a step tells the end of an output. -/
def tellsEnd (o : Outlet) : Use → Answer → Bool
  | .nextLine o', .line .ended => o' == o
  | .nextChunk o', .bytes .ended => o' == o
  | .rest o', .bytes (.got _) => o' == o
  | _, _ => false

/-- An output whose reader is told the end, asking for a chunk, is marked. -/
theorem sawEnd_of_nextChunk (h : m.nextChunk o = (.ended, m')) : m'.sawEnd o = true := by
  cases hm : m.sawEnd o with
  | true =>
    rw [nextChunk_eq, if_pos hm] at h
    cases h
    exact hm
  | false =>
    obtain ⟨-, -, rfl⟩ := nextChunk_ended hm h
    exact sawEnd_mark m o

theorem sawEnd_of_nextLine (h : (m.nextLine o).1 = .ended) : (m.nextLine o).2.sawEnd o = true := by
  fun_induction nextLine m o with
  | case1 => cases h
  | case2 m x hc hm => exact hm
  | case3 => cases h
  | case4 m x hc hm c m' hn ih => exact ih h
  | case5 m x hc hm m' hn ih => exact ih h
  | case6 => cases h

/-- An output that is read to its end is marked. -/
theorem sawEnd_of_drain {gathered bs : Bytes} (h : (m.drain o gathered).1 = .got bs) :
    (m.drain o gathered).2.sawEnd o = true := by
  fun_induction drain m o gathered with
  | case1 m gathered c m' hn ih => exact ih h
  | case2 m gathered m' hn => exact sawEnd_of_nextChunk hn
  | case3 => cases h

/-- A reader that has told the end has set its mark. -/
theorem sawEnd_of_tellsEnd {u : Use} (h : tellsEnd o u (m.use u).1 = true) :
    (m.use u).2.sawEnd o = true := by
  cases u with
  | nextLine o' =>
    simp only [use] at h ⊢
    split at h
    · next hh =>
      rw [if_pos hh]
      cases hr : (m.nextLine o').1 <;> simp only [hr, tellsEnd] at h
      · cases h
      · exact eq_of_beq h ▸ sawEnd_of_nextLine hr
      · cases h
    · cases h
  | nextChunk o' =>
    simp only [use] at h ⊢
    split at h
    · next hh =>
      rw [if_pos hh]
      cases hr : (m.nextChunk o').1 <;> simp only [hr, tellsEnd] at h
      · cases h
      · exact eq_of_beq h ▸ sawEnd_of_nextChunk (Prod.ext hr rfl)
      · cases h
    · cases h
  | rest o' =>
    simp only [use] at h ⊢
    split at h
    · next hh =>
      rw [if_pos hh]
      cases hr : (m.rest o').1 <;> simp only [hr, tellsEnd] at h
      · exact eq_of_beq h ▸ sawEnd_of_drain hr
      · cases h
      · cases h
    · cases h
  | _ => cases h

/-! ## Every use -/

/-- What the raised signal means: whoever looks at it sees it, raising it again changes nothing, and
    a write is refused and changes nothing. -/
structure IsShut (m : MarkedSplitter) : Prop where
  lookAtSignal : (m.use .lookAtSignal).1 =
    .signal (if m.splitter.held then some true else none)
      (if m.splitter.holds .input then some true else none)
  close : (m.use .close).2 = m
  closeInput : (m.use .closeInput).2 = m
  write : ∀ c, m.use (.write c) =
    (if m.splitter.holds .input then .written .closed else .noInput, m)

/-- What a reader that asks for a chunk is told: to wait while there is none and one may still
    arrive, the oldest one whenever there is one, and else the end. -/
structure TellsNextChunk (m : MarkedSplitter) (o : Outlet) : Prop where
  waiting : (m.nextChunk o).1 = .waiting ↔
    (m.output o).queue = [] ∧ m.splitter.closed = false ∧ m.splitter.input.live = true
  got : ∀ c, (m.nextChunk o).1 = .got c ↔ (m.output o).queue.head? = some c
  ended : (m.nextChunk o).1 = .ended ↔
    (m.output o).queue = [] ∧ (m.splitter.closed = true ∨ m.splitter.input.live = false)

/-- What a told end means: from then on the output accepts no chunk, its queue stays empty, and
    whenever its reader asks for a chunk it is told the end again, and nothing changes. -/
structure IsOver (m : MarkedSplitter) (o : Outlet) : Prop where
  accepts : ∀ us, m.splitter.acceptedAll o us = []
  queue : ∀ us, ((m.useAll us).output o).queue = []
  nextChunk : ∀ us, (m.useAll us).nextChunk o = (.ended, m.useAll us)

/-- Behind the signal a splitter is shut. -/
theorem isShut_of_closed (hc : m.splitter.closed = true) : m.IsShut := by
  have hs : m.splitter.close = m.splitter := by
    rw [Splitter.close, ← hc]
  constructor
  · simp [use, Splitter.use, hc]
  · simp only [use, Splitter.use]; split <;> simp only [hs]
  · simp only [use, Splitter.use]; split <;> simp only [hs]
  · intro c
    simp only [use, Splitter.use, Splitter.write, hc, if_true]
    split <;> rfl

/-- A reader that asks for a chunk is told what there is. -/
theorem IsSound.tellsNextChunk (h : m.IsSound) (o : Outlet) : m.TellsNextChunk o := by
  have ha := (mirrors_nextChunk h o).answer
  cases hq : (m.splitter.output o).queue with
  | cons c cs =>
    rw [Splitter.nextChunk_of_queue_eq_cons hq] at ha
    constructor <;> simp [ha, output, hq]
  | nil =>
    rw [Splitter.nextChunk_of_queue_eq_nil hq] at ha
    cases hc : m.splitter.closed <;> cases hl : m.splitter.input.live <;>
      constructor <;> simp [ha, output, hq, Splitter.finished, hc, hl]

/-- A mark that is set stands for the end for good. -/
theorem IsSound.isOver (h : m.IsSound) (ho : m.sawEnd o = true) : m.IsOver o where
  accepts us := (h o ho).acceptedAll_eq_nil us
  queue us := by
    have hr := mirrors_useAll h us
    have he := (h o ho).useAll us
    rw [output, hr.splitter]
    exact he.queue
  nextChunk us := by
    rw [nextChunk_eq, if_pos ((mirrors_useAll h us).marks o ho)]

/-- In every use of a new splitter:

* its readers may remember the end: this changes neither an answer nor what is left behind;
* the signal is up if and only if a step said so, and from then on it means what `IsShut` says;
* a reader that asks for a chunk is told what `TellsNextChunk` says;
* an end, once it was told, means what `IsOver` says. -/
theorem closes_and_ends (capacity : Nat) (us : List Use) :
    let m := (ofCapacity capacity).useAll us
    ((ofCapacity capacity).answersAll us = (Splitter.ofCapacity capacity).answersAll us ∧
      m.splitter = (Splitter.ofCapacity capacity).useAll us) ∧
    (m.splitter.closed = true ↔ .closed ∈ (ofCapacity capacity).answersAll us) ∧
    (m.splitter.closed = true → ∀ us', (m.useAll us').IsShut) ∧
    (∀ o, m.TellsNextChunk o) ∧
    ∀ o u, tellsEnd o u (m.use u).1 = true → (m.use u).2.IsOver o := by
  intro m
  have h₀ := mirrors_useAll (isSound_ofCapacity capacity) us
  have hm : m.IsSound := h₀.sound
  have ha : (ofCapacity capacity).answersAll us = (Splitter.ofCapacity capacity).answersAll us :=
    h₀.answer
  have hs : m.splitter = (Splitter.ofCapacity capacity).useAll us := h₀.splitter
  refine ⟨⟨ha, hs⟩, ?_, fun hc us' => ?_, hm.tellsNextChunk, fun o u he => ?_⟩
  · -- The signal of a new splitter is not up.
    rw [ha, hs]
    exact (Splitter.closed_useAll _ us).trans (or_iff_right nofun)
  · refine isShut_of_closed ?_
    rw [(mirrors_useAll hm us').splitter]
    exact (Splitter.closed_useAll _ us').2 (.inl hc)
  · exact (mirrors_use hm u).sound.isOver (sawEnd_of_tellsEnd he)

/-- A chunk is written, the splitter is closed, and the chunk is read. -/
def closedBehindChunk : List Use :=
  [.take .input, .take (.reader .combined), .write ⟨.stdout, [0x61]⟩, .close, .nextChunk .combined]

/-- A splitter that is closed behind a chunk still hands it over, and then tells the end. -/
theorem closes_and_ends_behind_chunk :
    let m := (ofCapacity 2).useAll closedBehindChunk
    (m.splitter.closed = true ∧ ∀ us, (m.useAll us).IsShut) ∧
      tellsEnd .combined (.nextChunk .combined) (m.use (.nextChunk .combined)).1 = true ∧
      (m.use (.nextChunk .combined)).2.IsOver .combined := by
  have h := closes_and_ends 2 closedBehindChunk
  have hc : ((ofCapacity 2).useAll closedBehindChunk).splitter.closed = true := by decide
  have he : tellsEnd .combined (.nextChunk .combined)
      (((ofCapacity 2).useAll closedBehindChunk).use (.nextChunk .combined)).1 = true := by decide
  exact ⟨⟨hc, h.2.2.1 hc⟩, he, h.2.2.2.2 _ _ he⟩

end MarkedSplitter

end Readiness
