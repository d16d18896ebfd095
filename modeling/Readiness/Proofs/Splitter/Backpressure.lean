import Readiness.Log.Splitter.Wired
import Readiness.Proofs.Splitter.Ending

/-!
# When a write blocks

The wires of an input are a memory of dropped readers: a wire is cut only where the reader was
dropped (`IsAware`), and a dropped reader never comes back (`Splitter.reader_use_of_dropped`). So
with its wires a splitter answers every step as without them, and leaves the same behind
(`mirrors_use`), and what one attempt to write comes to can be told from the close signal and from
the two outputs that carry the chunk, in the state in which it is made.

An output jams (`IsJammed`) when its reader has not been dropped, taken or not, and its queue is
full. `WritesExactly` says what an attempt to write comes to, `Overlooks` that an output has no part
in it. `WiredSplitter.write_exactly` puts this together for every use of a new splitter.
-/

namespace Readiness

open Use (Answer)

theorem Holding.live_eq_false_iff {h : Holding} : h.live = false ↔ h = .dropped := by
  cases h <;> decide

theorem Holding.live_iff {h : Holding} : h.live = true ↔ h ≠ .dropped := by
  cases h <;> decide

namespace Splitter

variable {s : Splitter} {o : Outlet}

theorem setOutput_comm (s : Splitter) {o o' : Outlet} (x y : Output) (h : o' ≠ o) :
    (s.setOutput o x).setOutput o' y = (s.setOutput o' y).setOutput o x := by
  cases o <;> cases o' <;> first | rfl | exact absurd rfl h

/-- A dropped reader stays dropped. -/
theorem reader_use_of_dropped (h : (s.output o).reader = .dropped) (u : Use) :
    ((s.use u).2.output o).reader = .dropped := by
  rw [← Holding.live_eq_false_iff] at h ⊢
  refine Bool.eq_false_iff.2 fun hl => ?_
  have hl' := ((s.changes_of_use o u).balance hl).1
  rw [h] at hl'
  cases hl'

/-- A reader that was dropped stays dropped. -/
theorem reader_useAll_of_dropped (h : (s.output o).reader = .dropped) (us : List Use) :
    ((s.useAll us).output o).reader = .dropped := by
  induction us generalizing s with
  | nil => exact h
  | cons u us ih => exact ih (reader_use_of_dropped h u)

theorem capacity_useAll (s : Splitter) (us : List Use) : (s.useAll us).capacity = s.capacity := by
  induction us generalizing s with
  | nil => rfl
  | cons u us ih => exact (ih _).trans (s.steps_of_use u).capacity

/-- Sending is offering, with one more thing told. -/
theorem send_eq (s : Splitter) (o : Outlet) (bs : Bytes) :
    s.send o bs =
      if (s.output o).reader = .dropped then (.refused, s)
      else if s.isFull o then (.full, s)
      else (.sent, s.push o bs) := by
  unfold send
  dsimp only
  split
  · rfl
  · next hr =>
    have hl := Holding.live_iff.2 hr
    by_cases hq : (s.output o).queue.length < s.capacity
    · simp [isFull, push, Output.push, hl, hq, Nat.not_le.2 hq]
    · simp [isFull, hl, hq, Nat.not_lt.1 hq]

/-- An attempt to send has nothing to do with another output. -/
theorem send_setOutput (s : Splitter) {o o' : Outlet} (h : o' ≠ o) (x : Output) (bs : Bytes) :
    (s.setOutput o x).send o' bs = ((s.send o' bs).1, (s.send o' bs).2.setOutput o x) := by
  unfold send
  dsimp only
  rw [output_setOutput_of_ne _ _ h]
  split
  · rfl
  · change (if _ < s.capacity then _ else _) = _
    split
    · rw [setOutput_comm _ _ _ h]
    · rfl

/-- An output that nobody reads is never full. -/
theorem isFull_eq_false_of_dropped (h : (s.output o).reader = .dropped) : s.isFull o = false := by
  rw [isFull, h]; rfl

/-- An output that nobody reads loses its chunks. -/
theorem push_eq_self_of_dropped (h : (s.output o).reader = .dropped) (bs : Bytes) :
    s.push o bs = s := by
  rw [push, Output.push, h]; exact setOutput_output s o

end Splitter

/-- A write needs the input, and leaves the marks as they are. -/
theorem MarkedSplitter.use_write (m : MarkedSplitter) (c : Chunk) :
    m.use (.write c) =
      if m.splitter.holds .input then
        (.written (m.splitter.write c).1, { m with splitter := (m.splitter.write c).2 })
      else (.noInput, m) := by
  simp only [use, Splitter.use]
  split <;> rfl

namespace WiredSplitter

variable {w : WiredSplitter}

def useAll (w : WiredSplitter) (us : List Use) : WiredSplitter :=
  us.foldl (fun w u => (w.use u).2) w

def answersAll : WiredSplitter → List Use → List Answer
  | _, [] => []
  | w, u :: us => (w.use u).1 :: answersAll (w.use u).2 us

/-- Every wire that is cut led to a reader that was dropped. -/
def IsAware (w : WiredSplitter) : Prop :=
  ∀ o, w.isWired o = false → (w.output o).reader = .dropped

/-- With its wires a splitter comes from one step to the same as without them, with wires that
    tell the truth. -/
structure Mirrors {α : Type} (r : α × WiredSplitter) (p : α × MarkedSplitter) : Prop where
  answer : r.1 = p.1
  marked : r.2.marked = p.2
  aware : r.2.IsAware

theorem isWired_cut (w : WiredSplitter) (o o' : Outlet) :
    (w.cut o).isWired o' = if o' = o then false else w.isWired o' := PerOutlet.get_set _ _ _ _

namespace IsAware

/-- A wire may be cut behind a dropped reader. -/
theorem cut (h : w.IsAware) {o : Outlet} (hd : (w.output o).reader = .dropped) :
    (w.cut o).IsAware := fun o' ho' => by
  rw [isWired_cut] at ho'
  split at ho'
  · next he => exact he ▸ hd
  · exact h o' ho'

/-- Where dropped readers stay dropped, the wires tell the truth still. -/
theorem of_marked (h : w.IsAware) {m : MarkedSplitter}
    (hm : ∀ o, (w.output o).reader = .dropped → (m.splitter.output o).reader = .dropped) :
    IsAware { w with marked := m } := fun o ho => hm o (h o ho)

/-- Wires stay aware when a chunk is pushed. -/
theorem push (h : w.IsAware) (o : Outlet) (bs : Bytes) :
    (w.withSplitter (w.splitter.push o bs)).IsAware :=
  h.of_marked fun o' ho' => by
    dsimp only
    rw [Splitter.push, Splitter.output_setOutput]
    split
    · next he => rw [Output.reader_push, ← he]; exact ho'
    · exact ho'

end IsAware

/-- While the signal is down, an output that is full blocks, and another one has its bytes. -/
theorem mirrors_forward (h : w.IsAware) (hc : w.splitter.closed = false) (o : Outlet) (bs : Bytes) :
    Mirrors (w.forward o bs)
      (if w.splitter.isFull o then (.blocked, w.marked)
        else (.written, (w.withSplitter (w.splitter.push o bs)).marked)) := by
  by_cases hd : (w.output o).reader = .dropped
  · -- Nobody reads: the wire is cut already, or it is cut now.
    have hp : w.withSplitter (w.splitter.push o bs) = w := by
      rw [Splitter.push_eq_self_of_dropped hd]; rfl
    rw [Splitter.isFull_eq_false_of_dropped hd, hp, if_neg (by nofun), forward]
    split
    · have hd' : (w.splitter.output o).reader = .dropped := hd
      rw [hc, if_neg (by nofun), Splitter.send_eq, if_pos hd']
      exact ⟨rfl, rfl, h.cut hd⟩
    · exact ⟨rfl, rfl, h⟩
  · have hw : w.isWired o = true := Bool.of_not_eq_false fun hw => hd (h o hw)
    have hd' : (w.splitter.output o).reader ≠ .dropped := hd
    rw [forward, if_pos hw, hc, if_neg (by nofun), Splitter.send_eq, if_neg hd']
    cases hf : w.splitter.isFull o with
    | true => exact ⟨rfl, rfl, h⟩
    | false => exact ⟨rfl, rfl, h.push o bs⟩

/-- With its wires a splitter writes as it does without them. -/
theorem mirrors_write (h : w.IsAware) (c : Chunk) :
    Mirrors (w.write c)
      ((w.splitter.write c).1, { w.marked with splitter := (w.splitter.write c).2 }) := by
  rw [write, Splitter.write_eq]
  by_cases hc : w.splitter.closed = true
  · rw [if_pos hc, if_pos hc]
    exact ⟨rfl, rfl, h⟩
  rw [if_neg hc, if_neg hc]
  have hm := mirrors_forward h (Bool.eq_false_iff.2 hc) .combined c.bytes
  generalize w.forward .combined c.bytes = r at hm ⊢
  obtain ⟨outcome, w'⟩ := r
  by_cases hf : w.splitter.isFull .combined = true
  · rw [if_pos hf] at hm ⊢
    obtain ⟨rfl, hw, ha⟩ := hm
    exact ⟨rfl, hw, ha⟩
  · -- The combined output is served, and the signal is still down.
    rw [if_neg hf] at hm ⊢
    obtain ⟨rfl, hw, ha⟩ := hm
    dsimp only at hw ha ⊢
    have hs : w'.splitter = w.splitter.push .combined c.bytes := congrArg _ hw
    have hc' : w'.splitter.closed = false := by rw [hs]; exact Bool.eq_false_iff.2 hc
    have hm := mirrors_forward ha hc' c.channel.outlet c.bytes
    rw [hs, Splitter.isFull_push_of_ne _ _ c.channel.outlet_ne_combined] at hm
    by_cases ht : w.splitter.isFull c.channel.outlet = true
    · rw [if_pos ht] at hm ⊢
      exact ⟨hm.answer, hm.marked.trans hw, hm.aware⟩
    · rw [if_neg ht] at hm ⊢
      refine ⟨hm.answer, hm.marked.trans ?_, hm.aware⟩
      simp [withSplitter, hw]

/-- With its wires a splitter answers every step as it does without them, and leaves the same. -/
theorem mirrors_use (h : w.IsAware) (hm : w.marked.IsSound) (u : Use) :
    Mirrors (w.use u) (w.marked.use u) := by
  have hs := (MarkedSplitter.mirrors_use hm u).splitter
  have ha : IsAware { w with marked := (w.marked.use u).2 } := h.of_marked fun o ho => by
    rw [hs]; exact Splitter.reader_use_of_dropped ho u
  cases u with
  | write c =>
    have hw := mirrors_write h c
    rw [MarkedSplitter.use_write, use]
    change Mirrors _ (if w.splitter.holds .input = true then _ else _)
    split
    · exact ⟨congrArg _ hw.answer, hw.marked, hw.aware⟩
    · exact ⟨rfl, rfl, h⟩
  | _ => exact ⟨rfl, rfl, ha⟩

/-- What every use keeps up: wires and marks tell the truth, and no queue holds more than it has
    room for. -/
structure IsSound (w : WiredSplitter) : Prop where
  aware : w.IsAware
  marked : w.marked.IsSound
  bounded : ∀ o, (w.output o).queue.length ≤ w.splitter.capacity

theorem isSound_ofCapacity (capacity : Nat) : (ofCapacity capacity).IsSound where
  aware o ho := by simp [ofCapacity, isWired] at ho
  marked := MarkedSplitter.isSound_ofCapacity capacity
  bounded o := by
    simp [output, splitter, ofCapacity, MarkedSplitter.ofCapacity, Splitter.output,
      Splitter.ofCapacity]

/-- A step leaves a splitter sound. -/
protected theorem IsSound.use (h : w.IsSound) (u : Use) : (w.use u).2.IsSound := by
  have hw := (mirrors_use h.aware h.marked u)
  have hm := MarkedSplitter.mirrors_use h.marked u
  have hs : (w.use u).2.splitter = (w.splitter.use u).2 := by
    rw [splitter, hw.marked, hm.splitter]; rfl
  refine ⟨hw.aware, by rw [hw.marked]; exact hm.sound, fun o => ?_⟩
  rw [output, hs, (w.splitter.steps_of_use _).capacity]
  exact (w.splitter.changes_of_use o u).length_queue_le (h.bounded o)

/-- Over any steps, too, a splitter answers with its wires as it does without them. -/
theorem mirrors_useAll (h : w.IsSound) (us : List Use) :
    Mirrors (w.answersAll us, w.useAll us) (w.marked.answersAll us, w.marked.useAll us) := by
  induction us generalizing w with
  | nil => exact ⟨rfl, rfl, h.aware⟩
  | cons u us ih =>
    have hu := mirrors_use h.aware h.marked u
    have hi := ih (h.use u)
    rw [hu.marked] at hi
    exact ⟨congr (congrArg List.cons hu.answer) hi.answer, hi.marked, hi.aware⟩

theorem IsSound.useAll (h : w.IsSound) (us : List Use) : (w.useAll us).IsSound := by
  induction us generalizing w with
  | nil => exact h
  | cons u us ih => exact ih (h.use u)

/-- With its wires a splitter takes steps as it does without them. -/
theorem splitter_useAll (h : w.IsSound) (us : List Use) :
    (w.useAll us).splitter = w.splitter.useAll us := by
  rw [splitter, (mirrors_useAll h us).marked, (MarkedSplitter.mirrors_useAll h.marked us).splitter]
  rfl

/-! ## What a write comes to -/

/-- The reader of an output has not been dropped, be it taken or not, and the queue has no room. -/
structure IsJammed (w : WiredSplitter) (o : Outlet) : Prop where
  reader : (w.output o).reader ≠ .dropped
  queue : (w.output o).queue.length = w.splitter.capacity

/-- What one attempt to write a chunk comes to. It looks at the close signal, then at the combined
    output, then at that of the chunk's channel. -/
structure WritesExactly (w : WiredSplitter) (c : Chunk) : Prop where
  refused : (w.write c).1 = .closed ↔ w.splitter.closed = true
  blocked : (w.write c).1 = .blocked ↔
    w.splitter.closed = false ∧ (w.IsJammed .combined ∨ w.IsJammed c.channel.outlet)
  written : (w.write c).1 = .written ↔
    w.splitter.closed = false ∧ ¬w.IsJammed .combined ∧ ¬w.IsJammed c.channel.outlet
  /-- Behind the close signal nothing changes. -/
  of_closed : w.splitter.closed = true → (w.write c).2 = w
  /-- Nor where the combined output jams. -/
  of_combined : w.splitter.closed = false → w.IsJammed .combined → (w.write c).2 = w
  /-- Where the output of the channel jams, the combined one has been served. -/
  of_channel : w.splitter.closed = false → ¬w.IsJammed .combined → w.IsJammed c.channel.outlet →
    (w.write c).2.splitter = w.splitter.push .combined c.bytes
  /-- Where neither jams, both have been served. -/
  of_free : w.splitter.closed = false → ¬w.IsJammed .combined → ¬w.IsJammed c.channel.outlet →
    (w.write c).2.splitter =
      (w.splitter.push .combined c.bytes).push c.channel.outlet c.bytes

/-- An output has no part in a write: it stays as it is, and whatever it were, the write would come
    to the same. -/
structure Overlooks (w : WiredSplitter) (c : Chunk) (o : Outlet) : Prop where
  unchanged : (w.write c).2.output o = w.output o
  irrelevant : ∀ x, (w.setOutput o x).write c = ((w.write c).1, (w.write c).2.setOutput o x)

/-- Whatever is done, the reader of an output stays dropped, and a write that blocks does so at
    another output. -/
structure IsSkipped (w : WiredSplitter) (o : Outlet) : Prop where
  reader : ∀ us, ((w.useAll us).output o).reader = .dropped
  elsewhere : ∀ us c, ((w.useAll us).write c).1 = .blocked →
    ∃ o', o' ≠ o ∧ o'.carries c.channel = true ∧ (w.useAll us).IsJammed o'

/-- A queue that holds no more than it has room for is full when it is exactly at its bound. -/
theorem isFull_iff {o : Outlet} (hb : (w.output o).queue.length ≤ w.splitter.capacity) :
    w.splitter.isFull o = true ↔ w.IsJammed o := by
  have hq : (w.splitter.output o).queue.length ≤ w.splitter.capacity := hb
  rw [Splitter.isFull, Bool.and_eq_true, decide_eq_true_iff, Holding.live_iff]
  constructor
  · rintro ⟨hr, hc⟩
    exact ⟨hr, Nat.le_antisymm hq hc⟩
  · rintro ⟨hr, hc⟩
    exact ⟨hr, Nat.le_of_eq hc.symm⟩

/-- At an output that jams a write blocks, and nothing changes, not even a wire. -/
theorem forward_of_isJammed (h : w.IsAware) (hc : w.splitter.closed = false) {o : Outlet}
    (hj : w.IsJammed o) (bs : Bytes) : w.forward o bs = (.blocked, w) := by
  have hw : w.isWired o = true := Bool.of_not_eq_false fun hw => hj.reader (h o hw)
  have hr : (w.splitter.output o).reader ≠ .dropped := hj.reader
  have hf : w.splitter.isFull o = true := (isFull_iff (Nat.le_of_eq hj.queue)).2 hj
  rw [forward, if_pos hw, hc, if_neg (by nofun), Splitter.send_eq, if_neg hr, if_pos hf]
  rfl

/-- A sound splitter writes exactly as it is said to. -/
theorem IsSound.writesExactly (h : w.IsSound) (c : Chunk) : w.WritesExactly c := by
  have hw := mirrors_write h.aware c
  have ha : (w.write c).1 = (w.splitter.write c).1 := hw.answer
  have hs : (w.write c).2.splitter = (w.splitter.write c).2 :=
    congrArg MarkedSplitter.splitter hw.marked
  rw [Splitter.write_eq] at ha hs
  have hj₁ := isFull_iff (h.bounded .combined)
  have hj₂ := isFull_iff (h.bounded c.channel.outlet)
  constructor
  case of_closed => intro hc; rw [write, if_pos hc]
  case of_combined =>
    intro hc hj
    rw [write, hc, if_neg (by nofun), forward_of_isJammed h.aware hc hj]
  -- What else there is to tell hangs on the signal and on the two outputs.
  all_goals
    simp only [ha, hs, ← hj₁, ← hj₂]
    cases w.splitter.closed <;> cases w.splitter.isFull .combined <;>
      cases w.splitter.isFull c.channel.outlet <;> simp

/-! ## What a write has nothing to do with -/

/-- To forward a chunk does not depend on another output. -/
theorem forward_setOutput (w : WiredSplitter) {o o' : Outlet} (h : o' ≠ o) (x : Output)
    (bs : Bytes) :
    (w.setOutput o x).forward o' bs =
      ((w.forward o' bs).1, (w.forward o' bs).2.setOutput o x) := by
  have hs : (w.setOutput o x).splitter = w.splitter.setOutput o x := rfl
  have hc : (w.splitter.setOutput o x).closed = w.splitter.closed := rfl
  have hw : (w.setOutput o x).isWired o' = w.isWired o' := rfl
  rw [forward, forward, hw, hs, hc, Splitter.send_setOutput _ h]
  -- These are the wire, the signal, and what the input is told.
  cases w.isWired o' with
  | false => rfl
  | true =>
    cases w.splitter.closed with
    | true => rfl
    | false => rcases w.splitter.send o' bs with ⟨_ | _ | _, s⟩ <;> rfl

/-- A write overlooks the outputs that do not carry its channel. -/
theorem overlooks (h : w.IsAware) {c : Chunk} {o : Outlet} (hn : o.carries c.channel = false) :
    w.Overlooks c o := by
  obtain ⟨h₁, h₂⟩ : o ≠ .combined ∧ o ≠ c.channel.outlet := by
    rw [← not_or, ← Outlet.carries_iff, hn]; nofun
  constructor
  · have hs : (w.write c).2.splitter = (w.splitter.write c).2 :=
      congrArg MarkedSplitter.splitter (mirrors_write h c).marked
    rw [output, hs, Splitter.write_eq]
    repeat' split
    · rfl
    · rfl
    · exact Splitter.output_push_of_ne _ _ h₁
    · rw [Splitter.output_push_of_ne _ _ h₂, Splitter.output_push_of_ne _ _ h₁]; rfl
  · intro x
    unfold write
    rw [forward_setOutput w h₁.symm]
    change (if w.splitter.closed then _ else _) = _
    split
    · rfl
    · obtain ⟨outcome, w'⟩ := w.forward .combined c.bytes
      cases outcome with
      | written => exact forward_setOutput w' h₂.symm x c.bytes
      | blocked => rfl
      | closed => rfl

/-- An output whose reader was dropped is skipped from then on. -/
theorem IsSound.isSkipped (h : w.IsSound) {o : Outlet} (hd : (w.output o).reader = .dropped) :
    w.IsSkipped o := by
  have hr (us : List Use) : ((w.useAll us).output o).reader = .dropped := by
    rw [output, splitter_useAll h]
    exact Splitter.reader_useAll_of_dropped hd us
  refine ⟨hr, fun us c hb => ?_⟩
  obtain ⟨-, hj⟩ := ((h.useAll us).writesExactly c).blocked.1 hb
  obtain ⟨o', ho', hj⟩ : ∃ o', o'.carries c.channel = true ∧ (w.useAll us).IsJammed o' := by
    obtain hj | hj := hj
    · exact ⟨_, Outlet.carries_iff.2 (.inl rfl), hj⟩
    · exact ⟨_, Outlet.carries_iff.2 (.inr rfl), hj⟩
  exact ⟨o', fun he => hj.reader (he ▸ hr us), ho', hj⟩

/-- In every use of a new splitter:

* its input may find out by itself who still reads: this changes neither an answer nor what is left
  behind, and there is room for as many chunks as were asked for, or one;
* what one attempt to write comes to is what `WritesExactly` says;
* an output that does not carry the chunk has no part in it;
* an output whose reader was dropped takes no part in any write from then on. -/
theorem write_exactly (capacity : Nat) (us : List Use) :
    let w := (ofCapacity capacity).useAll us
    ((ofCapacity capacity).answersAll us = (Splitter.ofCapacity capacity).answersAll us ∧
      w.splitter = (Splitter.ofCapacity capacity).useAll us ∧
      w.splitter.capacity = max capacity 1) ∧
    (∀ c, w.WritesExactly c) ∧
    (∀ c o, o.carries c.channel = false → w.Overlooks c o) ∧
    ∀ o, (w.output o).reader = .dropped → w.IsSkipped o := by
  intro w
  have h₀ := isSound_ofCapacity capacity
  have h : w.IsSound := h₀.useAll us
  have hs : w.splitter = (Splitter.ofCapacity capacity).useAll us := splitter_useAll h₀ us
  refine ⟨⟨?_, hs, ?_⟩, h.writesExactly, fun c o => overlooks h.aware, fun o => h.isSkipped⟩
  · exact (mirrors_useAll h₀ us).answer.trans (MarkedSplitter.mirrors_useAll h₀.marked us).answer
  · rw [hs, Splitter.capacity_useAll]; rfl

/-- The reader of the combined output is dropped, which the input finds out by the first write; the
    second one blocks at an output whose reader has not been taken. -/
def oneDropped : List Use :=
  [.take .input, .take (.reader .combined), .drop (.reader .combined), .write ⟨.stdout, [0x61]⟩]

/-- The combined output has no reader any more: a write fills the queue of its channel, and the next
    one blocks there. -/
theorem write_exactly_one_dropped :
    let w := (ofCapacity 1).useAll oneDropped
    w.splitter.closed = false ∧ ¬w.IsJammed .combined ∧ w.IsJammed .stdout ∧
      (w.write ⟨.stdout, [0x62]⟩).1 = .blocked ∧
      Outlet.stderr.carries .stdout = false ∧ w.Overlooks ⟨.stdout, [0x62]⟩ .stderr ∧
      (w.output .combined).reader = .dropped ∧ w.IsSkipped .combined := by
  intro w
  have h := write_exactly 1 oneDropped
  have hc : w.splitter.closed = false := by decide
  have hd : (w.output .combined).reader = .dropped := by decide
  have hj : w.IsJammed .stdout := ⟨by decide, by decide⟩
  exact ⟨hc, fun hn => hn.reader hd, hj, (h.2.1 ⟨.stdout, [0x62]⟩).blocked.2 ⟨hc, .inr hj⟩, rfl,
    h.2.2.1 ⟨.stdout, [0x62]⟩ .stderr rfl, hd, h.2.2.2 .combined hd⟩

end WiredSplitter

end Readiness
