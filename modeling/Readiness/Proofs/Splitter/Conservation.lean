import Readiness.Proofs.Splitter.Operations

/-!
# The splitter conserves chunks

Two books are kept for every output of a splitter in use, over any sequence of steps: what the
output accepted (`acceptedAll`), as the answers to the writes tell, and what its reader has taken
out of the queue (`drawnAll`), as line, as chunk or with the rest.

* A single step changes an output in one of four ways (`Output.Changes`), with a matching entry in
  the books (`changes_of_use`).
* As long as the reader is not dropped the books balance: what was taken out, followed by what is
  queued, is what was accepted, in the order of the writes (`drawnAll_append_queue`).
* No queue ever holds more chunks than it has room for (`length_queue_useAll_le`).
-/

namespace Readiness

namespace Output

/-- How one step changes an output whose queue holds up to `capacity` chunks, with the chunks that
    its reader takes out and those that it accepts. -/
inductive Changes (capacity : Nat) (x x' : Output) : List Bytes → List Bytes → Prop
  /-- The reader takes chunks from the front of the queue, perhaps none. -/
  | draws {drawn : List Bytes} : x'.reader.live = x.reader.live → x.queue = drawn ++ x'.queue →
      Changes capacity x x' drawn []
  /-- A chunk goes to the end of the queue. -/
  | accepts {bs : Bytes} : x.queue.length < capacity → x'.reader = x.reader →
      x'.queue = x.queue ++ [bs] → Changes capacity x x' [] [bs]
  /-- Nobody reads the output, and it stays as it is. -/
  | passes {accepted : List Bytes} : x.reader.live = false → x' = x →
      Changes capacity x x' [] accepted
  /-- The reader is dropped. -/
  | drops : x' = abandoned → Changes capacity x x' [] []

namespace Changes

variable {capacity : Nat} {x x' : Output} {drawn accepted : List Bytes}

theorem refl : Changes capacity x x [] [] := .draws rfl rfl

/-- The books balance over one step, unless the reader is dropped. -/
theorem balance (h : Changes capacity x x' drawn accepted) (hl : x'.reader.live = true) :
    x.reader.live = true ∧ x.queue ++ accepted = drawn ++ x'.queue := by
  cases h with
  | draws hr hq => exact ⟨hr ▸ hl, by rw [List.append_nil, hq]⟩
  | accepts _ hr hq => exact ⟨hr ▸ hl, by rw [hq, List.nil_append]⟩
  | passes hd he => rw [he, hd] at hl; cases hl
  | drops he => rw [he] at hl; cases hl

/-- A queue stays within its bound. -/
theorem length_queue_le (h : Changes capacity x x' drawn accepted)
    (hb : x.queue.length ≤ capacity) : x'.queue.length ≤ capacity := by
  cases h with
  | draws _ hq =>
    rw [hq, List.length_append] at hb
    exact Nat.le_trans (Nat.le_add_left _ _) hb
  | accepts hc _ hq => rw [hq, List.length_append]; exact hc
  | passes _ he => rwa [he]
  | drops he => rw [he]; exact Nat.zero_le _

end Changes

/-- What an output that is not full makes of a chunk. -/
theorem changes_push {x : Output} {capacity : Nat} (bs : Bytes)
    (hf : (x.reader.live && decide (capacity ≤ x.queue.length)) = false) :
    Changes capacity x (x.push bs) [] [bs] := by
  cases hl : x.reader.live with
  | false => exact .passes hl (by simp [push, hl])
  | true =>
    refine .accepts ?_ (reader_push _ _) (queue_push_of_live hl bs)
    simpa [hl] using hf

end Output

namespace Splitter

open Output (Changes)

/-! ## The books -/

/-- The chunks that a step lets the reader of an output take out of its queue. -/
def drawn (s : Splitter) (o : Outlet) : Use → List Bytes
  | .nextChunk o' => match (s.use (.nextChunk o')).1 with
    | .bytes (.got c) => if o' = o then [c] else []
    | _ => []
  | .nextLine o' => if s.holds (.reader o') ∧ o' = o then s.drawnForLine o' else []
  | .rest o' => if s.holds (.reader o') ∧ o' = o then (s.output o').queue else []
  | _ => []

/-- The chunk that an output accepts by a step, if it does: a write that went through is accepted by
    every output that carries the chunk's channel; one that blocked at the output of that channel is
    accepted by the combined output. -/
def accepted (s : Splitter) (o : Outlet) : Use → List Bytes
  | .write c => match (s.use (.write c)).1 with
    | .written .written => if o.carries c.channel then [c.bytes] else []
    | .written .blocked =>
      if o = .combined ∧ s.blockedAt? c = some c.channel.outlet then [c.bytes] else []
    | _ => []
  | _ => []

/-- The splitter behind some steps. -/
def useAll (s : Splitter) (us : List Use) : Splitter := us.foldl (fun s u => (s.use u).2) s

/-- All that the reader of an output takes out over some steps. -/
def drawnAll (o : Outlet) : Splitter → List Use → List Bytes
  | _, [] => []
  | s, u :: us => s.drawn o u ++ drawnAll o (s.use u).2 us

/-- All that an output accepts over some steps. -/
def acceptedAll (o : Outlet) : Splitter → List Use → List Bytes
  | _, [] => []
  | s, u :: us => s.accepted o u ++ acceptedAll o (s.use u).2 us

/-! ## One step -/

variable (s : Splitter) (o : Outlet)

/-- Taking an endpoint leaves every output as it is, but for where its reader is. -/
theorem changes_takeEnd {s' : Splitter} {e : Endpoint} (h : s.takeEnd e = some s') :
    Changes s.capacity (s.output o) (s'.output o) [] [] := by
  obtain ⟨rfl, -, rfl⟩ | ⟨o', rfl, hi, rfl⟩ := takeEnd_eq_some h
  · exact .refl
  · rw [output_setOutput]
    split
    · next he => subst he; exact .draws (by rw [hi]; rfl) rfl
    · exact .refl

/-- To drop an end neither draws nor accepts. -/
theorem changes_dropEnd (e : Endpoint) :
    Changes s.capacity (s.output o) ((s.dropEnd e).output o) [] [] := by
  cases e with
  | input => exact .refl
  | reader o' =>
    rw [dropEnd, dropReader, output_setOutput]
    split
    · exact .drops rfl
    · exact .refl

theorem changes_drop : Changes s.capacity (s.output o) (s.drop.output o) [] [] := by
  simp only [drop, output, PerOutlet.get_map]
  split
  · exact .drops rfl
  · exact .refl

/-- A write that is let through to the combined output changes it alone. -/
theorem changes_push_combined {c : Chunk} (hc : s.isFull .combined = false) :
    Changes s.capacity (s.output o) ((s.push .combined c.bytes).output o) []
      (if o = .combined then [c.bytes] else []) := by
  by_cases ho : o = .combined
  · subst ho
    rw [output_push_self, if_pos rfl]
    exact Output.changes_push _ hc
  · rw [output_push_of_ne _ _ ho, if_neg ho]
    exact .refl

/-- A write that is let through to both its outputs changes the two alone. -/
theorem changes_push_push {c : Chunk} (hc : s.isFull .combined = false)
    (ht : s.isFull c.channel.outlet = false) :
    Changes s.capacity (s.output o)
      (((s.push .combined c.bytes).push c.channel.outlet c.bytes).output o) []
      (if o.carries c.channel then [c.bytes] else []) := by
  have hne := c.channel.outlet_ne_combined
  -- Only the combined output and that of the channel are touched, each by one of the two copies.
  by_cases ho : o = c.channel.outlet
  · subst ho
    rw [output_push_self, output_push_of_ne _ _ hne, if_pos (Outlet.carries_iff.2 (.inr rfl))]
    exact Output.changes_push _ ht
  · rw [output_push_of_ne _ _ ho]
    have hiff : o.carries c.channel = true ↔ o = .combined := by simp [Outlet.carries_iff, ho]
    simpa only [hiff] using s.changes_push_combined o hc

/-- A write is accepted by the outputs that it says, and draws from none. -/
theorem changes_write (c : Chunk) :
    Changes s.capacity (s.output o) ((s.use (.write c)).2.output o) []
      (s.accepted o (.write c)) := by
  by_cases hi : s.holds .input = true
  · simp only [accepted, use, hi, if_true, write_eq, blockedAt?]
    -- It is refused, blocked at the combined output, blocked at that of the channel, or written.
    by_cases hs : s.closed = true
    · simpa [hs] using Changes.refl
    by_cases hc : s.isFull .combined = true
    · simpa [hs, hc, c.channel.outlet_ne_combined.symm] using Changes.refl
    by_cases ht : s.isFull c.channel.outlet = true
    · simpa [hs, hc, ht] using s.changes_push_combined o (Bool.eq_false_iff.2 hc)
    · simpa [hs, hc, ht] using s.changes_push_push o (Bool.eq_false_iff.2 hc)
        (Bool.eq_false_iff.2 ht)
  · simpa [accepted, use, hi] using Changes.refl

/-- The chunk that is handed over is the oldest in the queue. -/
theorem drawn_nextChunk {o' : Outlet} (hh : s.holds (.reader o') = true) :
    s.drawn o (.nextChunk o') = if o' = o then (s.output o').queue.take 1 else [] := by
  cases hq : (s.output o').queue with
  | nil => by_cases hf : s.finished = true <;> simp [drawn, use, nextChunk, hh, hq, hf]
  | cons c cs => simp [drawn, use, nextChunk, hh, hq]

/-- A step of a reader changes its own output alone. -/
theorem Draws.changes {s s' : Splitter} {o' : Outlet} {drawn : List Bytes}
    (h : s.Draws o' drawn s') (o : Outlet) :
    Changes s.capacity (s.output o) (s'.output o) (if o' = o then drawn else []) [] := by
  obtain ⟨hr, hq⟩ := h
  rw [output_setOutput]
  by_cases ho : o' = o
  · subst ho
    rw [if_pos rfl, if_pos rfl]
    exact .draws (by rw [hr]) hq
  · rw [if_neg ho, if_neg (Ne.symm ho)]
    exact .refl

/-- Every step changes every output in one of the four ways, as the books say. -/
theorem changes_of_use (u : Use) :
    Changes s.capacity (s.output o) ((s.use u).2.output o) (s.drawn o u) (s.accepted o u) := by
  cases u with
  | take e =>
    simp only [use]
    split
    · next s' h => exact s.changes_takeEnd o h
    · exact .refl
  | drop e =>
    simp only [use]
    split
    · exact s.changes_dropEnd o e
    · exact .refl
  | dropSplitter =>
    simp only [use]
    split
    · exact s.changes_drop o
    · exact .refl
  | write c => exact s.changes_write o c
  | nextLine o' =>
    by_cases hh : s.holds (.reader o') = true
    · simpa [use, drawn, accepted, hh] using (s.draws_nextLine o').changes o
    · simpa [use, drawn, accepted, hh] using Changes.refl
  | nextChunk o' =>
    by_cases hh : s.holds (.reader o') = true
    · rw [s.drawn_nextChunk o hh]
      simpa [use, accepted, hh] using (s.draws_nextChunk o').changes o
    · simpa [use, drawn, accepted, hh] using Changes.refl
  | rest o' =>
    by_cases hh : s.holds (.reader o') = true
    · simpa [use, drawn, accepted, hh] using (s.draws_rest o').changes o
    · simpa [use, drawn, accepted, hh] using Changes.refl
  | close => simp only [use]; split <;> exact .refl
  | closeInput => simp only [use]; split <;> exact .refl
  | awaitClose => exact .refl
  | lookAtSignal => exact .refl

/-! ## All steps -/

/-- Over any steps, the books of an output balance unless its reader is dropped. -/
theorem balance_useAll (us : List Use) (hl : ((s.useAll us).output o).reader.live = true) :
    (s.output o).reader.live = true ∧
      (s.output o).queue ++ s.acceptedAll o us =
        s.drawnAll o us ++ ((s.useAll us).output o).queue := by
  induction us generalizing s with
  | nil => exact ⟨hl, List.append_nil _⟩
  | cons u us ih =>
    -- A reader that is not dropped in the end was not dropped by the first step.
    obtain ⟨hl', hb'⟩ := ih (s.use u).2 hl
    obtain ⟨hl₀, hb⟩ := (s.changes_of_use o u).balance hl'
    refine ⟨hl₀, ?_⟩
    calc (s.output o).queue ++ s.acceptedAll o (u :: us)
        = (s.output o).queue ++ s.accepted o u ++ (s.use u).2.acceptedAll o us :=
          (List.append_assoc _ _ _).symm
      _ = s.drawn o u ++ (((s.use u).2.output o).queue ++ (s.use u).2.acceptedAll o us) := by
          rw [hb, List.append_assoc]
      _ = s.drawnAll o (u :: us) ++ ((s.useAll (u :: us)).output o).queue := by
          rw [hb', ← List.append_assoc]; rfl

/-- Queues stay within their bound. -/
theorem length_queue_useAll_le (us : List Use) (hb : (s.output o).queue.length ≤ s.capacity) :
    ((s.useAll us).output o).queue.length ≤ s.capacity := by
  induction us generalizing s with
  | nil => exact hb
  | cons u us ih =>
    have h := (s.changes_of_use o u).length_queue_le hb
    rw [← (s.steps_of_use u).capacity] at h ⊢
    exact ih _ h

/-- In any use of a new splitter: what the reader of an output has taken out of its queue, followed
    by what is still queued, is what the output accepted, unless the reader was dropped; and no
    queue holds more chunks than the splitter was made for, or one. -/
theorem drawnAll_append_queue (capacity : Nat) (us : List Use) (o : Outlet) :
    ((((ofCapacity capacity).useAll us).output o).reader.live = true →
      (ofCapacity capacity).drawnAll o us ++ (((ofCapacity capacity).useAll us).output o).queue =
        (ofCapacity capacity).acceptedAll o us) ∧
    (((ofCapacity capacity).useAll us).output o).queue.length ≤ max capacity 1 := by
  have hq : ((ofCapacity capacity).output o).queue = [] := by simp [output, ofCapacity]
  refine ⟨fun hl => ?_, ?_⟩
  · have h := (balance_useAll (ofCapacity capacity) o us hl).2
    rw [hq, List.nil_append] at h
    exact h.symm
  · exact length_queue_useAll_le (ofCapacity capacity) o us (by rw [hq]; exact Nat.zero_le _)

/-- Steps among which one write blocks at the combined output and one at its channel's. -/
def contended : List Use :=
  [.take .input, .take (.reader .combined), .take (.reader .stdout), .write ⟨.stdout, [0x61]⟩,
    .write ⟨.stderr, [0x62]⟩, .nextChunk .combined, .write ⟨.stdout, [0x63]⟩, .nextChunk .combined,
    .write ⟨.stderr, [0x64]⟩]

/-- A queue of capacity 0 holds one chunk: writes block at either output, and what was drawn and
    what is queued are what was accepted. -/
theorem drawnAll_append_queue_contended :
    (((ofCapacity 0).useAll contended).output .combined).reader.live = true ∧
      (ofCapacity 0).acceptedAll .combined contended = [[0x61], [0x63], [0x64]] ∧
      (ofCapacity 0).drawnAll .combined contended ++
        (((ofCapacity 0).useAll contended).output .combined).queue = [[0x61], [0x63], [0x64]] := by
  have hl : (((ofCapacity 0).useAll contended).output .combined).reader.live = true := by decide
  have ha : (ofCapacity 0).acceptedAll .combined contended = [[0x61], [0x63], [0x64]] := by decide
  exact ⟨hl, ha, ((drawnAll_append_queue 0 contended .combined).1 hl).trans ha⟩

end Splitter

end Readiness
