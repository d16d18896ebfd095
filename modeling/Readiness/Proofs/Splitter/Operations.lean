import Readiness.Log.Splitter.Use

/-!
# What the operations do to the outputs

A write changes an output in one way only: where somebody may still read it and its queue has room,
the chunk goes to the end of the queue (`push`). An output stands in the way of a write if somebody
may still read it and its queue has no room (`isFull`). So one attempt to write is a matter of the
close signal and of two outputs, the combined one and that of the chunk's channel (`write_eq`), and
an attempt that blocks does so at the first of them that is full (`blockedAt?`).

Reading takes chunks from the front of one queue (`Draws`), writing puts them at the end of others
(`Grows`). Besides these, a step with a splitter can take or drop an endpoint, drop the splitter, or
raise the signal (`Steps`, `steps_of_use`). What becomes of the signal, of the input and of a reader
in any step is read off that.
-/

namespace Readiness

theorem Channel.outlet_ne_combined (ch : Channel) : ch.outlet ≠ .combined := by
  cases ch <;> decide

/-- Besides the combined outlet, a channel is carried by its own outlet alone. -/
theorem Outlet.carries_iff {o : Outlet} {ch : Channel} :
    o.carries ch = true ↔ o = .combined ∨ o = ch.outlet := by
  cases o <;> cases ch <;> decide

namespace Output

/-- The output when bytes have gone to the end of its queue. One that nobody reads takes nothing. -/
def push (x : Output) (bs : Bytes) : Output :=
  if x.reader.live then { x with queue := x.queue ++ [bs] } else x

@[simp] theorem reader_push (x : Output) (bs : Bytes) : (x.push bs).reader = x.reader := by
  unfold push; split <;> rfl

@[simp] theorem pending_push (x : Output) (bs : Bytes) : (x.push bs).pending = x.pending := by
  unfold push; split <;> rfl

theorem queue_push_of_live {x : Output} (h : x.reader.live = true) (bs : Bytes) :
    (x.push bs).queue = x.queue ++ [bs] := by
  simp [push, h]

end Output

namespace Splitter

/-- Whether a chunk for an output has to wait: somebody may still read the output, and its queue has
    no room. -/
def isFull (s : Splitter) (o : Outlet) : Bool :=
  (s.output o).reader.live && decide (s.capacity ≤ (s.output o).queue.length)

/-- The splitter when bytes have gone to an output. -/
def push (s : Splitter) (o : Outlet) (bs : Bytes) : Splitter :=
  s.setOutput o ((s.output o).push bs)

/-- The output at which a write of a chunk blocks, if it does: the first of its two that is full. -/
def blockedAt? (s : Splitter) (c : Chunk) : Option Outlet :=
  if s.isFull .combined then some .combined
  else if s.isFull c.channel.outlet then some c.channel.outlet
  else none

/-- What an output is set to is read back from it, and from no other. -/
theorem output_setOutput (s : Splitter) (o o' : Outlet) (x : Output) :
    (s.setOutput o x).output o' = if o' = o then x else s.output o' := PerOutlet.get_set _ _ _ _

theorem setOutput_output (s : Splitter) (o : Outlet) : s.setOutput o (s.output o) = s := by
  cases o <;> rfl

theorem setOutput_setOutput (s : Splitter) (o : Outlet) (x y : Output) :
    (s.setOutput o x).setOutput o y = s.setOutput o y := by
  cases o <;> rfl

@[simp] theorem push_capacity (s : Splitter) (o : Outlet) (bs : Bytes) :
    (s.push o bs).capacity = s.capacity := rfl

@[simp] theorem push_closed (s : Splitter) (o : Outlet) (bs : Bytes) :
    (s.push o bs).closed = s.closed := rfl

@[simp] theorem output_push_self (s : Splitter) (o : Outlet) (bs : Bytes) :
    (s.push o bs).output o = (s.output o).push bs := output_setOutput_self _ _ _

theorem output_push_of_ne (s : Splitter) {o o' : Outlet} (bs : Bytes) (h : o' ≠ o) :
    (s.push o bs).output o' = s.output o' := output_setOutput_of_ne _ _ h

theorem isFull_push_of_ne (s : Splitter) {o o' : Outlet} (bs : Bytes) (h : o' ≠ o) :
    (s.push o bs).isFull o' = s.isFull o' := by
  simp [isFull, output_push_of_ne s bs h]

/-! ## Writing -/

/-- An output that is not full takes what it is offered. -/
theorem offer_eq (s : Splitter) (o : Outlet) (bs : Bytes) :
    s.offer o bs = if s.isFull o then none else some (s.push o bs) := by
  cases hl : (s.output o).reader.live with
  | false => simp [offer, Output.offer, isFull, push, Output.push, hl]
  | true =>
    by_cases hc : (s.output o).queue.length < s.capacity
    · simp [offer, Output.offer, isFull, push, Output.push, hl, hc]
    · simp [offer, Output.offer, isFull, hl, hc]

/-- One attempt to write: it is refused behind the close signal, it blocks at the first of its two
    outputs that is full, having served the one before it, and else serves both. -/
theorem write_eq (s : Splitter) (c : Chunk) :
    s.write c =
      if s.closed then (.closed, s)
      else if s.isFull .combined then (.blocked, s)
      else if s.isFull c.channel.outlet then (.blocked, s.push .combined c.bytes)
      else (.written, (s.push .combined c.bytes).push c.channel.outlet c.bytes) := by
  unfold write
  split
  · rfl
  · rw [offer_eq]
    by_cases hc : s.isFull .combined
    · simp [hc]
    · -- Copying the chunk takes no room from the output of its channel.
      simp only [hc, if_false, Bool.false_eq_true, offer_eq,
        isFull_push_of_ne s c.bytes c.channel.outlet_ne_combined]
      by_cases ht : s.isFull c.channel.outlet <;> simp [ht]

/-! ## Reading -/

/-- What one move of a reader towards its next line may be. -/
inductive Advances (s : Splitter) (o : Outlet) : Advance → Splitter → Prop
  /-- A line that is complete is handed over. -/
  | line {line rest : Bytes} : Lines.cut? (s.output o).pending = some (line, rest) →
      Advances s o (.line (Utf8.decode (Lines.chomp line))) (s.setOutput o ((s.output o).keep rest))
  /-- The oldest queued chunk is added to what is being gathered. -/
  | gathered {c : Bytes} {cs : List Bytes} : Lines.cut? (s.output o).pending = none →
      (s.output o).queue = c :: cs →
      Advances s o .gathered (s.setOutput o ((s.output o).gather c cs))
  /-- At the end, the rest is handed over as a last line. -/
  | tail : Lines.cut? (s.output o).pending = none → (s.output o).queue = [] → s.finished = true →
      (s.output o).pending ≠ [] →
      Advances s o (.line (Utf8.decode (s.output o).pending)) (s.setOutput o ((s.output o).keep []))
  | ended : (s.output o).pending = [] → (s.output o).queue = [] → s.finished = true →
      Advances s o .ended s
  | waiting : Lines.cut? (s.output o).pending = none → (s.output o).queue = [] →
      s.finished = false → Advances s o .waiting s

theorem advances_of_eq {s s' : Splitter} {o : Outlet} {a : Advance} (h : s.advance o = (a, s')) :
    Advances s o a s' := by
  unfold advance at h
  dsimp only at h
  split at h
  · next line rest hc => cases h; exact .line hc
  · next hc =>
    split at h
    · next c cs hq => cases h; exact .gathered hc hq
    · next hq =>
      split at h
      · next hf =>
        split at h
        · next hp => cases h; exact .ended (by simpa using hp) hq hf
        · next hp => cases h; exact .tail hc hq hf (by simpa using hp)
      · next hf => cases h; exact .waiting hc hq (by simpa using hf)

/-- How a reader advances is determined by what there is. -/
theorem Advances.eq {s s' : Splitter} {o : Outlet} {a : Advance} (h : Advances s o a s') :
    s.advance o = (a, s') := by
  unfold advance
  cases h with
  | line hc => simp [hc]
  | gathered hc hq => simp [hc, hq]
  | tail hc hq hf hp => simp [hc, hq, hf, hp]
  | ended hp hq hf => simp [hp, hq, hf, Lines.cut?]
  | waiting hc hq hf => simp [hc, hq, hf]

/-- The next line, by the reader's next move. -/
theorem nextLine_eq (s : Splitter) (o : Outlet) :
    s.nextLine o = match s.advance o with
      | (.line text, s') => (.got text, s')
      | (.gathered, s') => s'.nextLine o
      | (.ended, s') => (.ended, s')
      | (.waiting, s') => (.waiting, s') := by
  rw [nextLine]
  split <;> simp_all

/-- The chunks that a reader takes out of its queue on the way to its next line. -/
def drawnForLine (s : Splitter) (o : Outlet) : List Bytes :=
  match _h : s.advance o with
  | (.gathered, s') => (s.output o).queue.take 1 ++ drawnForLine s' o
  | _ => []
termination_by (s.output o).queue.length
decreasing_by
  obtain ⟨c, cs, hq, rfl⟩ := advance_gathered _h
  simp [hq, Output.gather]

/-- The reader of an output has taken chunks from the front of its queue. Nothing else has changed
    but what it gathers. -/
inductive Draws (s : Splitter) (o : Outlet) (drawn : List Bytes) : Splitter → Prop
  | intro {x : Output} : x.reader = (s.output o).reader → (s.output o).queue = drawn ++ x.queue →
      Draws s o drawn (s.setOutput o x)

theorem Draws.refl (s : Splitter) (o : Outlet) : s.Draws o [] s := by
  have h : s.Draws o [] (s.setOutput o (s.output o)) := ⟨rfl, rfl⟩
  rwa [setOutput_output] at h

theorem Draws.trans {s s' s'' : Splitter} {o : Outlet} {c d : List Bytes} (h : s.Draws o c s')
    (h' : s'.Draws o d s'') : s.Draws o (c ++ d) s'' := by
  obtain ⟨hr, hq⟩ := h
  obtain ⟨hr', hq'⟩ := h'
  rw [output_setOutput_self] at hr' hq'
  rw [setOutput_setOutput]
  exact ⟨hr'.trans hr, by rw [hq, hq', List.append_assoc]⟩

theorem Draws.capacity {s s' : Splitter} {o : Outlet} {drawn : List Bytes}
    (h : s.Draws o drawn s') : s'.capacity = s.capacity := by
  cases h; rfl

theorem Draws.closed {s s' : Splitter} {o : Outlet} {drawn : List Bytes} (h : s.Draws o drawn s') :
    s'.closed = s.closed := by
  cases h; rfl

theorem Draws.input {s s' : Splitter} {o : Outlet} {drawn : List Bytes} (h : s.Draws o drawn s') :
    s'.input = s.input := by
  cases h; rfl

theorem Draws.finished {s s' : Splitter} {o : Outlet} {drawn : List Bytes}
    (h : s.Draws o drawn s') : s'.finished = s.finished := by
  rw [Splitter.finished, h.closed, h.input, Splitter.finished]

/-- Drawing chunks moves no reader, be it the one that draws them or another. -/
theorem Draws.reader {s s' : Splitter} {o : Outlet} {drawn : List Bytes} (h : s.Draws o drawn s')
    (o' : Outlet) : (s'.output o').reader = (s.output o').reader := by
  obtain ⟨hr, -⟩ := h
  rw [output_setOutput]
  split
  · next he => rw [hr, he]
  · rfl

theorem Draws.output_of_ne {s s' : Splitter} {o o' : Outlet} {drawn : List Bytes}
    (h : s.Draws o' drawn s') (hne : o ≠ o') : s'.output o = s.output o := by
  cases h
  exact output_setOutput_of_ne _ _ hne

/-- To ask for a chunk draws at most one. -/
theorem draws_nextChunk (s : Splitter) (o : Outlet) :
    s.Draws o ((s.output o).queue.take 1) (s.nextChunk o).2 := by
  unfold nextChunk
  split
  · next c cs hq => rw [hq]; exact ⟨rfl, hq⟩
  · next hq => rw [hq]; exact .refl s o

/-- To ask for the rest draws all that is queued. -/
theorem draws_rest (s : Splitter) (o : Outlet) : s.Draws o (s.output o).queue (s.rest o).2 :=
  ⟨rfl, (List.append_nil _).symm⟩

theorem Advances.draws {s s' : Splitter} {o : Outlet} {a : Advance} (h : Advances s o a s') :
    s.Draws o (if a = .gathered then (s.output o).queue.take 1 else []) s' := by
  cases h with
  | line _ => exact ⟨rfl, rfl⟩
  | gathered _ hq => rw [if_pos rfl, hq]; exact ⟨rfl, hq⟩
  | tail => exact ⟨rfl, rfl⟩
  | ended => exact .refl s o
  | waiting => exact .refl s o

/-- To ask for a line draws what has to be gathered for it. -/
theorem draws_nextLine (s : Splitter) (o : Outlet) :
    s.Draws o (s.drawnForLine o) (s.nextLine o).2 := by
  -- By induction on the moves of the reader: it goes on only where it has gathered a chunk.
  fun_induction nextLine s o with
  | case1 s text s' h => rw [drawnForLine, h]; exact (advances_of_eq h).draws
  | case2 s s' h ih => rw [drawnForLine, h]; exact (advances_of_eq h).draws.trans ih
  | case3 s s' h => rw [drawnForLine, h]; exact (advances_of_eq h).draws
  | case4 s s' h => rw [drawnForLine, h]; exact (advances_of_eq h).draws

end Splitter

/-! ## Steps -/

/-- Whether a step reads from an output. -/
def Use.reads (o : Outlet) : Use → Bool
  | .nextLine o' | .nextChunk o' | .rest o' => o' == o
  | _ => false

/-- Whether a step is one of whoever holds the reader of an output. -/
def Use.ofReader (o : Outlet) : Use → Bool
  | .drop (.reader o') => o' == o
  | u => u.reads o

/-- What is not done with the reader of an output does not read from it. -/
theorem Use.reads_of_ofReader {o : Outlet} {u : Use} (h : u.ofReader o = false) :
    u.reads o = false := by
  unfold ofReader at h
  split at h
  · rfl
  · exact h

namespace Splitter

open Use (Answer)

/-- Chunks may have gone to the ends of queues, and nothing else has changed. -/
structure Grows (s s' : Splitter) : Prop where
  capacity : s'.capacity = s.capacity
  closed : s'.closed = s.closed
  input : s'.input = s.input
  output : ∀ o, ∃ chunks, s'.output o = { s.output o with queue := (s.output o).queue ++ chunks }

theorem Grows.refl (s : Splitter) : s.Grows s :=
  ⟨rfl, rfl, rfl, fun _ => ⟨[], by rw [List.append_nil]⟩⟩

theorem Grows.trans {s s' s'' : Splitter} (h : s.Grows s') (h' : s'.Grows s'') : s.Grows s'' := by
  refine ⟨h'.capacity.trans h.capacity, h'.closed.trans h.closed, h'.input.trans h.input,
    fun o => ?_⟩
  obtain ⟨chunks, he⟩ := h.output o
  obtain ⟨chunks', he'⟩ := h'.output o
  exact ⟨chunks ++ chunks', by rw [he', he, List.append_assoc]⟩

/-- A chunk that is pushed lets the splitter grow. -/
theorem grows_push (s : Splitter) (o : Outlet) (bs : Bytes) : s.Grows (s.push o bs) := by
  refine ⟨rfl, rfl, rfl, fun o' => ?_⟩
  by_cases he : o' = o
  · subst he
    rw [output_push_self, Output.push]
    split
    · exact ⟨[bs], rfl⟩
    · exact ⟨[], by rw [List.append_nil]⟩
  · exact ⟨[], by rw [output_push_of_ne s bs he, List.append_nil]⟩

/-- A write puts the chunk at the end of the queues that it gets to. -/
theorem grows_write (s : Splitter) (c : Chunk) : s.Grows (s.write c).2 := by
  rw [write_eq]
  split
  · exact .refl s
  · split
    · exact .refl s
    · split
      · exact s.grows_push _ _
      · exact (s.grows_push _ _).trans (grows_push _ _ _)

/-- Taking succeeds with what is still inside, and says so. -/
theorem takeEnd_eq_some {s s' : Splitter} {e : Endpoint} (h : s.takeEnd e = some s') :
    (e = .input ∧ s.input = .inside ∧ s' = { s with input := .taken }) ∨
      ∃ o, e = .reader o ∧ (s.output o).reader = .inside ∧
        s' = s.setOutput o { s.output o with reader := .taken } := by
  cases e with
  | input =>
    simp only [takeEnd, takeInput, Option.ite_none_right_eq_some, Option.some.injEq] at h
    exact .inl ⟨rfl, h.1.2, h.2.symm⟩
  | reader o =>
    simp only [takeEnd, takeReader, Option.ite_none_right_eq_some, Option.some.injEq] at h
    exact .inr ⟨o, rfl, h.1.2, h.2.symm⟩

/-- All that one step does to a splitter and its endpoints, by the step and its answer. -/
inductive Steps (s : Splitter) : Use → Answer → Splitter → Prop
  /-- The endpoints stay where they are. -/
  | grows {u : Use} {a : Answer} {s' : Splitter} : a ≠ .closed → s.Grows s' → Steps s u a s'
  /-- A reader takes chunks from its queue. -/
  | reads {u : Use} {a : Answer} {o : Outlet} {drawn : List Bytes} {s' : Splitter} :
      u.reads o = true → a ≠ .closed → s.Draws o drawn s' → Steps s u a s'
  | takesInput : s.input = .inside → Steps s (.take .input) .taken { s with input := .taken }
  | takesReader {o : Outlet} : (s.output o).reader = .inside →
      Steps s (.take (.reader o)) .taken (s.setOutput o { s.output o with reader := .taken })
  | dropsInput : Steps s (.drop .input) .dropped s.dropInput
  | dropsReader (o : Outlet) : Steps s (.drop (.reader o)) .dropped (s.dropReader o)
  | dropsSplitter : Steps s .dropSplitter .dropped s.drop
  /-- The signal is up, be it raised or seen. -/
  | raises {u : Use} : Steps s u .closed s.close

/-- Every step is one that a splitter may take. -/
theorem steps_of_use (s : Splitter) (u : Use) : s.Steps u (s.use u).1 (s.use u).2 := by
  have hsame : ∀ {a : Answer}, a ≠ .closed → s.Steps u a s := fun ha => .grows ha (.refl s)
  cases u with
  | take e =>
    simp only [use]
    split
    · next s' h =>
      obtain ⟨rfl, hi, rfl⟩ | ⟨o, rfl, hi, rfl⟩ := takeEnd_eq_some h
      · exact .takesInput hi
      · exact .takesReader hi
    · refine hsame ?_
      dsimp only
      split <;> nofun
  | drop e =>
    simp only [use]
    split
    · cases e with
      | input => exact .dropsInput
      | reader o => exact .dropsReader o
    · exact hsame nofun
  | dropSplitter =>
    simp only [use]
    split
    · exact .dropsSplitter
    · exact hsame nofun
  | write c =>
    simp only [use]
    split
    · exact .grows nofun (s.grows_write c)
    · exact hsame nofun
  | nextLine o =>
    simp only [use]
    split
    · exact .reads (beq_self_eq_true o) nofun (s.draws_nextLine o)
    · exact hsame nofun
  | nextChunk o =>
    simp only [use]
    split
    · exact .reads (beq_self_eq_true o) nofun (s.draws_nextChunk o)
    · exact hsame nofun
  | rest o =>
    simp only [use]
    split
    · exact .reads (beq_self_eq_true o) nofun (s.draws_rest o)
    · exact hsame nofun
  | close =>
    simp only [use]
    split
    · exact .raises
    · exact hsame nofun
  | closeInput =>
    simp only [use]
    split
    · exact .raises
    · exact hsame nofun
  | awaitClose =>
    simp only [use]
    split
    · split
      · next hc =>
        -- To raise a signal that is up changes nothing.
        have hs : s.close = s := by rw [close, ← hc]
        exact hs ▸ .raises
      · exact hsame nofun
    · exact hsame nofun
  | lookAtSignal => exact hsame nofun

namespace Steps

variable {s s' : Splitter} {u : Use} {a : Answer} {o : Outlet}

/-- The room in the queues never changes. -/
theorem capacity (h : s.Steps u a s') : s'.capacity = s.capacity := by
  cases h with
  | grows _ hg => exact hg.capacity
  | reads _ _ hd => exact hd.capacity
  | _ => rfl

/-- The signal is up behind a step if it was before, or if the step says so. -/
theorem closed_iff (h : s.Steps u a s') : s'.closed = true ↔ s.closed = true ∨ a = .closed := by
  cases h with
  | grows ha hg => rw [hg.closed, or_iff_left ha]
  | reads _ ha hd => rw [hd.closed, or_iff_left ha]
  | raises => exact iff_of_true rfl (.inr rfl)
  | _ => exact (or_iff_left nofun).symm

/-- What is finished stays so. -/
theorem finished (h : s.Steps u a s') (hf : s.finished = true) : s'.finished = true := by
  have hf' : s.closed = true ∨ s.input.live = false := by simpa [Splitter.finished] using hf
  cases h with
  | grows _ hg => rwa [Splitter.finished, hg.closed, hg.input]
  | reads _ _ hd => rwa [hd.finished]
  | takesInput hi =>
    -- An input that was still inside was live, so it is the signal that is up.
    have hc : s.closed = true := hf'.resolve_right (by rw [hi]; decide)
    simp [Splitter.finished, hc]
  | dropsInput => simp [Splitter.finished, dropInput, Holding.live]
  | dropsSplitter =>
    by_cases hi : s.input = .inside
    · simp [Splitter.finished, drop, hi, Holding.live]
    · simpa [Splitter.finished, drop, hi] using hf'
  | raises => rfl
  | _ => exact hf

/-- What the reader of an output has gathered is left alone by whoever does not read from it, unless
    the reader is dropped. -/
theorem pending (h : s.Steps u a s') (hr : u.reads o = false)
    (hl : (s'.output o).reader.live = true) : (s'.output o).pending = (s.output o).pending := by
  cases h with
  | grows _ hg =>
    obtain ⟨chunks, he⟩ := hg.output o
    rw [he]
  | @reads _ _ o' _ _ hu _ hd =>
    by_cases he : o = o'
    · rw [he, hu] at hr; cases hr
    · rw [hd.output_of_ne he]
  | takesReader _ =>
    rw [output_setOutput]
    split
    · next he => rw [he]
    · rfl
  | dropsReader o' =>
    rw [dropReader, output_setOutput] at hl ⊢
    split at hl
    · cases hl
    · next hne => rw [if_neg hne]
  | dropsSplitter =>
    simp only [drop, output, PerOutlet.get_map] at hl ⊢
    split at hl
    · cases hl
    · next hne => rw [if_neg hne]
  | _ => rfl

/-- A reader that was taken stays with whoever has it. -/
theorem reader (h : s.Steps u a s') (hu : u.ofReader o = false)
    (ht : (s.output o).reader = .taken) : (s'.output o).reader = .taken := by
  cases h with
  | grows _ hg =>
    obtain ⟨chunks, he⟩ := hg.output o
    rw [he]
    exact ht
  | reads _ _ hd => exact (hd.reader o).trans ht
  | takesReader _ =>
    rw [output_setOutput]
    split
    · rfl
    · exact ht
  | dropsReader o' =>
    rw [dropReader, output_setOutput_of_ne _ _ (ne_of_beq_false hu).symm]
    exact ht
  | dropsSplitter =>
    have hne : (s.output o).reader ≠ .inside := by rw [ht]; decide
    rw [output] at ht hne
    rw [drop, output, PerOutlet.get_map, if_neg hne]
    exact ht
  | _ => exact ht

end Steps

end Splitter

end Readiness
