import Readiness.Proofs.Log.Lines
import Readiness.Proofs.Splitter.Operations

/-!
# What a reader has handed over

A reader that goes on line by line relates the bytes that its output accepted (`received`) and the
lines that it has handed over (`Splitter.HasRead`): with the lines that are complete in what lies
ahead of it they are the complete lines of all that was received; and once it has handed over the
last, unfinished one they are all lines.

This survives every move of the reader (`HasRead.line`, `HasRead.gathered`) and chunks that the
output accepts while it is not finished (`HasRead.extend`). It settles what was handed over when the
reader waits (`HasRead.of_waiting`) and when it is at the end (`HasRead.of_ended`).
-/

namespace Readiness

open Lines

/-- The bytes that lie ahead of a reader: what it has gathered, and what is queued. -/
def Output.ahead (x : Output) : Bytes := x.pending ++ x.queue.flatten

namespace Output

theorem ahead_keep (x : Output) (rest : Bytes) :
    (x.keep rest).ahead = rest ++ x.queue.flatten := rfl

/-- To gather a chunk does not change what lies ahead. -/
theorem ahead_gather {x : Output} {c : Bytes} {cs : List Bytes} (h : x.queue = c :: cs) :
    (x.gather c cs).ahead = x.ahead := by
  simp [ahead, gather, h]

end Output

namespace Splitter

/-- What a reader has handed over of the bytes that its output received. -/
inductive HasRead (s : Splitter) (o : Outlet) (received : Bytes) (lines : List String) : Prop
  /-- Complete lines. -/
  | reading : lines ++ complete (s.output o).ahead = complete received →
      unfinished (s.output o).ahead = unfinished received → HasRead s o received lines
  /-- All lines, the unfinished one too: nothing lies ahead, and nothing can arrive any more. -/
  | done : s.finished = true → (s.output o).queue = [] → (s.output o).pending = [] →
      lines = ofBytes received → HasRead s o received lines

namespace HasRead

variable {s s' : Splitter} {o : Outlet} {received : Bytes} {lines : List String}

/-- Before anything is received nothing is handed over. -/
theorem start (hq : (s.output o).queue = []) (hp : (s.output o).pending = []) :
    s.HasRead o [] [] := by
  refine .reading ?_ ?_ <;> simp [Output.ahead, hq, hp]

/-- Chunks that come to be queued are received. Nothing is queued any more at the end. -/
theorem extend (h : s.HasRead o received lines) {chunks : List Bytes}
    (hp : (s'.output o).pending = (s.output o).pending)
    (hq : (s'.output o).queue = (s.output o).queue ++ chunks)
    (hf : s.finished = true → s'.finished = true ∧ chunks = []) :
    s'.HasRead o (received ++ chunks.flatten) lines := by
  cases h with
  | reading hc hu =>
    have ha : (s'.output o).ahead = (s.output o).ahead ++ chunks.flatten := by
      rw [Output.ahead, hp, hq, List.flatten_append, ← List.append_assoc, Output.ahead]
    -- Both ends are unfinished in the same way, so the new bytes make the same lines behind them.
    refine .reading ?_ ?_
    · rw [ha, complete_append, complete_append received, ← hu, ← hc, List.append_assoc]
    · rw [ha, unfinished_append, unfinished_append received, hu]
  | done hd hq' hp' hl =>
    obtain ⟨hd', rfl⟩ := hf hd
    rw [List.append_nil] at hq
    rw [List.flatten_nil, List.append_nil]
    exact .done hd' (hq.trans hq') (hp.trans hp') hl

/-- What leaves the output as it is, and does not undo the end, leaves the reader where it is. -/
theorem frame (h : s.HasRead o received lines) (ho : s'.output o = s.output o)
    (hf : s.finished = true → s'.finished = true) : s'.HasRead o received lines := by
  have h' : s'.HasRead o (received ++ [].flatten) lines :=
    h.extend (by rw [ho]) (by rw [ho, List.append_nil]) fun hd => ⟨hf hd, rfl⟩
  rwa [List.flatten_nil, List.append_nil] at h'

/-- Bytes that the output accepts are received. -/
theorem push (h : s.HasRead o received lines) (hl : (s.output o).reader.live = true)
    (hf : s.finished = false) (bs : Bytes) : (s.push o bs).HasRead o (received ++ bs) lines := by
  have h' : (s.push o bs).HasRead o (received ++ [bs].flatten) lines :=
    h.extend (by rw [output_push_self, Output.pending_push])
      (by rw [output_push_self, Output.queue_push_of_live hl]) fun hd => by rw [hf] at hd; cases hd
  rwa [List.flatten_singleton] at h'

/-- A line handed over is the next one. -/
theorem line {text : String} (h : s.HasRead o received lines)
    (ha : Advances s o (.line text) s') : s'.HasRead o received (lines ++ [text]) := by
  cases ha with
  | line hcut =>
    -- The line is complete in what is gathered, so the reader was not done.
    next line rest =>
    have hcut' := cut?_append hcut (s.output o).queue.flatten
    cases h with
    | reading hc hu =>
      refine .reading ?_ ?_
      · rw [output_setOutput_self, Output.ahead_keep, ← hc, Output.ahead, complete_of_cut? hcut',
          List.append_assoc, List.singleton_append]
      · rw [output_setOutput_self, Output.ahead_keep, ← hu, Output.ahead, unfinished_of_cut? hcut']
    | done _ _ hp => rw [hp] at hcut; cases hcut
  | tail hcut hq hf hp =>
    cases h with
    | reading hc hu =>
      have ha : (s.output o).ahead = (s.output o).pending := by simp [Output.ahead, hq]
      rw [ha, complete_of_cut?_eq_none hcut, List.append_nil] at hc
      rw [ha, unfinished_of_cut?_eq_none hcut] at hu
      refine .done hf ?_ ?_ ?_
      · rw [output_setOutput_self]; exact hq
      · rw [output_setOutput_self]; rfl
      · rw [ofBytes_of_unfinished_ne_nil (hu ▸ hp), ← hu, hc]
    | done _ _ hp' => exact absurd hp' hp

/-- Gathering a chunk hands over nothing. -/
theorem gathered (h : s.HasRead o received lines) (ha : Advances s o .gathered s') :
    s'.HasRead o received lines := by
  cases ha with
  | gathered _ hq =>
    cases h with
    | reading hc hu =>
      refine .reading ?_ ?_ <;> rwa [output_setOutput_self, Output.ahead_gather hq]
    | done _ hq' => rw [hq] at hq'; cases hq'

/-- A reader that waits has handed over the lines that are complete. -/
theorem of_waiting (h : s.HasRead o received lines) (ha : Advances s o .waiting s') :
    lines = complete received := by
  cases ha with
  | waiting hcut hq hf =>
    cases h with
    | reading hc _ =>
      have ha : (s.output o).ahead = (s.output o).pending := by simp [Output.ahead, hq]
      rw [← hc, ha, complete_of_cut?_eq_none hcut, List.append_nil]
    | done hd => rw [hf] at hd; cases hd

/-- With what the reader would still hand over if nothing arrived any more, the lines handed over
    are all lines. -/
theorem append_ofBytes_ahead (h : s.HasRead o received lines) :
    lines ++ ofBytes (s.output o).ahead = ofBytes received := by
  cases h with
  | reading hc hu => rw [ofBytes_eq, ofBytes_eq received, ← hc, hu, List.append_assoc]
  | done _ hq hp hl =>
    have ha : (s.output o).ahead = [] := by simp [Output.ahead, hq, hp]
    rw [ha, hl]
    exact List.append_nil _

/-- A reader with nothing ahead of it has handed over all lines. -/
theorem of_ahead_eq_nil (h : s.HasRead o received lines) (ha : (s.output o).ahead = []) :
    lines = ofBytes received := by
  have h' := h.append_ofBytes_ahead
  rw [ha] at h'
  exact (List.append_nil _).symm.trans h'

/-- At the end of an output, all lines have been handed over. -/
theorem of_ended (h : s.HasRead o received lines) (ha : Advances s o .ended s') :
    lines = ofBytes received := by
  cases ha with
  | ended hp hq _ => exact h.of_ahead_eq_nil (by simp [Output.ahead, hq, hp])

end HasRead

end Splitter

end Readiness
