import Readiness.Log.Pipeline

/-!
# Settling

Every move of a pipeline's task lowers its work (`step_work_lt`). `settle` lets tasks move until none
can, in one fixed order of preference.
-/

namespace Readiness

namespace Pipeline

@[simp] theorem queueWork_append (cs ds : List Bytes) :
    queueWork (cs ++ ds) = queueWork cs + queueWork ds := by
  induction cs with
  | nil => simp [queueWork]
  | cons c cs ih => simp [queueWork, ih, Nat.add_assoc]

theorem outputWork_keep (x : Output) (rest : Bytes) :
    outputWork (x.keep rest) = queueWork x.queue + rest.length := rfl

theorem outputWork_gather (x : Output) (c : Bytes) (cs : List Bytes) :
    outputWork (x.gather c cs) = queueWork cs + (x.pending.length + c.length) := by
  simp [outputWork, Output.gather]

end Pipeline

namespace Splitter

/-- The work at all outputs. -/
def outputsWork (s : Splitter) : Nat :=
  Pipeline.outputWork (s.output .combined) + Pipeline.outputWork (s.output .stdout) +
    Pipeline.outputWork (s.output .stderr)

/-- Exchanging one output changes the work by the difference between the two. -/
theorem outputsWork_setOutput (s : Splitter) (o : Outlet) (x : Output) :
    (s.setOutput o x).outputsWork + Pipeline.outputWork (s.output o) =
      s.outputsWork + Pipeline.outputWork x := by
  cases o <;> simp [outputsWork, setOutput, output, PerOutlet.get, PerOutlet.set] <;> omega

/-- A chunk that goes to an output brings at most its own work along. -/
theorem outputsWork_offer {s s' : Splitter} {o : Outlet} {bs : Bytes} (h : s.offer o bs = some s') :
    s'.outputsWork ≤ s.outputsWork + Pipeline.chunkWork bs := by
  obtain ⟨x, hx, rfl⟩ := Option.map_eq_some_iff.1 h
  have := outputsWork_setOutput s o x
  have : Pipeline.outputWork x ≤ Pipeline.outputWork (s.output o) + Pipeline.chunkWork bs := by
    unfold Output.offer at hx
    split at hx
    · split at hx
      · cases hx; simp [Pipeline.outputWork, Pipeline.queueWork]; omega
      · cases hx
    · cases hx; omega
  omega

end Splitter

namespace Lines

/-- Taking a line off leaves fewer bytes. -/
theorem length_of_cut? {bs line rest : Bytes} (h : cut? bs = some (line, rest)) :
    line.length + rest.length + 1 = bs.length := by
  obtain ⟨rfl, -⟩ := eq_append_of_cut? h
  rw [List.length_append, List.length_cons, Nat.add_assoc]

end Lines

namespace Splitter

/-- A line that is taken out leaves less to read. -/
theorem outputsWork_advance_line {s s' : Splitter} {o : Outlet} {text : String}
    (h : s.advance o = (.line text, s')) : s'.outputsWork < s.outputsWork := by
  unfold advance at h
  dsimp only at h
  split at h
  · -- A line that is complete.
    next line rest hc =>
    cases h
    have := Lines.length_of_cut? hc
    have := outputsWork_setOutput s o ((s.output o).keep rest)
    rw [Pipeline.outputWork_keep, Pipeline.outputWork] at this
    omega
  · split at h
    · cases h
    · split at h
      · split at h
        · cases h
        · -- The rest, as a last line.
          next hp =>
          cases h
          have := outputsWork_setOutput s o ((s.output o).keep [])
          rw [Pipeline.outputWork_keep, Pipeline.outputWork, List.length_nil] at this
          have : (s.output o).pending.length ≠ 0 := by simpa using hp
          omega
      · cases h

/-- A chunk that is gathered leaves less to read, as it is no longer queued. -/
theorem outputsWork_advance_gathered {s s' : Splitter} {o : Outlet}
    (h : s.advance o = (.gathered, s')) : s'.outputsWork < s.outputsWork := by
  obtain ⟨c, cs, hq, rfl⟩ := advance_gathered h
  have := outputsWork_setOutput s o ((s.output o).gather c cs)
  rw [Pipeline.outputWork_gather, Pipeline.outputWork, hq, Pipeline.queueWork,
    Pipeline.chunkWork] at this
  omega

end Splitter

namespace Host

/-- What the wanted chunks are behind the first of them. -/
theorem filter_of_dropWhile {α : Type} {p : α → Bool} {xs cs : List α} {c : α}
    (h : xs.dropWhile (!p ·) = c :: cs) : xs.filter p = c :: cs.filter p := by
  induction xs with
  | nil => simp at h
  | cons x xs ih =>
    by_cases hx : p x
    · simp only [List.dropWhile_cons, hx, Bool.not_true, Bool.false_eq_true, if_false,
        List.cons.injEq] at h
      obtain ⟨rfl, rfl⟩ := h
      simp [hx]
    · simp only [List.dropWhile_cons, hx, Bool.not_false, if_true] at h
      simp [hx, ih h]

/-- The next item is the first of the backlog, which is the rest afterwards. -/
theorem backlog_of_next {h h' : Host} {t t' : Tail} {i : Item} (hn : h.next t = (.item i, t', h')) :
    h.backlog t = i :: h'.backlog t' := by
  unfold next at hn
  split at hn
  · cases hn; rfl
  · split at hn <;> cases hn
  · split at hn
    · split at hn
      · next hd =>
        cases hn
        simp only [backlog, selected]
        rw [filter_of_dropWhile (p := fun c => _) hd]
        rfl
      · split at hn <;> cases hn
    · cases hn

end Host

namespace Pipeline

variable {σ ν : Type}

/-- The work at the stations. -/
def stationsWork (p : Pipeline σ ν) : Nat :=
  stationWork (p.station .combined) + stationWork (p.station .stdout) +
    stationWork (p.station .stderr)

theorem work_eq (h : Host) (p : Pipeline σ ν) :
    work h p = feedWork h p.container p.feed + p.splitter.outputsWork + stationsWork p := rfl

theorem stationsWork_setStation (p : Pipeline σ ν) (o : Outlet) (x : Station σ ν) :
    stationsWork (p.setStation o x) + stationWork (p.station o) =
      stationsWork p + stationWork x := by
  cases o <;> simp [stationsWork, setStation, station, PerOutlet.get, PerOutlet.set] <;> omega

/-- A feed that runs has something to do. -/
theorem feedWork_pos (h : Host) (container : String) {f : Feed} (hf : f.running = true) :
    0 < feedWork h container f := by
  cases f with
  | idle => cases hf
  | ended => cases hf
  | attaching => simp only [feedWork]; split <;> omega
  | reading => simp only [feedWork]; omega
  | copying => simp only [feedWork]; omega
  | tagging => simp only [feedWork]; omega

/-- The end of a feed that is not over leaves less to do. -/
theorem work_endFeed_lt {h h' : Host} {p : Pipeline σ ν} (hf : p.feed.running = true) :
    work h' p.endFeed < work h p := by
  have hp := feedWork_pos h p.container hf
  have he : work h' p.endFeed = 0 + p.splitter.outputsWork + stationsWork p := rfl
  rw [he, work_eq]
  omega

/-- A chunk carried to one output leaves less to do, if the feed had counted more than what there is
    to do at the output. -/
theorem work_carry_lt {h : Host} {p p' : Pipeline σ ν} {o : Outlet} {c : Chunk} {f : Feed}
    (hc : p.carry o c f = some p')
    (hf : feedWork h p.container f + chunkWork c.bytes < feedWork h p.container p.feed) :
    work h p' < work h p := by
  obtain ⟨s, hs, rfl⟩ := Option.map_eq_some_iff.1 hc
  have ho := Splitter.outputsWork_offer hs
  have he : work h { p with splitter := s, feed := f } =
      feedWork h p.container f + s.outputsWork + stationsWork p := rfl
  rw [he, work_eq]
  omega

theorem work_stepFeed_lt {h h' : Host} {p p' : Pipeline σ ν} (hs : p.stepFeed h = some (h', p')) :
    work h' p' < work h p := by
  unfold stepFeed at hs
  split at hs
  · -- The signal is up.
    next hr =>
    cases hs
    exact work_endFeed_lt (by simp_all)
  · split at hs
    · cases hs
    · cases hs
    · -- The feed attaches.
      next hf =>
      split at hs
      · next ha =>
        cases hs
        simp only [work_eq, stationsWork, station, hf, feedWork, ha]
        omega
      · cases hs; exact work_endFeed_lt (by simp [hf, Feed.running])
      · cases hs
    · -- It takes an item.
      next hf =>
      split at hs
      · next c tail' h'' hn =>
        cases hs
        have := Host.backlog_of_next hn
        simp only [work_eq, stationsWork, station, hf, feedWork, this, itemsWork, itemWork]
        omega
      · cases hs; exact work_endFeed_lt (by simp [hf, Feed.running])
      · cases hs; exact work_endFeed_lt (by simp [hf, Feed.running])
      · cases hs
    · -- It carries the chunk to the combined output.
      next c tail hf =>
      obtain ⟨p'', hc, he⟩ := Option.map_eq_some_iff.1 hs
      cases he
      refine work_carry_lt hc ?_
      simp only [hf, feedWork]
      omega
    · -- It carries it to the output of its channel.
      next c tail hf =>
      obtain ⟨p'', hc, he⟩ := Option.map_eq_some_iff.1 hs
      cases he
      refine work_carry_lt hc ?_
      simp only [hf, feedWork]
      omega

variable [Listener σ ν]

theorem work_stepPrinter_lt {h : Host} {p p' : Pipeline σ ν} {o : Outlet}
    (hs : p.stepPrinter o = some p') : work h p' < work h p := by
  unfold stepPrinter at hs
  dsimp only at hs
  split at hs
  · next hr =>
    have hw : stationWork (p.station o) = 1 := by simp [stationWork, hr]
    split at hs
    · next text s ha =>
      cases hs
      have ho := Splitter.outputsWork_advance_line ha
      have hx := stationsWork_setStation { p with splitter := s } o
        { p.station o with printer := (p.station o).printer.map (Printer.deliver · text) }
      rw [stationWork, stationWork] at hx
      rw [work_eq, work_eq]
      exact Nat.add_lt_add_of_lt_of_le (Nat.add_lt_add_left ho _)
        (Nat.le_of_eq (Nat.add_right_cancel hx))
    · next s ha =>
      cases hs
      have ho := Splitter.outputsWork_advance_gathered ha
      rw [work_eq, work_eq]
      exact Nat.add_lt_add_right (Nat.add_lt_add_left ho _) _
    · cases hs
      have hx := stationsWork_setStation p o { p.station o with running := false }
      rw [hw] at hx
      rw [work_eq, work_eq]
      exact Nat.add_lt_add_left (Nat.lt_of_succ_le (Nat.le_of_eq hx)) _
    · cases hs
  · cases hs

/-- Every move leaves less to do. -/
theorem step_work_lt {h h' : Host} {p p' : Pipeline σ ν} {t : TaskId}
    (hs : p.step h t = some (h', p')) : work h' p' < work h p := by
  cases t with
  | feed => exact work_stepFeed_lt hs
  | printer o =>
    obtain ⟨p'', hc, he⟩ := Option.map_eq_some_iff.1 hs
    cases he
    exact work_stepPrinter_lt hc

theorem move?_work_lt {h h' : Host} {p p' : Pipeline σ ν} (hm : p.move? h = some (h', p')) :
    work h' p' < work h p := by
  obtain ⟨t, _, ht⟩ := List.exists_of_findSome?_eq_some hm
  exact step_work_lt ht

/-- Lets tasks move until none can. -/
def settle (h : Host) (p : Pipeline σ ν) : Host × Pipeline σ ν :=
  match _hm : p.move? h with
  | none => (h, p)
  | some (h', p') => settle h' p'
termination_by work h p
decreasing_by exact move?_work_lt _hm

end Pipeline

end Readiness
