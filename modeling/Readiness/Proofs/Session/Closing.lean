import Readiness.Proofs.Session.Delivery

/-!
# Sessions close

A session can be closed wherever its tasks are. Behind the signal nothing is brought to an output
any more, and what waits there is still read, so all tasks end by themselves, without the help of a
timer (`close_delivers`). What has been said in the end is then what the container said first: the
listeners may have heard one chunk that is missing on its channel, and that is all by which the
outputs differ.
-/

namespace Readiness

open Lines

namespace Pipeline

variable {σ ν : Type} [Listener σ ν]

/-- Where all tasks are over none can move. -/
theorem isStuck_of_isOver {h : Host} {p : Pipeline σ ν} (ho : p.isOver = true) :
    IsStuck (h, p) := by
  intro t
  have hr := (isOver_iff p).1 ho t
  cases t with
  | feed =>
    change p.feed.running = false at hr
    change p.stepFeed h = none
    unfold stepFeed
    rw [hr]
    cases hf : p.feed <;> rw [hf] at hr <;> first | rfl | cases hr
  | printer o =>
    change (p.station o).running = false at hr
    change (p.stepPrinter o).map (h, ·) = none
    simp [stepPrinter, hr]

/-- Where all tasks are over nothing changes any more, whatever happens to the host. -/
theorem Run.eq_of_isOver {x y : Host × Pipeline σ ν} {ms : List Move} (h : Run x ms y)
    (ho : x.2.isOver = true) : y.2 = x.2 := by
  induction h with
  | nil => rfl
  | @task x y z t ms hs _ _ => rw [isStuck_of_isOver (h := x.1) ho t] at hs; cases hs
  | happens _ ih => exact ih ho

omit [Listener σ ν] in
/-- Tasks that are stopped are over. -/
theorem isOver_abort (p : Pipeline σ ν) : p.abort.isOver = true := by
  rw [isOver_iff]
  intro t
  cases t with
  | feed => cases hf : p.feed <;> simp [abort, isRunning, hf, Feed.running]
  | printer o => simp [abort, isRunning, station]

omit [Listener σ ν] in
/-- Tasks that are over need not be stopped. -/
theorem abort_of_isOver {p : Pipeline σ ν} (ho : p.isOver = true) : p.abort = p := by
  have hr := (isOver_iff p).1 ho
  have hf : p.feed.running = false := hr .feed
  have hs : p.stations.map (fun x => { x with running := false }) = p.stations := by
    refine PerOutlet.ext_get fun o => ?_
    have ho : (p.stations.get o).running = false := hr (.printer o)
    rw [PerOutlet.get_map, ← ho]
  rw [abort, hs, hf]
  rfl

/-- A printer that goes on with what lies ahead of its reader delivers all that was received. -/
theorem Serves.deliverAll_ahead {s : Splitter} {o : Outlet} {received : Bytes}
    {q : Option (Printer σ ν)} {x : Station σ ν} (hs : Serves s o received q x) :
    x.printer.map (·.deliverAll (ofBytes (s.output o).ahead)) =
      q.map (·.deliverAll (ofBytes received)) := by
  cases hs with
  | nobody => rfl
  | working _ hread =>
    simp only [Option.map_some, ← Printer.deliverAll_append, hread.append_ofBytes_ahead]
  | done _ hq hp =>
    have ha : ofBytes (s.output o).ahead = [] := by
      simp [Output.ahead, hq, hp, ofBytes, split, ofRest]
    rw [ha]
    rfl

/-- The chunks copied and those brought to the output of their channel, by their numbers. -/
theorem FeedAt.exists_take {interrupted : Prop} {origin h : Host} {container : String} {f : Feed}
    {copied tagged : List Chunk} (hf : FeedAt interrupted origin h container f copied tagged) :
    ∃ k j, (j = k ∨ j + 1 = k) ∧ k ≤ (origin.script container).chunks.length ∧
      copied = (origin.script container).chunks.take k ∧
      tagged = (origin.script container).chunks.take j := by
  have hc := hf.copied_prefix
  have ht : tagged <+: (origin.script container).chunks := by
    obtain rfl | ⟨c, rfl⟩ := hf.ahead
    · exact hc
    · exact (List.prefix_append tagged [c]).trans hc
  refine ⟨copied.length, tagged.length, ?_, hc.length_le, List.prefix_iff_eq_take.1 hc,
    List.prefix_iff_eq_take.1 ht⟩
  obtain rfl | ⟨c, rfl⟩ := hf.ahead
  · exact .inl rfl
  · exact .inr (by simp)

end Pipeline

namespace Session

variable {σ ν : Type} [Listener σ ν]

/-- Closing is settling behind the signal, where that brings all tasks to an end. -/
theorem close_of_isOver_settle {h : Host} {s : Session σ ν} (hst : s.started = true)
    (hc : s.closed = false) (hg : 0 < s.grace)
    (ho : (s.pipeline.close.settle h).2.isOver = true) :
    s.close h = ((s.pipeline.close.settle h).1,
      { s with closed := true, pipeline := (s.pipeline.close.settle h).2 }, 0) := by
  unfold close
  simp only [hst, hc, if_true, Bool.false_eq_true, if_false]
  split
  · -- Nothing was left to do.
    next ho' => rw [Pipeline.settle_of_isStuck (Pipeline.isStuck_of_isOver ho')]
  · rw [if_neg (Nat.ne_of_gt hg)]

/-- Closing does not change a log that is not live. -/
theorem host_close_of_not_live {h : Host} (hl : ∀ log, h ≠ .live log) (s : Session σ ν) :
    (s.close h).1 = h := by
  have hsettle : ∀ p : Pipeline σ ν, (p.settle h).1 = h := fun p => by
    obtain ⟨ts, hr⟩ := Pipeline.run_settle h p
    exact hr.host_of_not_live hl
  unfold close
  dsimp only
  repeat' split
  all_goals first | rfl | exact hsettle _

/-- Where all tasks are over, closing leaves its mark and takes no time. -/
theorem close_of_isOver {s : Session σ ν} (hst : s.started = true) (hc : s.closed = false)
    (ho : s.pipeline.isOver = true) (h : Host) :
    s.close h = (h, { s with closed := true, pipeline := s.pipeline.close }, 0) := by
  unfold close
  simp only [hst, hc, if_true, Bool.false_eq_true, if_false]
  exact if_pos ho

/-- The first close of a session at work, with a grace period, and in whatever order the tasks are
    scheduled behind the signal: each printer goes on with what lies ahead of its reader. -/
theorem Leads.exists_close {h h' : Host} {container : String} {listeners : List σ}
    {stdoutSink stderrSink : Option Sink} {capacity grace : Nat} {ms : List Move} {s : Session σ ν}
    (hg : 0 < grace)
    (hs : Leads h (prepare container listeners stdoutSink stderrSink capacity grace).start ms
      h' s) :
    ∃ h'' s', s.close h' = (h'', s', 0) ∧ s'.pipeline.isOver = true ∧
      (∃ k j,
        let chunks := ((Pipeline.originAfter h ms).script container).chunks
        (j = k ∨ j + 1 = k) ∧ k ≤ chunks.length ∧
          Delivered container listeners (sinkFor stdoutSink stderrSink)
            (fun o => ofBytes (o.share (chunks.take (if o = .combined then k else j)))) s') ∧
      (∀ o, (s'.pipeline.station o).printer = (s.pipeline.station o).printer.map
        (·.deliverAll (ofBytes (s.pipeline.splitter.output o).ahead))) ∧
      ∀ (ts : List TaskId) y, Pipeline.Run (h', s.pipeline.close) (ts.map .task) y →
        Pipeline.IsStuck y → y.2.isOver = true ∧
          ∀ o, (y.2.station o).printer = (s'.pipeline.station o).printer := by
  obtain ⟨copied, tagged, ht⟩ := (tracks_start container listeners stdoutSink stderrSink capacity
    grace h).run hs.1
  -- Behind the signal every order of the tasks comes to the same end.
  have hend : ∀ (ts : List TaskId) y, Pipeline.Run (h', s.pipeline.close) (ts.map .task) y →
      Pipeline.IsStuck y → y.2.isOver = true ∧ ∀ o, (y.2.station o).printer =
        ((printers container listeners (sinkFor stdoutSink stderrSink)).get o).map
          (·.deliverAll (ofBytes (Pipeline.received o copied tagged))) :=
    fun ts y hr hstuck => ht.close.of_isStuck_of_closed rfl hr hstuck
  obtain ⟨ts, hr⟩ := Pipeline.run_settle h' s.pipeline.close
  obtain ⟨ho, hp⟩ := hend ts _ hr (Pipeline.isStuck_settle _ _)
  obtain ⟨k, j, hjk, hk, hcopied, htagged⟩ := ht.feed.exists_take
  rw [hs.container] at hk hcopied htagged
  refine ⟨_, _, close_of_isOver_settle ?_ ?_ ?_ ho, ho, ⟨k, j, hjk, hk, ?_⟩, fun o => ?_,
    fun ts' y hr' hstuck => ⟨(hend ts' y hr' hstuck).1, fun o => ?_⟩⟩
  · rw [hs.2]; rfl
  · rw [hs.2]; rfl
  · rw [hs.2]; exact hg
  · refine delivered_of_printer_eq fun o => (hp o).trans ?_
    by_cases hoc : o = .combined <;> simp [Pipeline.received, hoc, ← hcopied, ← htagged]
  · exact (hp o).trans (ht.serves o).deliverAll_ahead.symm
  · exact ((hend ts' y hr' hstuck).2 o).trans (hp o).symm

/-- The first close of a session, wherever its tasks are, with a grace period. There is such a session
    unless its queues would be too great. Closing takes no time and leaves no task at work. The
    listeners have heard the lines of what the container said first, the channels those of the same
    chunks, or of all but the last of them: each printer has gone on with what lay ahead of its reader.
    And so it is in whatever order the tasks are scheduled behind the signal. -/
theorem close_delivers (container : String) (listeners : List σ)
    (stdoutSink stderrSink : Option Sink) (capacity grace : Nat) (hg : 0 < grace) :
    let s₀ : Session σ ν := prepare container listeners stdoutSink stderrSink capacity grace
    (s₀.start? = none ↔ Splitter.maxCapacity < capacity) ∧
    ∀ s₁, s₀.start? = some s₁ → ∀ h ms h' s, Leads h s₁ ms h' s →
      ∃ h'' s', s.close h' = (h'', s', 0) ∧ s'.pipeline.isOver = true ∧
        (∃ k j,
          let chunks := ((Pipeline.originAfter h ms).script container).chunks
          (j = k ∨ j + 1 = k) ∧ k ≤ chunks.length ∧
            Delivered container listeners (sinkFor stdoutSink stderrSink)
              (fun o => ofBytes (o.share (chunks.take (if o = .combined then k else j)))) s') ∧
        (∀ o, (s'.pipeline.station o).printer = (s.pipeline.station o).printer.map
          (·.deliverAll (ofBytes (s.pipeline.splitter.output o).ahead))) ∧
        ∀ (ts : List TaskId) y, Pipeline.Run (h', s.pipeline.close) (ts.map .task) y →
          Pipeline.IsStuck y → y.2.isOver = true ∧
            ∀ o, (y.2.station o).printer = (s'.pipeline.station o).printer := by
  intro s₀
  refine ⟨start?_prepare_eq_none_iff, fun s₁ hs₁ h ms h' s hs => ?_⟩
  obtain rfl := eq_start_of_start? hs₁
  exact hs.exists_close hg

/-- Closed when the feed has carried a chunk to the listeners and not yet to its channel: they have
    heard the whole line, its channel has printed nothing of it. -/
theorem close_delivers_between_copies :
    ∃ (s₁ : Session LogWatch Empty) (ms : List Move) (h' h'' : Host)
        (s s' : Session LogWatch Empty), 0 < defaultGrace ∧
      (prepare "box" [.message { text := "ab" }] (some .capture) (some .capture) 2
        defaultGrace).start? = some s₁ ∧
      Leads halves s₁ ms h' s ∧
      s.close h' = (h'', s', 0) ∧ s'.pipeline.isOver = true ∧
      s'.listeners = [.message { text := "ab", found := true }] ∧
      (s'.sink .stdout).map Sink.written = some (Utf8.encode "box-stdout> a\n") ∧
      (s'.sink .stderr).map Sink.written = some [] := by
  have hs : ∃ (ms : List Move) (h' : Host) (s : Session LogWatch Empty),
      Leads halves (prepare "box" [.message { text := "ab" }] (some .capture) (some .capture) 2
        defaultGrace).start ms h' s ∧
      (s.pipeline.station .combined).printer.map (·.deliverAll
        (ofBytes (s.pipeline.splitter.output .combined).ahead)) =
          some { listeners := [.message { text := "ab", found := true }], count := 1 } ∧
      ((s.pipeline.station .stdout).printer.map (·.deliverAll
        (ofBytes (s.pipeline.splitter.output .stdout).ahead))).bind Printer.sink =
          some { Sink.capture with written := Utf8.encode "box-stdout> a\n", flushes := 1 } ∧
      ((s.pipeline.station .stderr).printer.map (·.deliverAll
        (ofBytes (s.pipeline.splitter.output .stderr).ahead))).bind Printer.sink =
          some .capture :=
    -- The feed attaches and brings one chunk to both outputs, and the next to the first.
    ⟨[.feed, .feed, .feed, .feed, .printer .combined, .feed, .feed].map .task, _, ⟨_, _, _, _⟩,
      ⟨.task rfl <| .task rfl <| .task rfl <| .task rfl <| .task rfl <| .task rfl <| .task rfl .nil,
        rfl⟩, rfl, by decide, by decide⟩
  obtain ⟨ms, h', s, hs, hc, ho, he⟩ := hs
  have hstart : (prepare "box" [.message { text := "ab" }] (some .capture) (some .capture) 2
      defaultGrace : Session LogWatch Empty).start? = some _ := start?_prepare_of_le (by decide)
  obtain ⟨-, hstarted⟩ := close_delivers (ν := Empty) "box" [LogWatch.message { text := "ab" }]
    (some .capture) (some .capture) 2 defaultGrace (by decide)
  obtain ⟨h'', s', hclose, hover, -, hq, -⟩ := hstarted _ hstart _ _ _ _ hs
  refine ⟨_, ms, h', h'', s, s', by decide, hstart, hs, hclose, hover, ?_, ?_, ?_⟩
  · rw [listeners, hq, hc]
  · rw [sink, hq]
    exact congrArg (Option.map Sink.written) ho
  · rw [sink, hq]
    exact congrArg (Option.map Sink.written) he

end Session

end Readiness
