import Readiness.Proofs.Pipeline.Tracking

/-!
# Sessions deliver

A session can be started unless the queues it asks for would be too great
(`start?_prepare_eq_none_iff`). One that was started and is left alone delivers what its container
says. Its tasks come to a stop in whatever order they are scheduled, and where none can move the
listeners have heard every line of the combined output, and each printer with a sink has printed
every line of its channel (`start_delivers`). A stream that ends, or fails, or cannot be attached to,
takes all tasks with it, and an unfinished last line is a line then; behind one that stays open the
last line may still go on.

`Delivered` says what a session makes of given lines. That is stated once here and holds again of a
session that is closed.
-/

namespace Readiness

open Lines

namespace Splitter

variable {n : Nat}

/-- A queue has room for one chunk at least, which is never too great. -/
theorem max_le_maxCapacity_iff : max n 1 ≤ maxCapacity ↔ n ≤ maxCapacity := by
  rw [Nat.max_le]
  exact and_iff_left (by decide)

/-- At least one chunk is always asked for, so only a capacity that is too great is fatal. -/
theorem make?_eq_none_iff : make? n = none ↔ maxCapacity < n := by
  have hq : canQueue (max n 1) = true ↔ n ≤ maxCapacity := by
    rw [canQueue, Bool.and_eq_true, decide_eq_true_iff, decide_eq_true_iff, max_le_maxCapacity_iff]
    exact and_iff_right (Nat.lt_of_lt_of_le Nat.one_pos (Nat.le_max_right n 1))
  rw [make?, ite_eq_right_iff, hq, ← Nat.not_le]
  simp

end Splitter

namespace Session

variable {σ ν : Type}

/-! ## Starting -/

/-- What is not fatal is a start. -/
theorem eq_start_of_start? {s s' : Session σ ν} (h : s.start? = some s') : s' = s.start := by
  rw [start?] at h
  split at h
  · next hs =>
    rw [start, if_pos hs]
    exact (Option.some.inj h).symm
  · obtain ⟨-, -, rfl⟩ := Option.map_eq_some_iff.1 h
    rfl

section Prepare

variable {container : String} {listeners : List σ} {stdoutSink stderrSink : Option Sink}
  {capacity grace : Nat}

/-- A session can be started unless its queues would be too great. -/
theorem start?_prepare_eq_none_iff :
    (prepare container listeners stdoutSink stderrSink capacity grace : Session σ ν).start? = none ↔
      Splitter.maxCapacity < capacity := by
  rw [start?, prepare, if_neg Bool.false_ne_true, Option.map_eq_none_iff,
    Splitter.make?_eq_none_iff, ← Nat.not_le, ← Nat.not_le]
  exact not_congr Splitter.max_le_maxCapacity_iff

/-- No session is fatal to start if its queues are not too great. -/
theorem start?_prepare_of_le (hc : capacity ≤ Splitter.maxCapacity) :
    (prepare container listeners stdoutSink stderrSink capacity grace : Session σ ν).start? =
      some (prepare container listeners stdoutSink stderrSink capacity grace).start := by
  cases hs : (prepare container listeners stdoutSink stderrSink capacity grace :
      Session σ ν).start? with
  | none => exact absurd (start?_prepare_eq_none_iff.1 hs) (Nat.not_lt.2 hc)
  | some s => rw [eq_start_of_start? hs]

end Prepare

/-! ## Delivering -/

/-- The sink of a channel, of two sinks. -/
def sinkFor (stdoutSink stderrSink : Option Sink) : Channel → Option Sink
  | .stdout => stdoutSink
  | .stderr => stderrSink

/-- The printer of a channel as it is when it has a sink and nothing has been printed. -/
def echoing (container : String) (ch : Channel) (sink : Sink) : Printer σ ν :=
  { label := label container ch, sink := some sink }

/-- Given lines for every outlet, the session has told the listeners those of the combined outlet
    and printed those of each channel that has a sink. -/
structure Delivered [Listener σ ν] (container : String) (listeners : List σ)
    (sinks : Channel → Option Sink) (lines : Outlet → List String) (s : Session σ ν) : Prop where
  heard : s.listeners = (Fanout.notifyAll listeners (lines .combined)).1
  noted : s.notes = (Fanout.notifyAll listeners (lines .combined)).2
  printed : ∀ ch, (s.pipeline.station ch.outlet).printer =
    (sinks ch).map fun k => (echoing container ch k).deliverAll (lines ch.outlet)
  /-- A sink that has not failed holds every line behind its label, each with its end. -/
  written : ∀ ch k q, sinks ch = some k → (s.pipeline.station ch.outlet).printer = some q →
    q.silenced = false → ∃ k', s.sink ch = some k' ∧
      k'.written = k.written ++ (lines ch.outlet).flatMap (Sink.lineBytes (label container ch))
  /-- A sink at which nothing can fail has not failed. -/
  healthy : ∀ ch k q, sinks ch = some k → k.IsReliable →
    (s.pipeline.station ch.outlet).printer = some q → q.silenced = false

/-- The printers that a session is prepared with. -/
def printers (container : String) (listeners : List σ) (sinks : Channel → Option Sink) :
    PerOutlet (Option (Printer σ ν)) where
  stdout := (sinks .stdout).map (echoing container .stdout)
  stderr := (sinks .stderr).map (echoing container .stderr)
  combined := if listeners.isEmpty then none else some { listeners }

theorem running_prepare (container : String) (listeners : List σ)
    (stdoutSink stderrSink : Option Sink) (capacity grace : Nat) (o : Outlet) :
    ((prepare container listeners stdoutSink stderrSink capacity grace :
      Session σ ν).pipeline.station o).running = false := by
  cases o
  · rfl
  · rfl
  · cases listeners <;> rfl

/-- The moves of a session's tasks and what happens to its host meanwhile. -/
def Leads [Listener σ ν] (h : Host) (s : Session σ ν) (ms : List Move) (h' : Host)
    (s' : Session σ ν) : Prop :=
  Pipeline.Run (h, s.pipeline) ms (h', s'.pipeline) ∧ s' = { s with pipeline := s'.pipeline }

/-- A session that was just started has told its listeners nothing. -/
theorem listeners_start (container : String) (listeners : List σ)
    (stdoutSink stderrSink : Option Sink) (capacity grace : Nat) :
    (prepare container listeners stdoutSink stderrSink capacity grace :
      Session σ ν).start.listeners = listeners := by
  cases listeners <;> cases stdoutSink <;> cases stderrSink <;> rfl

variable [Listener σ ν]

/-- When a session starts nothing has been carried to its outputs. -/
theorem tracks_start (container : String) (listeners : List σ) (stdoutSink stderrSink : Option Sink)
    (capacity grace : Nat) (h : Host) :
    Pipeline.Tracks (printers container listeners (sinkFor stdoutSink stderrSink)) False h h
      (prepare container listeners stdoutSink stderrSink capacity grace :
        Session σ ν).start.pipeline [] [] := by
  have ht := Pipeline.tracks_start rfl (running_prepare container listeners stdoutSink stderrSink
    capacity grace) h
  have hq : (prepare container listeners stdoutSink stderrSink capacity grace :
      Session σ ν).pipeline.stations.map Station.printer =
        printers container listeners (sinkFor stdoutSink stderrSink) := by
    cases listeners <;> rfl
  rwa [hq] at ht

theorem Leads.trans {h h' h'' : Host} {ms ns : List Move} {s s' s'' : Session σ ν}
    (hs : Leads h s ms h' s') (hs' : Leads h' s' ns h'' s'') : Leads h s (ms ++ ns) h'' s'' := by
  refine ⟨hs.1.trans hs'.1, ?_⟩
  rw [hs'.2, hs.2]

/-- A session settles by moves of its tasks. -/
theorem leads_settle (h : Host) (s : Session σ ν) :
    ∃ ts : List TaskId, Leads h s (ts.map .task) (s.settle h).1 (s.settle h).2 := by
  obtain ⟨ts, hr⟩ := Pipeline.run_settle h s.pipeline
  exact ⟨ts, hr, rfl⟩

theorem Leads.container {h h' : Host} {container : String} {listeners : List σ}
    {stdoutSink stderrSink : Option Sink} {capacity grace : Nat} {ms : List Move} {s : Session σ ν}
    (hs : Leads h (prepare container listeners stdoutSink stderrSink capacity grace).start ms
      h' s) :
    s.pipeline.container = container :=
  hs.1.container.trans (Pipeline.start_of_new rfl
    (running_prepare container listeners stdoutSink stderrSink capacity grace)).1

theorem notifyAll_nil (lines : List String) : Fanout.notifyAll ([] : List σ) lines = ([], []) := by
  induction lines with
  | nil => rfl
  | cons line lines ih => simp [Fanout.notifyAll, Fanout.notify, ih]

/-- Printers that have delivered lines have delivered them to the listeners and the sinks. -/
theorem delivered_of_printer_eq {container : String} {listeners : List σ}
    {sinks : Channel → Option Sink} {lines : Outlet → List String} {s : Session σ ν}
    (hp : ∀ o, (s.pipeline.station o).printer =
      ((printers container listeners sinks).get o).map (·.deliverAll (lines o))) :
    Delivered container listeners sinks lines s := by
  have hprinted : ∀ ch, (s.pipeline.station ch.outlet).printer =
      (sinks ch).map fun k => (echoing container ch k).deliverAll (lines ch.outlet) := by
    intro ch
    rw [hp]
    cases ch <;> simp [printers, PerOutlet.get, Channel.outlet, Function.comp_def]
  have hc := hp .combined
  -- Without listeners there is no printer for them, and telling nobody changes nothing.
  refine ⟨?_, ?_, hprinted, ?_, ?_⟩
  · cases listeners with
    | nil => simp [Session.listeners, hc, printers, PerOutlet.get, notifyAll_nil]
    | cons l ls =>
      simp [Session.listeners, hc, printers, PerOutlet.get, (Printer.told_deliverAll _ _).1]
  · cases listeners with
    | nil => simp [Session.notes, hc, printers, PerOutlet.get, notifyAll_nil]
    | cons l ls =>
      simp [Session.notes, hc, printers, PerOutlet.get, (Printer.told_deliverAll _ _).2]
  · intro ch k q hk hq hh
    rw [hprinted, hk, Option.map_some, Option.some.injEq] at hq
    subst hq
    obtain ⟨k', hk', hw⟩ := Printer.written_deliverAll (k := k) rfl hh
    exact ⟨k', by rw [sink, hprinted, hk]; exact hk', hw⟩
  · intro ch k q hk hr hq
    rw [hprinted, hk, Option.map_some, Option.some.injEq] at hq
    subst hq
    refine Printer.silenced_deliverAll rfl (fun k' hk' => ?_) _
    cases hk'
    exact hr

/-- Where no task of a session that is not closed can move, all that the container has said is
    delivered, as far as it is complete, or all of it if the stream is over, and then all tasks are
    over. -/
theorem delivered_of_isStuck {h h' : Host} {container : String} {listeners : List σ}
    {stdoutSink stderrSink : Option Sink} {capacity grace : Nat} {ms : List Move} {s : Session σ ν}
    (hs : Leads h (prepare container listeners stdoutSink stderrSink capacity grace).start ms h' s)
    (hstuck : Pipeline.IsStuck (h', s.pipeline)) :
    let script := (Pipeline.originAfter h ms).script container
    Delivered container listeners (sinkFor stdoutSink stderrSink)
        (fun o => sofar script.ends (o.share script.chunks)) s ∧
      (script.ends = true → s.pipeline.isOver = true) := by
  obtain ⟨copied, tagged, ht⟩ := (tracks_start container listeners stdoutSink stderrSink capacity
    grace h).run hs.1
  have hc : s.pipeline.container = container := hs.container
  obtain ⟨ho, hf, hp⟩ | ⟨_, _, hct, hsc, hp⟩ := ht.of_isStuck hstuck
  · -- The feed is over, and nobody else raised the signal: the script is over.
    have hat := ht.feed
    rw [hf, hc] at hat
    cases hat with
    | finished hsc =>
      rw [hsc]
      refine ⟨delivered_of_printer_eq fun o => ?_, fun _ => ho⟩
      exact (hp o).trans (by simp [Pipeline.received, sofar])
    | stopped hi => exact hi.elim
  · rw [hc] at hsc
    rw [hsc]
    refine ⟨delivered_of_printer_eq fun o => ?_, fun he => by cases he⟩
    exact (hp o).trans (by simp [Pipeline.received, sofar, hct])

/-- What becomes of a session that is started. To start it is fatal if its queues would be too great,
    and only then. Else, and as long as it is not closed, wherever its tasks are, however they were
    scheduled and whatever has happened to the host: they cannot move on for ever, so they come to a
    stop; and where none can move, all that the container has said is delivered. -/
theorem start_delivers (container : String) (listeners : List σ)
    (stdoutSink stderrSink : Option Sink) (capacity grace : Nat) :
    let s₀ : Session σ ν := prepare container listeners stdoutSink stderrSink capacity grace
    (s₀.start? = none ↔ Splitter.maxCapacity < capacity) ∧
    ∀ s₁, s₀.start? = some s₁ → ∀ h ms h' s, Leads h s₁ ms h' s →
      (∀ (ts : List TaskId) y, Pipeline.Run (h', s.pipeline) (ts.map .task) y →
        ts.length ≤ Pipeline.work h' s.pipeline) ∧
      (∃ (ts : List TaskId) (y : _), Pipeline.Run (h', s.pipeline) (ts.map .task) y ∧
        Pipeline.IsStuck y) ∧
      (Pipeline.IsStuck (h', s.pipeline) →
        let script := (Pipeline.originAfter h ms).script container
        Delivered container listeners (sinkFor stdoutSink stderrSink)
            (fun o => sofar script.ends (o.share script.chunks)) s ∧
          (script.ends = true → s.pipeline.isOver = true)) := by
  intro s₀
  refine ⟨start?_prepare_eq_none_iff, fun s₁ hs₁ h ms h' s hs => ?_⟩
  obtain rfl := eq_start_of_start? hs₁
  refine ⟨fun ts y hr => ?_, ?_, delivered_of_isStuck hs⟩
  · exact Nat.le_trans (Nat.le_add_right _ _) hr.length_add_work_le
  · obtain ⟨ts, hr⟩ := Pipeline.run_settle h' s.pipeline
    exact ⟨ts, _, hr, Pipeline.isStuck_settle _ _⟩

/-- A container that writes half a line on each channel in turn, until its stream fails. -/
def halves : Host :=
  .staged (.yields [.ok ⟨.stdout, Utf8.encode "a"⟩, .ok ⟨.stderr, Utf8.encode "b\n"⟩,
    .ok ⟨.stdout, Utf8.encode "c"⟩, .error "cut", .ok ⟨.stdout, Utf8.encode "d"⟩] true) 0 ""

/-- A line begun on one channel and ended on the other is one line for the listeners; behind the
    failure nothing is said any more. -/
theorem start_delivers_halves :
    ∃ (s₁ : Session LogWatch Empty) (ms : List Move) (h' : Host) (s : Session LogWatch Empty),
      (prepare "box" [.message { text := "ab" }] (some .capture) none 1 0).start? = some s₁ ∧
      Leads halves s₁ ms h' s ∧
      s.listeners = [.message { text := "ab", found := true }] ∧
      (s.sink .stdout).map Sink.written = some (Utf8.encode "box-stdout> ac\n") ∧
      s.pipeline.isOver = true := by
  let s₀ : Session LogWatch Empty :=
    (prepare "box" [.message { text := "ab" }] (some .capture) none 1 0).start
  have hstart : (prepare "box" [.message { text := "ab" }] (some .capture) none 1 0).start? =
      some s₀ := start?_prepare_of_le (by decide)
  obtain ⟨ts, hr⟩ := Pipeline.run_settle halves s₀.pipeline
  have hs : Leads halves s₀ (ts.map .task) (s₀.pipeline.settle halves).1
      { s₀ with pipeline := (s₀.pipeline.settle halves).2 } := ⟨hr, rfl⟩
  obtain ⟨-, hstarted⟩ := start_delivers (ν := Empty) "box" [LogWatch.message { text := "ab" }]
    (some .capture) none 1 0
  obtain ⟨-, -, hdelivers⟩ := hstarted s₀ hstart _ _ _ _ hs
  obtain ⟨hd, ho⟩ := hdelivers (Pipeline.isStuck_settle _ _)
  rw [Pipeline.originAfter_tasks] at hd ho
  refine ⟨s₀, _, _, _, hstart, hs, hd.heard.trans (by decide), ?_, ho (by decide)⟩
  have hq := hd.printed .stdout
  have hh := hd.healthy .stdout _ _ rfl ⟨rfl, rfl⟩ hq
  obtain ⟨k, hk, hw⟩ := hd.written .stdout _ _ rfl hq hh
  rw [hk, Option.map_some, hw]
  decide

end Session

end Readiness
