import Readiness.Proofs.Session.Closing

/-!
# The life of a session

A session is started and closed by calls that may come in any order. Between them its tasks move and
things happen to its host, and while it is closing its tasks go on as they are scheduled
(`Session.closeUnder`); `Session.Lives` is such a life.

* The first close of a session that was started turns it off (`Session.isOff_closeUnder`): from then
  on no call and no move changes its printers, and none of its tasks is left
  (`Session.Lives.eq_of_isOff`).
* A session closed before it was started has no tasks, so the close does nothing but leave its mark
  (`Session.IsDormant.eq_of_closes`). The mark does not keep it from being started, and then keeps every
  later close from doing anything: it goes on as a session that was never closed
  (`Session.IsDormant.eq_or_exists_leads`).

So a session stays closed just if it was started before, or if starting it would be fatal
(`Session.staysClosed_iff`).
-/

namespace Readiness

namespace Session

/-- Closes a session, the first time, with what `drain` lets its tasks do in the grace period. -/
def closeUnder {σ ν : Type} (drain : Host → Pipeline σ ν → Host × Pipeline σ ν) (h : Host)
    (s : Session σ ν) : Host × Session σ ν × Nat :=
  if s.closed then (h, s, 0)
  else
    let s := { s with closed := true }
    let p := if s.started then s.pipeline.close else s.pipeline
    if p.isOver then (h, { s with pipeline := p }, 0)
    else if s.grace = 0 then (h, { s with pipeline := p.abort }, 0)
    else
      let (h, p) := drain h p
      if p.isOver then (h, { s with pipeline := p }, 0)
      else (h, { s with pipeline := p.abort }, s.grace)

/-- A session that is over for good: it is closed, no task of it has a move any more, and nothing that
    happens to its host changes its printers. -/
structure IsOff {σ ν : Type} [Listener σ ν] (s : Session σ ν) : Prop where
  closed : s.closed = true
  signal : s.pipeline.splitter.closed = true
  isOver : s.pipeline.isOver = true
  idle : ∀ h, Pipeline.IsStuck (h, s.pipeline)
  still : ∀ h ms y, Pipeline.Run (h, s.pipeline) ms y → y.2 = s.pipeline

variable {σ ν : Type} [Listener σ ν] {drain : Host → Pipeline σ ν → Host × Pipeline σ ν}

/-- Behind the signal the tasks make some moves, and are stopped then. -/
theorem closeUnder_eq (hd : ∀ h p, ∃ ms, Pipeline.Run (h, p) ms (drain h p)) (h : Host)
    {s : Session σ ν} (hst : s.started = true) (hc : s.closed = false) :
    ∃ ms h' p waited, Pipeline.Run (h, s.pipeline.close) ms (h', p) ∧
      s.closeUnder drain h = (h', { s with closed := true, pipeline := p.abort }, waited) := by
  unfold closeUnder
  simp only [hst, hc, if_true, Bool.false_eq_true, if_false]
  by_cases ho : s.pipeline.close.isOver = true
  · exact ⟨[], h, _, 0, .nil, by rw [if_pos ho, Pipeline.abort_of_isOver ho]⟩
  rw [if_neg ho]
  by_cases hg : s.grace = 0
  · exact ⟨[], h, _, 0, .nil, by rw [if_pos hg]⟩
  rw [if_neg hg]
  obtain ⟨ms, hr⟩ := hd h s.pipeline.close
  by_cases ho' : (drain h s.pipeline.close).2.isOver = true
  · exact ⟨ms, _, _, 0, hr, by rw [if_pos ho', Pipeline.abort_of_isOver ho']⟩
  · exact ⟨ms, _, _, s.grace, hr, by rw [if_neg ho']⟩

/-- What is closed is off. -/
theorem isOff_closeUnder (hd : ∀ h p, ∃ ms, Pipeline.Run (h, p) ms (drain h p)) (h : Host)
    {s : Session σ ν} (hst : s.started = true) (hc : s.closed = false) :
    (s.closeUnder drain h).2.1.IsOff := by
  obtain ⟨ms, h', p, waited, hr, he⟩ := closeUnder_eq hd h hst hc
  have ho := Pipeline.isOver_abort p
  rw [he]
  exact ⟨rfl, hr.closed rfl, ho, fun _ => Pipeline.isStuck_of_isOver ho,
    fun _ _ _ hr' => hr'.eq_of_isOver ho⟩

/-- Closing under a schedule of the tasks. -/
def Closes (h : Host) (s : Session σ ν) (h' : Host) (s' : Session σ ν) : Prop :=
  ∃ drain : Host → Pipeline σ ν → Host × Pipeline σ ν,
    (∀ h p, ∃ ms, Pipeline.Run (h, p) ms (drain h p)) ∧
      ∃ waited, s.closeUnder drain h = (h', s', waited)

/-- Closing that lets the tasks move until none can is one of these. -/
theorem closes_close (h : Host) (s : Session σ ν) :
    Closes h s (s.close h).1 (s.close h).2.1 := by
  refine ⟨Pipeline.settle, fun h p => ?_, (s.close h).2.2, rfl⟩
  obtain ⟨ts, hr⟩ := Pipeline.run_settle h p
  exact ⟨_, hr⟩

omit [Listener σ ν] in
/-- Nothing is closed twice. -/
theorem closeUnder_of_closed (h : Host) {s : Session σ ν} (hc : s.closed = true) :
    s.closeUnder drain h = (h, s, 0) := by
  rw [closeUnder, if_pos hc]

/-! ## Lives -/

/-- What a session is called upon to do. -/
inductive Call
  | start
  | close
  deriving DecidableEq, Repr

/-- A call on a session, or a move of one of its tasks or its host between calls. -/
inductive Act
  | call (c : Call)
  | move (m : Move)
  deriving DecidableEq, Repr

/-- The calls among acts. -/
def calls (as : List Act) : List Call :=
  as.filterMap fun
    | .call c => some c
    | .move _ => none

/-- What becomes of a session by acts. A start that is fatal is the end of it. -/
inductive Lives : Host → Session σ ν → List Act → Host → Session σ ν → Prop
  | nil {h : Host} {s : Session σ ν} : Lives h s [] h s
  | start {h h' : Host} {s s₁ s' : Session σ ν} {as : List Act} :
      s.start? = some s₁ → Lives h s₁ as h' s' → Lives h s (.call .start :: as) h' s'
  | close {h h₁ h' : Host} {s s₁ s' : Session σ ν} {as : List Act} :
      Closes h s h₁ s₁ → Lives h₁ s₁ as h' s' → Lives h s (.call .close :: as) h' s'
  | move {h h₁ h' : Host} {s s₁ s' : Session σ ν} {m : Move} {as : List Act} :
      Leads h s [m] h₁ s₁ → Lives h₁ s₁ as h' s' → Lives h s (.move m :: as) h' s'

/-- Whatever becomes of a session, none of its tasks is left, and its printers, with their listeners
    and sinks, stay as they are. -/
def StaysClosed (h : Host) (s : Session σ ν) : Prop :=
  ∀ as h' s', Lives h s as h' s' → s'.pipeline.isOver = true ∧
    ∀ o, (s'.pipeline.station o).printer = (s.pipeline.station o).printer

variable {h h' h₁ h₂ : Host} {s s' s₁ s₂ : Session σ ν} {as before : List Act}

omit [Listener σ ν] in
/-- A session that was started is not started again. -/
theorem start_of_started (hst : s.started = true) : s.start = s := by rw [Session.start, if_pos hst]

omit [Listener σ ν] in
theorem start_of_not_started (hst : s.started = false) :
    s.start = { s with started := true, pipeline := s.pipeline.start } := by
  rw [Session.start, hst]
  rfl

omit [Listener σ ν] in
@[simp] theorem started_start (s : Session σ ν) : s.start.started = true := by
  cases hst : s.started with
  | false => rw [start_of_not_started hst]
  | true => rw [start_of_started hst, hst]

omit [Listener σ ν] in
@[simp] theorem closed_start (s : Session σ ν) : s.start.closed = s.closed := by
  cases hst : s.started with
  | false => rw [start_of_not_started hst]
  | true => rw [start_of_started hst]

namespace Lives

/-- Without a close a session stays open, and it is started by the first start. -/
theorem stays_open (hl : Lives h s as h' s') (hc : s.closed = false) (hn : .close ∉ calls as) :
    s'.closed = false ∧ (s'.started = true ↔ s.started = true ∨ .start ∈ calls as) := by
  induction hl with
  | nil => simp [calls, hc]
  | start hs _ ih =>
    obtain rfl := eq_start_of_start? hs
    obtain ⟨hc', hst⟩ := ih (by rw [closed_start, hc]) fun hm => hn (List.mem_cons_of_mem _ hm)
    exact ⟨hc', by simp [hst, calls]⟩
  | close => exact absurd List.mem_cons_self hn
  | move hm _ ih =>
    rw [hm.2] at ih
    exact ih hc hn

/-- A session that is started and closed takes no calls: it has only moved. -/
theorem exists_leads (hl : Lives h s as h' s') (hst : s.started = true) (hc : s.closed = true) :
    ∃ ms, Leads h s ms h' s' := by
  induction hl with
  | nil => exact ⟨[], .nil, rfl⟩
  | start hs _ ih =>
    obtain rfl := eq_start_of_start? hs
    rw [start_of_started hst] at ih
    exact ih hst hc
  | close hcl _ ih =>
    obtain ⟨drain, -, waited, he⟩ := hcl
    rw [closeUnder_of_closed _ hc] at he
    cases he
    exact ih hst hc
  | @move _ _ _ _ _ _ m _ hm _ ih =>
    obtain ⟨ms, hl⟩ := ih (by rw [hm.2]; exact hst) (by rw [hm.2]; exact hc)
    exact ⟨_, hm.trans hl⟩

/-- Moves in a row are a part of a life. -/
theorem of_run {x y : Host × Pipeline σ ν} {ms : List Move} (hr : Pipeline.Run x ms y)
    (hs : s.pipeline = x.2) (hl : Lives y.1 { s with pipeline := y.2 } as h' s') :
    Lives x.1 s (ms.map .move ++ as) h' s' := by
  induction hr generalizing s with
  | nil => rwa [← hs] at hl
  | @task x y z t ms ht _ ih =>
    have hm : Leads x.1 s [.task t] y.1 { s with pipeline := y.2 } :=
      ⟨.task (by rw [hs]; exact ht) .nil, rfl⟩
    exact .move hm (ih rfl hl)
  | @happens x z e ms _ ih =>
    have hm : Leads x.1 s [.happens e] (x.1.undergo e) s := ⟨.happens .nil, rfl⟩
    exact .move hm (ih hs hl)

/-- A life may begin with moves of tasks, and with what happens to the host. -/
theorem of_leads {ms : List Move} (hm : Leads h s ms h₁ s₁) (hl : Lives h₁ s₁ as h' s') :
    Lives h s (ms.map .move ++ as) h' s' :=
  of_run hm.1 rfl (by rwa [← hm.2])

/-- What is off stays as it is. -/
theorem eq_of_isOff (hl : Lives h s as h' s') (hst : s.started = true) (ho : s.IsOff) :
    s' = s := by
  obtain ⟨ms, hr, he⟩ := hl.exists_leads hst ho.closed
  have hp : s'.pipeline = s.pipeline := ho.still _ _ _ hr
  rw [he, hp]

end Lives

/-! ## Closed before it was started -/

/-- A session that has no tasks yet. -/
structure IsDormant (s : Session σ ν) : Prop where
  notStarted : s.started = false
  isOver : s.pipeline.isOver = true

omit [Listener σ ν] in
/-- A session is dormant until it is started. -/
theorem isDormant_prepare (container : String) (listeners : List σ)
    (stdoutSink stderrSink : Option Sink) (capacity grace : Nat) :
    (prepare container listeners stdoutSink stderrSink capacity grace : Session σ ν).IsDormant := by
  refine ⟨rfl, (Pipeline.isOver_iff _).2 fun t => ?_⟩
  cases t with
  | feed => rfl
  | printer o => exact running_prepare container listeners stdoutSink stderrSink capacity grace o

namespace IsDormant

/-- Nothing moves in a session without tasks. -/
theorem eq_of_leads {ms : List Move} (hd : s.IsDormant) (hl : Leads h s ms h' s') : s' = s := by
  have hp : s'.pipeline = s.pipeline := hl.1.eq_of_isOver hd.isOver
  rw [hl.2, hp]

omit [Listener σ ν] in
/-- Closing a session without tasks leaves its mark, and that is all. -/
theorem closeUnder_eq (hd : s.IsDormant) (drain : Host → Pipeline σ ν → Host × Pipeline σ ν)
    (h : Host) : s.closeUnder drain h = (h, { s with closed := true }, 0) := by
  have ho := hd.isOver
  unfold closeUnder
  cases hc : s.closed with
  | false => simp [hd.notStarted, ho]
  | true => rw [if_pos rfl, ← hc]

/-- Without calls a session without tasks stays as it is. -/
theorem eq_of_calls_eq_nil (hd : s.IsDormant) (hl : Lives h s as h' s') (hn : calls as = []) :
    s' = s := by
  induction hl with
  | nil => rfl
  | start => cases hn
  | close => cases hn
  | move hm _ ih =>
    rw [hd.eq_of_leads hm] at ih
    exact ih hd hn

/-- A session that was closed without tasks stays as it is until it is started, and has only moved
    since. -/
theorem eq_or_exists_leads (hd : s.IsDormant) (hc : s.closed = true) (hl : Lives h s as h' s') :
    (.start ∉ calls as ∧ s' = s) ∨
      (.start ∈ calls as ∧ ∃ s₀, s.start? = some s₀ ∧ ∃ h₀ ms, Leads h₀ s₀ ms h' s') := by
  induction hl with
  | nil => exact .inl ⟨nofun, rfl⟩
  | @start h _ s s₀ _ _ hs hl _ =>
    refine .inr ⟨List.mem_cons_self, s₀, hs, h, ?_⟩
    obtain rfl := eq_start_of_start? hs
    exact hl.exists_leads (started_start s) ((closed_start s).trans hc)
  | close hcl _ ih =>
    obtain ⟨drain, -, waited, he⟩ := hcl
    rw [closeUnder_of_closed _ hc] at he
    cases he
    simpa [calls] using ih hd hc
  | move hm _ ih =>
    rw [hd.eq_of_leads hm] at ih
    exact ih hd hc

end IsDormant

/-! ## Staying closed -/

/-- The first close of a session that was started turns it off. -/
theorem Closes.isOff (hcl : Closes h s h' s') (hst : s.started = true) (hc : s.closed = false) :
    s'.started = true ∧ s'.IsOff := by
  obtain ⟨drain, hd, waited, he⟩ := hcl
  have hoff := isOff_closeUnder hd h hst hc
  obtain ⟨_, _, _, _, -, he'⟩ := closeUnder_eq hd h hst hc
  rw [he] at hoff he'
  cases he'
  exact ⟨hst, hoff⟩

/-- A session that is off, and was started, stays closed. -/
theorem IsOff.staysClosed (ho : s.IsOff) (hst : s.started = true) : StaysClosed h s := by
  intro as h' s' hl
  rw [hl.eq_of_isOff hst ho]
  exact ⟨ho.isOver, fun _ => rfl⟩

/-- Closing a session without tasks leaves its mark, and that is all. -/
theorem IsDormant.eq_of_closes (hd : s.IsDormant) (hcl : Closes h s h' s') :
    h' = h ∧ s' = { s with closed := true } := by
  obtain ⟨drain, -, waited, he⟩ := hcl
  rw [hd.closeUnder_eq] at he
  cases he
  exact ⟨rfl, rfl⟩

/-- A session without tasks stays as it is once it is closed, just if it cannot be started: nothing
    else keeps it from being started, and then it has a task, its feed. -/
theorem IsDormant.staysClosed_iff_start?_eq_none (hd : s.IsDormant) (hc : s.closed = true) :
    StaysClosed h s ↔ s.start? = none := by
  rw [Option.eq_none_iff_forall_ne_some]
  refine ⟨fun hstays s₀ hs => ?_, fun hs as h' s' hl => ?_⟩
  · have ho := (hstays [.call .start] _ _ (.start hs .nil)).1
    rw [eq_start_of_start? hs, start_of_not_started hd.notStarted, Pipeline.isOver_iff] at ho
    exact absurd (ho .feed) nofun
  · rcases hd.eq_or_exists_leads hc hl with ⟨-, rfl⟩ | ⟨-, s₀, hs₀, -⟩
    · exact ⟨hd.isOver, fun _ => rfl⟩
    · exact absurd hs₀ (hs s₀)

omit [Listener σ ν] in
/-- The mark of a close makes no difference to a start. -/
theorem start?_closed (s : Session σ ν) :
    ({ s with closed := true } : Session σ ν).start? =
      s.start?.map fun s₀ => { s₀ with closed := true } := by
  cases hst : s.started with
  | false =>
    simp only [start?, start, hst, Bool.false_eq_true, if_false, Option.map_map]
    rfl
  | true => simp [start?, hst]

/-- The first close of a session, under any schedule and behind any life up to it. The session stays
    closed, whatever follows, just if it was started before, or if it cannot be started as its queues
    would be too great. Otherwise it stays as it is only until it is started, and from then on goes
    on, whatever it is called upon to do, as a session that was never closed. -/
theorem staysClosed_iff {container : String} {listeners : List σ}
    {stdoutSink stderrSink : Option Sink} {capacity grace : Nat}
    (hb : Lives h (prepare container listeners stdoutSink stderrSink capacity grace) before h₁ s₁)
    (hn : .close ∉ calls before) (hc : Closes h₁ s₁ h₂ s₂) :
    let s₀ : Session σ ν := prepare container listeners stdoutSink stderrSink capacity grace
    (StaysClosed h₂ s₂ ↔ .start ∈ calls before ∨ Splitter.maxCapacity < capacity) ∧
    (.start ∉ calls before → ∀ after h₃ s₃, Lives h₂ s₂ after h₃ s₃ →
      (.start ∉ calls after → s₃ = s₂) ∧
      (.start ∈ calls after → ∃ s, s₀.start? = some s ∧
        ∃ h₀ ms, Leads h₀ s ms h₃ { s₃ with closed := false })) := by
  intro s₀
  obtain ⟨hopen, hst⟩ := hb.stays_open rfl hn
  by_cases hs : Call.start ∈ calls before
  · obtain ⟨hst', hoff⟩ := hc.isOff (hst.2 (.inr hs)) hopen
    exact ⟨⟨fun _ => .inl hs, fun _ => hoff.staysClosed hst'⟩, fun hs' => absurd hs hs'⟩
  · have hd : s₀.IsDormant := isDormant_prepare ..
    have hnone : calls before = [] :=
      List.eq_nil_iff_forall_not_mem.2 fun c hm => match c with
        | .start => hs hm
        | .close => hn hm
    obtain rfl := hd.eq_of_calls_eq_nil hb hnone
    obtain ⟨rfl, rfl⟩ := hd.eq_of_closes hc
    have hd' : IsDormant { s₀ with closed := true } := ⟨rfl, hd.isOver⟩
    refine ⟨?_, fun _ after h₃ s₃ hl => ?_⟩
    · rw [hd'.staysClosed_iff_start?_eq_none rfl, start?_closed, Option.map_eq_none_iff,
        start?_prepare_eq_none_iff, or_iff_right hs]
    · rcases hd'.eq_or_exists_leads rfl hl with ⟨hno, rfl⟩ | ⟨hyes, s', hs', h₀, ms, hr, he⟩
      · exact ⟨fun _ => rfl, fun hyes => absurd hyes hno⟩
      · -- The mark is all that sets it apart from a session that was never closed.
        rw [start?_closed] at hs'
        obtain ⟨s, hs, rfl⟩ := Option.map_eq_some_iff.1 hs'
        have hopen : s.closed = false := by rw [eq_start_of_start? hs, closed_start]; rfl
        refine ⟨fun hno => absurd hyes hno, fun _ => ⟨s, hs, h₀, ms, hr, ?_⟩⟩
        rw [he, ← hopen]

/-- A live log, and a session that prints its standard output. -/
def lateLog : Host := .liveWith []

def latePrinting : Session LogWatch Empty := prepare "box" [] (some .capture) none 1 defaultGrace

/-- A line is pushed, and the feed and the printer bring it to the sink. -/
def lateLine : List Move :=
  .happens (.pushed ⟨.stdout, Utf8.encode "late\n"⟩) ::
    [.feed, .feed, .feed, .feed, .printer .stdout, .printer .stdout].map .task

/-- A session that was started and closed stays closed; the same session closed before it is started
    does not. -/
theorem staysClosed_iff_latePrinting :
    ∃ (before : List Act) (h₁ h₂ : Host) (s₁ s₂ : Session LogWatch Empty),
      Lives lateLog latePrinting before h₁ s₁ ∧ .close ∉ calls before ∧ Closes h₁ s₁ h₂ s₂ ∧
      StaysClosed h₂ s₂ ∧
      ¬StaysClosed (latePrinting.close lateLog).1 (latePrinting.close lateLog).2.1 := by
  have hl : ∃ (h₁ : Host) (s₁ : Session LogWatch Empty),
      Lives lateLog latePrinting (.call .start :: (lateLine.map .move ++ [])) h₁ s₁ := by
    have hm : ∃ (h₁ : Host) (s₁ : Session LogWatch Empty),
        Leads lateLog latePrinting.start lateLine h₁ s₁ :=
      ⟨_, ⟨_, _, _, _⟩, .happens <| .task rfl <| .task rfl <| .task rfl <| .task rfl <| .task rfl <|
        .task rfl .nil, rfl⟩
    obtain ⟨h₁, s₁, hm⟩ := hm
    exact ⟨h₁, s₁, .start (start?_prepare_of_le (by decide)) (.of_leads hm .nil)⟩
  obtain ⟨h₁, s₁, hl⟩ := hl
  have hn : Call.close ∉ calls (.call .start :: (lateLine.map .move ++ [])) := by decide
  have hc := closes_close h₁ s₁
  refine ⟨_, h₁, _, s₁, _, hl, hn, hc, (staysClosed_iff hl hn hc).1.2 (.inl (by decide)),
    fun hs => ?_⟩
  have hnil : Lives lateLog latePrinting [] lateLog latePrinting := .nil
  obtain hstarted | hfatal := (staysClosed_iff hnil nofun (closes_close lateLog latePrinting)).1.1 hs
  · cases hstarted
  · exact absurd hfatal (by decide)

/-- A line reaches the sink of a session that was closed before it was started, and closing it again
    leaves its feed and its printer at work. -/
theorem printed_after_close :
    ∃ (h h' : Host) (s : Session LogWatch Empty),
      Lives lateLog latePrinting ([.call .close, .call .start] ++ lateLine.map .move) h s ∧
      s.closed = true ∧ s.close h = (h', s, 0) ∧
      (s.sink .stdout).map Sink.written = some (Utf8.encode "box-stdout> late\n") ∧
      s.pipeline.isRunning .feed = true ∧ s.pipeline.isRunning (.printer .stdout) = true := by
  have hm : ∃ (h : Host) (s : Session LogWatch Empty),
      Leads lateLog { latePrinting with closed := true }.start lateLine h s ∧
      (s.sink .stdout).map Sink.written = some (Utf8.encode "box-stdout> late\n") ∧
      s.pipeline.isRunning .feed = true ∧ s.pipeline.isRunning (.printer .stdout) = true :=
    ⟨_, ⟨_, _, _, _⟩, ⟨.happens <| .task rfl <| .task rfl <| .task rfl <| .task rfl <|
      .task rfl <| .task rfl .nil, rfl⟩, by decide, rfl, rfl⟩
  obtain ⟨h, s, hl, hw, hf, hp⟩ := hm
  have hc : s.closed = true := by rw [hl.2]; rfl
  refine ⟨h, h, s, ?_, hc, by rw [close, if_pos hc], hw, hf, hp⟩
  have hlives := Lives.of_leads hl .nil
  rw [List.append_nil] at hlives
  have hstart : ({ latePrinting with closed := true } : Session LogWatch Empty).start? =
      some { latePrinting with closed := true }.start := by
    rw [start?_closed, latePrinting, start?_prepare_of_le (by decide)]
    rfl
  exact .close (closes_close lateLog latePrinting) (.start hstart hlives)

end Session

end Readiness
