import Readiness.Proofs.Gate.Verdict
import Readiness.Proofs.Session.Closing
import Readiness.Proofs.Wait.InStep

/-!
# Cycles before a replayed log

In a cycle a gate is started, left alone for some milliseconds, and closed (`Gate.cycle`). Nothing
of that is fatal if the start is not (`Gate.cycle?_eq_map`).

Before a replayed log a session of a gate that waits is in one of two states. When it begins nothing
has moved, and once time has passed no task can move any more (`Gate.Follows`). So two gates that
wait for the same see the same, each from its own beginning on, whatever sinks they have and
whatever they did before, and their cycles come to the same end (`Gate.cycle_refit`): with one
outcome, after the same time, and with each printer of the session having delivered all lines of its
channel, or none if no time passed.
-/

namespace Readiness

open Lines

/-- A replayed log is not live. -/
theorem Host.replay_ne_live (chunks : List Chunk) (log : LiveLog) : replay chunks ≠ live log :=
  nofun

namespace Gate

/-- The sink for a channel that no session has yet. -/
def unusedSink (g : Gate) : Channel → Option Sink
  | .stdout => g.stdoutSink
  | .stderr => g.stderrSink

/-- The sink that a channel has in the next session. -/
def channelSink (g : Gate) (ch : Channel) : Option Sink := g.unusedSink ch <|> g.fallback ch

theorem sinkFor_channelSink (g : Gate) :
    Session.sinkFor (g.channelSink .stdout) (g.channelSink .stderr) = g.channelSink :=
  funext fun ch => by cases ch <;> rfl

/-- What has come to an outlet when a replayed log has been followed for some milliseconds: nothing
    at first, and everything once time has passed. -/
def linesAfter (chunks : List Chunk) (t : Nat) (o : Outlet) : List String :=
  if t = 0 then [] else ofBytes (o.share chunks)

variable {g : Gate} {chunks : List Chunk} {watches : List LogWatch} {rs : List Requirement}
  {begun t d : Nat} {scene : Scene} {s : GateSession} {v v' : Vigil}

/-- How a session with watches follows a replayed log, some milliseconds after it began. -/
structure Follows (g : Gate) (chunks : List Chunk) (watches : List LogWatch) (begun t : Nat)
    (scene : Scene) (s : GateSession) : Prop where
  now : scene.now = begun + t
  host : scene.host = .replay chunks
  leads : ∃ ms, Session.Leads (.replay chunks) (g.openSession watches) ms (.replay chunks) s
  /-- When it begins nothing has moved. -/
  fresh : t = 0 → s = g.openSession watches
  /-- Once time has passed nothing can move. -/
  stuck : 0 < t → Pipeline.IsStuck (Host.replay chunks, s.pipeline)

/-- A session begins to follow a replayed log when it is opened. -/
theorem follows_openSession (hh : scene.host = .replay chunks) :
    Follows g chunks watches scene.now 0 scene (g.openSession watches) where
  now := rfl
  host := hh
  leads := ⟨[], .nil, rfl⟩
  fresh _ := rfl
  stuck h := absurd h (Nat.lt_irrefl 0)

namespace Follows

/-- While time passes the session goes on. -/
theorem pass (h : Follows g chunks watches begun t v.scene s) (hs : v.session = some s) (d : Nat) :
    (v.pass d).requirements = v.requirements ∧ ∃ s', (v.pass d).session = some s' ∧
      Follows g chunks watches begun (t + d) (v.pass d).scene s' := by
  rcases Nat.eq_zero_or_pos d with rfl | hd
  · exact ⟨rfl, s, hs, h⟩
  · obtain ⟨ns, hp⟩ := Vigil.pass_leads d v
    obtain ⟨s', hs', hl⟩ := hp.session s hs
    obtain ⟨ms, hl₀⟩ := h.leads
    have hhost : (v.pass d).scene.host = .replay chunks :=
      (Vigil.host_pass_of_not_live (h.host ▸ Host.replay_ne_live chunks) d).trans h.host
    have hstuck := Vigil.isSettled_pass hd v s' hs'
    rw [h.host, hhost] at hl
    rw [hhost] at hstuck
    refine ⟨hp.requirements, s', hs', ?_, hhost, ⟨_, hl₀.trans hl⟩, fun h0 => by omega,
      fun _ => hstuck⟩
    have hnow : (v.pass d).scene.now = v.scene.now + d := Timed.now_pass d v
    rw [hnow, h.now, Nat.add_assoc]

/-- Once time has passed all tasks are over, and everything has been delivered. -/
theorem delivered (h : Follows g chunks watches begun t scene s) (ht : 0 < t) :
    Session.Delivered g.container watches g.channelSink (linesAfter chunks t) s ∧
      s.pipeline.isOver = true := by
  obtain ⟨ms, hl⟩ := h.leads
  have hlines : linesAfter chunks t = fun o => ofBytes (o.share chunks) :=
    funext fun o => if_neg (Nat.ne_of_gt ht)
  rw [hlines, ← sinkFor_channelSink]
  exact delivered_of_replay hl (h.stuck ht)

/-- The listeners have heard what has come so far. -/
theorem listeners (h : Follows g chunks watches begun t scene s) :
    s.listeners = watches.map (·.hearAll (linesAfter chunks t .combined)) := by
  rcases Nat.eq_zero_or_pos t with rfl | ht
  · rw [h.fresh rfl, openSession, prepareSession, Session.listeners_start]
    exact (List.map_id _).symm
  · rw [(h.delivered ht).1.heard, LogWatch.notifyAll_eq]

theorem flags (h : Follows g chunks watches begun t scene s) :
    s.started = true ∧ s.closed = false := by
  obtain ⟨ms, -, he⟩ := h.leads
  rw [he]
  exact ⟨rfl, rfl⟩

/-- The session is closed at once, and has delivered what had come by then. -/
theorem close (h : Follows g chunks watches begun t scene s) (hg : 0 < g.config.shutdownGrace) :
    ∃ s', closeSession scene s = (scene, s') ∧
      Session.Delivered g.container watches g.channelSink (linesAfter chunks t) s' := by
  have hscene : ∀ s', s.close scene.host = (scene.host, s', 0) →
      closeSession scene s = (scene, s') := fun s' he => by simp [closeSession, he]
  rcases Nat.eq_zero_or_pos t with rfl | ht
  · -- The signal is raised before any task has moved.
    obtain rfl := h.fresh rfl
    have hopen : Session.Leads (.replay chunks) (g.openSession watches) [] (.replay chunks)
        (g.openSession watches) := ⟨.nil, rfl⟩
    obtain ⟨h', s', hclose, -, -, hp, -⟩ := hopen.exists_close hg
    have hhost : ((g.openSession watches).close (.replay chunks)).1 = .replay chunks :=
      Session.host_close_of_not_live (Host.replay_ne_live chunks) _
    rw [hclose] at hhost
    have hhost : h' = .replay chunks := hhost
    refine ⟨s', hscene s' (by rw [h.host, hclose, hhost]), ?_⟩
    rw [← sinkFor_channelSink]
    refine Session.delivered_of_printer_eq fun o => (hp o).trans ?_
    have hserves := (Session.tracks_start g.container watches (g.channelSink .stdout)
      (g.channelSink .stderr) g.config.logBuffer g.config.shutdownGrace (.replay chunks)).serves o
    have hnone : Pipeline.received o [] [] = [] := by simp [Pipeline.received]
    rw [hnone] at hserves
    exact hserves.deliverAll_ahead
  · obtain ⟨hd, ho⟩ := h.delivered ht
    exact ⟨_, hscene _ (Session.close_of_isOver h.flags.1 h.flags.2 ho _),
      hd.heard, hd.noted, hd.printed, hd.written, hd.healthy⟩

end Follows

/-! ## Waiting in step -/

/-- A wait for requirements before a replayed log, some milliseconds after it began. -/
structure Waits (g : Gate) (chunks : List Chunk) (rs : List Requirement) (begun t : Nat)
    (v : Vigil) : Prop where
  requirements : v.requirements = rs
  session : ∃ s, v.session = some s ∧
    Follows g chunks (rs.filterMap Requirement.watch?) begun t v.scene s

theorem waits_vigil (hh : scene.host = .replay chunks) :
    Waits g chunks rs scene.now 0 (g.vigil scene rs) :=
  ⟨rfl, _, rfl, follows_openSession hh⟩

/-- A wait goes on as time passes. -/
theorem Waits.pass (h : Waits g chunks rs begun t v) (d : Nat) :
    Waits g chunks rs begun (t + d) (v.pass d) := by
  obtain ⟨s, hs, hf⟩ := h.session
  obtain ⟨hr, hs'⟩ := hf.pass hs d
  exact ⟨hr.trans h.requirements, hs'⟩

/-- A wait has heard the lines that have come to the combined outlet. -/
theorem Waits.replays (h : Waits g chunks rs begun t v) :
    Replays g chunks rs (linesAfter chunks t .combined) v := by
  obtain ⟨s, hs, hf⟩ := h.session
  obtain ⟨ms, hl⟩ := hf.leads
  exact ⟨hf.host, h.requirements, ms, s, hs, hf.host ▸ hl, hf.listeners⟩

/-- The gate, not open, with other sinks and with other sessions behind it. -/
def refit (g : Gate) (stdoutSink stderrSink : Option Sink) (past : List GateSession) : Gate :=
  { g with stdoutSink, stderrSink, session := none, past }

variable {stdoutSink stderrSink : Option Sink} {past : List GateSession} {begun' : Nat}
  {scene' : Scene}

/-- Where two such gates wait, no requirement that is no ping can tell which of them it is. -/
theorem seesAlike_refit {i : Nat} {r : Requirement} (hr : rs[i]? = some r)
    (hp : ∀ p, r ≠ .ping p) :
    (Vigil.condition g.container i).SeesAlike fun t v v' => Waits g chunks rs begun t v ∧
      Waits (g.refit stdoutSink stderrSink past) chunks rs begun' t v' where
  check h := ⟨_, h.1.replays.check hr hp, h.2.replays.check hr hp⟩
  describe h := (h.1.replays.describe hr).trans (h.2.replays.describe hr).symm
  release h := ⟨h.1.replays.release hr hp, h.2.replays.release hr hp⟩

/-- Their waits go in step. -/
theorem waitForFirst_refit (hb : g.requirements = .ok rs) (hl : ∀ w ∈ g.waitFor, w.isLog = true)
    (hh : scene.host = .replay chunks) (hh' : scene'.host = .replay chunks) :
    let g' := g.refit stdoutSink stderrSink past
    Engine.InStep
      (fun t v v' => Waits g chunks rs scene.now t v ∧ Waits g' chunks rs scene'.now t v')
      0 g.config.waitTimeout (g.waitForFirst rs.length (g.vigil scene rs))
      (g'.waitForFirst rs.length (g'.vigil scene' rs)) := by
  refine Engine.runAll_inStep (fun c hc => ?_) (fun t v v' h => ⟨h.1.pass _, h.2.pass _⟩)
    ⟨waits_vigil hh, waits_vigil hh'⟩
  obtain ⟨i, hi, rfl⟩ := List.mem_map.1 hc
  have hlt : i < g.waitFor.length := by
    rw [List.mem_range, ← (mapM_eq_ok_iff.1 hb).length_eq] at hi
    exact hi
  obtain ⟨r, hr, hbr⟩ := WaitFor.getElem?_of_mapM_build hb (List.getElem?_eq_getElem hlt)
  exact seesAlike_refit hr (WaitFor.ne_ping_of_build (hl _ (List.getElem_mem hlt)) hbr)

/-! ## Cycles -/

/-- The gate is started, left alone for some milliseconds, and closed. -/
def cycle (g : Gate) (d : Nat) (scene : Scene) : Outcome × Gate × Scene :=
  let (outcome, g, scene) := g.start scene
  let (g, scene) := g.pass d scene
  let (g, scene) := g.close scene
  (outcome, g, scene)

/-- The gate is started, left alone for some milliseconds, and closed; `none` where the start is
    fatal. -/
def cycle? (g : Gate) (d : Nat) (scene : Scene) : Option (Outcome × Gate × Scene) := do
  let (outcome, g, scene) ← g.start? scene
  let (g, scene) := g.pass d scene
  let (g, scene) := g.close scene
  return (outcome, g, scene)

@[simp] theorem cycle_fst (g : Gate) (d : Nat) (scene : Scene) :
    (g.cycle d scene).1 = (g.start scene).1 := rfl

/-- A cycle is fatal where its start is, and else the cycle. -/
theorem cycle?_eq_map (g : Gate) (d : Nat) (scene : Scene) :
    g.cycle? d scene = (g.start? scene).map fun _ => g.cycle d scene := by
  rw [cycle?]
  cases hr : g.start? scene with
  | none => rfl
  | some r =>
    obtain rfl := eq_start_of_start? hr
    rfl

/-- No cycle is fatal if the queues are not too great. -/
theorem cycle?_of_le (hc : g.config.logBuffer ≤ Splitter.maxCapacity) (d : Nat) (scene : Scene) :
    g.cycle? d scene = some (g.cycle d scene) := by
  rw [cycle?_eq_map, start?_of_le hc, Option.map_some]

/-- What a cycle comes to that begins in a scene and takes some milliseconds: one more session is
    over, whose printers have delivered the lines that had come by the time it was closed, and the
    sinks of the gate have gone to it. -/
structure Completes (g : Gate) (chunks : List Chunk) (scene : Scene) (t : Nat)
    (r : Outcome × Gate × Scene) : Prop where
  host : r.2.2.host = .replay chunks
  now : r.2.2.now = scene.now + t
  session : ∃ s, r.2.1 = g.refit none none (g.past ++ [s]) ∧
    ∀ ch, (s.pipeline.station ch.outlet).printer = (g.channelSink ch).map fun k =>
      (Session.echoing g.container ch k).deliverAll (linesAfter chunks t ch.outlet)

/-- How the wait ends decides how the cycle goes on: a session that is left alone is closed at the
    end, one that was waited for in vain when the wait is over. -/
theorem Waits.completes {o : Outcome} (hv : Waits g chunks rs scene.now t v)
    (hs : g.session = none) (hb : g.requirements = .ok rs)
    (hw : g.waitForFirst rs.length (g.vigil scene rs) = (o, v)) (hlate : o = .ready ∨ 0 < t)
    (hg : 0 < g.config.shutdownGrace) (d : Nat) :
    (g.cycle d scene).1 = o ∧ Completes g chunks scene (t + d) (g.cycle d scene) := by
  obtain ⟨s, hsession, hf⟩ := hv.session
  by_cases ho : o = .ready
  · subst ho
    obtain ⟨-, s', hs', hf'⟩ :=
      hf.pass (v := { scene := v.scene, session := some s }) rfl d
    obtain ⟨s'', hclose, hd⟩ := hf'.close hg
    have hcycle : g.cycle d scene = (.ready, g.handOver.retire s'',
        (Vigil.pass d { scene := v.scene, session := some s }).scene) := by
      simp only [cycle, start_of_ready hs hb hw hsession, Gate.pass, hs', Gate.close, hclose]
      rfl
    rw [hcycle]
    exact ⟨rfl, hf'.host, hf'.now, s'', rfl, hd.printed⟩
  · obtain ⟨s', hclose, hd⟩ := hf.close hg
    have ht : 0 < t := hlate.resolve_left ho
    let w : Vigil := { scene := v.scene }
    have hnone : (w.pass d).session = none := Vigil.session_pass_of_none rfl d
    have hcycle : g.cycle d scene = (o, g.handOver.retire s', (w.pass d).scene) := by
      have hstart := start_of_not_ready hs hb hw ho hsession
      rw [hclose] at hstart
      simp only [cycle, hstart, Gate.pass, Gate.close, retire]
      rw [hnone]
    have hhost : (w.pass d).scene.host = .replay chunks :=
      (Vigil.host_pass_of_not_live (hf.host ▸ Host.replay_ne_live chunks) d).trans hf.host
    have hnow : (w.pass d).scene.now = scene.now + (t + d) := by
      rw [← Nat.add_assoc, ← hf.now]
      exact Timed.now_pass d w
    -- What had come when the wait was over is all that comes.
    have hlines : linesAfter chunks (t + d) = linesAfter chunks t :=
      funext fun o => by simp [linesAfter, Nat.ne_of_gt ht]
    rw [hcycle]
    exact ⟨rfl, hhost, hnow, s', rfl, hlines ▸ hd.printed⟩

/-- The gate and one like it, each before the replayed log, come to the same end. -/
theorem cycle_refit (stdoutSink stderrSink : Option Sink) (past : List GateSession)
    (hs : g.session = none) (hl : ∀ w ∈ g.waitFor, w.isLog = true)
    (ht : 0 < g.config.waitTimeout) (hg : 0 < g.config.shutdownGrace)
    (hh : scene.host = .replay chunks) (hh' : scene'.host = .replay chunks) (d : Nat) :
    let g' := g.refit stdoutSink stderrSink past
    (g'.cycle d scene').1 = (g.cycle d scene).1 ∧
      ∃ t, d ≤ t ∧ Completes g chunks scene t (g.cycle d scene) ∧
        Completes g' chunks scene' t (g'.cycle d scene') := by
  intro g'
  obtain ⟨rs, hb⟩ := WaitFor.mapM_build_of_isLog hl
  have hstep : Engine.InStep
      (fun t v v' => Waits g chunks rs scene.now t v ∧ Waits g' chunks rs scene'.now t v')
      0 g.config.waitTimeout (g.waitForFirst rs.length (g.vigil scene rs))
      (g'.waitForFirst rs.length (g'.vigil scene' rs)) := waitForFirst_refit hb hl hh hh'
  obtain ⟨ho, t, ⟨hv, hv'⟩, -, hlate⟩ := hstep
  have hlate : (g.waitForFirst rs.length (g.vigil scene rs)).1 = .ready ∨ 0 < t :=
    hlate.imp id fun hlate => by omega
  obtain ⟨hfst, hc⟩ := hv.completes hs hb rfl hlate hg d
  obtain ⟨hfst', hc'⟩ := hv'.completes rfl hb rfl (ho ▸ hlate) hg d
  exact ⟨hfst'.trans (ho.trans hfst.symm), t + d, Nat.le_add_left d t, hc, hc'⟩

end Gate

end Readiness
