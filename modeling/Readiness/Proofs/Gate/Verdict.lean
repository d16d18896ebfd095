import Readiness.Proofs.Gate.Starting
import Readiness.Proofs.Wait.Rounds
import Readiness.Proofs.Wait.WaitFor

/-!
# The verdict of a gate on a replayed log

A gate whose conditions are about the log, before a container whose log is replayed, decides
exactly: it opens if and only if all conditions hold on the log, and else reports the first that
does not (`Gate.start_verdict`). Only where its queues would be too great does it come to nothing
(`Gate.start?_of_great_buffer`).

When the wait begins, nothing has been delivered; when a pause is over, everything has
(`Gate.Replays.pass`). So a condition is decided at its first check or at its second, and if it is
not met then, no later check can find it so; and conditions behind one that took a pause are met
at once.
-/

namespace Readiness

open Lines

theorem exists_first_of_not_forall {α : Type} {P : α → Prop} {as : List α} (h : ¬ ∀ a ∈ as, P a) :
    ∃ before a after, as = before ++ a :: after ∧ (∀ b ∈ before, P b) ∧ ¬ P a := by
  induction as with
  | nil => exact absurd (fun _ hm => nomatch hm) h
  | cons a as ih =>
    by_cases ha : P a
    · obtain ⟨before, b, after, he, hbefore, hb⟩ := ih fun hall => h (by simpa [ha] using hall)
      exact ⟨a :: before, b, after, by rw [he]; rfl, by simpa [ha] using hbefore, hb⟩
    · exact ⟨[], a, as, rfl, nofun, ha⟩

namespace Gate

/-- The lines of a replayed log. -/
def replayedLines (chunks : List Chunk) : List String := ofBytes (Chunk.join chunks)

variable {g : Gate} {chunks : List Chunk} {rs : List Requirement} {heard : List String} {v : Vigil}

/-- A gate's wait before a replayed log of which lines have been delivered. -/
structure Replays (g : Gate) (chunks : List Chunk) (rs : List Requirement) (heard : List String)
    (v : Vigil) : Prop where
  host : v.scene.host = .replay chunks
  requirements : v.requirements = rs
  session : ∃ ms s, v.session = some s ∧
    Session.Leads (.replay chunks) (g.openSession (rs.filterMap Requirement.watch?)) ms
      v.scene.host s ∧
    s.listeners = (rs.filterMap Requirement.watch?).map (·.hearAll heard)

theorem Replays.hasHeard (hv : Replays g chunks rs heard v) : v.HasHeard heard := by
  obtain ⟨_, s, hs, _, hl⟩ := hv.session
  exact ⟨s, hs, by rw [hl, hv.requirements]⟩

/-- When the wait begins nothing has been delivered. -/
theorem replays_vigil {scene : Scene} (hh : scene.host = .replay chunks) :
    Replays g chunks rs [] (g.vigil scene rs) where
  host := hh
  requirements := rfl
  session := by
    refine ⟨[], _, rfl, ⟨by rw [← hh]; exact .nil, rfl⟩, ?_⟩
    rw [openSession, prepareSession, Session.listeners_start]
    exact (List.map_id _).symm

/-- Where the tasks of a session cannot move, the whole log has been delivered and they are over. -/
theorem delivered_of_replay {watches : List LogWatch} {ms : List Move} {s : GateSession}
    (hl : Session.Leads (.replay chunks) (g.openSession watches) ms (.replay chunks) s)
    (hstuck : Pipeline.IsStuck (Host.replay chunks, s.pipeline)) :
    Session.Delivered g.container watches (Session.sinkFor (g.stdoutSink <|> g.fallback .stdout)
      (g.stderrSink <|> g.fallback .stderr)) (fun o => ofBytes (o.share chunks)) s ∧
      s.pipeline.isOver = true := by
  have hd := Session.delivered_of_isStuck hl hstuck
  rw [Pipeline.originAfter_of_not_live (by simp), Host.script_replay] at hd
  exact ⟨hd.1, hd.2 rfl⟩

/-- When time has passed everything has been delivered. -/
theorem Replays.pass (hv : Replays g chunks rs heard v) {d : Nat} (hd : 0 < d) :
    Replays g chunks rs (replayedLines chunks) (v.pass d) := by
  obtain ⟨ms, s, hs, hl, -⟩ := hv.session
  obtain ⟨ns, hp⟩ := Vigil.pass_leads d v
  obtain ⟨s', hs', hl'⟩ := hp.session s hs
  -- Nothing that happens or moves changes a log that is not live.
  have hlead := hl.trans hl'
  have hhost : (v.pass d).scene.host = .replay chunks := hlead.1.host_of_not_live (by simp)
  have hstuck := Vigil.isSettled_pass hd v s' hs'
  rw [hhost] at hlead hstuck
  refine ⟨hhost, hp.requirements.trans hv.requirements, _, s', hs', by rw [hhost]; exact hlead,
    (delivered_of_replay hlead hstuck).1.heard.trans ?_⟩
  rw [LogWatch.notifyAll_eq, Outlet.share_combined]
  rfl

/-! ## Waiting for one condition -/

section Wait

/-- A replayed log as it is fetched. -/
def replayedLog (g : Gate) (chunks : List Chunk) : Except LogError String :=
  ((Host.replay chunks).currentLog g.container {}).1

/-- The wait for the condition at an index. -/
def waitAt (g : Gate) (i : Nat) (v : Vigil) : Outcome × Vigil :=
  g.config.engine.run (Vigil.condition g.container i) g.config.waitTimeout g.describe none v

variable {i : Nat} {r : Requirement}

/-- A check before a replayed log tells whether the requirement holds of the lines heard and the
    log. -/
theorem Replays.check (hv : Replays g chunks rs heard v) (hr : rs[i]? = some r)
    (hp : ∀ p, r ≠ .ping p) :
    (Vigil.condition g.container i).check v =
      (.ok ((r.hearAll heard).holdsNow (g.replayedLog chunks)), v) := by
  have hr' : v.requirement? i = some (r.hearAll heard) := by
    rw [Vigil.requirement?_eq hv.hasHeard, hv.requirements, hr]
    rfl
  have hp' : ∀ p, r.hearAll heard ≠ .ping p := by
    cases r with
    | ping p => exact absurd rfl (hp p)
    | _ => exact fun _ => nofun
  have hsame : (v.scene.host.currentLog g.container {}).2 = v.scene.host := by rw [hv.host]; rfl
  rw [replayedLog, ← hv.host]
  exact Vigil.check_eq hr' hp' hsame

/-- A requirement is described by what it has heard. -/
theorem Replays.describe (hv : Replays g chunks rs heard v) (hr : rs[i]? = some r) :
    (Vigil.condition g.container i).describe v = (r.hearAll heard).describe := by
  simp [Vigil.condition, Vigil.requirement?_eq hv.hasHeard, hv.requirements, hr]

theorem Replays.release (hv : Replays g chunks rs heard v) (hr : rs[i]? = some r)
    (hp : ∀ p, r ≠ .ping p) : (Vigil.condition g.container i).release v = v :=
  Vigil.release_eq (hv.requirements ▸ hr) hp

/-- From the second check on, everything has been delivered. -/
theorem Replays.round (hv : Replays g chunks rs heard v) (hr : rs[i]? = some r)
    (hp : ∀ p, r ≠ .ping p) (k : Nat) :
    Replays g chunks rs (replayedLines chunks)
      (g.config.engine.round (Vigil.condition g.container i) v (k + 1)) := by
  induction k with
  | zero =>
    rw [Engine.round, Engine.round, hv.check hr hp]
    exact hv.pass g.config.engine.poll_pos
  | succ k ih =>
    rw [Engine.round, ih.check hr hp]
    exact ih.pass g.config.engine.poll_pos

/-- A check that holds ends the wait and leaves everything as it is. -/
theorem Replays.waitAt_of_holdsNow {k : Nat} (hr : rs[i]? = some r) (hp : ∀ p, r ≠ .ping p)
    (hk : k ≤ g.config.engine.lastRound g.config.waitTimeout)
    (hs : ∀ j < k, ((Vigil.condition g.container i).check
      (g.config.engine.round (Vigil.condition g.container i) v j)).1 = .ok false)
    (hv : Replays g chunks rs heard (g.config.engine.round (Vigil.condition g.container i) v k))
    (hn : (r.hearAll heard).holdsNow (g.replayedLog chunks) = true) :
    g.waitAt i v = (.ready, g.config.engine.round (Vigil.condition g.container i) v k) := by
  have hc := hv.check hr hp
  rw [waitAt, Engine.run_of_decided hk hs (o := .ready) (by rw [hc, hn]; rfl), hc, hv.release hr hp]

/-- Where a wait that began at an instant stands before a condition: nothing has been delivered and
    no time has passed, or everything has been, and that took one pause. -/
def Stands (g : Gate) (chunks : List Chunk) (rs : List Requirement) (begun : Nat) (v : Vigil) :
    Prop :=
  (Replays g chunks rs [] v ∧ v.scene.now = begun) ∨
    (Replays g chunks rs (replayedLines chunks) v ∧ v.scene.now = begun + g.config.pollInterval)

/-- A vigil that stands has heard nothing or everything. -/
theorem Stands.replays {begun : Nat} (hv : Stands g chunks rs begun v) :
    ∃ heard, (heard = [] ∨ heard = replayedLines chunks) ∧ Replays g chunks rs heard v :=
  hv.elim (fun h => ⟨_, .inl rfl, h.1⟩) fun h => ⟨_, .inr rfl, h.1⟩

variable {w : WaitFor} {begun : Nat}

/-- A condition that holds on the log is met: at once, or when one pause is over. -/
theorem Stands.waitAt_of_holds (hv : Stands g chunks rs begun v) (ht : 0 < g.config.waitTimeout)
    (hl : w.isLog = true) (hb : w.build = .ok r) (hr : rs[i]? = some r)
    (hh : w.Holds (replayedLines chunks) (g.replayedLog chunks)) :
    ∃ v', g.waitAt i v = (.ready, v') ∧ Stands g chunks rs begun v' := by
  have hp := WaitFor.ne_ping_of_build hl hb
  have hnow := (WaitFor.holdsNow_iff hl hb).2 hh
  rcases hv with ⟨hv, hbegun⟩ | ⟨hv, hbegun⟩
  · -- Nothing has been delivered: a condition that does not hold yet holds when one pause is over.
    cases hn : (r.hearAll []).holdsNow (g.replayedLog chunks) with
    | true => exact ⟨v, hv.waitAt_of_holdsNow hr hp (Nat.zero_le _) nofun hn, .inl ⟨hv, hbegun⟩⟩
    | false =>
      have hc := hv.check hr hp
      have hv₁ := hv.round hr hp 0
      refine ⟨_, hv₁.waitAt_of_holdsNow hr hp (Engine.lastRound_pos ht) (fun j hj => ?_) hnow,
        .inr ⟨hv₁, ?_⟩⟩
      · obtain rfl : j = 0 := by omega
        rw [Engine.round, hc, hn]
      · have hn₁ := Engine.now_round (e := g.config.engine)
          (c := Vigil.condition g.container i) (fun v => (Vigil.checks_check g.container i v).now) v 1
        rw [Nat.one_mul] at hn₁
        exact hn₁.trans (congrArg (· + g.config.pollInterval) hbegun)
  · -- Everything has been delivered.
    exact ⟨v, hv.waitAt_of_holdsNow hr hp (Nat.zero_le _) nofun hnow, .inr ⟨hv, hbegun⟩⟩

/-- A condition that does not hold on the log is never met, and reported as it is when everything
    has been delivered. -/
theorem Stands.waitAt_of_not_holds (hv : Stands g chunks rs begun v) (ht : 0 < g.config.waitTimeout)
    (hl : w.isLog = true) (hb : w.build = .ok r) (hr : rs[i]? = some r)
    (hh : ¬ w.Holds (replayedLines chunks) (g.replayedLog chunks)) :
    ∃ condition, w.Reports (replayedLines chunks) condition ∧ (g.waitAt i v).1 =
      .failed (.timeout g.describe condition (.ofMillis g.config.waitTimeout)) := by
  have hp := WaitFor.ne_ping_of_build hl hb
  obtain ⟨heard, hheard, hv⟩ := hv.replays
  have hnow : (r.hearAll (replayedLines chunks)).holdsNow (g.replayedLog chunks) = false :=
    Bool.eq_false_iff.2 fun h => hh ((WaitFor.holdsNow_iff hl hb).1 h)
  have hsilent : ∀ j ≤ g.config.engine.lastRound g.config.waitTimeout,
      ((Vigil.condition g.container i).check
        (g.config.engine.round (Vigil.condition g.container i) v j)).1 = .ok false := by
    intro j _
    cases j with
    | zero =>
      rw [Engine.round, hv.check hr hp]
      rcases hheard with rfl | rfl
      · -- What holds without any lines holds with them.
        exact congrArg Except.ok (Bool.eq_false_iff.2 fun h =>
          hh ((WaitFor.holdsNow_iff hl hb).1 h).of_nil)
      · exact congrArg Except.ok hnow
    | succ k => rw [(hv.round hr hp k).check hr hp, hnow]
  obtain ⟨k, hk⟩ := Nat.exists_eq_succ_of_ne_zero (Engine.lastRound_pos ht).ne'
  have hvk := hv.round hr hp k
  refine ⟨_, WaitFor.reports hl hb, ?_⟩
  rw [waitAt, Engine.run_of_silent hsilent, hk, hvk.check hr hp, hvk.describe hr]

end Wait

/-! ## Waiting for all conditions -/

section Start

variable {scene : Scene} {begun : Nat}

/-- Conditions that hold on the log are met one after the other. -/
theorem Stands.waitForFirst_of_hold (hv : Stands g chunks rs begun v)
    (hb : g.requirements = .ok rs) (hl : ∀ w ∈ g.waitFor, w.isLog = true)
    (ht : 0 < g.config.waitTimeout) {n : Nat} (hn : n ≤ g.waitFor.length)
    (hh : ∀ w ∈ g.waitFor.take n, w.Holds (replayedLines chunks) (g.replayedLog chunks)) :
    ∃ v', g.waitForFirst n v = (.ready, v') ∧ Stands g chunks rs begun v' := by
  refine Engine.runAll_of_ready (fun c hc v hv => ?_) hv
  obtain ⟨i, hi, rfl⟩ := List.mem_map.1 hc
  rw [List.mem_range] at hi
  have hlt : i < g.waitFor.length := Nat.lt_of_lt_of_le hi hn
  have hw : g.waitFor[i]? = some g.waitFor[i] := List.getElem?_eq_getElem hlt
  obtain ⟨r, hr, hbr⟩ := WaitFor.getElem?_of_mapM_build hb hw
  have hmem : g.waitFor[i] ∈ g.waitFor.take n := List.mem_take_iff_getElem.2 ⟨i, by omega, rfl⟩
  exact hv.waitAt_of_holds ht (hl _ (List.getElem_mem hlt)) hbr hr (hh _ hmem)

/-- The first condition that does not hold on the log ends the wait. -/
theorem Stands.waitForFirst_of_not_holds (hv : Stands g chunks rs begun v)
    (hb : g.requirements = .ok rs) (hl : ∀ w ∈ g.waitFor, w.isLog = true)
    (ht : 0 < g.config.waitTimeout) {before after : List WaitFor} {w : WaitFor}
    (hsplit : g.waitFor = before ++ w :: after)
    (hbefore : ∀ w' ∈ before, w'.Holds (replayedLines chunks) (g.replayedLog chunks))
    (hw : ¬ w.Holds (replayedLines chunks) (g.replayedLog chunks)) :
    ∃ condition, w.Reports (replayedLines chunks) condition ∧ (g.waitForFirst rs.length v).1 =
      .failed (.timeout g.describe condition (.ofMillis g.config.waitTimeout)) := by
  have hi : g.waitFor[before.length]? = some w := by simp [hsplit]
  have hmem : w ∈ g.waitFor := by simp [hsplit]
  obtain ⟨r, hr, hbr⟩ := WaitFor.getElem?_of_mapM_build hb hi
  -- The conditions before it are met, and it is not.
  obtain ⟨v', hrun, hv'⟩ := hv.waitForFirst_of_hold hb hl ht (n := before.length)
    (by simp [hsplit]) (by rw [hsplit, List.take_left]; exact hbefore)
  obtain ⟨condition, hrep, hfail⟩ := hv'.waitAt_of_not_holds ht (hl w hmem) hbr hr hw
  refine ⟨condition, hrep, ?_⟩
  have hlen : rs.length = before.length + (after.length + 1) := by
    rw [← (mapM_eq_ok_iff.1 hb).length_eq, hsplit, List.length_append, List.length_cons]
  rw [waitForFirst] at hrun ⊢
  rw [hlen, List.range_add, List.range_succ_eq_map, List.map_append, List.map_cons, List.map_cons,
    Engine.runAll_append, hrun, Nat.add_zero]
  dsimp only
  rw [Engine.runAll]
  rw [waitAt] at hfail
  split
  · next hready => rw [hready] at hfail; cases hfail
  · next hend => rw [hend] at hfail; exact hfail

/-- A gate opens if all conditions hold on the log. -/
theorem start_of_hold (hs : g.session = none) (hh : scene.host = .replay chunks)
    (ht : 0 < g.config.waitTimeout) (hl : ∀ w ∈ g.waitFor, w.isLog = true)
    (hall : ∀ w ∈ g.waitFor, w.Holds (replayedLines chunks) (g.replayedLog chunks)) :
    (g.start scene).1 = .ready ∧ ((g.start scene).2.2.now = scene.now ∨
      (g.start scene).2.2.now = scene.now + g.config.pollInterval) := by
  obtain ⟨rs, hb⟩ := WaitFor.mapM_build_of_isLog hl
  have hlen : rs.length = g.waitFor.length := (mapM_eq_ok_iff.1 hb).length_eq.symm
  have hv : Stands g chunks rs scene.now (g.vigil scene rs) := .inl ⟨replays_vigil hh, rfl⟩
  obtain ⟨v', hrun, hv'⟩ := hv.waitForFirst_of_hold hb hl ht (n := rs.length) (by rw [hlen])
    fun w hw => hall w (List.mem_of_mem_take hw)
  -- The session is still there, so the gate takes it.
  obtain ⟨_, _, hrep⟩ := hv'.replays
  obtain ⟨_, s, hsession, _⟩ := hrep.session
  rw [start_of_ready hs hb hrun hsession]
  exact ⟨rfl, hv'.imp And.right And.right⟩

/-- A gate does not open if a condition does not hold on the log, and reports the first. -/
theorem start_of_not_holds (hs : g.session = none) (hh : scene.host = .replay chunks)
    (ht : 0 < g.config.waitTimeout) (hl : ∀ w ∈ g.waitFor, w.isLog = true)
    {before after : List WaitFor} {w : WaitFor} (hsplit : g.waitFor = before ++ w :: after)
    (hbefore : ∀ w' ∈ before, w'.Holds (replayedLines chunks) (g.replayedLog chunks))
    (hw : ¬ w.Holds (replayedLines chunks) (g.replayedLog chunks)) :
    ∃ condition, w.Reports (replayedLines chunks) condition ∧ (g.start scene).1 =
      .failed (.timeout g.describe condition (.ofMillis g.config.waitTimeout)) := by
  obtain ⟨rs, hb⟩ := WaitFor.mapM_build_of_isLog hl
  have hv : Stands g chunks rs scene.now (g.vigil scene rs) := .inl ⟨replays_vigil hh, rfl⟩
  rw [start_fst hs hb]
  exact hv.waitForFirst_of_not_holds hb hl ht hsplit hbefore hw

/-- A gate opens if and only if all conditions hold on the log. -/
theorem start_eq_ready_iff (hs : g.session = none) (hh : scene.host = .replay chunks)
    (ht : 0 < g.config.waitTimeout) (hl : ∀ w ∈ g.waitFor, w.isLog = true) :
    (g.start scene).1 = .ready ↔
      ∀ w ∈ g.waitFor, w.Holds (replayedLines chunks) (g.replayedLog chunks) := by
  refine ⟨fun hr => ?_, fun hall => (start_of_hold hs hh ht hl hall).1⟩
  -- Else there is a first condition that does not hold, and the gate would report it.
  by_contra hnot
  obtain ⟨before, w, after, hsplit, hbefore, hw⟩ := exists_first_of_not_forall hnot
  obtain ⟨_, _, hfail⟩ := start_of_not_holds hs hh ht hl hsplit hbefore hw
  rw [hr] at hfail
  cases hfail

/-- The start of a gate whose conditions are about a log that is replayed. It is fatal if the buffer
    is too great for a queue, and only then. Else the gate opens if and only if all conditions hold on
    the log, and then at once or when one pause is over; or it reports the first that does not hold,
    as it is when the whole log has been delivered. -/
theorem start_verdict (hs : g.session = none) (hh : scene.host = .replay chunks)
    (ht : 0 < g.config.waitTimeout) (hl : ∀ w ∈ g.waitFor, w.isLog = true) :
    let lines := ofBytes (Chunk.join chunks)
    let log := (scene.host.currentLog g.container {}).1
    (g.start? scene = none ↔ Splitter.maxCapacity < g.config.logBuffer) ∧
    ∀ o g' scene', g.start? scene = some (o, g', scene') →
      (o = .ready ↔ ∀ w ∈ g.waitFor, w.Holds lines log) ∧
      (o = .ready → scene'.now = scene.now ∨ scene'.now = scene.now + g.config.pollInterval) ∧
      ∀ before w after, g.waitFor = before ++ w :: after → (∀ w' ∈ before, w'.Holds lines log) →
        ¬ w.Holds lines log →
        ∃ condition, w.Reports lines condition ∧
          o = .failed (.timeout g.describe condition (.ofMillis g.config.waitTimeout)) := by
  intro lines log
  have hlog : log = g.replayedLog chunks := by rw [replayedLog, ← hh]
  rw [hlog]
  obtain ⟨rs, hb⟩ := WaitFor.mapM_build_of_isLog hl
  refine ⟨start?_eq_none_iff_of_requirements hs hb, fun o g' scene' hstart => ?_⟩
  have he : (o, g', scene') = g.start scene := eq_start_of_start? hstart
  obtain ⟨rfl, rfl, rfl⟩ : o = (g.start scene).1 ∧ g' = (g.start scene).2.1 ∧
      scene' = (g.start scene).2.2 := by simp [← he]
  have hiff := start_eq_ready_iff hs hh ht hl
  exact ⟨hiff, fun hr => (start_of_hold hs hh ht hl (hiff.1 hr)).2,
    fun before w after hsplit hbefore hw => start_of_not_holds hs hh ht hl hsplit hbefore hw⟩

/-- A log that comes in two chunks, and whose last line has no end. -/
def unterminated : Scene where
  host := .replay [⟨.stdout, Utf8.encode "db up\nrea"⟩, ⟨.stderr, Utf8.encode "dy"⟩]

/-- The last line counts although it has no end; but no line counts twice for a sequence. -/
theorem start_verdict_unterminated :
    (∃ g scene, start? { container := "box", added := [.logMessageSequence ["db", "ready"],
      .logMessage "ready", .fullLogMessage "up\nready"] } unterminated = some (.ready, g, scene)) ∧
    ∃ g scene, start? { container := "box", added := [.logMessage "ready",
      .logMessageSequence ["db", "rea", "dy"]] } unterminated =
        some (.failed (.timeout "box" "log message sequence ['db', 'rea', 'dy'] (2 of 3 seen)"
          (.ofMillis 10000)), g, scene) := by
  have hh : unterminated.host = .replay [⟨.stdout, Utf8.encode "db up\nrea"⟩,
      ⟨.stderr, Utf8.encode "dy"⟩] := rfl
  constructor
  · let g : Gate := { container := "box", added := [.logMessageSequence ["db", "ready"],
      .logMessage "ready", .fullLogMessage "up\nready"] }
    obtain ⟨o, g', scene, hstart⟩ : ∃ o g' scene, g.start? unterminated = some (o, g', scene) :=
      ⟨_, _, _, start?_of_le (by decide) unterminated⟩
    obtain ⟨-, h⟩ := start_verdict (g := g) rfl hh (by decide) (by decide)
    obtain rfl : o = .ready := (h o g' scene hstart).1.2 (by decide)
    exact ⟨g', scene, hstart⟩
  · let g : Gate := { container := "box", added := [.logMessage "ready",
      .logMessageSequence ["db", "rea", "dy"]] }
    obtain ⟨o, g', scene, hstart⟩ : ∃ o g' scene, g.start? unterminated = some (o, g', scene) :=
      ⟨_, _, _, start?_of_le (by decide) unterminated⟩
    obtain ⟨-, h⟩ := start_verdict (g := g) rfl hh (by decide) (by decide)
    obtain ⟨condition, ⟨k, hk, hc⟩, hf⟩ := (h o g' scene hstart).2.2 [.logMessage "ready"]
      (.logMessageSequence ["db", "rea", "dy"]) [] rfl (by decide) (by decide)
    have hseen := hk.unique (LogSequence.isGreatest_seen _ _)
    have ho : o = .failed (.timeout "box" "log message sequence ['db', 'rea', 'dy'] (2 of 3 seen)"
        (.ofMillis 10000)) := by
      rw [hf, hc, hseen]
      decide
    exact ⟨g', scene, ho ▸ hstart⟩

/-- A buffer that is accepted and too great for a queue: the start is fatal, although the one
    condition holds on the log. -/
theorem start?_of_great_buffer :
    let g : Gate := { container := "box"
                      config := { pollInterval := 10, logBuffer := 2305843009213693952 }
                      added := [.logMessage "up"] }
    let chunks : List Chunk := [⟨.stdout, Utf8.encode "up\n"⟩]
    (∀ w ∈ g.waitFor, w.isLog = true ∧ w.Holds (ofBytes (Chunk.join chunks))
      ((Host.replay chunks).currentLog g.container {}).1) ∧
    g.start? { host := .replay chunks } = none := by
  intro g chunks
  exact ⟨by decide, start?_eq_none_iff.2 ⟨rfl, ⟨_, rfl⟩, by decide⟩⟩

end Start

end Gate

end Readiness
