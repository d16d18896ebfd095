import Readiness.Proofs.Gate.Capacity
import Readiness.Proofs.Session.Closing
import Readiness.Proofs.Wait.Alone
import Readiness.Proofs.Wait.Rounds

/-!
# Looking into the log at any time

A wait for a message in the log polls the log as a whole. Each poll is a fetch, and fetches and pauses
may change places, so the wait is what sleeping is with some fetches behind it, and it ends at the
first poll that finds the message (`Gate.waitForLog_eq`).

What the polls find has nothing to do with the gate. In all its life, with starts that succeed or
fail, closes, waits and pauses in any order (`Gate.Lives`), its scene is along the one that is left
alone (`Gate.Lives.lasts`): sessions take chunks from the stream and leave the record of the log, and
to close one takes no time. So a wait at any point of that life depends on the host's own script alone
(`Gate.waitForLog_of_lives`).
-/

namespace Readiness.Gate

variable {g g₀ : Gate} {s s₀ : Scene} {message : String} {timeout : Nat}

/-! ## Waiting for a message -/

/-- The wait for a message in the log. -/
def lookout (g : Gate) (message : String) (s : Scene) : Vigil :=
  { scene := s, requirements := [.fullLog message], session := g.session }

/-- Time passes for a gate as it does for a vigil over its session that waits for a message. -/
theorem pass_eq_lookout (d : Nat) (g : Gate) (message : String) (s : Scene) :
    g.pass d s = ({ g with session := ((g.lookout message s).pass d).session },
      ((g.lookout message s).pass d).scene) := by
  have h := Vigil.pass_withRequirements d { scene := s, session := g.session } [.fullLog message]
  rw [pass, lookout, h]

/-- The scene at a poll behind so many others. -/
def polled (g : Gate) (s : Scene) (k : Nat) : Scene :=
  Scene.fetched^[k] (g.pass (k * g.config.pollInterval) s).2

/-- A poll interval passes before each poll but the first. -/
theorem now_polled (g : Gate) (s : Scene) (k : Nat) :
    (g.polled s k).now = s.now + k * g.config.pollInterval := by
  have hnow (k : Nat) (s : Scene) : (Scene.fetched^[k] s).now = s.now := by
    induction k generalizing s with
    | zero => rfl
    | succ k ih => exact ih s.fetched
  rw [polled, hnow]
  exact Timed.now_pass _ (_ : Vigil)

/-- The wait at a poll behind so many others. -/
def lookoutAt (g : Gate) (message : String) (s : Scene) (k : Nat) : Vigil :=
  { (g.lookout message s).pass (k * g.config.pollInterval) with scene := g.polled s k }

/-- To go on from poll to poll is to let the time pass, and then to make up for the fetches. -/
theorem lookoutAt_eq (g : Gate) (message : String) (s : Scene) (k : Nat) :
    g.lookoutAt message s k =
      Vigil.fetched^[k] ((g.lookout message s).pass (k * g.config.pollInterval)) := by
  rw [Vigil.iterate_fetched, lookoutAt, polled, pass_eq_lookout _ _ message]

theorem getElem?_requirements_lookoutAt (g : Gate) (message : String) (s : Scene) (k : Nat) :
    (g.lookoutAt message s k).requirements[0]? = some (.fullLog message) := by
  obtain ⟨ms, hl⟩ := Vigil.pass_leads (k * g.config.pollInterval) (g.lookout message s)
  change ((g.lookout message s).pass (k * g.config.pollInterval)).requirements[0]? = _
  rw [hl.requirements]
  rfl

/-- The polls are pauses apart, and each is a fetch. -/
theorem round_lookout (g : Gate) (message : String) (s : Scene) (k : Nat) :
    g.config.engine.round (Vigil.condition g.container 0) (g.lookout message s) k =
      g.lookoutAt message s k := by
  induction k with
  | zero =>
    rw [lookoutAt_eq, Nat.zero_mul]
    rfl
  | succ k ih =>
    have hcheck := Vigil.check_eq_fetched (getElem?_requirements_lookoutAt g message s k) g.container
    have hpass : Function.Commute (Vigil.pass g.config.pollInterval) Vigil.fetched :=
      Vigil.pass_fetched _
    rw [Engine.round, ih]
    change Vigil.pass g.config.pollInterval (Vigil.check g.container 0 _).2 = _
    -- The pause goes before all the fetches, to the pauses that were.
    rw [hcheck, lookoutAt_eq, lookoutAt_eq, ← Function.iterate_succ_apply' Vigil.fetched,
      (hpass.iterate_right (k + 1)).eq, Vigil.pass_pass, Nat.succ_mul]

/-- The wait for a message, by its rounds. -/
theorem waitForLog_of_run {o : Outcome} {k : Nat}
    (h : g.config.engine.run (Vigil.condition g.container 0) timeout g.describe none
      (g.lookout message s) = (o, (g.lookoutAt message s k).fetched)) :
    g.waitForLog message timeout s =
      (o, (g.pass (k * g.config.pollInterval) s).1, (g.polled s k).fetched) := by
  have h' : g.config.engine.run (Vigil.condition g.container 0) timeout g.describe none
      { scene := s, requirements := [.fullLog message], session := g.session } = _ := h
  rw [waitForLog, pass_eq_lookout _ _ message, h']
  rfl

/-- A wait for a message ends at the first poll that finds it, or at the last. It leaves what sleeping
    as long would leave, but for its fetches. -/
theorem waitForLog_eq (g : Gate) (message : String) (timeout : Nat) (s : Scene) :
    let shows k := (g.polled s k).host.shows g.container message
    let last := g.config.engine.lastRound timeout
    (∃ k ≤ last, (∀ j < k, shows j = false) ∧ shows k = true ∧
      g.waitForLog message timeout s =
        (.ready, (g.pass (k * g.config.pollInterval) s).1, (g.polled s k).fetched)) ∨
    (∀ k ≤ last, shows k = false) ∧
      g.waitForLog message timeout s =
        (.failed (.timeout g.describe ("full log message '" ++ message ++ "'") (.ofMillis timeout)),
          (g.pass (last * g.config.pollInterval) s).1, (g.polled s last).fetched) := by
  intro shows last
  let c := Vigil.condition g.container 0
  have hcheck (k : Nat) : c.check (g.config.engine.round c (g.lookout message s) k) =
      (.ok (shows k), (g.lookoutAt message s k).fetched) := by
    rw [round_lookout]
    exact Vigil.check_eq_fetched (getElem?_requirements_lookoutAt g message s k) g.container
  have hfst (k : Nat) (b : Bool) (hb : shows k = b) :
      (c.check (g.config.engine.round c (g.lookout message s) k)).1 = .ok b := by
    rw [hcheck, hb]
  have hreq (k : Nat) : (g.lookoutAt message s k).fetched.requirements[0]? = some (.fullLog message) :=
    getElem?_requirements_lookoutAt g message s k
  have hrelease (k : Nat) :
      c.release (g.lookoutAt message s k).fetched = (g.lookoutAt message s k).fetched :=
    Vigil.release_eq (hreq k) nofun
  have hdescribe (k : Nat) :
      c.describe (g.lookoutAt message s k).fetched = "full log message '" ++ message ++ "'" := by
    simp only [c, Vigil.condition, Vigil.requirement?, hreq]
    rfl
  obtain ⟨k, hk, hno, hyes⟩ | hnone := first_lt_or_none (fun k => shows k = true) (last + 1)
  · have hk : k ≤ last := Nat.le_of_lt_succ hk
    have hno : ∀ j < k, shows j = false := fun j hj => Bool.eq_false_iff.2 (hno j hj)
    refine .inl ⟨k, hk, hno, hyes, waitForLog_of_run ?_⟩
    have hdecided := congrArg Engine.decided? (hfst k _ hyes)
    rw [Engine.run_of_decided hk (fun j hj => hfst j _ (hno j hj)) hdecided, hcheck]
    exact congrArg _ (hrelease _)
  · have hnone : ∀ k ≤ last, shows k = false := fun k hk =>
      Bool.eq_false_iff.2 (hnone k (Nat.lt_succ_of_le hk))
    refine .inr ⟨hnone, waitForLog_of_run ?_⟩
    have hrun : g.config.engine.run c timeout g.describe none (g.lookout message s) = _ :=
      Engine.run_of_silent fun k hk => hfst k _ (hnone k hk)
    rw [hcheck] at hrun
    rw [hrun, hdescribe, hrelease]

/-! ## The life of a gate -/

/-- A gate and a scene after calls one after the other. -/
inductive Lives (g₀ : Gate) (s₀ : Scene) : Gate → Scene → Prop
  | begins : Lives g₀ s₀ g₀ s₀
  /-- It is started, well or not. -/
  | starts {g g' : Gate} {s s' : Scene} {o : Outcome} : Lives g₀ s₀ g s →
      g.start? s = some (o, g', s') → Lives g₀ s₀ g' s'
  | closes {g : Gate} {s : Scene} : Lives g₀ s₀ g s → Lives g₀ s₀ (g.close s).1 (g.close s).2
  /-- Time passes. -/
  | passes {g : Gate} {s : Scene} (d : Nat) : Lives g₀ s₀ g s →
      Lives g₀ s₀ (g.pass d s).1 (g.pass d s).2
  | waits {g : Gate} {s : Scene} (message : String) (timeout : Nat) : Lives g₀ s₀ g s →
      Lives g₀ s₀ (g.waitForLog message timeout s).2.1 (g.waitForLog message timeout s).2.2
  | logs {g : Gate} {s : Scene} : Lives g₀ s₀ g s → Lives g₀ s₀ g (g.log s).2

/-- A session that a gate has opened, some moves later. -/
def Opened (g : Gate) (h : Host) (session : GateSession) : Prop :=
  ∃ h₀ watches stdoutSink stderrSink ms,
    Session.Leads h₀ (Session.prepare g.container watches stdoutSink stderrSink g.config.logBuffer
      g.config.shutdownGrace).start ms h session

theorem Opened.fetched {h : Host} {session : GateSession} (ho : g.Opened h session) :
    g.Opened h.fetched session := by
  obtain ⟨h₀, watches, stdoutSink, stderrSink, ms, hl⟩ := ho
  exact ⟨h₀.fetched, watches, stdoutSink, stderrSink, ms, hl.fetched⟩

/-- While time passes, the session goes on. -/
theorem Opened.pass {v : Vigil} {session : GateSession} (hv : v.session = some session)
    (ho : g.Opened v.scene.host session) (d : Nat) :
    ∃ session', (v.pass d).session = some session' ∧ g.Opened (v.pass d).scene.host session' := by
  obtain ⟨h₀, watches, stdoutSink, stderrSink, ms, hl⟩ := ho
  obtain ⟨ns, hpass⟩ := Vigil.pass_leads d v
  obtain ⟨session', hs', hl'⟩ := hpass.session session hv
  exact ⟨session', hs', h₀, watches, stdoutSink, stderrSink, ms ++ ns, hl.trans hl'⟩

/-- To close a session that a gate has opened takes no time. -/
theorem Opened.waited_eq {h : Host} {session : GateSession} (ho : g.Opened h session) :
    (session.close h).2.2 = 0 := by
  obtain ⟨h₀, watches, stdoutSink, stderrSink, ms, hl⟩ := ho
  obtain hg | hg := Nat.eq_zero_or_pos g.config.shutdownGrace
  · -- No task is waited for.
    have hgrace : session.grace = 0 := by rw [hl.2]; exact hg
    unfold Session.close
    dsimp only
    repeat' split
    all_goals rfl
  · -- The tasks end at once.
    obtain ⟨h', s', hclose, -⟩ := hl.exists_close hg
    rw [hclose]

/-- What the life of a gate preserves. -/
structure Lasts (g₀ : Gate) (s₀ : Scene) (g : Gate) (s : Scene) : Prop where
  container : g.container = g₀.container
  config : g.config = g₀.config
  describe : g.describe = g₀.describe
  scene : s₀.IsAlong s
  session : ∀ session, g.session = some session → g.Opened s.host session

/-- What lasts of a gate stays while time passes. -/
theorem Lasts.pass (h : Lasts g₀ s₀ g s) (d : Nat) :
    Lasts g₀ s₀ (g.pass d s).1 (g.pass d s).2 := by
  let v : Vigil := { scene := s, session := g.session }
  refine ⟨h.container, h.config, h.describe, Scene.IsAlong.pass (v := v) h.scene d,
    fun session hsession => ?_⟩
  cases hg : g.session with
  | none =>
    have hnone : (v.pass d).session = none := Vigil.session_pass_of_none hg d
    exact absurd (hsession.symm.trans hnone) nofun
  | some session₁ =>
    obtain ⟨session', hs', ho⟩ := Opened.pass (v := v) hg (h.session session₁ hg) d
    cases hsession.symm.trans hs'
    exact ho

/-- Closing a session that a gate has opened leaves the scene along. -/
theorem isAlong_closeSession {session : GateSession} (h : s₀.IsAlong s)
    (ho : g.Opened s.host session) : s₀.IsAlong (closeSession s session).1 := by
  have hw := ho.waited_eq
  have ha := session.alike_close s.host
  rw [closeSession]
  rcases hc : session.close s.host with ⟨host, session', waited⟩
  rw [hc] at hw ha
  cases hw
  exact ⟨ha.trans h.host, h.due⟩

theorem session_retire (g : Gate) (session : GateSession) : (g.retire session).session = none := rfl

theorem Lasts.close (h : Lasts g₀ s₀ g s) : Lasts g₀ s₀ (g.close s).1 (g.close s).2 := by
  rw [Gate.close]
  cases hg : g.session with
  | none => exact h
  | some session =>
    exact ⟨h.container, h.config, h.describe, isAlong_closeSession h.scene (h.session session hg),
      fun _ h => absurd ((session_retire _ _).symm.trans h) nofun⟩

theorem Lasts.fetched (h : Lasts g₀ s₀ g s) : Lasts g₀ s₀ g s.fetched :=
  { h with
    scene := h.scene.fetched
    session := fun session hsession => (h.session session hsession).fetched }

theorem Lasts.iterate_fetched (h : Lasts g₀ s₀ g s) (k : Nat) :
    Lasts g₀ s₀ g (Scene.fetched^[k] s) := by
  induction k with
  | zero => exact h
  | succ k ih => rw [Function.iterate_succ_apply']; exact ih.fetched

/-- What a start preserves while it waits. -/
structure Attends (g : Gate) (s₀ : Scene) (v : Vigil) : Prop where
  scene : s₀.IsAlong v.scene
  session : ∃ session, v.session = some session ∧ g.Opened v.scene.host session

/-- Time that passes leaves a vigil attending. -/
theorem Attends.pass {v : Vigil} (h : g.Attends s₀ v) (d : Nat) : g.Attends s₀ (v.pass d) := by
  obtain ⟨session, hs, ho⟩ := h.session
  exact ⟨h.scene.pass d, ho.pass hs d⟩

/-- A check leaves a vigil attending. -/
theorem Attends.checks {v v' : Vigil} {container : String} {i : Nat} (h : g.Attends s₀ v)
    (hc : v.Checks container i v') : g.Attends s₀ v' := by
  cases hc with
  | looks => exact h
  | fetches =>
    obtain ⟨session, hs, ho⟩ := h.session
    rw [Host.snd_currentLog]
    exact ⟨h.scene.fetched, session, hs, ho.fetched⟩
  | sends => exact ⟨⟨h.scene.host, h.scene.due⟩, h.session⟩

/-- A wait for all conditions leaves a vigil attending. -/
theorem Attends.runAll {v : Vigil} (h : g.Attends s₀ v) (timeout : Nat)
    (description container : String) (w : Vigil) : g.Attends s₀ (g.config.engine.runAll timeout
      description none (w.conditions container) v).2 := by
  have hcheck : ∀ (i : Nat) c, (w.conditions container)[i]? = some c →
      ∀ v, g.Attends s₀ v → g.Attends s₀ (c.check v).2 ∧ g.Attends s₀ (c.release (c.check v).2) := by
    intro i c hc v hv
    rw [Vigil.conditions, List.getElem?_map, Option.map_eq_some_iff] at hc
    obtain ⟨j, -, rfl⟩ := hc
    have hv' := hv.checks (Vigil.checks_check container j v)
    exact ⟨hv', hv'.scene, hv'.session⟩
  have hend := @Engine.runAll_ends Vigil _ g.config.engine timeout description
    (fun _ => g.Attends s₀) (w.conditions container) (fun _ d v hv => Attends.pass hv d)
    (fun i c hc v hv => (hcheck i c hc v hv).1) (fun i c hc v hv _ => (hcheck i c hc v hv).2) v h
  obtain ⟨v', hr, hv'⟩ | ⟨i, c, v', error, hc, hv', -, hr⟩ := hend
  · rw [hr]
    exact hv'
  · rw [hr]
    exact (hcheck i c hc v' hv').2

/-- What lasts of a gate stays when it is started. -/
theorem Lasts.start {o : Outcome} {g' : Gate} {s' : Scene} (h : Lasts g₀ s₀ g s)
    (hstart : g.start s = (o, g', s')) : Lasts g₀ s₀ g' s' := by
  unfold Gate.start at hstart
  split at hstart
  · cases hstart
    exact h
  · split at hstart
    · cases hstart
      exact h
    · next rs hrs =>
      have hbegin : g.Attends s₀ (g.vigil s rs) :=
        ⟨h.scene, _, rfl, s.host, _, _, _, [], .nil, rfl⟩
      obtain ⟨hscene, session, hsession, hopened⟩ :=
        hbegin.runAll g.config.waitTimeout g.describe g.container (g.vigil s rs)
      dsimp only at hstart
      split at hstart
      · -- The gate opens.
        next hsession' _ =>
        cases hstart
        refine ⟨h.container, h.config, h.describe, hscene, fun session' hs' => ?_⟩
        cases hs'
        cases hsession.symm.trans hsession'
        exact hopened
      · -- The start fails, and the session is closed.
        next hsession' _ =>
        cases hstart
        cases hsession.symm.trans hsession'
        exact ⟨h.container, h.config, h.describe, isAlong_closeSession hscene hopened,
          fun _ hs' => absurd ((session_retire _ _).symm.trans hs') nofun⟩
      · next hsession' => exact absurd (hsession.symm.trans hsession') nofun

theorem Lasts.polled (h : Lasts g₀ s₀ g s) (k : Nat) :
    Lasts g₀ s₀ (g.pass (k * g.config.pollInterval) s).1 (g.polled s k) :=
  (h.pass _).iterate_fetched k

theorem Lasts.waitForLog (h : Lasts g₀ s₀ g s) (message : String) (timeout : Nat) :
    Lasts g₀ s₀ (g.waitForLog message timeout s).2.1 (g.waitForLog message timeout s).2.2 := by
  obtain ⟨k, -, -, -, hw⟩ | ⟨-, hw⟩ := waitForLog_eq g message timeout s
  · rw [hw]
    exact (h.polled k).fetched
  · rw [hw]
    exact (h.polled _).fetched

/-- What lasts of a gate stays all its life. -/
theorem Lives.lasts (ha : s₀.IsAhead) (hg : g₀.session = none) (hl : Lives g₀ s₀ g s) :
    Lasts g₀ s₀ g s := by
  induction hl with
  | begins => exact ⟨rfl, rfl, rfl, ha.isAlong, fun _ h => absurd (hg.symm.trans h) nofun⟩
  | starts _ hstart ih => exact ih.start (eq_start_of_start? hstart).symm
  | closes _ ih => exact ih.close
  | passes d _ ih => exact ih.pass d
  | waits message timeout _ ih => exact ih.waitForLog message timeout
  | @logs g s _ ih =>
    have hlog : (g.log s).2 = s.fetched := by
      simp only [Gate.log, Host.snd_currentLog]
      rfl
    rw [hlog]
    exact ih.fetched

/-- A wait for a message in the log, at any point of a gate's life:

* It ends well at the first poll that finds the message. There is one poll at once and then one after
  each pause, up to the first at which the time is over; if none finds the message, the wait fails at
  that. A poll whose fetch fails finds nothing.
* It leaves the gate, and what was written to its sinks, as sleeping as long would leave it. The scene
  is left as well as that would leave it, with the fetches behind it.
* If the host does not count fetches, the scene is altogether the same, and a poll finds what is in
  the log of the host that is left alone. Of a live log, this is all that was recorded, and what has
  been pushed by then. -/
theorem waitForLog_of_lives (ha : s₀.IsAhead) (hg : g₀.session = none) (hl : Lives g₀ s₀ g s)
    (message : String) (timeout : Nat) :
    let p := g₀.config.pollInterval
    let last := (timeout + (p - 1)) / p
    let shows k := (g.polled s k).host.shows g₀.container message
    ((∃ k ≤ last, (∀ j < k, shows j = false) ∧ shows k = true ∧
        g.waitForLog message timeout s = (.ready, (g.pass (k * p) s).1, (g.polled s k).fetched)) ∨
      (∀ k ≤ last, shows k = false) ∧
        g.waitForLog message timeout s =
          (.failed (.timeout g₀.describe ("full log message '" ++ message ++ "'") (.ofMillis timeout)),
            (g.pass (last * p) s).1, (g.polled s last).fetched)) ∧
    (∀ k, (g.polled s k).fetched.now = s.now + k * p) ∧
    (∀ k error, ((g.polled s k).host.currentLog g₀.container {}).1 = .error error →
      shows k = false) ∧
    (s₀.host.IsSteady → ∀ k, (g.polled s k).fetched = (g.pass (k * p) s).2 ∧
      shows k = (s₀.alone (s.now + k * p)).host.shows g₀.container message) ∧
    ∀ log, s₀.host = .live log → log.finished = false → s₀.due.Pairwise (·.1 ≤ ·.1) →
      ∀ k, shows k = mentions (Host.textByChunk (log.recorded ++
        Scene.pushedChunks (s₀.happened (s.now + k * p)))) message := by
  intro p last shows
  have hlasts := hl.lasts ha hg
  have hnow (k : Nat) : (g.polled s k).now = s.now + k * p := by
    rw [now_polled, hlasts.config]
  have halone (hs : s₀.host.IsSteady) (k : Nat) :
      shows k = (s₀.alone (s.now + k * p)).host.shows g₀.container message := by
    rw [← hnow]
    exact (hlasts.polled k).scene.shows_eq hs _ _
  refine ⟨?_, hnow, fun k error he => ?_, fun hs k => ⟨?_, halone hs k⟩,
    fun log hh hopen hsorted k => ?_⟩
  · have hw := waitForLog_eq g message timeout s
    rwa [hlasts.container, hlasts.config, hlasts.describe] at hw
  · change Host.shows _ _ _ = false
    rw [Host.shows, he]
  · have hfetched : (g.pass (k * p) s).2.fetched = (g.pass (k * p) s).2 :=
      Scene.fetched_of_isSteady ((hlasts.pass (k * p)).scene.isSteady hs)
    rw [Gate.polled, hlasts.config, Function.iterate_fixed hfetched, hfetched]
  · have hs : s₀.host.IsSteady := by rw [hh]; rfl
    obtain ⟨log', hl', hr⟩ := Scene.exists_alone_live hh hopen hsorted (s.now + k * p)
    rw [halone hs, hl', Host.shows_live, hr]

/-- A gate that was started, closed and started again. What is pushed behind that is found two pauses
    later, and what is not cannot be found. -/
theorem waitForLog_of_lives_second_start :
    let quick : Gate := { container := "box", config := { pollInterval := 10, shutdownGrace := 0 } }
    let scene : Scene := { host := .live {}, due := [(23, .pushed ⟨.stdout, Utf8.encode "up\n"⟩),
      (45, .pushed ⟨.stderr, Utf8.encode "ready\n"⟩)] }
    let opened := quick.start scene
    let closed := opened.2.1.close opened.2.2
    let later := closed.1.pass 30 closed.2
    let g := (later.1.start later.2).2.1
    let s := (later.1.start later.2).2.2
    Lives quick scene g s ∧ g.isStarted = true ∧
      g.waitForLog "ready" 100 s = (.ready, g.pass 20 s) ∧
      g.waitForLog "down" 15 s =
        (.failed (.timeout "box" "full log message 'down'" (.ofMillis 15)), g.pass 20 s) := by
  intro quick scene opened closed later g s
  have hl : Lives quick scene g s := .starts (.passes 30 (.closes (.starts .begins rfl))) rfl
  refine ⟨hl, rfl, ?_, ?_⟩
  · obtain ⟨hw, -, -, hsees, -⟩ := waitForLog_of_lives (by decide) rfl hl "ready" 100
    have hshows (k : Nat) : (g.polled s k).host.shows "box" "ready" =
        (scene.alone (30 + k * 10)).host.shows "box" "ready" := (hsees rfl k).2
    have hno : ∀ j < 2, (scene.alone (30 + j * 10)).host.shows "box" "ready" = false := by decide
    have hyes : (scene.alone (30 + 2 * 10)).host.shows "box" "ready" = true := by decide
    obtain ⟨k, -, hbefore, hk, hw⟩ | ⟨hnone, -⟩ := hw
    · obtain rfl : k = 2 := by
        obtain hlt | rfl | hlt := Nat.lt_trichotomy k 2
        · cases (hno k hlt).symm.trans ((hshows k).symm.trans hk)
        · rfl
        · cases hyes.symm.trans ((hshows 2).symm.trans (hbefore 2 hlt))
      rw [hw, (hsees rfl 2).1]
      rfl
    · cases hyes.symm.trans ((hshows 2).symm.trans (hnone 2 (by decide)))
  · obtain ⟨hw, -, -, hsees, -⟩ := waitForLog_of_lives (by decide) rfl hl "down" 15
    have hno : ∀ j ≤ 2, (scene.alone (30 + j * 10)).host.shows "box" "down" = false := by decide
    have hlast : (15 + (quick.config.pollInterval - 1)) / quick.config.pollInterval = 2 := by decide
    have hdescribe : quick.describe = "box" := by decide
    rw [hlast, hdescribe] at hw
    obtain ⟨k, hle, -, hk, -⟩ | ⟨-, hw⟩ := hw
    · cases (hno k hle).symm.trans ((hsees rfl k).2.symm.trans hk)
    · rw [hw, (hsees rfl 2).1]
      rfl

end Readiness.Gate
