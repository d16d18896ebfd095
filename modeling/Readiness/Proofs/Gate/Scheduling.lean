import Readiness.Proofs.Gate.Starting
import Readiness.Proofs.Session.Lifetime
import Readiness.Proofs.Wait.Hearing
import Readiness.Proofs.Wait.Rounds

/-!
# Starts under every scheduler

What a start does is fixed: it checks, pauses, and closes the session if the wait fails. What the
tasks of the session do meanwhile, and what happens to the host, is up to a `Scheduler`. `startUnder`
is a start with a scheduler of any kind; `start` is the one with the clock (`startUnder_clock`). No
scheduler has a say in whether a start is fatal (`startUnder?`, `startUnder?_eq_none_iff`).

A wait gets only into states that its vigil `Reaches`, its session stays open, and the conditions
whose turn is over are met (`Stage`). So a start comes to one of three ends: a condition that cannot
be built (`startUnder_of_requirements_error`), all conditions met, or a failure, behind which the
session is closed (`startUnder_ends`).
-/

namespace Readiness

open Vigil (Reaches)

/-- How the tasks of a session move, and what happens to its host, while somebody waits for a
    container. -/
structure Scheduler where
  /-- While milliseconds pass in a pause. -/
  pass : Nat → Vigil → Vigil
  /-- While a check is made. -/
  look : Vigil → Vigil
  /-- While a session is closing. -/
  drain : Host → Pipeline LogWatch Empty → Host × Pipeline LogWatch Empty
  now_pass : ∀ d v, (pass d v).scene.now = v.scene.now + d
  leads_pass : ∀ d (v : Vigil), ∃ ms, v.Leads ms (pass d v)
  leads_look : ∀ v : Vigil, ∃ ms, v.Leads ms (look v)
  run_drain : ∀ h p, ∃ ms, Pipeline.Run (h, p) ms (drain h p)

namespace Scheduler

/-- Tasks move only while time passes, or while a session is closing, and then for as long as they
    can. -/
def clock : Scheduler where
  pass := Vigil.pass
  look := id
  drain := Pipeline.settle
  now_pass := Timed.now_pass
  leads_pass := Vigil.pass_leads
  leads_look v := ⟨[], .refl v⟩
  run_drain h p := by
    obtain ⟨ts, hr⟩ := Pipeline.run_settle h p
    exact ⟨_, hr⟩

/-- Time as it passes under a scheduler. -/
@[reducible] def timed (π : Scheduler) : Timed Vigil where
  now v := v.scene.now
  pass := π.pass
  now_pass := π.now_pass

/-- The requirement at an index as a wait under a scheduler sees it. -/
def condition (π : Scheduler) (container : String) (i : Nat) : Condition Vigil :=
  { Vigil.condition container i with check := fun v => Vigil.check container i (π.look v) }

end Scheduler

namespace Gate

/-- Waits for requirements, one after the other, under a scheduler. -/
def waitUnder (π : Scheduler) (g : Gate) (requirements : List Requirement) (v : Vigil) :
    Outcome × Vigil :=
  @Engine.runAll Vigil π.timed g.config.engine g.config.waitTimeout g.describe none
    ((List.range requirements.length).map (π.condition g.container)) v

/-- Waits until the container is ready, under a scheduler. -/
def startUnder (π : Scheduler) (g : Gate) (scene : Scene) : Outcome × Gate × Scene :=
  if g.isStarted then (.ready, g, scene)
  else match g.requirements with
    | .error cause => (.failed (.misconfigured cause), g, scene)
    | .ok requirements =>
      let (outcome, v) := g.waitUnder π requirements (g.vigil scene requirements)
      let g := g.handOver
      match v.session, outcome with
      | some session, .ready => (.ready, { g with session := some session }, v.scene)
      | some session, outcome =>
        let (host, session, waited) := session.closeUnder π.drain v.scene.host
        (outcome, g.retire session, { v.scene with host, now := v.scene.now + waited })
      | none, outcome => (outcome, g, v.scene)

/-- Waits until the container is ready, under a scheduler; `none` where that is fatal. -/
def startUnder? (π : Scheduler) (g : Gate) (scene : Scene) : Option (Outcome × Gate × Scene) :=
  match g.isStarted, g.requirements with
  | false, .ok requirements =>
    (g.prepareSession (requirements.filterMap Requirement.watch?)).start?.map fun _ =>
      g.startUnder π scene
  | _, _ => some (g.startUnder π scene)

/-- A start is one under the clock. -/
theorem startUnder_clock (g : Gate) (scene : Scene) : g.startUnder .clock scene = g.start scene := by
  rfl

/-- A start under the clock is a start. -/
theorem startUnder?_clock (g : Gate) (scene : Scene) :
    g.startUnder? .clock scene = g.start? scene := by
  rfl

/-- Under any scheduler a start is fatal just where it is under the clock, and else what `startUnder`
    says. -/
theorem startUnder?_eq_map (π : Scheduler) (g : Gate) (scene : Scene) :
    g.startUnder? π scene = (g.start? scene).map fun _ => g.startUnder π scene := by
  rw [startUnder?, start?]
  cases g.isStarted with
  | true => rfl
  | false =>
    cases g.requirements with
    | error _ => rfl
    | ok _ =>
      rw [Option.map_map]
      rfl

/-! ## The wait -/

/-- Where a wait stands when it is the turn of the condition at an index: it has got there with some
    lines delivered on the way, its session is at work, and the watches before the index are
    ready. -/
structure Stage (g : Gate) (scene : Scene) (rs : List Requirement) (i : Nat) (lines : List String)
    (v : Vigil) : Prop where
  reaches : Reaches g.container (g.vigil scene rs) lines v
  working : ∃ s, v.session = some s ∧ s.started = true ∧ s.closed = false
  met : ∀ j < i, ∀ w, rs[j]? = some (.heard w) → (w.hearAll lines).ready = true

variable {π : Scheduler} {g : Gate} {scene : Scene} {rs : List Requirement} {i : Nat}
  {lines : List String} {v v' : Vigil}

/-- When a wait begins no line has been delivered. -/
theorem hears_vigil (g : Gate) (scene : Scene) (rs : List Requirement) :
    Vigil.Hears (g.vigil scene rs) (g.vigil scene rs) [] := by
  refine ⟨rfl, _, rfl, ?_⟩
  rw [openSession, prepareSession, Session.listeners_start]
  exact (List.map_id _).symm

/-- A vigil begins at the first stage. -/
theorem stage_vigil (g : Gate) (scene : Scene) (rs : List Requirement) :
    Stage g scene rs 0 [] (g.vigil scene rs) :=
  ⟨.begins, ⟨_, rfl, rfl, rfl⟩, nofun⟩

namespace Stage

theorem hears (h : Stage g scene rs i lines v) : Vigil.Hears (g.vigil scene rs) v lines :=
  h.reaches.hears (hears_vigil g scene rs)

/-- Moves of the session leave a vigil at its stage, with more lines heard. -/
theorem moves {ms : List Move} (h : Stage g scene rs i lines v) (hl : v.Leads ms v') :
    Stage g scene rs i (lines ++ v.told ms) v' := by
  refine ⟨h.reaches.moves hl, ?_, fun j hj w hw => ?_⟩
  · obtain ⟨s, hs, hst, hc⟩ := h.working
    obtain ⟨s', hs', hl'⟩ := hl.session s hs
    exact ⟨s', hs', by rw [hl'.2]; exact hst, by rw [hl'.2]; exact hc⟩
  · rw [LogWatch.hearAll_append]
    exact LogWatch.ready_hearAll (h.met j hj w hw) _

theorem check (h : Stage g scene rs i lines v) (k : Nat) :
    Stage g scene rs i lines (v.check g.container k).2 :=
  ⟨h.reaches.checks k, by rw [(Vigil.checks_check _ _ _).session]; exact h.working, h.met⟩

theorem release (h : Stage g scene rs i lines v) (k : Nat) :
    Stage g scene rs i lines (v.release k) := ⟨h.reaches.releases k, h.working, h.met⟩

/-- A heard requirement is checked by whether its watch is ready. -/
theorem check_fst (h : Stage g scene rs i lines v) {w : LogWatch}
    (hw : rs[i]? = some (.heard w)) :
    (v.check g.container i).1 = .ok (w.hearAll lines).ready := by
  rw [h.hears.check_eq g.container hw]

/-- A check that holds ends the turn of a condition. -/
theorem next (h : Stage g scene rs i lines v) (hc : (v.check g.container i).1 = .ok true) :
    Stage g scene rs (i + 1) lines v := by
  refine ⟨h.reaches, h.working, fun j hj w hw => ?_⟩
  rcases Nat.lt_succ_iff_lt_or_eq.1 hj with hj | rfl
  · exact h.met j hj w hw
  · rw [h.check_fst hw] at hc
    exact Except.ok.inj hc

/-- The session of a wait that is given up is closed; some more lines may be delivered by that. -/
theorem closeUnder (h : Stage g scene rs i lines v) (π : Scheduler) :
    ∃ s, v.session = some s ∧ (s.closeUnder π.drain v.scene.host).2.1.IsOff ∧
      ∃ more v', Reaches g.container (g.vigil scene rs) (lines ++ more) v' ∧
        v'.session = some (s.closeUnder π.drain v.scene.host).2.1 := by
  obtain ⟨s, hs, hst, hc⟩ := h.working
  refine ⟨s, hs, Session.isOff_closeUnder π.run_drain _ hst hc, ?_⟩
  obtain ⟨ms, host, p, waited, hr, he⟩ := Session.closeUnder_eq π.run_drain v.scene.host hst hc
  let v₁ : Vigil := { v with session := v.session.map Session.shut }
  let s₂ : GateSession := { s.shut with pipeline := p }
  let v₂ : Vigil := { v₁ with scene := { v.scene with host }, session := some s₂ }
  have hl : v₁.Leads ms v₂ := by
    refine ⟨rfl, fun s₁ hs₁ => ⟨s₂, rfl, ?_⟩⟩
    obtain rfl : s.shut = s₁ := by simpa [v₁, hs] using hs₁
    exact ⟨hr, rfl⟩
  exact ⟨_, _, (h.reaches.shuts.moves hl).stops, by rw [he]; rfl⟩

end Stage

/-- How a wait ends: well, behind the last condition, or with the failure of one, by its last
    check. -/
theorem waitUnder_ends (π : Scheduler) (g : Gate) (scene : Scene) (rs : List Requirement) :
    (∃ lines v, g.waitUnder π rs (g.vigil scene rs) = (.ready, v) ∧
      Stage g scene rs rs.length lines v) ∨
    ∃ i error lines v, i < rs.length ∧ Stage g scene rs i lines v ∧
      Engine.Ends (Vigil.condition g.container i) g.config.waitTimeout g.describe v
        (.failed error) ∧
      g.waitUnder π rs (g.vigil scene rs) =
        (.failed error, (v.check g.container i).2.release i) := by
  let _ : Timed Vigil := π.timed
  have hcond : ∀ i c, ((List.range rs.length).map (π.condition g.container))[i]? = some c →
      i < rs.length ∧ c = π.condition g.container i := by
    intro i c hc
    obtain ⟨k, hk, rfl⟩ := Option.map_eq_some_iff.1 (List.getElem?_map ▸ hc)
    obtain ⟨hi, rfl⟩ := List.getElem?_eq_some_iff.1 hk
    rw [List.length_range] at hi
    exact ⟨hi, by rw [List.getElem_range]⟩
  have hlook : ∀ {i w}, (∃ lines, Stage g scene rs i lines w) →
      ∃ lines, Stage g scene rs i lines (π.look w) := by
    rintro i w ⟨lines, h⟩
    obtain ⟨ms, hl⟩ := π.leads_look w
    exact ⟨_, h.moves hl⟩
  have hends := @Engine.runAll_ends Vigil π.timed g.config.engine g.config.waitTimeout g.describe
    (fun i v => ∃ lines, Stage g scene rs i lines v)
    ((List.range rs.length).map (π.condition g.container)) ?_ ?_ ?_ _
    ⟨[], stage_vigil g scene rs⟩
  · rcases hends with ⟨v, hw, lines, hv⟩ | ⟨i, c, w, error, hc, hw, he, hr⟩
    · rw [List.length_map, List.length_range] at hv
      exact .inl ⟨lines, v, hw, hv⟩
    · obtain ⟨hi, rfl⟩ := hcond i c hc
      obtain ⟨lines, hv⟩ := hlook hw
      refine .inr ⟨i, error, lines, π.look w, hi, hv, ?_, hr⟩
      cases he with
      | misconfigured hc => exact .misconfigured hc
      | timeout hc => exact .timeout hc
  · -- A pause.
    rintro i d w ⟨lines, h⟩
    obtain ⟨ms, hl⟩ := π.leads_pass d w
    exact ⟨_, h.moves hl⟩
  · -- A check.
    intro i c hc w hw
    obtain ⟨-, rfl⟩ := hcond i c hc
    obtain ⟨lines, h⟩ := hlook hw
    exact ⟨lines, h.check i⟩
  · -- A check that holds.
    intro i c hc w hw hr
    obtain ⟨-, rfl⟩ := hcond i c hc
    obtain ⟨lines, h⟩ := hlook hw
    exact ⟨lines, ((h.next hr).check i).release i⟩

/-! ## The start -/

/-- A start under a scheduler is fatal if the queues would be too great, and only then. -/
theorem startUnder?_eq_none_iff (hs : g.session = none) (hb : g.requirements = .ok rs) :
    g.startUnder? π scene = none ↔ Splitter.maxCapacity < g.config.logBuffer := by
  rw [startUnder?_eq_map, Option.map_eq_none_iff, start?_eq_none_iff_of_requirements hs hb]

/-- What is not fatal is a start. -/
theorem eq_startUnder_of_startUnder? {r : Outcome × Gate × Scene}
    (h : g.startUnder? π scene = some r) : r = g.startUnder π scene := by
  rw [startUnder?_eq_map] at h
  obtain ⟨-, -, rfl⟩ := Option.map_eq_some_iff.1 h
  rfl

/-- A gate whose conditions cannot be made says so, and does nothing. -/
theorem startUnder_of_requirements_error {cause : Misconfiguration} (hs : g.session = none)
    (hb : g.requirements = .error cause) :
    g.startUnder π scene = (.failed (.misconfigured cause), g, scene) := by
  simp only [startUnder, isStarted, hs, hb, Option.isSome_none, Bool.false_eq_true, if_false]

/-- Where the requirements cannot be made no session is started, so that nothing can be fatal. -/
theorem startUnder?_of_requirements_error {cause : Misconfiguration} (hs : g.session = none)
    (hb : g.requirements = .error cause) :
    g.startUnder? π scene = some (.failed (.misconfigured cause), g, scene) := by
  rw [startUnder?, isStarted, hs, hb, startUnder_of_requirements_error hs hb]
  rfl

/-- A failure of the wait is handed on when the session has been closed. -/
theorem startUnder_of_failed {error : WaitError} {s : GateSession} (hs : g.session = none)
    (hb : g.requirements = .ok rs) (hw : g.waitUnder π rs (g.vigil scene rs) = (.failed error, v))
    (hv : v.session = some s) :
    let closed := s.closeUnder π.drain v.scene.host
    g.startUnder π scene = (.failed error, g.handOver.retire closed.2.1,
      { v.scene with host := closed.1, now := v.scene.now + closed.2.2 }) := by
  simp only [startUnder, isStarted, hs, hb, hw, hv, Option.isSome_none, Bool.false_eq_true,
    if_false]

/-- How a start ends whose conditions can be built: as the wait does. If that ends well the gate
    takes the session as it is. If it fails, by the last check of a condition, the session is closed
    first. -/
theorem startUnder_ends (π : Scheduler) (scene : Scene) (hs : g.session = none)
    (hb : g.requirements = .ok rs) :
    (∃ lines v s, g.waitUnder π rs (g.vigil scene rs) = (.ready, v) ∧
      Stage g scene rs rs.length lines v ∧ v.session = some s ∧
      g.startUnder π scene = (.ready, { g.handOver with session := some s }, v.scene)) ∨
    ∃ i error lines v, g.waitUnder π rs (g.vigil scene rs) =
        (.failed error, (v.check g.container i).2.release i) ∧
      i < rs.length ∧ Stage g scene rs i lines v ∧
      Engine.Ends (Vigil.condition g.container i) g.config.waitTimeout g.describe v
        (.failed error) ∧
      ∃ s scene', g.startUnder π scene = (.failed error, g.handOver.retire s, scene') ∧ s.IsOff ∧
        ∃ more v', Reaches g.container (g.vigil scene rs) (lines ++ more) v' ∧
          v'.session = some s := by
  rcases waitUnder_ends π g scene rs with ⟨lines, v, hw, hv⟩ | ⟨i, error, lines, v, hi, hv, he, hw⟩
  · obtain ⟨s, hss, -⟩ := hv.working
    refine .inl ⟨lines, v, s, hw, hv, hss, ?_⟩
    simp only [startUnder, isStarted, hs, hb, hw, hss, Option.isSome_none, Bool.false_eq_true,
      if_false]
  · obtain ⟨s, hss, hoff, hmore⟩ := ((hv.check i).release i).closeUnder π
    exact .inr ⟨i, error, lines, v, hw, hi, hv, he, _, _, startUnder_of_failed hs hb hw hss, hoff,
      hmore⟩

/-! ## The clock -/

/-- Under the clock, the wait for a condition that no check finds to hold is given up at the first
    check that finds the time over. -/
theorem waitUnder_of_silent {r : Requirement} {k : Nat}
    (hk : g.config.engine.lastRound g.config.waitTimeout = k)
    (hsilent : ∀ j < k, ((Vigil.condition g.container 0).check (g.config.engine.round
      (Vigil.condition g.container 0) (g.vigil scene [r]) j)).1 = .ok false)
    (hlast : (Vigil.condition g.container 0).check (g.config.engine.round
      (Vigil.condition g.container 0) (g.vigil scene [r]) k) = (.ok false, v)) :
    g.waitUnder .clock [r] (g.vigil scene [r]) =
      (.failed (.timeout g.describe ((Vigil.condition g.container 0).describe v)
        (.ofMillis g.config.waitTimeout)), v.release 0) := by
  have hall : ∀ j ≤ g.config.engine.lastRound g.config.waitTimeout,
      ((Vigil.condition g.container 0).check (g.config.engine.round
        (Vigil.condition g.container 0) (g.vigil scene [r]) j)).1 = .ok false := by
    intro j hj
    rcases Nat.lt_or_eq_of_le (hk ▸ hj) with hj | rfl
    · exact hsilent j hj
    · rw [hlast]
  have hwait : g.waitUnder .clock [r] (g.vigil scene [r]) =
      g.config.engine.runAll g.config.waitTimeout g.describe none
        [Vigil.condition g.container 0] (g.vigil scene [r]) := rfl
  rw [hwait, Engine.runAll, Engine.run_of_silent hall, hk, hlast]
  rfl

end Gate

end Readiness
