import Readiness.Gate
import Readiness.Proofs.Session.Delivery

/-!
# Starting a gate

A start that has requirements to wait for sets a session to work first, and to do that is fatal if
the configuration asks for queues that are too great (`Gate.start?_eq_none_iff`). A start that is not
fatal is what `Gate.start` says (`Gate.eq_start_of_start?`).

It ends as the wait for its requirements does (`Gate.start_fst`): well, with the session as the wait
has left it (`Gate.start_of_ready`), or with the failure, when the session has been closed
(`Gate.start_of_not_ready`).
-/

namespace Readiness.Gate

variable {g : Gate} {scene : Scene} {rs : List Requirement} {v : Vigil} {s : GateSession}

/-! ### What is fatal -/

/-- The buffer of the configuration is what comes to the queues. -/
theorem capacity_prepareSession (g : Gate) (watches : List LogWatch) :
    (g.prepareSession watches).pipeline.splitter.capacity = g.config.logBuffer :=
  Nat.max_eq_left g.config.logBuffer_pos

/-- To start a gate is fatal exactly if that comes to a session whose queues would be too great. -/
theorem start?_eq_none_iff : g.start? scene = none ↔ g.isStarted = false ∧
    (∃ rs, g.requirements = .ok rs) ∧ Splitter.maxCapacity < g.config.logBuffer := by
  rw [start?]
  split
  · next rs hs hr =>
    rw [Option.map_eq_none_iff, prepareSession, Session.start?_prepare_eq_none_iff]
    simp [hs, hr]
  · next hn =>
    simp only [reduceCtorEq, false_iff]
    rintro ⟨hs, ⟨rs, hr⟩, -⟩
    exact hn rs hs hr

/-- For a gate that is not open and whose requirements can be made, the buffer decides. -/
theorem start?_eq_none_iff_of_requirements (hs : g.session = none) (hb : g.requirements = .ok rs) :
    g.start? scene = none ↔ Splitter.maxCapacity < g.config.logBuffer := by
  have hclosed : g.isStarted = false := by rw [isStarted, hs, Option.isSome_none]
  rw [start?_eq_none_iff, and_iff_right hclosed, and_iff_right ⟨rs, hb⟩]

/-- What is not fatal is a start. -/
theorem eq_start_of_start? {r : Outcome × Gate × Scene} (h : g.start? scene = some r) :
    r = g.start scene := by
  rw [start?] at h
  split at h
  · obtain ⟨-, -, rfl⟩ := Option.map_eq_some_iff.1 h
    rfl
  · exact (Option.some.inj h).symm

/-- No start is fatal if the queues are not too great. -/
theorem start?_of_le (hc : g.config.logBuffer ≤ Splitter.maxCapacity) (scene : Scene) :
    g.start? scene = some (g.start scene) := by
  cases hr : g.start? scene with
  | none => exact absurd (start?_eq_none_iff.1 hr).2.2 (Nat.not_lt.2 hc)
  | some r => rw [eq_start_of_start? hr]

/-! ### What the wait decides -/

/-- The wait for the first conditions, one after the other. -/
def waitForFirst (g : Gate) (n : Nat) (v : Vigil) : Outcome × Vigil :=
  g.config.engine.runAll g.config.waitTimeout g.describe none
    ((List.range n).map (Vigil.condition g.container)) v

/-- A start of a gate that is not open waits for all its requirements, and then looks at the session
    and at how the wait has ended. -/
theorem start_eq (hs : g.session = none) (hb : g.requirements = .ok rs) :
    g.start scene =
      let r := g.waitForFirst rs.length (g.vigil scene rs)
      match r.2.session, r.1 with
      | some session, .ready => (.ready, { g.handOver with session := some session }, r.2.scene)
      | some session, outcome =>
        (outcome, g.handOver.retire (closeSession r.2.scene session).2,
          (closeSession r.2.scene session).1)
      | none, outcome => (outcome, g.handOver, r.2.scene) := by
  rw [start, isStarted, hs, hb]
  rfl

/-- A start ends as the wait does. -/
theorem start_fst (hs : g.session = none) (hb : g.requirements = .ok rs) :
    (g.start scene).1 = (g.waitForFirst rs.length (g.vigil scene rs)).1 := by
  rw [start_eq hs hb]
  dsimp only
  split
  · next hr => exact hr.symm
  · rfl
  · rfl

/-- A start that succeeds ends when the wait does. -/
theorem scene_start_of_ready (hs : g.session = none) (hb : g.requirements = .ok rs)
    (hr : (g.waitForFirst rs.length (g.vigil scene rs)).1 = .ready) :
    (g.start scene).2.2 = (g.waitForFirst rs.length (g.vigil scene rs)).2.scene := by
  rw [start_eq hs hb]
  dsimp only
  rw [hr]
  cases (g.waitForFirst rs.length (g.vigil scene rs)).2.session <;> rfl

/-- A gate that opens takes the session of the wait and goes on where the wait ended. -/
theorem start_of_ready (hs : g.session = none) (hb : g.requirements = .ok rs)
    (hr : g.waitForFirst rs.length (g.vigil scene rs) = (.ready, v)) (hv : v.session = some s) :
    g.start scene = (.ready, { g.handOver with session := some s }, v.scene) := by
  rw [start_eq hs hb, hr]
  dsimp only
  rw [hv]

/-- A start that fails closes the session. -/
theorem start_of_not_ready {o : Outcome} (hs : g.session = none) (hb : g.requirements = .ok rs)
    (hw : g.waitForFirst rs.length (g.vigil scene rs) = (o, v)) (ho : o ≠ .ready)
    (hv : v.session = some s) :
    g.start scene = (o, g.handOver.retire (closeSession v.scene s).2,
      (closeSession v.scene s).1) := by
  rw [start_eq hs hb, hw]
  dsimp only
  rw [hv]
  cases o with
  | ready => exact absurd rfl ho
  | failed | cancelled => rfl

end Readiness.Gate
