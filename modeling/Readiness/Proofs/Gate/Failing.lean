import Readiness.Proofs.Gate.Scheduling

/-!
# A start that fails leaves nothing behind

A gate's start can fail before there is a session, because a condition cannot be built, and in the
wait. In the first case neither the gate nor the scene has changed. In the second the session is
closed before the failure is handed on, wherever its tasks were, and off from then on
(`Session.IsOff`): with a grace period or without one, whether the feed was still attaching or
stood before a full queue. Either way the gate is not open (`Gate.failing_start`).
-/

namespace Readiness.Gate

open Vigil (Reaches)

variable {π : Scheduler} {g : Gate} {scene : Scene} {rs : List Requirement}

/-- The first condition that cannot be built decides. -/
theorem requirements_eq_error {before after : List WaitFor} {w : WaitFor}
    {cause : Misconfiguration} (hsplit : g.waitFor = before ++ w :: after)
    (hbefore : ∀ b ∈ before, ∃ r, b.build = .ok r) (hw : w.build = .error cause) :
    g.requirements = .error cause := by
  rw [requirements, hsplit]
  clear hsplit
  induction before with
  | nil => simp [List.mapM_cons, hw, bind, Except.bind]
  | cons b before ih =>
    obtain ⟨r, hr⟩ := hbefore b List.mem_cons_self
    have hrest := ih fun b' hb' => hbefore b' (List.mem_cons_of_mem b hb')
    rw [List.cons_append, List.mapM_cons, hr]
    simp only [bind, Except.bind] at hrest ⊢
    rw [hrest]

/-- A gate whose start has failed is not open. -/
theorem session_of_failed {error : WaitError} (hs : g.session = none)
    (hf : (g.startUnder π scene).1 = .failed error) :
    (g.startUnder π scene).2.1.session = none := by
  cases hb : g.requirements with
  | error cause => rw [startUnder_of_requirements_error hs hb]; exact hs
  | ok rs =>
    rcases startUnder_ends π scene hs hb with ⟨_, _, _, -, -, -, he⟩ |
      ⟨_, _, _, _, -, -, -, -, _, _, he, -⟩
    · rw [he] at hf; cases hf
    · rw [he]; rfl

/-- A start that fails, under any scheduler, that of `start?` among them.

* If a condition cannot be built, those of the configuration first, the first such decides: the start
  fails with its failure, and the gate with its sinks and the scene with its host are as before.
* Else the start is fatal if the buffer is too great for a queue, and only then. If it is not, and
  the wait for the conditions fails, the start fails with that failure, and what was the session of
  the start is off.
* Either way the gate is not open, closing it does nothing, and time that passes does not change
  it. -/
theorem failing_start (π : Scheduler) (g : Gate) (scene : Scene) (hs : g.session = none) :
    g.startUnder? .clock scene = g.start? scene ∧
    (∀ before w after cause, g.config.waitFor ++ g.added = before ++ w :: after →
      (∀ b ∈ before, ∃ r, b.build = .ok r) → w.build = .error cause →
      g.startUnder? π scene = some (.failed (.misconfigured cause), g, scene)) ∧
    (∀ rs, g.requirements = .ok rs →
      (g.startUnder? π scene = none ↔ Splitter.maxCapacity < g.config.logBuffer) ∧
      ∀ error r, (g.waitUnder π rs (g.vigil scene rs)).1 = .failed error →
        g.startUnder? π scene = some r →
        ∃ s scene', r = (.failed error, g.handOver.retire s, scene') ∧ s.IsOff ∧
          ∃ lines v, Reaches g.container (g.vigil scene rs) lines v ∧ v.session = some s) ∧
    ∀ error g' scene', g.startUnder? π scene = some (.failed error, g', scene') →
      g'.isStarted = false ∧ (∀ later, g'.close later = (g', later)) ∧
        ∀ d later, (g'.pass d later).1 = g' := by
  refine ⟨startUnder?_clock g scene, fun before w after cause hsplit hbefore hw => ?_,
    fun rs hb => ⟨startUnder?_eq_none_iff hs hb, fun error r hw hr => ?_⟩,
    fun error g' scene' hf => ?_⟩
  · exact startUnder?_of_requirements_error hs (requirements_eq_error hsplit hbefore hw)
  · obtain rfl := eq_startUnder_of_startUnder? hr
    rcases startUnder_ends π scene hs hb with ⟨_, _, _, hready, -⟩ |
      ⟨_, _, lines, _, hfailed, -, -, -, s, scene', he, hoff, more, v, hv, hss⟩
    · rw [hready] at hw; cases hw
    · rw [hfailed] at hw
      cases hw
      exact ⟨s, scene', he, hoff, lines ++ more, v, hv, hss⟩
  · have he : (.failed error, g', scene') = g.startUnder π scene := eq_startUnder_of_startUnder? hf
    have hfst : (g.startUnder π scene).1 = .failed error := (congrArg Prod.fst he).symm
    have hnone := session_of_failed hs hfst
    rw [← he] at hnone
    dsimp only at hnone
    refine ⟨by rw [isStarted, hnone]; rfl, fun later => by rw [close, hnone], fun d later => ?_⟩
    rw [pass, Vigil.session_pass_of_none hnone]
    exact congrArg (fun s => { g' with session := s }) hnone.symm

/-- Without any time the wait for a message is over at its first check. -/
theorem waitUnder_of_waitTimeout_eq_zero (g : Gate) (scene : Scene)
    (ht : g.config.waitTimeout = 0) (message : String) :
    (g.waitUnder .clock [.heard (.message { text := message })]
      (g.vigil scene [.heard (.message { text := message })])).1 =
        .failed (.timeout g.describe (LogMessage.describe { text := message }) (.ofMillis 0)) := by
  let r : Requirement := .heard (.message { text := message })
  have hheard := hears_vigil g scene [r]
  have hl : g.config.engine.lastRound g.config.waitTimeout = 0 := by
    rw [ht, Engine.lastRound, Nat.zero_add]
    exact Nat.div_eq_of_lt (Nat.sub_lt g.config.engine.poll_pos Nat.one_pos)
  have hlast : (Vigil.condition g.container 0).check (g.config.engine.round
      (Vigil.condition g.container 0) (g.vigil scene [r]) 0) = (.ok false, g.vigil scene [r]) := by
    rw [Engine.round]
    exact hheard.check_eq (i := 0) g.container (w := .message { text := message }) rfl
  have hdescribe : (Vigil.condition g.container 0).describe (g.vigil scene [r]) =
      LogMessage.describe { text := message } :=
    congrArg (fun r => (r.map Requirement.describe).getD "")
      (hheard.requirement?_eq (i := 0) (w := .message { text := message }) rfl)
  rw [waitUnder_of_silent hl (fun j hj => absurd hj (Nat.not_lt_zero j)) hlast, hdescribe, ht]

/-- A gate without time and without a grace period fails before a live log that it has not attached
    to yet; with a condition more that cannot be built it does not come to that. -/
theorem failing_start_at_once :
    let scene : Scene := { host := .liveWith [⟨.stdout, Utf8.encode "up\n"⟩] }
    let hasty : Gate := { container := "box", config := { waitTimeout := 0, shutdownGrace := 0 }
                          added := [.logMessage "up"], stdoutSink := some .capture }
    let broken : Gate := { hasty with added := [.logMessage "up", .httpPing "" none none] }
    broken.start? scene =
      some (.failed (.misconfigured (.invalidUrl "" .relative)), broken, scene) ∧
    ∃ s scene', hasty.start? scene =
        some (.failed (.timeout "box" "log message 'up'" (.ofMillis 0)), hasty.handOver.retire s,
          scene') ∧
      s.IsOff ∧ (hasty.handOver.retire s).isStarted = false := by
  intro scene hasty broken
  obtain ⟨hclock, hbroken, -, -⟩ := failing_start .clock broken scene rfl
  obtain ⟨hclock', -, hfails, hclosed⟩ := failing_start .clock hasty scene rfl
  rw [hclock] at hbroken
  rw [hclock'] at hfails hclosed
  have hw := waitUnder_of_waitTimeout_eq_zero hasty scene rfl "up"
  rw [show hasty.describe = "box" by decide] at hw
  have hstart : hasty.start? scene = some _ := start?_of_le (by decide) scene
  obtain ⟨-, hfailed⟩ := hfails [.heard (.message { text := "up" })] rfl
  obtain ⟨s, scene', he, hoff, -⟩ := hfailed _ _ hw hstart
  rw [he] at hstart
  refine ⟨?_, s, scene', hstart, hoff, (hclosed _ _ _ hstart).1⟩
  exact hbroken [.logMessage "up"] (.httpPing "" none none) [] _ rfl
    (fun b hb => WaitFor.build_of_isLog (by rw [List.mem_singleton.1 hb]; rfl)) (by decide)

end Readiness.Gate
