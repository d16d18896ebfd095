import Readiness.Proofs.Gate.Capacity
import Readiness.Proofs.Gate.Verdict
import Readiness.Proofs.Wait.Turns

/-!
# Turns before a gate

A gate waits for its conditions in turn, as every wait for a list of conditions does: neither a check
of one nor its release takes time (`Vigil.isInstant_condition`). How long it may take is a matter of
the timeout, of the poll interval and of how many turns there are. The poll interval of a
configuration that was read from a source is the one that was set, and never zero
(`Settings.bounded_config`); a command on top leaves it alone. So every start that is not fatal comes
to an end, and one that succeeds within that time (`Gate.start_in_turn`).
-/

namespace Readiness

/-- Neither a check of a requirement nor its release takes time. -/
theorem Vigil.isInstant_condition (container : String) (i : Nat) :
    (condition container i).IsInstant :=
  ⟨fun v => (checks_check container i v).now, fun _ => rfl⟩

namespace Gate

variable {g : Gate} {scene : Scene} {rs : List Requirement}

/-- No check of a condition takes time. -/
theorem isInstant_conditions (v : Vigil) :
    ∀ c ∈ v.conditions g.container, c.IsInstant := by
  intro c hc
  obtain ⟨i, -, rfl⟩ := List.mem_map.1 hc
  exact Vigil.isInstant_condition g.container i

theorem conditions_ne_nil {v : Vigil} (h : v.requirements ≠ []) : v.conditions g.container ≠ [] := by
  rw [Vigil.conditions, ne_eq, List.map_eq_nil_iff, List.range_eq_nil, List.length_eq_zero_iff]
  exact h

/-- How conditions are waited for in turn.

* A wait for at least one condition goes in turn, whatever the checks say and do, as long as neither
  they nor the releases take time. Taking note of it changes nothing.
* In a configuration that was read from a source, with or without a command on top, the poll interval
  is the one that was set, or else the usual one, and never zero.
* So a gate with such a configuration waits in turn. To start it is fatal if the buffer is too great
  for a queue, and only then. Else its start ends as the wait does, and at the same instant if that is
  well. -/
theorem start_in_turn :
    (∀ {σ : Type} [Timed σ] (e : Engine) (cs : List (Condition σ)) (timeout : Nat)
      (description : String) (w : σ), cs ≠ [] → (∀ c ∈ cs, c.IsInstant) →
      (∃ n, e.InTurn cs timeout description w n (e.runAllNoted cs timeout description w)) ∧
      Prod.map id Noted.world (e.runAllNoted cs timeout description w) =
        e.runAll timeout description none cs w) ∧
    ∀ (source : Config.Source) (c : Config) (g : Gate), source.config = .ok c →
      (g.config = c ∨ ∃ a : Command.WaitArgs, g.config = a.apply c) →
      (∃ s, source.settings = .ok s ∧ s.pollIntervalMs ≠ some 0 ∧
        g.config.engine.poll = s.pollIntervalMs.getD 50 ∧ 0 < g.config.engine.poll) ∧
      ∀ scene rs, g.session = none → g.requirements = .ok rs → rs ≠ [] →
        let v := g.vigil scene rs
        let e := g.config.engine
        let cs := v.conditions g.container
        let timeout := g.config.waitTimeout
        (g.start? scene = none ↔ Splitter.maxCapacity < g.config.logBuffer) ∧
        ∃ n, e.InTurn cs timeout g.describe v n (e.runAllNoted cs timeout g.describe v) ∧
          ∀ o g' scene', g.start? scene = some (o, g', scene') →
            o = (e.runAllNoted cs timeout g.describe v).1 ∧
            (o = .ready → scene'.now < scene.now + n * (timeout + e.poll)) := by
  refine ⟨fun e cs timeout description w hne hc =>
    ⟨Engine.exists_inTurn hc hne timeout description w, Engine.runAll_noted cs id _⟩,
    fun source c g hsource hg => ⟨?_, fun scene rs hs hb hne => ?_⟩⟩
  · rw [Config.Source.config_eq] at hsource
    obtain ⟨s, hset, hconfig⟩ := bind_eq_ok_iff.1 hsource
    have hpoll : g.config.engine.poll = s.pollIntervalMs.getD 50 := by
      rw [← (Settings.bounded_config hconfig).2]
      obtain hg | ⟨a, hg⟩ := hg
      · rw [hg]; rfl
      · -- A command leaves the poll interval alone.
        rw [hg]; rfl
    have hpos := g.config.engine.poll_pos
    refine ⟨s, hset, fun hzero => ?_, hpoll, hpos⟩
    rw [hpoll, hzero] at hpos
    exact Nat.lt_irrefl 0 hpos
  · intro v e cs timeout
    obtain ⟨n, hn⟩ :=
      Engine.exists_inTurn (isInstant_conditions v) (conditions_ne_nil hne) timeout g.describe v
    have hrun : Prod.map id Noted.world (e.runAllNoted cs timeout g.describe v) =
        g.waitForFirst rs.length v := Engine.runAll_noted cs id _
    refine ⟨start?_eq_none_iff_of_requirements hs hb, n, hn, fun o g' scene' hstart => ?_⟩
    have he : (o, g', scene') = g.start scene := eq_start_of_start? hstart
    have ho : o = (g.waitForFirst rs.length v).1 := (congrArg Prod.fst he).trans (start_fst hs hb)
    refine ⟨ho.trans (congrArg Prod.fst hrun).symm, fun hr => ?_⟩
    have hscene : scene' = (g.start scene).2.2 := congrArg (·.2.2) he
    rw [hscene, scene_start_of_ready hs hb (ho.symm.trans hr)]
    have hlt := hn.now_lt
    have hworld : (e.runAllNoted cs timeout g.describe v).2.world = (g.waitForFirst rs.length v).2 :=
      congrArg Prod.snd hrun
    rw [hworld] at hlt
    exact hlt

/-- Three conditions, of which the first holds at its second check and the second is found
    misconfigured at its first, so that the third has no turn; and a gate with one condition, which
    has seven milliseconds between two checks. -/
theorem start_in_turn_secondFails :
    (let e : Engine := ⟨7, by decide⟩
     let t : Trial := { stands := [.counter { name := "first", readyOn := some 2 },
       .counter { name := "second", failOn := some 1 }, .counter { name := "third" }] }
     let r := e.runAllNoted t.conditions 10 "wait" t
     e.InTurn t.conditions 10 "wait" t 2 r ∧
       r.1 = .failed (.misconfigured (.stated "check 1 of second")) ∧
       r.2.events =
         [.checked 0 0, .checked 0 7, .released 0 7, .checked 1 7, .released 1 7]) ∧
    ∃ c, Config.ofEnvironment (.ofList [("DOCKER_READY_POLL_INTERVAL_MS", "7")]) = .ok c ∧
      c.engine.poll = 7 ∧
      let g : Gate := { container := "box", config := c, added := [.logMessage "up"] }
      ∀ scene, ∃ o g' scene', g.start? scene = some (o, g', scene') ∧
        (o = .ready → scene'.now < scene.now + 10007) := by
  obtain ⟨hengine, hgate⟩ := start_in_turn
  refine ⟨?_, ?_⟩
  · intro e t r
    have hinstant : ∀ c ∈ t.conditions, c.IsInstant := by
      intro c hc
      obtain ⟨i, -, rfl⟩ := List.mem_map.1 hc
      exact ⟨Trial.now_check i, fun _ => rfl⟩
    obtain ⟨⟨n, hn⟩, -⟩ := hengine e t.conditions 10 "wait" t (by decide) hinstant
    have hfirst : (e.waitAt t.conditions 10 "wait" t 0).1 = .ready := by decide +kernel
    have hsecond : (e.waitAt t.conditions 10 "wait" t 1).1 ≠ .ready := by decide +kernel
    have ho : r.1 = .failed (.misconfigured (.stated "check 1 of second")) := by decide +kernel
    have hends := hn.ends
    rw [ho] at hends
    have hturns : n = 2 := by
      cases hends with
      | @failed i _ hi hbefore hf =>
        have hlt : ¬ 1 < i := fun h => hsecond (hbefore 1 h)
        have hne : i ≠ 0 := fun h => by rw [h, hfirst] at hf; cases hf
        omega
    exact ⟨hturns ▸ hn, ho, by decide +kernel⟩
  · have hc : Config.ofEnvironment (.ofList [("DOCKER_READY_POLL_INTERVAL_MS", "7")]) =
        .ok { pollInterval := 7 } := rfl
    refine ⟨_, hc, rfl, ?_⟩
    intro g scene
    obtain ⟨-, hstart⟩ := hgate (.environment _) _ g hc (.inl rfl)
    obtain ⟨-, n, hn, hends⟩ :=
      hstart scene [.heard (.message { text := "up" })] rfl rfl (List.cons_ne_nil _ _)
    have hone : n ≤ 1 := hn.le_length
    have hgiven : g.start? scene = some _ := start?_of_le (by decide) scene
    refine ⟨_, _, _, hgiven, fun hr => ?_⟩
    obtain ⟨-, hlt⟩ := hends _ _ _ hgiven
    exact Nat.lt_of_lt_of_le (hlt hr) (Nat.add_le_add_left (Nat.mul_le_mul_right 10007 hone) _)

end Gate

end Readiness
