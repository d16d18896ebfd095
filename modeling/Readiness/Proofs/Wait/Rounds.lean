import Readiness.Wait.Engine

/-!
# The rounds of a wait

A wait that is not cancelled checks its condition round by round, a poll interval apart
(`Engine.round`, `Engine.now_round`). Checks that do not hold only lead to the next round, for as
long as there is time (`Engine.watch_of_silent`), up to a last one (`Engine.lastRound`). So a wait
ends at the first check that decides something (`Engine.run_of_decided`) or, if none does, at the last
(`Engine.run_of_silent`).

Conditions in a list are waited for in order, and what one wait leaves behind is where the next
begins (`Engine.runAll_append`, `Engine.runAll_of_ready`).
-/

namespace Readiness

/-- Among the first numbers one is the first that has a property, or none has it. -/
theorem first_lt_or_none (P : Nat → Prop) (n : Nat) :
    (∃ k < n, (∀ i < k, ¬ P i) ∧ P k) ∨ ∀ i < n, ¬ P i := by
  induction n with
  | zero => exact .inr nofun
  | succ n ih =>
    rcases ih with ⟨k, hk, hfirst⟩ | hnone
    · exact .inl ⟨k, Nat.lt_succ_of_lt hk, hfirst⟩
    · by_cases hn : P n
      · exact .inl ⟨n, Nat.lt_succ_self n, hnone, hn⟩
      · exact .inr (Nat.forall_lt_succ_right.2 ⟨hnone, hn⟩)

end Readiness

namespace Readiness.Engine

variable {σ : Type} [Timed σ] {e : Engine} {c : Condition σ} {timeout : Nat} {description : String}

/-- The world at a check, counted from 0, if those before it did not hold. -/
def round (e : Engine) (c : Condition σ) (w : σ) : Nat → σ
  | 0 => w
  | k + 1 => Timed.pass e.poll (c.check (round e c w k)).2

/-- Rounds are a poll interval apart, where checks take no time. -/
theorem now_round (hc : ∀ w, Timed.now (c.check w).2 = Timed.now w) (w : σ) (k : Nat) :
    Timed.now (e.round c w k) = Timed.now w + k * e.poll := by
  induction k with
  | zero => simp [round]
  | succ k ih =>
    rw [round, Timed.now_pass, hc, ih, Nat.succ_mul]
    omega

/-- The round that is the last one if no check holds. -/
def lastRound (e : Engine) (timeout : Nat) : Nat := (timeout + (e.poll - 1)) / e.poll

/-- At the last round the time is over. -/
theorem le_lastRound_mul (e : Engine) (timeout : Nat) : timeout ≤ e.lastRound timeout * e.poll := by
  have hp := e.poll_pos
  have hd := Nat.div_add_mod (timeout + (e.poll - 1)) e.poll
  have hm := Nat.mod_lt (timeout + (e.poll - 1)) hp
  rw [Nat.mul_comm] at hd
  change timeout ≤ (timeout + (e.poll - 1)) / e.poll * e.poll
  omega

/-- The last round is the first at which it is. -/
theorem lastRound_mul_lt (e : Engine) (timeout : Nat) :
    e.lastRound timeout * e.poll < timeout + e.poll := by
  have hp := e.poll_pos
  have h : e.lastRound timeout * e.poll ≤ timeout + (e.poll - 1) := Nat.div_mul_le_self _ _
  omega

/-- Before the last round it is not. -/
theorem mul_lt_of_lt_lastRound {i : Nat} (hi : i < e.lastRound timeout) : i * e.poll < timeout := by
  have hp := e.poll_pos
  have hmul : (i + 1) * e.poll ≤ timeout + (e.poll - 1) := (Nat.le_div_iff_mul_le hp).1 hi
  rw [Nat.succ_mul] at hmul
  omega

/-- With time to wait there is a round behind the first. -/
theorem lastRound_pos (ht : 0 < timeout) : 0 < e.lastRound timeout := by
  have h := e.le_lastRound_mul timeout
  rcases Nat.eq_zero_or_pos (e.lastRound timeout) with hz | hp
  · rw [hz, Nat.zero_mul] at h
    omega
  · exact hp

/-- Checks that do not hold lead from round to round, as long as there is time and no pause is cut
    short. -/
theorem watch_of_goesOn {cancelAt : Option Nat} {w : σ} {k : Nat}
    (hs : ∀ i < k, (c.check (e.round c w i)).1 = .ok false) (ht : ∀ i < k, i * e.poll < timeout)
    (hg : ∀ i < k, e.pause cancelAt (c.check (e.round c w i)).2 = (true, e.round c w (i + 1))) :
    e.watch c timeout description cancelAt 0 w =
      e.watch c timeout description cancelAt (k * e.poll) (e.round c w k) := by
  induction k with
  | zero => rw [Nat.zero_mul]; rfl
  | succ k ih =>
    rw [ih (fun i hi => hs i (Nat.lt_succ_of_lt hi)) (fun i hi => ht i (Nat.lt_succ_of_lt hi))
      (fun i hi => hg i (Nat.lt_succ_of_lt hi)), watch]
    -- Round `k` does not hold and is not the last, so the wait pauses before the next.
    have hk := hs k (Nat.lt_succ_self k)
    have htk := ht k (Nat.lt_succ_self k)
    have hgk := hg k (Nat.lt_succ_self k)
    rcases hc : c.check (e.round c w k) with ⟨r, w'⟩
    rw [hc] at hk hgk
    cases hk
    simp only [if_neg (Nat.not_le_of_lt htk), hgk, Nat.succ_mul]

/-- No pause of a wait that is not cancelled is cut short. -/
theorem watch_of_silent {w : σ} {k : Nat}
    (hs : ∀ i < k, (c.check (e.round c w i)).1 = .ok false) (ht : ∀ i < k, i * e.poll < timeout) :
    e.watch c timeout description none 0 w =
      e.watch c timeout description none (k * e.poll) (e.round c w k) :=
  watch_of_goesOn hs ht fun _ _ => rfl

/-- What the answer to a check makes of a wait: it ends, unless the condition does not hold yet. -/
def decided? : Except Misconfiguration Bool → Option Outcome
  | .error cause => some (.failed (.misconfigured cause))
  | .ok true => some .ready
  | .ok false => none

/-- A wait ends at the first check whose answer decides, if the time is not over before. -/
theorem run_of_decided {w : σ} {k : Nat} {o : Outcome} (hk : k ≤ e.lastRound timeout)
    (hs : ∀ i < k, (c.check (e.round c w i)).1 = .ok false)
    (hd : decided? (c.check (e.round c w k)).1 = some o) :
    e.run c timeout description none w = (o, c.release (c.check (e.round c w k)).2) := by
  have ht : ∀ i < k, i * e.poll < timeout := fun i hi =>
    mul_lt_of_lt_lastRound (Nat.lt_of_lt_of_le hi hk)
  rw [run, watch_of_silent hs ht, watch]
  rcases hc : c.check (e.round c w k) with ⟨cause | _ | _, w'⟩
  · rw [hc] at hd
    cases hd
    rfl
  · rw [hc] at hd
    cases hd
  · rw [hc] at hd
    cases hd
    rfl

/-- A wait in which no check holds ends at the last round, with the condition as it is then. -/
theorem run_of_silent {w : σ}
    (hs : ∀ i ≤ e.lastRound timeout, (c.check (e.round c w i)).1 = .ok false) :
    let w' := (c.check (e.round c w (e.lastRound timeout))).2
    e.run c timeout description none w =
      (.failed (.timeout description (c.describe w') (.ofMillis timeout)), c.release w') := by
  have hl := hs _ (Nat.le_refl _)
  rcases hc : c.check (e.round c w (e.lastRound timeout)) with ⟨r, w'⟩
  rw [hc] at hl
  cases hl
  rw [run, watch_of_silent (fun i hi => hs i (Nat.le_of_lt hi)) fun i => mul_lt_of_lt_lastRound,
    watch, hc]
  simp only [if_pos (e.le_lastRound_mul timeout)]

/-! ## How a wait ends -/

/-- What a wait that is not cancelled comes to by its last check, made in a world. -/
inductive Ends (c : Condition σ) (timeout : Nat) (description : String) (w : σ) : Outcome → Prop
  | ready : (c.check w).1 = .ok true → Ends c timeout description w .ready
  | misconfigured {cause : Misconfiguration} : (c.check w).1 = .error cause →
      Ends c timeout description w (.failed (.misconfigured cause))
  | timeout : (c.check w).1 = .ok false →
      Ends c timeout description w
        (.failed (.timeout description (c.describe (c.check w).2) (.ofMillis timeout)))

/-- What a check and a pause keep holds at the last check of a wait. -/
theorem watch_ends {P : σ → Prop} (hcheck : ∀ w, P w → P (c.check w).2)
    (hpass : ∀ d w, P w → P (Timed.pass d w)) {elapsed : Nat} {w : σ} (hw : P w) :
    ∃ w', P w' ∧ Ends c timeout description w' (e.watch c timeout description none elapsed w).1 ∧
      (e.watch c timeout description none elapsed w).2 = (c.check w').2 := by
  fun_induction watch e c timeout description none elapsed w with
  | case1 elapsed w cause w' hc => exact ⟨w, hw, .misconfigured (by rw [hc]), by rw [hc]⟩
  | case2 elapsed w w' hc => exact ⟨w, hw, .ready (by rw [hc]), by rw [hc]⟩
  | case3 elapsed w w' hc ht =>
    refine ⟨w, hw, ?_, by rw [hc]⟩
    have h : Ends c timeout description w _ := .timeout (by rw [hc])
    rwa [hc] at h
  | case4 elapsed w w' hc ht w'' hp => cases hp -- No pause is cut short.
  | case5 elapsed w w' hc ht w'' hp ih =>
    cases hp
    have h := hcheck w hw
    rw [hc] at h
    exact ih (hpass _ _ h)

/-- A wait ends with a check in a state that has whatever checks and pauses preserve. -/
theorem run_ends {P : σ → Prop} (hcheck : ∀ w, P w → P (c.check w).2)
    (hpass : ∀ d w, P w → P (Timed.pass d w)) {w : σ} (hw : P w) :
    ∃ w', P w' ∧ Ends c timeout description w' (e.run c timeout description none w).1 ∧
      (e.run c timeout description none w).2 = c.release (c.check w').2 := by
  obtain ⟨w', hw', he, hs⟩ : ∃ w', P w' ∧
      Ends c timeout description w' (e.watch c timeout description none 0 w).1 ∧
      (e.watch c timeout description none 0 w).2 = (c.check w').2 := watch_ends hcheck hpass hw
  exact ⟨w', hw', he, congrArg c.release hs⟩

/-- A wait that is not over before a round ends at that round or a later one, the last at the latest. -/
theorem run_ends_from {w : σ} {k : Nat} (hk : k ≤ e.lastRound timeout)
    (hs : ∀ i < k, (c.check (e.round c w i)).1 = .ok false) :
    ∃ j ≤ e.lastRound timeout,
      Ends c timeout description (e.round c w j) (e.run c timeout description none w).1 ∧
      (e.run c timeout description none w).2 = c.release (c.check (e.round c w j)).2 := by
  rcases hck : (c.check (e.round c w k)).1 with cause | _ | _
  · rw [run_of_decided hk hs (congrArg decided? hck)]
    exact ⟨k, hk, .misconfigured hck, rfl⟩
  · -- It ends by the next round if there is one.
    have hs' : ∀ i < k + 1, (c.check (e.round c w i)).1 = .ok false := fun i hi =>
      (Nat.lt_succ_iff_lt_or_eq.1 hi).elim (hs i) fun h => h ▸ hck
    rcases Nat.lt_or_eq_of_le hk with hlt | rfl
    · exact run_ends_from hlt hs'
    · rw [run_of_silent fun i hi => hs' i (Nat.lt_succ_of_le hi)]
      exact ⟨_, hk, .timeout hck, rfl⟩
  · rw [run_of_decided hk hs (congrArg decided? hck)]
    exact ⟨k, hk, .ready hck, rfl⟩
termination_by e.lastRound timeout - k

/-! ## Conditions in a list -/

/-- Waiting for conditions and then for more. -/
theorem runAll_append (cancelAt : Option Nat) (cs ds : List (Condition σ)) (w : σ) :
    e.runAll timeout description cancelAt (cs ++ ds) w =
      match e.runAll timeout description cancelAt cs w with
      | (.ready, w) => e.runAll timeout description cancelAt ds w
      | r => r := by
  induction cs generalizing w with
  | nil => rfl
  | cons c cs ih =>
    rw [List.cons_append, runAll, runAll]
    rcases e.run c timeout description cancelAt w with ⟨o, w'⟩
    cases o with
    | ready => exact ih w'
    | _ => rfl

/-- How a wait for conditions ends, where `P i` holds whenever it is the turn of the condition at `i`:
    well, behind the last of them, or with the failure of one, by its last check. -/
theorem runAll_ends {P : Nat → σ → Prop} {cs : List (Condition σ)}
    (hpass : ∀ i d w, P i w → P i (Timed.pass d w))
    (hcheck : ∀ i c, cs[i]? = some c → ∀ w, P i w → P i (c.check w).2)
    (hready : ∀ i c, cs[i]? = some c → ∀ w, P i w → (c.check w).1 = .ok true →
      P (i + 1) (c.release (c.check w).2)) {w : σ} (hw : P 0 w) :
    (∃ w', e.runAll timeout description none cs w = (.ready, w') ∧ P cs.length w') ∨
      ∃ i c w' error, cs[i]? = some c ∧ P i w' ∧ Ends c timeout description w' (.failed error) ∧
        e.runAll timeout description none cs w = (.failed error, c.release (c.check w').2) := by
  induction cs generalizing P w with
  | nil => exact .inl ⟨w, rfl, hw⟩
  | cons c cs ih =>
    obtain ⟨w', hw', he, hs⟩ : ∃ w', P 0 w' ∧
        Ends c timeout description w' (e.run c timeout description none w).1 ∧
        (e.run c timeout description none w).2 = c.release (c.check w').2 :=
      run_ends (hcheck 0 c rfl) (hpass 0) hw
    rcases hr : e.run c timeout description none w with ⟨o, w''⟩
    rw [hr] at he hs
    cases hs
    rw [runAll, hr]
    cases he with
    | ready hc =>
      -- It is the turn of the next condition.
      rcases ih (P := fun i => P (i + 1)) (fun i => hpass (i + 1)) (fun i => hcheck (i + 1))
        (fun i => hready (i + 1)) (hready 0 c rfl w' hw' hc) with h | ⟨i, h⟩
      · exact .inl h
      · exact .inr ⟨i + 1, h⟩
    | misconfigured hc => exact .inr ⟨0, c, w', _, rfl, hw', .misconfigured hc, rfl⟩
    | timeout hc => exact .inr ⟨0, c, w', _, rfl, hw', .timeout hc, rfl⟩

/-- Conditions of which each is waited for well, wherever the ones before it have led. -/
theorem runAll_of_ready {cancelAt : Option Nat} {P : σ → Prop} {cs : List (Condition σ)}
    (h : ∀ c ∈ cs, ∀ w, P w →
      ∃ w', e.run c timeout description cancelAt w = (.ready, w') ∧ P w') {w : σ} (hw : P w) :
    ∃ w', e.runAll timeout description cancelAt cs w = (.ready, w') ∧ P w' := by
  induction cs generalizing w with
  | nil => exact ⟨w, rfl, hw⟩
  | cons c cs ih =>
    obtain ⟨w', hr, hw'⟩ := h c List.mem_cons_self w hw
    obtain ⟨w'', hr', hw''⟩ := ih (fun d hd => h d (List.mem_cons_of_mem c hd)) hw'
    exact ⟨w'', by rw [runAll, hr]; exact hr', hw''⟩

end Readiness.Engine
