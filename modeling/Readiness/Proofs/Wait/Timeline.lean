import Readiness.Proofs.Wait.Rounds
import Readiness.Rehearsal

/-!
# The timeline of a wait

What a wait does to its condition is a matter of what the checks say, of the poll interval and of the
timeout, and happens at instants that these settle. To tell what it does, note is taken of it: in a
world with notes (`Noted`), every check of a condition and every release leaves a note
(`Condition.noted`), and nothing else changes (`Engine.run_noted`).

A wait makes its checks round by round, a poll interval apart (`Engine.round_noted`),

* up to the first that says something, or to the last round;
* or up to the pause in which it is cancelled (`Engine.run_of_cancelled`), unless it is over by then
  (`Engine.run_of_patient`).

Either way it then releases the condition, once. `Engine.run_timeline` puts this together.
-/

namespace Readiness

/-- What a wait does to a condition, and when. -/
inductive WaitEvent (τ : Type)
  | checked (tag : τ) (instant : Nat)
  | released (tag : τ) (instant : Nat)
  deriving DecidableEq, Repr

/-- A world with notes of what was done in it to conditions. -/
structure Noted (τ σ : Type) where
  world : σ
  events : List (WaitEvent τ) := []

variable {τ σ : Type} [Timed σ]

instance : Timed (Noted τ σ) where
  now n := Timed.now n.world
  pass d n := { n with world := Timed.pass d n.world }
  now_pass d n := Timed.now_pass d n.world

/-- The condition with note taken of it. -/
def Condition.noted (c : Condition σ) (tag : τ) : Condition (Noted τ σ) where
  check n :=
    ((c.check n.world).1,
      { world := (c.check n.world).2, events := n.events ++ [.checked tag (Timed.now n.world)] })
  describe n := c.describe n.world
  release n :=
    { world := c.release n.world, events := n.events ++ [.released tag (Timed.now n.world)] }

namespace Engine

variable {e : Engine} {c : Condition σ} {timeout : Nat} {description : String}

/-! ### Waits that may be cancelled -/

/-- A pause that would end by the instant of the cancellation is not cut short. -/
theorem pause_of_le {w : σ} {t : Nat} (h : Timed.now w + e.poll ≤ t) :
    e.pause (some t) w = (true, Timed.pass e.poll w) := by
  rw [pause, if_pos h]

/-- A pause that is cut short lasts up to the cut. -/
theorem pause_of_lt {w : σ} {t : Nat} (h : t < Timed.now w + e.poll) :
    e.pause (some t) w = (false, Timed.pass (t - Timed.now w) w) := by
  rw [pause, if_neg (Nat.not_le_of_lt h)]

variable (hc : ∀ w, Timed.now (c.check w).2 = Timed.now w)
include hc

/-- The wait goes on to every round that is due by the instant of the cancellation. -/
theorem pause_round {w : σ} {d k : Nat} (hd : k * e.poll ≤ d) {i : Nat} (hi : i < k) :
    e.pause (some (Timed.now w + d)) (c.check (e.round c w i)).2 = (true, e.round c w (i + 1)) := by
  refine pause_of_le ?_
  have h : (i + 1) * e.poll ≤ k * e.poll := Nat.mul_le_mul_right _ hi
  rw [hc, now_round hc, Nat.add_assoc, ← Nat.succ_mul]
  exact Nat.add_le_add_left (Nat.le_trans h hd) _

/-- A wait that is over when the cancellation comes is none the worse for it. -/
theorem run_of_patient {w : σ} {d k : Nat} (hk : k ≤ e.lastRound timeout)
    (hs : ∀ i < k, (c.check (e.round c w i)).1 = .ok false)
    (hl : k < e.lastRound timeout → (c.check (e.round c w k)).1 ≠ .ok false)
    (hd : k * e.poll ≤ d) :
    e.run c timeout description (some (Timed.now w + d)) w =
      e.run c timeout description none w := by
  have ht : ∀ i < k, i * e.poll < timeout := fun i hi =>
    mul_lt_of_lt_lastRound (Nat.lt_of_lt_of_le hi hk)
  rw [run, run, watch_of_goesOn hs ht fun i hi => pause_round hc hd hi, watch_of_silent hs ht, watch,
    watch]
  -- No pause follows the last check.
  rcases hck : c.check (e.round c w k) with ⟨_ | _ | _, w'⟩
  · rfl
  · have hlast : k = e.lastRound timeout :=
      Nat.le_antisymm hk (Nat.le_of_not_lt fun h => hl h (by rw [hck]))
    have hover : timeout ≤ k * e.poll := hlast ▸ e.le_lastRound_mul timeout
    simp only [if_pos hover]
  · rfl

/-- A wait that is not over by then is cancelled in the pause behind the last check that is due. -/
theorem run_of_cancelled {w : σ} {d j : Nat} (hd : d / e.poll = j) (hj : j < e.lastRound timeout)
    (hs : ∀ i ≤ j, (c.check (e.round c w i)).1 = .ok false) :
    e.run c timeout description (some (Timed.now w + d)) w =
      (.cancelled, c.release (Timed.pass (d - j * e.poll) (c.check (e.round c w j)).2)) := by
  have hle : j * e.poll ≤ d := hd ▸ Nat.div_mul_le_self d e.poll
  have hlt : d < j * e.poll + e.poll := by
    have h := Nat.lt_mul_div_succ d e.poll_pos
    rwa [hd, Nat.mul_succ, Nat.mul_comm] at h
  have hnow : Timed.now (c.check (e.round c w j)).2 = Timed.now w + j * e.poll := by
    rw [hc, now_round hc]
  have hpause := pause_of_lt (e := e) (w := (c.check (e.round c w j)).2) (t := Timed.now w + d)
    (by rw [hnow]; omega)
  rw [hnow, Nat.add_sub_add_left] at hpause
  rw [run, watch_of_goesOn (fun i hi => hs i (Nat.le_of_lt hi))
    (fun i hi => mul_lt_of_lt_lastRound (Nat.lt_trans hi hj)) (fun i hi => pause_round hc hle hi),
    watch]
  have hsj := hs j (Nat.le_refl j)
  rcases hck : c.check (e.round c w j) with ⟨r, w'⟩
  rw [hck] at hsj hpause
  cases hsj
  simp only [if_neg (Nat.not_le_of_lt (mul_lt_of_lt_lastRound hj)), hpause]

omit hc

/-! ### Notes -/

variable (tag : τ)

/-- To note a check changes nothing about it. -/
theorem check_of_noted {n n' : Noted τ σ} {r : Except Misconfiguration Bool}
    (h : (c.noted tag).check n = (r, n')) : c.check n.world = (r, n'.world) := by
  cases h
  rfl

theorem pause_of_noted {cancelAt : Option Nat} {n n' : Noted τ σ} {b : Bool}
    (h : e.pause cancelAt n = (b, n')) : e.pause cancelAt n.world = (b, n'.world) := by
  unfold pause at h ⊢
  cases cancelAt with
  | none => cases h; rfl
  | some t =>
    by_cases ht : Timed.now n.world + e.poll ≤ t
    · cases (if_pos (c := Timed.now n + e.poll ≤ t) ht).symm.trans h
      exact if_pos ht
    · cases (if_neg (c := Timed.now n + e.poll ≤ t) ht).symm.trans h
      exact if_neg ht

/-- Taking note changes nothing. -/
theorem watch_noted {cancelAt : Option Nat} {elapsed : Nat} (n : Noted τ σ) :
    Prod.map id Noted.world
        (e.watch (c.noted tag) timeout description cancelAt elapsed n) =
      e.watch c timeout description cancelAt elapsed n.world := by
  fun_induction watch e (c.noted tag) timeout description cancelAt elapsed n with
  | case1 elapsed n cause n' hck => rw [watch, check_of_noted tag hck]; rfl
  | case2 elapsed n n' hck => rw [watch, check_of_noted tag hck]; rfl
  | case3 elapsed n n' hck ht =>
    rw [watch, check_of_noted tag hck]
    simp only [if_pos ht]
    rfl
  | case4 elapsed n n' hck ht n'' hp =>
    rw [watch, check_of_noted tag hck]
    simp only [if_neg ht, pause_of_noted hp]
    rfl
  | case5 elapsed n n' hck ht n'' hp ih =>
    symm
    rw [watch, check_of_noted tag hck]
    simp only [if_neg ht, pause_of_noted hp]
    exact ih.symm

/-- To note a wait changes nothing about it. -/
theorem run_noted (cancelAt : Option Nat) (n : Noted τ σ) :
    Prod.map id Noted.world (e.run (c.noted tag) timeout description cancelAt n) =
      e.run c timeout description cancelAt n.world := by
  rw [run, run, ← watch_noted tag]
  rfl

/-- The checks of the first rounds, from an instant on. -/
def checks (e : Engine) (tag : τ) (start k : Nat) : List (WaitEvent τ) :=
  (List.range k).map fun i => .checked tag (start + i * e.poll)

theorem checks_succ (start k : Nat) :
    e.checks tag start (k + 1) = e.checks tag start k ++ [.checked tag (start + k * e.poll)] := by
  rw [checks, List.range_succ, List.map_append]
  rfl

/-- What the check of a round says. -/
def answer (e : Engine) (c : Condition σ) (w : σ) (k : Nat) : Except Misconfiguration Bool :=
  (c.check (e.round c w k)).1

/-- The world behind the check of a round. -/
def behind (e : Engine) (c : Condition σ) (w : σ) (k : Nat) : σ := (c.check (e.round c w k)).2

/-- No check before a round says anything but "not yet". -/
def IsSilent (e : Engine) (c : Condition σ) (w : σ) (k : Nat) : Prop :=
  ∀ i < k, e.answer c w i = .ok false

/-- A wait of which note is taken. -/
def runNoted (e : Engine) (c : Condition σ) (tag : τ) (timeout : Nat) (description : String)
    (cancelAt : Option Nat) (w : σ) : Outcome × Noted τ σ :=
  e.run (c.noted tag) timeout description cancelAt { world := w }

/-- How a wait of which note was taken came to an outcome: it made the checks of all rounds up to
    `last`, a poll interval apart, and then, `elapsed` after its start in `w`, released the condition,
    once, and that was all. -/
structure Finishes (e : Engine) (c : Condition σ) (tag : τ) (w : σ) (last elapsed : Nat) (o : Outcome)
    (r : Outcome × Noted τ σ) : Prop where
  outcome : r.1 = o
  events : r.2.events =
    e.checks tag (Timed.now w) (last + 1) ++ [.released tag (Timed.now w + elapsed)]
  world : ∃ w', Timed.now w' = Timed.now w + elapsed ∧ r.2.world = c.release w'

theorem finishes_of_eq {w : σ} {last elapsed : Nat} {o : Outcome} {r : Outcome × Noted τ σ}
    {n : Noted τ σ} (hr : r = (o, (c.noted tag).release n))
    (he : n.events = e.checks tag (Timed.now w) (last + 1))
    (hn : Timed.now n.world = Timed.now w + elapsed) : e.Finishes c tag w last elapsed o r := by
  subst hr
  refine ⟨rfl, ?_, n.world, hn, rfl⟩
  rw [← he, ← hn]
  rfl

include hc

/-- By a round, note has been taken of a check in each round before. -/
theorem round_noted (n : Noted τ σ) (k : Nat) :
    e.round (c.noted tag) n k =
      { world := e.round c n.world k
        events := n.events ++ e.checks tag (Timed.now n.world) k } := by
  induction k with
  | zero => rw [checks, List.range_zero, List.map_nil, List.append_nil]; rfl
  | succ k ih =>
    rw [round, ih, checks_succ, ← now_round hc, ← List.append_assoc]
    rfl

/-- A round that is noted is the round, with its checks noted. -/
theorem check_round_noted (n : Noted τ σ) (k : Nat) :
    (c.noted tag).check (e.round (c.noted tag) n k) =
      (e.answer c n.world k,
        { world := e.behind c n.world k
          events := n.events ++ e.checks tag (Timed.now n.world) (k + 1) }) := by
  rw [round_noted hc, checks_succ, ← now_round hc, ← List.append_assoc]
  rfl

/-- Each round begins a poll interval behind the one before. -/
theorem now_behind (w : σ) (k : Nat) :
    Timed.now (e.behind c w k) = Timed.now w + k * e.poll := by
  rw [behind, hc, now_round hc]

theorem finishes_of_round {w : σ} {k : Nat} {o : Outcome} {r : Outcome × Noted τ σ}
    (hr : r = (o, (c.noted tag).release
      ((c.noted tag).check (e.round (c.noted tag) { world := w } k)).2)) :
    e.Finishes c tag w k (k * e.poll) o r := by
  rw [check_round_noted hc] at hr
  exact finishes_of_eq tag hr rfl (now_behind hc w k)

/-- The wait for any condition whose checks take no time, whatever these say. The last round is the
    first at which the timeout has passed.

* If the first check that does not say "not yet" is that of round `k`, which is no later, the wait
  ends with what that says, `k` poll intervals after the start, even if the timeout has passed then.
* If there is none up to the last round, it ends with a timeout at that round, and shows the condition
  as it is then.
* If it is cancelled `d` milliseconds after the start, it ends then, in the pause behind the last
  check that was due; if it is over before, the cancellation changes nothing.

In each case it makes one check in every round up to the last and then releases the condition, once.
Taking note of that changes nothing. -/
theorem run_timeline (timeout : Nat) (description : String) (w : σ) :
    (timeout ≤ e.lastRound timeout * e.poll ∧ e.lastRound timeout * e.poll < timeout + e.poll) ∧
    (∀ k ≤ e.lastRound timeout, IsSilent e c w k →
      (e.answer c w k = .ok true →
        Finishes e c tag w k (k * e.poll) .ready
          (runNoted e c tag timeout description none w)) ∧
      ∀ cause, e.answer c w k = .error cause →
        Finishes e c tag w k (k * e.poll) (.failed (.misconfigured cause))
          (runNoted e c tag timeout description none w)) ∧
    (IsSilent e c w (e.lastRound timeout + 1) →
      Finishes e c tag w (e.lastRound timeout) (e.lastRound timeout * e.poll)
        (.failed (.timeout description (c.describe (e.behind c w (e.lastRound timeout)))
          (.ofMillis timeout)))
        (runNoted e c tag timeout description none w)) ∧
    (∀ d, d / e.poll < e.lastRound timeout → IsSilent e c w (d / e.poll + 1) →
      Finishes e c tag w (d / e.poll) d .cancelled
        (runNoted e c tag timeout description (some (Timed.now w + d)) w)) ∧
    (∀ d, ∀ k ≤ e.lastRound timeout, IsSilent e c w k →
      (k < e.lastRound timeout → e.answer c w k ≠ .ok false) → k * e.poll ≤ d →
      runNoted e c tag timeout description (some (Timed.now w + d)) w =
        runNoted e c tag timeout description none w) ∧
    ∀ cancelAt, Prod.map id Noted.world (runNoted e c tag timeout description cancelAt w) =
      e.run c timeout description cancelAt w := by
  have hcn : ∀ n : Noted τ σ, Timed.now ((c.noted tag).check n).2 = Timed.now n := fun n =>
    hc n.world
  -- A check says the same whether note is taken of it or not.
  have hanswer : ∀ k, ((c.noted tag).check (e.round (c.noted tag) { world := w } k)).1 =
      e.answer c w k := fun k => congrArg Prod.fst (check_round_noted hc tag { world := w } k)
  have hsilent : ∀ {k}, IsSilent e c w k → ∀ i < k,
      ((c.noted tag).check (e.round (c.noted tag) { world := w } i)).1 = .ok false :=
    fun hs i hi => (hanswer i).trans (hs i hi)
  refine ⟨⟨e.le_lastRound_mul timeout, e.lastRound_mul_lt timeout⟩, fun k hk hs => ⟨fun hr => ?_,
    fun cause hr => ?_⟩, fun hs => ?_, fun d hd hs => ?_, fun d k hk hs hl hd => ?_,
    fun cancelAt => run_noted tag cancelAt _⟩
  · exact finishes_of_round hc tag
      (run_of_decided hk (hsilent hs) (congrArg decided? ((hanswer k).trans hr)))
  · exact finishes_of_round hc tag
      (run_of_decided hk (hsilent hs) (congrArg decided? ((hanswer k).trans hr)))
  · have hdescribe : (c.noted tag).describe
        ((c.noted tag).check (e.round (c.noted tag) { world := w } (e.lastRound timeout))).2 =
          c.describe (e.behind c w (e.lastRound timeout)) := by
      rw [check_round_noted hc]
      rfl
    rw [← hdescribe]
    exact finishes_of_round hc tag (run_of_silent fun i hi => hsilent hs i (Nat.lt_succ_of_le hi))
  · have hr : runNoted e c tag timeout description (some (Timed.now w + d)) w = _ :=
      run_of_cancelled hcn rfl hd fun i hi => hsilent hs i (Nat.lt_succ_of_le hi)
    rw [check_round_noted hc] at hr
    refine finishes_of_eq tag hr rfl ?_
    -- The pause is cut short at `d`, counted from the start.
    calc Timed.now (Timed.pass (d - d / e.poll * e.poll) (e.behind c w (d / e.poll)))
      _ = Timed.now w + d / e.poll * e.poll + (d - d / e.poll * e.poll) := by
        rw [Timed.now_pass, now_behind hc]
      _ = Timed.now w + d := by
        rw [Nat.add_assoc, Nat.add_sub_of_le (Nat.div_mul_le_self d e.poll)]
  · exact run_of_patient hcn hk (hsilent hs) (fun h => (hanswer k).symm ▸ hl h) hd

end Engine

/-- A check by a condition on trial takes no time. -/
theorem Trial.now_check (i : Nat) (t : Trial) :
    Timed.now ((Trial.condition i).check t).2 = Timed.now t := by
  dsimp only [condition]
  split <;> rfl

/-- Two waits for at most 10 milliseconds, with 7 milliseconds between two checks: one for a condition
    that holds at the third check, when the time is over, and one for a condition that never holds,
    which is cancelled after 10 milliseconds, before the third check. -/
theorem Engine.run_timeline_threeRounds :
    let e : Engine := ⟨7, by decide⟩
    let late : Trial := { stands := [.counter { name := "late", readyOn := some 3 }] }
    let never : Trial := { stands := [.counter { name := "never" }] }
    let run := e.runNoted (Trial.condition 0) () 10 "wait"
    ((run none late).1 = .ready ∧
      (run none late).2.events =
        [.checked () 0, .checked () 7, .checked () 14, .released () 14]) ∧
    ((run none never).1 = .failed (.timeout "wait" "never after 3 checks" (.ofMillis 10)) ∧
      (run none never).2.events =
        [.checked () 0, .checked () 7, .checked () 14, .released () 14]) ∧
    ((run (some 10) never).1 = .cancelled ∧
      (run (some 10) never).2.events = [.checked () 0, .checked () 7, .released () 10]) := by
  intro e late never run
  have hlate : e.IsSilent (Trial.condition 0) late 2
    | 0, _ => rfl
    | 1, _ => rfl
  have hnever : e.IsSilent (Trial.condition 0) never 3
    | 0, _ => rfl
    | 1, _ => rfl
    | 2, _ => rfl
  have hlast : e.lastRound 10 = 2 := by decide
  have hdue : 10 / e.poll = 1 := by decide
  have hshown : (Trial.condition 0).describe (e.behind (Trial.condition 0) never 2) =
    "never after 3 checks" := by decide
  obtain ⟨-, hends, -⟩ :=
    Engine.run_timeline (e := e) (Trial.now_check 0) () 10 "wait" late
  obtain ⟨-, -, htimeout, hcancelled, -⟩ :=
    Engine.run_timeline (e := e) (Trial.now_check 0) () 10 "wait" never
  have hready := (hends 2 (by decide) hlate).1 rfl
  have htimeout := htimeout (by rwa [hlast])
  have hcancelled := hcancelled 10 (by decide) fun i hi => hnever i (by omega)
  rw [hlast, hshown] at htimeout
  rw [hdue] at hcancelled
  exact ⟨⟨hready.outcome, hready.events⟩, ⟨htimeout.outcome, htimeout.events⟩,
    hcancelled.outcome, hcancelled.events⟩

end Readiness
