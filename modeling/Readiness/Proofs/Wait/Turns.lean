import Mathlib.Logic.Basic
import Readiness.Proofs.Wait.Timeline

/-!
# Waits that take turns

Conditions in a list are waited for in turn. A turn begins in the world that the one before it left
behind (`Engine.turn`), at the very instant at which that one ended; in it the condition is checked
round by round and then released, once (`Engine.window`).

It is everybody's turn if all waits end well. A wait that does not is the last: it decides the outcome,
and the conditions behind it are neither checked nor released. As every turn is shorter than the
timeout and a poll interval together, all of them are shorter than as many times that
(`Engine.exists_inTurn`).

Neither checks nor releases take time here (`Condition.IsInstant`), whatever else they do.
-/

namespace Readiness

variable {τ σ : Type} [Timed σ]

/-- Neither a check of the condition nor its release takes time. -/
structure Condition.IsInstant (c : Condition σ) : Prop where
  check : ∀ w, Timed.now (c.check w).2 = Timed.now w
  release : ∀ w, Timed.now (c.release w) = Timed.now w

namespace Engine

/-- What happens to a condition in its turn: checks, a poll interval apart, up to the end of the turn,
    and there its release. -/
def window (e : Engine) (tag : τ) (start finish : Nat) : List (WaitEvent τ) :=
  e.checks tag start ((finish - start) / e.poll + 1) ++ [.released tag finish]

/-- The conditions with note taken of them, each under its place in the list. -/
def notedAll (cs : List (Condition σ)) : List (Condition (Noted Nat σ)) :=
  cs.mapIdx fun i c => c.noted i

section Definitions

variable (e : Engine) (cs : List (Condition σ)) (timeout : Nat) (description : String) (w : σ)

/-- The world in which a turn begins, counted from 0, if those before it are taken. -/
def turn (i : Nat) : σ := (cs.take i).foldl (fun w c => (e.run c timeout description none w).2) w

/-- The wait for the condition whose turn it is; behind the last one there is nothing to wait for. -/
def waitAt (i : Nat) : Outcome × σ :=
  let w := e.turn cs timeout description w i
  (cs[i]?).elim (.ready, w) fun c => e.run c timeout description none w

/-- What happens in a turn, which lasts until the next begins. -/
def turnEvents (i : Nat) : List (WaitEvent Nat) :=
  e.window i (Timed.now (e.turn cs timeout description w i))
    (Timed.now (e.turn cs timeout description w (i + 1)))

/-- A wait for conditions in turn, of which note is taken. -/
def runAllNoted : Outcome × Noted Nat σ :=
  e.runAll timeout description none (notedAll cs) { world := w }

/-- How many turns there are, and the outcome: everybody has a turn if all waits end well, and the
    first wait that fails is the last turn. -/
inductive TurnsEnd : Nat → Outcome → Prop
  | ready : (∀ i < cs.length, (e.waitAt cs timeout description w i).1 = .ready) →
      TurnsEnd cs.length .ready
  | failed {i : Nat} {error : WaitError} : i < cs.length →
      (∀ j < i, (e.waitAt cs timeout description w j).1 = .ready) →
      (e.waitAt cs timeout description w i).1 = .failed error → TurnsEnd (i + 1) (.failed error)

/-- How a wait went in which the first `n` conditions of a list had their turn, and no other. -/
structure InTurn (n : Nat) (r : Outcome × Noted Nat σ) : Prop where
  pos : 0 < n
  le_length : n ≤ cs.length
  ends : e.TurnsEnd cs timeout description w n r.1
  /-- What happens to the conditions happens in their turns, one after the other. -/
  events : r.2.events = (List.range n).flatMap (e.turnEvents cs timeout description w)
  lapse : ∀ i < n, ∃ k ≤ e.lastRound timeout,
    Timed.now (e.turn cs timeout description w (i + 1)) =
      Timed.now (e.turn cs timeout description w i) + k * e.poll
  world : r.2.world = e.turn cs timeout description w n
  now_lt : Timed.now r.2.world < Timed.now w + n * (timeout + e.poll)

end Definitions

variable {e : Engine} {c : Condition σ} {cs : List (Condition σ)} {timeout : Nat}
  {description : String} {w : σ} {i n : Nat}

/-! ### One turn -/

/-- A wait that is not cancelled ends well or fails. -/
theorem run_ready_or_failed (c : Condition σ) (timeout : Nat) (description : String) (w : σ) :
    (e.run c timeout description none w).1 = .ready ∨
      ∃ error, (e.run c timeout description none w).1 = .failed error := by
  obtain ⟨k, -, he, -⟩ : ∃ k ≤ e.lastRound timeout,
      Ends c timeout description (e.round c w k) (e.run c timeout description none w).1 ∧ _ :=
    run_ends_from (Nat.zero_le _) nofun
  generalize (e.run c timeout description none w).1 = o at he
  cases he <;> simp

/-- A wait takes as many poll intervals as there are rounds behind the first. -/
theorem now_run (hc : c.IsInstant) (timeout : Nat) (description : String) (w : σ) :
    ∃ k ≤ e.lastRound timeout,
      Timed.now (e.run c timeout description none w).2 = Timed.now w + k * e.poll := by
  obtain ⟨k, hk, -, hw⟩ : ∃ k ≤ e.lastRound timeout, _ ∧
      (e.run c timeout description none w).2 = c.release (c.check (e.round c w k)).2 :=
    run_ends_from (Nat.zero_le _) nofun
  exact ⟨k, hk, by rw [hw, hc.release, hc.check, now_round hc.check]⟩

/-- A wait of which note is taken is one window, behind what had been noted before. -/
theorem run_noted_eq (hc : c.IsInstant) (tag : τ) (n : Noted τ σ) :
    e.run (c.noted tag) timeout description none n =
      ((e.run c timeout description none n.world).1,
        { world := (e.run c timeout description none n.world).2
          events := n.events ++ e.window tag (Timed.now n.world)
            (Timed.now (e.run c timeout description none n.world).2) }) := by
  have hr : Prod.map id Noted.world (e.run (c.noted tag) timeout description none n) =
      e.run c timeout description none n.world := run_noted tag none n
  generalize e.run c timeout description none n.world = r at hr ⊢
  obtain ⟨k, -, -, hw⟩ : ∃ k ≤ e.lastRound timeout, _ ∧
      (e.run (c.noted tag) timeout description none n).2 =
        (c.noted tag).release ((c.noted tag).check (e.round (c.noted tag) n k)).2 :=
    run_ends_from (Nat.zero_le _) nofun
  rw [check_round_noted hc.check] at hw
  have ho : (e.run (c.noted tag) timeout description none n).1 = r.1 := congrArg Prod.fst hr
  have hworld : r.2 = c.release (e.behind c n.world k) := by rw [← hr, Prod.map_snd, hw]; rfl
  have hnow : Timed.now r.2 = Timed.now n.world + k * e.poll := by
    rw [hworld, hc.release, now_behind hc.check]
  refine Prod.ext ho (hw.trans ?_)
  rw [window, hnow, Nat.add_sub_cancel_left, Nat.mul_div_cancel k e.poll_pos, ← List.append_assoc,
    hworld, ← now_behind hc.check n.world k]
  rfl

/-! ### Turns in a row -/

theorem turn_succ :
    e.turn cs timeout description w (i + 1) = (e.waitAt cs timeout description w i).2 := by
  rw [waitAt, turn, List.take_add_one, List.foldl_append]
  cases cs[i]? <;> rfl

theorem waitAt_of_lt (hi : i < cs.length) :
    e.waitAt cs timeout description w i =
      e.run cs[i] timeout description none (e.turn cs timeout description w i) := by
  rw [waitAt, List.getElem?_eq_getElem hi, Option.elim_some]

/-- A turn that ends well leads to the next. -/
theorem waitAt_eq_ready (hr : (e.waitAt cs timeout description w i).1 = .ready) :
    e.waitAt cs timeout description w i = (.ready, e.turn cs timeout description w (i + 1)) :=
  Prod.ext hr turn_succ.symm

/-- As long as waits end well, the next turn comes. -/
theorem runAll_take_of_ready (hi : i ≤ cs.length)
    (hr : ∀ j < i, (e.waitAt cs timeout description w j).1 = .ready) :
    e.runAll timeout description none (cs.take i) w =
      (.ready, e.turn cs timeout description w i) := by
  induction i with
  | zero => rfl
  | succ i ih =>
    have hwait := waitAt_eq_ready (hr i (Nat.lt_succ_self i))
    rw [waitAt_of_lt hi] at hwait
    rw [List.take_succ_eq_append_getElem hi, runAll_append,
      ih (Nat.le_of_lt hi) fun j hj => hr j (Nat.lt_succ_of_lt hj)]
    dsimp only
    rw [runAll, hwait]
    rfl

/-- Behind the first wait that does not end well no turn comes. -/
theorem runAll_of_not_ready (hi : i < cs.length)
    (hr : ∀ j < i, (e.waitAt cs timeout description w j).1 = .ready)
    (hn : (e.waitAt cs timeout description w i).1 ≠ .ready) :
    e.runAll timeout description none cs w = e.waitAt cs timeout description w i := by
  have hsplit : cs = cs.take i ++ cs[i] :: cs.drop (i + 1) := by
    rw [← List.drop_eq_getElem_cons hi, List.take_append_drop]
  have hrun : e.runAll timeout description none (cs.take i ++ cs[i] :: cs.drop (i + 1)) w =
      e.waitAt cs timeout description w i := by
    rw [runAll_append, runAll_take_of_ready (Nat.le_of_lt hi) hr]
    rw [waitAt_of_lt hi] at hn ⊢
    dsimp only
    rw [runAll]
    split
    · next w' hready => exact absurd (congrArg Prod.fst hready) hn
    · next o w' _ ho => exact ho.symm
  rwa [← hsplit] at hrun

/-- A wait for conditions in a list goes from turn to turn until there is none. -/
theorem runAll_turnsEnd (cs : List (Condition σ)) (timeout : Nat) (description : String) (w : σ) :
    ∃ n ≤ cs.length,
      e.TurnsEnd cs timeout description w n (e.runAll timeout description none cs w).1 ∧
      (e.runAll timeout description none cs w).2 = e.turn cs timeout description w n := by
  obtain ⟨i, hi, hbefore, hn⟩ | hnone :=
    first_lt_or_none (fun i => (e.waitAt cs timeout description w i).1 ≠ .ready) cs.length
  · have hr : ∀ j < i, (e.waitAt cs timeout description w j).1 = .ready := fun j hj =>
      not_not.1 (hbefore j hj)
    obtain ⟨error, herror⟩ : ∃ error, (e.waitAt cs timeout description w i).1 = .failed error := by
      rw [waitAt_of_lt hi] at hn ⊢
      exact (run_ready_or_failed _ _ _ _).resolve_left hn
    rw [runAll_of_not_ready hi hr hn, herror]
    exact ⟨_, hi, .failed hi hr herror, turn_succ.symm⟩
  · have hr : ∀ i < cs.length, (e.waitAt cs timeout description w i).1 = .ready := fun i hi =>
      not_not.1 (hnone i hi)
    have hrun := runAll_take_of_ready (Nat.le_refl cs.length) hr
    rw [List.take_length] at hrun
    rw [hrun]
    exact ⟨_, Nat.le_refl _, .ready hr, rfl⟩

/-- At least one condition has its turn, if there is one. -/
theorem TurnsEnd.pos {o : Outcome} (h : e.TurnsEnd cs timeout description w n o) (hne : cs ≠ []) :
    0 < n := by
  cases h with
  | ready => exact List.length_pos_iff.2 hne
  | failed => exact Nat.succ_pos _

/-! ### Turns with notes -/

theorem length_notedAll (cs : List (Condition σ)) : (notedAll cs).length = cs.length :=
  List.length_mapIdx

/-- Taking note changes nothing. -/
theorem runAll_noted (cs : List (Condition σ)) (tag : Nat → τ) (n : Noted τ σ) :
    Prod.map id Noted.world
        (e.runAll timeout description none (cs.mapIdx fun i c => c.noted (tag i)) n) =
      e.runAll timeout description none cs n.world := by
  induction cs generalizing tag n with
  | nil => rfl
  | cons c cs ih =>
    have hr : Prod.map id Noted.world (e.run (c.noted (tag 0)) timeout description none n) =
        e.run c timeout description none n.world := run_noted (tag 0) none n
    rw [List.mapIdx_cons, runAll, runAll, ← hr]
    rcases e.run (c.noted (tag 0)) timeout description none n with ⟨o, n'⟩
    cases o with
    | ready => exact ih (fun i => tag (i + 1)) n'
    | _ => rfl

variable (hc : ∀ c ∈ cs, c.IsInstant)
include hc

/-- A turn takes some poll intervals, and not more than it may. -/
theorem lapse_turn (hi : i < cs.length) : ∃ k ≤ e.lastRound timeout,
    Timed.now (e.turn cs timeout description w (i + 1)) =
      Timed.now (e.turn cs timeout description w i) + k * e.poll := by
  rw [turn_succ, waitAt_of_lt hi]
  exact now_run (hc cs[i] (List.getElem_mem hi)) timeout description _

/-- Turns are shorter than a timeout and a poll interval together. -/
theorem now_turn_le (hi : i ≤ cs.length) :
    Timed.now (e.turn cs timeout description w i) + i ≤ Timed.now w + i * (timeout + e.poll) := by
  induction i with
  | zero => rw [Nat.zero_mul]; exact Nat.le_refl _
  | succ i ih =>
    obtain ⟨k, hk, hnow⟩ := lapse_turn (e := e) (w := w) hc hi
    have hlast : k * e.poll ≤ e.lastRound timeout * e.poll := Nat.mul_le_mul_right _ hk
    have hlt := e.lastRound_mul_lt timeout
    have ih := ih (Nat.le_of_lt hi)
    rw [hnow, Nat.succ_mul]
    omega

/-- A turn with notes is the turn, behind what happened in those before it. -/
theorem turn_noted (hi : i ≤ cs.length) :
    e.turn (notedAll cs) timeout description { world := w } i =
      { world := e.turn cs timeout description w i
        events := (List.range i).flatMap (e.turnEvents cs timeout description w) } := by
  induction i with
  | zero => rfl
  | succ i ih =>
    have hlt : i < (notedAll cs).length := (length_notedAll cs).symm ▸ hi
    have hget : (notedAll cs)[i] = cs[i].noted i := List.getElem_mapIdx
    rw [turn_succ, waitAt_of_lt hlt, hget, ih (Nat.le_of_lt hi),
      run_noted_eq (hc cs[i] (List.getElem_mem hi)), List.range_succ, List.flatMap_append,
      List.flatMap_singleton, turnEvents, turn_succ, waitAt_of_lt hi]

theorem waitAt_noted_fst (hi : i < cs.length) :
    (e.waitAt (notedAll cs) timeout description { world := w } i).1 =
      (e.waitAt cs timeout description w i).1 := by
  have hlt : i < (notedAll cs).length := (length_notedAll cs).symm ▸ hi
  have hget : (notedAll cs)[i] = cs[i].noted i := List.getElem_mapIdx
  rw [waitAt_of_lt hlt, hget, turn_noted hc (Nat.le_of_lt hi),
    run_noted_eq (hc cs[i] (List.getElem_mem hi)), waitAt_of_lt hi]

/-- To note all turns changes nothing about how they end. -/
theorem TurnsEnd.of_noted {o : Outcome}
    (h : e.TurnsEnd (notedAll cs) timeout description { world := w } n o) :
    e.TurnsEnd cs timeout description w n o := by
  have hlen := length_notedAll cs
  cases h with
  | ready hr =>
    rw [hlen] at hr ⊢
    exact .ready fun i hi => waitAt_noted_fst hc hi ▸ hr i hi
  | failed hi hr hf =>
    rw [hlen] at hi
    exact .failed hi (fun j hj => waitAt_noted_fst hc (Nat.lt_trans hj hi) ▸ hr j hj)
      (waitAt_noted_fst hc hi ▸ hf)

/-- A wait for at least one condition goes from turn to turn. -/
theorem exists_inTurn (hne : cs ≠ []) (timeout : Nat) (description : String) (w : σ) :
    ∃ n, e.InTurn cs timeout description w n (e.runAllNoted cs timeout description w) := by
  obtain ⟨n, hn, hends, hw⟩ : ∃ n ≤ (notedAll cs).length,
      e.TurnsEnd (notedAll cs) timeout description { world := w } n
        (e.runAllNoted cs timeout description w).1 ∧
      (e.runAllNoted cs timeout description w).2 =
        e.turn (notedAll cs) timeout description { world := w } n := runAll_turnsEnd _ _ _ _
  have hends := hends.of_noted hc
  have hpos := hends.pos hne
  rw [length_notedAll] at hn
  rw [turn_noted hc hn] at hw
  have hle : Timed.now (e.turn cs timeout description w n) + n ≤ _ := now_turn_le hc hn
  refine ⟨n, hpos, hn, hends, by rw [hw], fun i hi => lapse_turn hc (Nat.lt_of_lt_of_le hi hn),
    by rw [hw], ?_⟩
  rw [hw]
  exact Nat.lt_of_lt_of_le (Nat.lt_add_of_pos_right hpos) hle

end Engine

end Readiness
