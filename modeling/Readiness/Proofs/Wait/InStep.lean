import Readiness.Wait.Engine

/-!
# Waits in step

Two waits for the same conditions, in worlds that the conditions cannot tell apart, go in step: they
make the same checks, they end alike and at the same time, and a failure takes at least the timeout
(`Engine.runAll_inStep`). The worlds may differ in whatever the conditions do not look at, so one
may be a later state of the other.

How the worlds are related may depend on how long the waits have gone on: `R t` relates them `t`
milliseconds after the beginning.
-/

namespace Readiness

variable {σ : Type} {R : Nat → σ → σ → Prop}

/-- A condition that only looks, and sees the same in related worlds. -/
structure Condition.SeesAlike (c : Condition σ) (R : Nat → σ → σ → Prop) : Prop where
  check : ∀ {t w w'}, R t w w' → ∃ holds, c.check w = (.ok holds, w) ∧ c.check w' = (.ok holds, w')
  describe : ∀ {t w w'}, R t w w' → c.describe w = c.describe w'
  release : ∀ {t w w'}, R t w w' → c.release w = w ∧ c.release w' = w'

namespace Engine

/-- How two waits stand that were in step at an instant and have ended: with one outcome, in related
    worlds, and if not well then not before a time has passed. -/
structure InStep (R : Nat → σ → σ → Prop) (t timeout : Nat) (x x' : Outcome × σ) : Prop where
  outcome : x'.1 = x.1
  related : ∃ t', R t' x.2 x'.2 ∧ t ≤ t' ∧ (x.1 = .ready ∨ t + timeout ≤ t')

variable [Timed σ] {e : Engine} {c : Condition σ} {timeout t : Nat} {description : String}
  {w w' : σ}

/-- Two waits that see alike stay in step while they watch. -/
theorem watch_inStep (hc : c.SeesAlike R)
    (hpass : ∀ t w w', R t w w' → R (t + e.poll) (Timed.pass e.poll w) (Timed.pass e.poll w'))
    {elapsed : Nat} (h : R t w w') :
    InStep R t (timeout - elapsed) (e.watch c timeout description none elapsed w)
      (e.watch c timeout description none elapsed w') := by
  -- By induction on the time that is left: both sides take the same branch.
  induction hn : timeout - elapsed using Nat.strongRecOn generalizing elapsed t w w' with
  | ind n ih =>
    obtain ⟨holds, hw, hw'⟩ := hc.check h
    rw [watch, watch, hw, hw']
    cases holds with
    | true => exact ⟨rfl, t, h, Nat.le_refl t, .inl rfl⟩
    | false =>
      by_cases ht : timeout ≤ elapsed
      · simp only [if_pos ht, hc.describe h]
        exact ⟨rfl, t, h, Nat.le_refl t, .inr (by omega)⟩
      · simp only [if_neg ht, pause]
        have hp := e.poll_pos
        obtain ⟨ho, t', hr, hle, hlate⟩ :=
          ih (timeout - (elapsed + e.poll)) (by omega) (hpass t w w' h) rfl
        exact ⟨ho, t', hr, by omega, hlate.imp id fun hlate => by omega⟩

/-- Two waits that see alike run in step. -/
theorem run_inStep (hc : c.SeesAlike R)
    (hpass : ∀ t w w', R t w w' → R (t + e.poll) (Timed.pass e.poll w) (Timed.pass e.poll w'))
    (h : R t w w') :
    InStep R t timeout (e.run c timeout description none w)
      (e.run c timeout description none w') := by
  have hend : InStep R t (timeout - 0) (e.watch c timeout description none 0 w)
      (e.watch c timeout description none 0 w') := watch_inStep hc hpass h
  obtain ⟨ho, t', hr, hle, hlate⟩ := hend
  -- What is released at the end holds nothing.
  obtain ⟨hw, hw'⟩ := hc.release hr
  refine ⟨ho, t', ?_, hle, hlate⟩
  simp only [run, hw, hw']
  exact hr

/-- Waits for conditions one after the other stay in step throughout. -/
theorem runAll_inStep {cs : List (Condition σ)} (hc : ∀ c ∈ cs, c.SeesAlike R)
    (hpass : ∀ t w w', R t w w' → R (t + e.poll) (Timed.pass e.poll w) (Timed.pass e.poll w'))
    (h : R t w w') :
    InStep R t timeout (e.runAll timeout description none cs w)
      (e.runAll timeout description none cs w') := by
  induction cs generalizing t w w' with
  | nil => exact ⟨rfl, t, h, Nat.le_refl t, .inl rfl⟩
  | cons c cs ih =>
    have hone : InStep R t timeout (e.run c timeout description none w)
        (e.run c timeout description none w') := run_inStep (hc c List.mem_cons_self) hpass h
    obtain ⟨ho, t', hr, hle, hlate⟩ := hone
    rw [runAll, runAll]
    rcases hx : e.run c timeout description none w with ⟨o, v⟩
    rcases hx' : e.run c timeout description none w' with ⟨o', v'⟩
    rw [hx, hx'] at ho hr
    rw [hx] at hlate
    obtain rfl : o' = o := ho
    cases o' with
    | ready =>
      obtain ⟨ho, t'', hr, hle', hlate⟩ :=
        ih (fun d hd => hc d (List.mem_cons_of_mem c hd)) hr
      exact ⟨ho, t'', hr, by omega, hlate.imp id fun hlate => by omega⟩
    | _ => exact ⟨rfl, t', hr, hle, hlate⟩

end Engine

end Readiness
