import Readiness.Text.Quoted
import Readiness.Wait.Error

/-!
# Waiting

A wait happens in a world in which time passes. It checks a condition; if that does not hold it
pauses, and checks again. It ends

* well, at the first check that holds;
* with a failure, at the first check that finds the condition misconfigured, or at the first that
  does not hold although the timeout has passed since the start;
* cancelled, during a pause, if the instant comes at which whoever waits gives up. A check due at
  that very instant is still made.

Every end releases what the condition holds, once. Conditions in a list are waited for one after the
other, each with the whole timeout, up to the first that does not end well.

Time is counted in milliseconds. Checks take none of it.
-/

namespace Readiness

/-- A world in which time passes. -/
class Timed (σ : Type) where
  now : σ → Nat
  /-- Lets milliseconds pass, and all happen that is due meanwhile. -/
  pass : Nat → σ → σ
  now_pass : ∀ d w, now (pass d w) = now w + d

/-- A condition as a wait sees it, with the state it has in the world. -/
structure Condition (σ : Type) where
  check : σ → Except Misconfiguration Bool × σ
  describe : σ → String
  /-- Releases what it holds. -/
  release : σ → σ := id

/-- A condition as it is shown: whether lines drive it or it is polled, and its description. -/
def Condition.shown (heard : Bool) (description : String) : String :=
  (if heard then "Listener(" else "Pollable(") ++ Quoted.text description ++ ")"

/-- How a wait ends. -/
inductive Outcome
  | ready
  | failed (error : WaitError)
  | cancelled
  deriving DecidableEq, Repr

structure Engine where
  /-- The pause between two checks. -/
  poll : Nat := 50
  poll_pos : 0 < poll := by decide

namespace Engine

variable {σ : Type} [Timed σ]

/-- A pause, cut short if the wait is cancelled. Says whether the wait goes on. -/
def pause (e : Engine) (cancelAt : Option Nat) (w : σ) : Bool × σ :=
  match cancelAt with
  | none => (true, Timed.pass e.poll w)
  | some t =>
    if Timed.now w + e.poll ≤ t then (true, Timed.pass e.poll w)
    else (false, Timed.pass (t - Timed.now w) w)

/-- Checks and pauses until the wait ends, `elapsed` after its start. -/
def watch (e : Engine) (c : Condition σ) (timeout : Nat) (description : String)
    (cancelAt : Option Nat) (elapsed : Nat) (w : σ) : Outcome × σ :=
  match c.check w with
  | (.error cause, w) => (.failed (.misconfigured cause), w)
  | (.ok true, w) => (.ready, w)
  | (.ok false, w) =>
    if timeout ≤ elapsed then
      (.failed (.timeout description (c.describe w) (.ofMillis timeout)), w)
    else match e.pause cancelAt w with
      | (false, w) => (.cancelled, w)
      | (true, w) => watch e c timeout description cancelAt (elapsed + e.poll) w
termination_by timeout - elapsed
decreasing_by have := e.poll_pos; omega

/-- Waits for one condition. -/
def run (e : Engine) (c : Condition σ) (timeout : Nat) (description : String)
    (cancelAt : Option Nat) (w : σ) : Outcome × σ :=
  let (o, w) := e.watch c timeout description cancelAt 0 w
  (o, c.release w)

/-- Waits for conditions one after the other. -/
def runAll (e : Engine) (timeout : Nat) (description : String) (cancelAt : Option Nat) :
    List (Condition σ) → σ → Outcome × σ
  | [], w => (.ready, w)
  | c :: cs, w =>
    match e.run c timeout description cancelAt w with
    | (.ready, w) => runAll e timeout description cancelAt cs w
    | (o, w) => (o, w)

end Engine

end Readiness
