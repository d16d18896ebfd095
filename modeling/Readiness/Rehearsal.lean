import Readiness.Timetable
import Readiness.Wait.Engine
import Readiness.Wait.LogMatch

/-!
# Rehearsals

Stand-ins by which listeners and waits are tried without a container.

* An `Ear` is a listener that notes down the lines, fails on some of them, or is a watch.
* A `Trial` is a world in which lines come at set times. Its conditions either count their checks and
  have an outcome planned for each, or are watches, all of which get every line.
-/

namespace Readiness

/-- A listener on trial. -/
inductive Ear
  /-- Notes down every line behind a tag. -/
  | recorder (tag : String)
  /-- Fails on lines that mention a text. -/
  | fragile (text : String)
  | watch (w : LogWatch)
  deriving DecidableEq, Repr

namespace Ear

instance : Listener Ear String where
  hear
    | recorder tag, line => { state := recorder tag, notes := [tag ++ ":" ++ line] }
    | fragile text, line => { state := fragile text, failed := mentions line text }
    | watch w, line => { state := watch (w.hear line) }

/-- The watch of an ear that is one. -/
def watch? : Ear → Option LogWatch
  | watch w => some w
  | _ => none

end Ear

/-- A condition that counts its checks. -/
structure Counter where
  name : String
  /-- From which check on it holds, counted from 1. -/
  readyOn : Option Nat := none
  /-- Which check finds it misconfigured. -/
  failOn : Option Nat := none
  checks : Nat := 0
  /-- How often it was released. -/
  releases : Nat := 0
  deriving DecidableEq, Repr

namespace Counter

/-- What a check says, counted from 1. -/
def answer (c : Counter) (k : Nat) : Except Misconfiguration Bool :=
  if c.failOn = some k then .error (.stated ("check " ++ toString k ++ " of " ++ c.name))
  else .ok (c.readyOn.any (· ≤ k))

def describe (c : Counter) : String := c.name ++ " after " ++ toString c.checks ++ " checks"

end Counter

/-- A condition on trial. -/
inductive Stand
  | counter (c : Counter)
  | watch (w : LogWatch)
  deriving DecidableEq, Repr

namespace Stand

def describe : Stand → String
  | counter c => c.describe
  | watch w => w.describe

/-- Whether lines drive it. -/
def isHeard : Stand → Bool
  | counter _ => false
  | watch _ => true

/-- The condition as it is shown. -/
def shown (s : Stand) : String := Condition.shown s.isHeard s.describe

/-- The counter of a condition that counts. -/
def counter? : Stand → Option Counter
  | counter c => some c
  | watch _ => none

/-- One check. -/
def check : Stand → Except Misconfiguration Bool × Stand
  | counter c => (c.answer (c.checks + 1), counter { c with checks := c.checks + 1 })
  | watch w => (.ok w.ready, watch w)

def release : Stand → Stand
  | counter c => counter { c with releases := c.releases + 1 }
  | watch w => watch w

def hear (line : String) : Stand → Stand
  | counter c => counter c
  | watch w => watch (w.hear line)

end Stand

structure Trial where
  now : Nat := 0
  due : Timetable String := []
  stands : List Stand

namespace Trial

/-- A line comes. -/
def hear (line : String) (t : Trial) : Trial := { t with stands := t.stands.map (Stand.hear line) }

/-- Lets milliseconds pass. If none are to pass, no line comes. -/
def pass (d : Nat) (t : Trial) : Trial :=
  if d = 0 then t
  else
    let (u, due) := t.due.advance hear (t.now + d) t
    { u with now := t.now + d, due }

instance : Timed Trial where
  now t := t.now
  pass := pass
  now_pass d t := by
    unfold pass
    split
    · next h => simp [h]
    · rfl

/-- The condition at an index as a wait sees it. -/
def condition (i : Nat) : Condition Trial where
  check t :=
    match t.stands[i]? with
    | some s => (s.check.1, { t with stands := t.stands.set i s.check.2 })
    | none => (.ok true, t)
  describe t := ((t.stands[i]?).map Stand.describe).getD ""
  release t := { t with stands := t.stands.modify i Stand.release }

/-- The conditions in their order. -/
def conditions (t : Trial) : List (Condition Trial) := (List.range t.stands.length).map condition

/-- Waits for all conditions, for at most `patience`. -/
def run (e : Engine) (timeout : Nat) (description : String) (patience : Option Nat) (t : Trial) :
    Outcome × Trial :=
  e.runAll timeout description (patience.map (t.now + ·)) t.conditions t

end Trial

end Readiness
