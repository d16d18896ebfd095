import Readiness.Log.Listener

/-!
# A fan-out, call by call

Listeners are registered one after the other, which numbers them. To hand over a line the fan-out
calls every listener in turn. A call changes the listener and leaves its notes, and then it may
fail: that ends whatever called it, unless it is caught. The fan-out catches it, warns of it and
goes on with the next. What comes of that is what `Fanout.notify` says in one step.

* `call`: one call of one listener, with nobody to catch a failure;
* `guarded`: the same, with a warning in place of a failure;
* `callAll`: a line for every listener;
* `send`, `sendAll`: lines, each through one of the two ways into a fan-out.
-/

namespace Readiness

namespace Fanout

/-- One thing that happens while lines are handed over. -/
inductive Occurrence (ν : Type)
  /-- The listener with a number is called with a line. -/
  | called (i : Nat) (line : String)
  /-- It leaves a note. -/
  | noted (i : Nat) (note : ν)
  /-- Its call failed, and the fan-out says so. -/
  | warned (i : Nat)
  deriving DecidableEq, Repr

/-- The listeners by number, and what has happened so far. -/
structure Stage (σ ν : Type) where
  listeners : List σ := []
  events : List (Occurrence ν) := []

/-- The failure of a listener. -/
inductive Panic
  | panic
  deriving DecidableEq, Repr

/-- Things done on a stage that may fail. What was done before stays done. -/
abbrev Act (σ ν : Type) : Type → Type := EStateM Panic (Stage σ ν)

/-- A way into a fan-out: its own, or the one that it has as a listener itself. -/
inductive Door
  | notify
  | onLine
  deriving DecidableEq, Repr

variable {σ ν : Type}

/-- Registers a listener behind those that are there. -/
def Stage.add (s : Stage σ ν) (x : σ) : Stage σ ν := { s with listeners := s.listeners ++ [x] }

/-- A fan-out of listeners, registered in order. -/
def Stage.ofList (xs : List σ) : Stage σ ν := xs.foldl Stage.add {}

variable [Listener σ ν]

/-- Calls the listener with a number. -/
def call (line : String) (i : Nat) : Act σ ν Unit := fun s =>
  match s.listeners[i]? with
  | none => .ok () s
  | some x =>
    let r := Listener.hear x line
    let s := {
      listeners := s.listeners.set i r.state
      events := s.events ++ .called i line :: r.notes.map (.noted i) }
    if r.failed then .error .panic s else .ok () s

/-- Calls a listener. If that fails the fan-out warns of it, and nothing more comes of it. -/
def guarded (line : String) (i : Nat) : Act σ ν Unit :=
  tryCatch (call line i) fun _ => modify fun s => { s with events := s.events ++ [.warned i] }

/-- Calls every listener with a line, in the order of their numbers. -/
def callAll (line : String) : Act σ ν Unit := do
  let s ← get
  (List.range s.listeners.length).forM (guarded line)

/-- Hands over a line. A fan-out that is a listener itself does with a line what it does else. -/
def send : Door → String → Act σ ν Unit
  | .notify, line | .onLine, line => callAll line

/-- Hands over lines one after the other. -/
def sendAll (sent : List (Door × String)) : Act σ ν Unit :=
  sent.forM fun (door, line) => send door line

end Fanout

end Readiness
