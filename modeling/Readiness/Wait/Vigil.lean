import Readiness.Log.Session
import Readiness.Timetable
import Readiness.Wait.Engine
import Readiness.Wait.WaitFor

/-!
# Waiting for a container

A `Scene` is a container's host and a network on a timeline: what is pushed to the host, and when.
A `Vigil` is a wait in a scene: the requirements, and the log session by which the container is
followed, if there is one.

Whoever waits is in the foreground. The tasks of the session move only while time passes: first all
that can move before the next event, then the event happens, and so on. A check takes no time, so it
sees what was delivered before.

A heard requirement is driven by its watch in the session's fan-out; the watches stand there in the
order of the heard requirements.
-/

namespace Readiness

/-- Something that happens to a live log. -/
inductive Happening
  | pushed (chunk : Chunk)
  | finished
  deriving DecidableEq, Repr

structure Scene where
  now : Nat := 0
  due : Timetable Happening := []
  host : Host
  network : Network := {}

structure Vigil where
  scene : Scene
  requirements : List Requirement := []
  session : Option (Session LogWatch Empty) := none

namespace Host

/-- What an event does to a host; one that cannot take it stays as it is. -/
def undergo (h : Host) : Happening → Host
  | .pushed c => (h.push? c).getD h
  | .finished => h.finish?.getD h

end Host

namespace Vigil

/-- Lets the tasks of the session move until none can. -/
def settle (v : Vigil) : Vigil :=
  match v.session with
  | none => v
  | some session =>
    let (host, session) := session.settle v.scene.host
    { v with scene := { v.scene with host }, session := some session }

/-- What an event does: it happens, and the tasks move on. -/
def undergo (e : Happening) (v : Vigil) : Vigil :=
  settle { v with scene := { v.scene with host := v.scene.host.undergo e } }

/-- Lets milliseconds pass. If none are to pass, nothing moves. -/
def pass (d : Nat) (v : Vigil) : Vigil :=
  if d = 0 then v
  else
    let (w, due) := v.scene.due.advance undergo (v.scene.now + d) v.settle
    { w with scene := { w.scene with now := v.scene.now + d, due } }

instance : Timed Vigil where
  now v := v.scene.now
  pass := pass
  now_pass d v := by
    unfold pass
    split
    · next h => simp [h]
    · rfl

/-- The watch of a heard requirement at an index, as it is now. -/
def watchAt (v : Vigil) (i : Nat) : Option LogWatch := do
  let session ← v.session
  session.listeners[(v.requirements.take i).countP Requirement.isHeard]?

/-- The requirement at an index as it is now. -/
def requirement? (v : Vigil) (i : Nat) : Option Requirement :=
  match v.requirements[i]? with
  | some (.heard w) => some (.heard ((v.watchAt i).getD w))
  | r => r

/-- Whether a container's log mentions a message at the moment. One that cannot be fetched does
    not. -/
def findInLog (container message : String) (v : Vigil) : Bool × Vigil :=
  let (log, host) := v.scene.host.currentLog container {}
  let found := match log with
    | .ok text => mentions text message
    | .error _ => false
  (found, { v with scene := { v.scene with host } })

/-- Sends a ping that is the requirement at an index. -/
def sendPing (i : Nat) (p : HttpPing) (v : Vigil) : Except Misconfiguration Bool × Vigil :=
  let (answer, p, network) := p.check v.scene.network
  (answer, { v with
    scene := { v.scene with network }
    requirements := v.requirements.set i (.ping p) })

/-- Checks the requirement at an index. -/
def check (container : String) (i : Nat) (v : Vigil) : Except Misconfiguration Bool × Vigil :=
  match v.requirement? i with
  | some (.heard w) => (.ok w.ready, v)
  | some (.fullLog message) =>
    let (found, v) := v.findInLog container message
    (.ok found, v)
  | some (.ping p) => v.sendPing i p
  | none => (.ok true, v)

/-- Releases what the requirement at an index holds. -/
def release (i : Nat) (v : Vigil) : Vigil :=
  { v with
    requirements := v.requirements.modify i fun
      | .ping p => .ping p.release
      | r => r }

/-- The requirement at an index as a wait sees it. -/
def condition (container : String) (i : Nat) : Condition Vigil where
  check := check container i
  describe v := ((v.requirement? i).map Requirement.describe).getD ""
  release := release i

/-- The requirements in their order. -/
def conditions (container : String) (v : Vigil) : List (Condition Vigil) :=
  (List.range v.requirements.length).map (condition container)

end Vigil

end Readiness
