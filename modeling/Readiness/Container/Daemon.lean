import Readiness.Container.Host

/-!
# Daemons

A daemon is asked first whether it answers at all (`connect`); then it serves log requests. A request
to attach follows the log if it is asked to; one for the current log never does.
-/

namespace Readiness

/-- A daemon that answers every log request in the same way. -/
structure Daemon where
  frames : List Frame := []
  /-- The status of the answer to a ping. -/
  pingStatus : Nat := 200
  /-- The status of the answers to log requests. -/
  logStatus : Nat := 200
  /-- The message that goes with a status that is no success. -/
  refusal : String := ""

/-- A request for the log of a container. -/
structure LogRequest where
  selection : Selection := {}
  follow : Bool := true

namespace LogRequest

/-- The request by which the current log is fetched. -/
def snapshot (r : LogRequest) : LogRequest := { r with follow := false }

end LogRequest

namespace Daemon

def isSuccess (status : Nat) : Bool := 200 ≤ status && status < 300

/-- Makes sure that the daemon answers. -/
def connect (d : Daemon) : Except LogError Host :=
  if isSuccess d.pingStatus then
    .ok (.daemon d.frames
      (if isSuccess d.logStatus then none else some (.refused d.logStatus d.refusal)))
  else .error (.unavailable (.refused d.pingStatus d.refusal))

end Daemon

end Readiness
