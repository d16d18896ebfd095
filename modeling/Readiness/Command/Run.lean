import Readiness.Command.Invocation
import Readiness.Gate

/-!
# Carrying out a command

`wait` puts a gate in front of a container and says so when it has opened; `logs` writes what the
container has written so far. Both need a host, which a daemon gives once it answers.
-/

namespace Readiness.Command

/-- Why a command failed. -/
inductive CommandError
  | nothingToWaitFor
  | unavailable (error : LogError)
  | notReady (container : String) (error : WaitError)
  | unreadable (container : String) (error : LogError)
  deriving DecidableEq, Repr

def CommandError.message : CommandError → String
  | nothingToWaitFor => "nothing to wait for: pass --log, --sequence, --full-log or --http"
  | unavailable error => error.message
  | notReady container error =>
    "container '" ++ container ++ "' did not become ready: " ++ error.message
  | unreadable container error => "failed to read log of '" ++ container ++ "': " ++ error.message

/-- What a command wrote. -/
structure Transcript where
  out : Bytes := []
  err : Bytes := []
  deriving DecidableEq, Repr

/-- The gate of a wait command. -/
def WaitArgs.gate (a : WaitArgs) (base : Config) : Gate :=
  { container := a.container, name := a.name, config := a.apply base }

/-- Leaves a container alone that was waited for, and says what became of it. -/
def WaitArgs.conclude (a : WaitArgs) (outcome : Outcome) (gate : Gate) (scene : Scene) :
    Except CommandError Unit × Transcript :=
  let (gate, _) := gate.close scene
  let out := gate.printed .stdout
  let err := gate.printed .stderr
  match outcome with
  | .failed error => (.error (.notReady a.container error), { out, err })
  | _ =>
    let word := if a.quiet then [] else Utf8.encode (gate.describe ++ " is ready\n")
    (.ok (), { out, err := err ++ word })

/-- Waits for a container and then leaves it alone; `none` where that is fatal. -/
def wait (a : WaitArgs) (base : Config) (connect : Except LogError Host) (network : Network) :
    Option (Except CommandError Unit × Transcript) :=
  let gate := a.gate base
  if gate.config.waitFor.isEmpty then some (.error .nothingToWaitFor, {})
  else match connect with
    | .error error => some (.error (.unavailable error), {})
    | .ok host => do
      let (outcome, gate, scene) ← gate.start? { host, network }
      return a.conclude outcome gate scene

/-- Writes the log of a container. -/
def logs (container : String) (connect : Except LogError Host) :
    Except CommandError Unit × Transcript :=
  match connect with
  | .error error => (.error (.unavailable error), {})
  | .ok host =>
    match (host.currentLog container {}).1 with
    | .ok log => (.ok (), { out := Utf8.encode log })
    | .error error => (.error (.unreadable container error), {})

end Readiness.Command
