/-!
# Failures to read a log
-/

namespace Readiness

/-- Why a host does not hand out a log. -/
inductive Obstacle
  /-- The stream can be attached once and already was. -/
  | alreadyAttached
  /-- The daemon answered with a status that is no success. -/
  | refused (status : Nat) (message : String)
  /-- As the host puts it. -/
  | stated (text : String)
  deriving DecidableEq, Repr

def Obstacle.text : Obstacle → String
  | alreadyAttached => "scripted stream already attached"
  | refused status message =>
    "Docker responded with status code " ++ toString status ++ ": " ++ message
  | stated text => text

/-- Failures of a host while logs are read. -/
inductive LogError
  /-- The daemon cannot be reached. -/
  | unavailable (reason : Obstacle)
  | attach (container : String) (reason : Obstacle)
  | fetch (container : String) (reason : Obstacle)
  deriving DecidableEq, Repr

def LogError.message : LogError → String
  | unavailable reason => "Docker not available: " ++ reason.text
  | attach container reason => "Failed to attach to logs of '" ++ container ++ "': " ++ reason.text
  | fetch container reason => "Failed to fetch log of '" ++ container ++ "': " ++ reason.text

end Readiness
