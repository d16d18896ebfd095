import Readiness.Config.Error
import Readiness.Log.Error
import Readiness.Wait.Error

/-!
# Failures

All that can go wrong, in three groups.
-/

namespace Readiness

inductive Error
  | wait (error : WaitError)
  | log (error : LogError)
  | config (error : ConfigError)
  deriving DecidableEq, Repr

namespace Error

def message : Error → String
  | wait e => e.message
  | log e => e.message
  | config e => e.message

/-- The name of an error's group. -/
def group : Error → String
  | wait _ => "wait"
  | log _ => "log"
  | config _ => "config"

/-- Whether a wait ran out of time; other errors have no answer to that. -/
def isTimeout : Error → Option Bool
  | wait e => some e.isTimeout
  | _ => none

end Error

end Readiness
