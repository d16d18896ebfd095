import Readiness.Config.Settings
import Readiness.Text.Blank

/-!
# Configuration from the environment

Five variables hold settings. One that is blank counts as unset. A number may have blanks around it;
a switch is `true` or `false` and nothing else. Of several malformed values the first in the order
of the variables below is the failure.
-/

namespace Readiness

/-- What the environment holds under a name. -/
abbrev Environment := String → Option String

namespace Environment

def waitSecs : String := "DOCKER_READY_WAIT_SECS"

def pollIntervalMs : String := "DOCKER_READY_POLL_INTERVAL_MS"

def logBuffer : String := "DOCKER_READY_LOG_BUFFER"

def shutdownGraceMs : String := "DOCKER_READY_SHUTDOWN_GRACE_MS"

def printLogs : String := "DOCKER_READY_PRINT_LOGS"

/-- An environment of some variables. -/
def ofList (entries : List (String × String)) : Environment := fun name => entries.lookup name

/-- The value of a variable that is not blank. -/
def get? (env : Environment) (name : String) : Option String :=
  match env name with
  | some raw => if (trimChars raw.toList).isEmpty then none else some raw
  | none => none

/-- The number in a variable, if it is set. -/
def number? (env : Environment) (name : String) : Except ConfigError (Option Nat) :=
  match env.get? name with
  | none => .ok none
  | some raw =>
    match Numeral.parse Numeral.max64 (trim raw) with
    | .ok n => .ok (some n)
    | .error fault => .error (.invalidValue name (.numeral fault))

/-- The switch in a variable, if it is set. -/
def switch? (env : Environment) (name : String) : Except ConfigError (Option Bool) :=
  match env.get? name with
  | none => .ok none
  | some "true" => .ok (some true)
  | some "false" => .ok (some false)
  | some _ => .error (.invalidValue name .notBoolean)

/-- The settings in the environment. -/
def settings (env : Environment) : Except ConfigError Settings := do
  let waitSecs ← env.number? waitSecs
  let pollIntervalMs ← env.number? pollIntervalMs
  let logBuffer ← env.number? logBuffer
  let shutdownGraceMs ← env.number? shutdownGraceMs
  let printLogs ← env.switch? printLogs
  return { waitSecs, pollIntervalMs, logBuffer, shutdownGraceMs, printLogs }

end Environment

/-- The configuration in the environment. -/
def Config.ofEnvironment (env : Environment) : Except ConfigError Config := do
  (← env.settings).config

end Readiness
