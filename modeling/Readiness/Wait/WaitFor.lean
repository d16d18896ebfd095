import Readiness.Http.Ping
import Readiness.Wait.LogMatch

/-!
# What to wait for

A `WaitFor` says what to wait for; settings and command lines list them. `build` makes it a
`Requirement`, which has the state that a wait needs. Only a ping can be misconfigured.

A requirement of log lines is *heard*: it has to be in the fan-out before the log is attached, and
lines drive it from then on. The others are *polled*.
-/

namespace Readiness

inductive WaitFor
  /-- Some line mentions the message. -/
  | logMessage (message : String)
  /-- Later and later lines mention the messages. -/
  | logMessageSequence (messages : List String)
  /-- The log fetched as a whole mentions the message. -/
  | fullLogMessage (message : String)
  /-- A ping is answered with an accepted status. -/
  | httpPing (url : String) (method status : Option String)
  deriving DecidableEq, Repr

/-- A requirement and what is known about it. -/
inductive Requirement
  | heard (watch : LogWatch)
  | fullLog (message : String)
  | ping (ping : HttpPing)
  deriving DecidableEq, Repr

namespace Requirement

def isHeard : Requirement → Bool
  | heard _ => true
  | _ => false

/-- What is to be registered with the fan-out. -/
def watch? : Requirement → Option LogWatch
  | heard w => some w
  | _ => none

def describe : Requirement → String
  | heard w => w.describe
  | fullLog message => "full log message '" ++ message ++ "'"
  | ping p => p.describe

end Requirement

/-- A fresh requirement. -/
def WaitFor.build : WaitFor → Except Misconfiguration Requirement
  | logMessage message => .ok (.heard (.message { text := message }))
  | logMessageSequence messages => .ok (.heard (.sequence { texts := messages }))
  | fullLogMessage message => .ok (.fullLog message)
  | httpPing url method status => (HttpPing.build url method status).map .ping

end Readiness
