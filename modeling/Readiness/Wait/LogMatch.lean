import Readiness.Log.Listener
import Readiness.Text.Occurrence

/-!
# Looking for messages in a log

A `LogWatch` learns about readiness from the lines of a log, one at a time.

* A message is found once some line mentions it, and stays found.
* A sequence looks for its next message only, and moves on by at most one message a line: each is
  found on a later line than the one before it. `embeds` says whether messages can be found on
  later and later lines at all.
-/

namespace Readiness

/-- One message. -/
structure LogMessage where
  text : String
  found : Bool := false
  deriving DecidableEq, Repr

/-- Messages in order. -/
structure LogSequence where
  texts : List String
  /-- How many were found so far. -/
  seen : Nat := 0
  deriving DecidableEq, Repr

namespace LogMessage

def hear (m : LogMessage) (line : String) : LogMessage :=
  { m with found := m.found || mentions line m.text }

def describe (m : LogMessage) : String := "log message '" ++ m.text ++ "'"

end LogMessage

namespace LogSequence

def hear (q : LogSequence) (line : String) : LogSequence :=
  match q.texts[q.seen]? with
  | some text => if mentions line text then { q with seen := q.seen + 1 } else q
  | none => q

def ready (q : LogSequence) : Bool := q.seen == q.texts.length

def describe (q : LogSequence) : String :=
  "log message sequence [" ++ ", ".intercalate (q.texts.map fun t => "'" ++ t ++ "'") ++ "] (" ++
    toString q.seen ++ " of " ++ toString q.texts.length ++ " seen)"

/-- Whether messages can be found on later and later lines. -/
def embeds : List String → List String → Bool
  | [], _ => true
  | _ :: _, [] => false
  | t :: ts, line :: lines => (mentions line t && embeds ts lines) || embeds (t :: ts) lines

end LogSequence

/-- Something looked for in the lines of a log. -/
inductive LogWatch
  | message (m : LogMessage)
  | sequence (q : LogSequence)
  deriving DecidableEq, Repr

namespace LogWatch

def hear : LogWatch → String → LogWatch
  | message m, line => message (m.hear line)
  | sequence q, line => sequence (q.hear line)

def ready : LogWatch → Bool
  | message m => m.found
  | sequence q => q.ready

def describe : LogWatch → String
  | message m => m.describe
  | sequence q => q.describe

/-- A watch leaves no notes and never fails. -/
instance : Listener LogWatch Empty where
  hear w line := { state := w.hear line }

end LogWatch

end Readiness
