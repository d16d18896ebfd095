import Readiness.Duration
import Readiness.Http.Method
import Readiness.Http.Url

/-!
# Failures of a wait

A wait ends badly in one of two ways: its time is over, or what it waits for can never hold as it is
configured. Everything else (a refused connection, a log that cannot be fetched) only means that the
condition does not hold yet.
-/

namespace Readiness

/-- Why a condition can never hold. -/
inductive Misconfiguration
  | invalidUrl (raw : String) (fault : UrlFault)
  | invalidMethod (raw : String)
  /-- A status pattern, without the blanks around it. -/
  | invalidStatus (pattern : String)
  /-- The server does not know the method at all. -/
  | methodRefused (method : Method) (rawUrl : String)
  /-- As the condition puts it. -/
  | stated (reason : String)
  deriving DecidableEq, Repr

def Misconfiguration.reason : Misconfiguration → String
  | invalidUrl raw fault => "invalid ping URL '" ++ raw ++ "': " ++ fault.text
  | invalidMethod raw => "invalid HTTP method '" ++ raw ++ "'"
  | invalidStatus pattern =>
    "invalid status pattern '" ++ pattern ++ "', expected 'NNN' or 'NNN..NNN'"
  | methodRefused method rawUrl =>
    "Invalid or not supported HTTP method '" ++ method.name ++ "' for checking " ++ rawUrl
  | stated reason => reason

inductive WaitError
  /-- The condition did not hold in time. -/
  | timeout (description condition : String) (after : Duration)
  | misconfigured (cause : Misconfiguration)
  deriving DecidableEq, Repr

namespace WaitError

def message : WaitError → String
  | timeout description condition after =>
    "Timeout on waiting for " ++ description ++ " (" ++ condition ++ ") after " ++ after.text
  | misconfigured cause => "Wait condition misconfigured: " ++ cause.reason

def isTimeout : WaitError → Bool
  | timeout .. => true
  | misconfigured _ => false

end WaitError

end Readiness
