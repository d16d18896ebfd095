import Readiness.Http.StatusRange
import Readiness.Http.Url.Parser
import Readiness.Wait.Error

/-!
# Pings

A ping sends one request to a URL and looks at the status of the response. It holds if the status
lies in the accepted range. A request that fails means "not yet", whatever the reason; but a server
that says it does not implement the method will never say anything else, so that ends the wait.

The first request of a wait needs a client, which is kept for the later ones and released at the
end of the wait.
-/

namespace Readiness

/-- A request, as far as a server tells requests apart. -/
structure Request where
  method : Method
  url : Url
  deriving DecidableEq, Repr

/-- What becomes of a request. -/
inductive Response
  | status (code : Nat)
  /-- Nobody answers, or not in HTTP. -/
  | failure
  deriving DecidableEq, Repr

/-- A network with one server, which answers as scripted. -/
structure Network where
  /-- The responses to come; the last repeats. Without any nobody listens. -/
  script : List Response := []
  /-- The requests the server has got, oldest first. -/
  requests : List Request := []
  deriving DecidableEq, Repr

namespace Network

/-- Sends a request. -/
def send (n : Network) (r : Request) : Response × Network :=
  match n.script with
  | [] => (.failure, n)
  | [last] => (last, { n with requests := n.requests ++ [r] })
  | next :: script => (next, { script, requests := n.requests ++ [r] })

end Network

structure HttpPing where
  /-- The URL as it was given. -/
  rawUrl : String
  url : Url
  method : Method := .head
  statuses : StatusRange := .default
  /-- Whether it holds a client. -/
  connected : Bool := false
  deriving DecidableEq, Repr

namespace HttpPing

/-- Pings a URL with the default method and accepted statuses. -/
def ofUrl (raw : String) : Except Misconfiguration HttpPing :=
  match Url.parse raw with
  | .ok url => .ok { rawUrl := raw, url }
  | .error fault => .error (.invalidUrl raw fault)

def withMethod (p : HttpPing) (raw : String) : Except Misconfiguration HttpPing :=
  match Method.parse? raw with
  | some method => .ok { p with method }
  | none => .error (.invalidMethod raw)

def withStatuses (p : HttpPing) (pattern : String) : Except Misconfiguration HttpPing :=
  match StatusRange.parse? pattern with
  | some statuses => .ok { p with statuses }
  | none => .error (.invalidStatus (trim pattern))

/-- A ping with its settings, where given. The first one that is wrong decides the failure. -/
def build (url : String) (method status : Option String) : Except Misconfiguration HttpPing := do
  let p ← ofUrl url
  let p ← match method with
    | some raw => p.withMethod raw
    | none => pure p
  match status with
  | some pattern => p.withStatuses pattern
  | none => pure p

def describe (p : HttpPing) : String :=
  "http ping to '" ++ p.rawUrl ++ "' with method '" ++ p.method.name ++ "'"

/-- The status of a server that does not implement the method. -/
def notImplemented : Nat := 501

/-- What a response says about readiness. -/
def judge (p : HttpPing) : Response → Except Misconfiguration Bool
  | .failure => .ok false
  | .status code =>
    if code = notImplemented then .error (.methodRefused p.method p.rawUrl)
    else .ok (p.statuses.contains code)

/-- Sends one request. -/
def check (p : HttpPing) (n : Network) : Except Misconfiguration Bool × HttpPing × Network :=
  let (response, n) := n.send ⟨p.method, p.url⟩
  (p.judge response, { p with connected := true }, n)

/-- Releases the client. -/
def release (p : HttpPing) : HttpPing := { p with connected := false }

end HttpPing

end Readiness
