import Readiness.Http.Ping
import Readiness.Wait.Engine

/-!
# Waiting for a ping

A world in which there is nothing but a ping and the network it goes out to.
-/

namespace Readiness

structure Probing where
  now : Nat := 0
  ping : HttpPing
  network : Network := {}

namespace Probing

instance : Timed Probing where
  now p := p.now
  pass d p := { p with now := p.now + d }
  now_pass _ _ := rfl

/-- Sends the ping. -/
def check (p : Probing) : Except Misconfiguration Bool × Probing :=
  let (answer, ping, network) := p.ping.check p.network
  (answer, { p with ping, network })

/-- The ping as a wait sees it. -/
def condition : Condition Probing where
  check := check
  describe p := p.ping.describe
  release p := { p with ping := p.ping.release }

end Probing

end Readiness
