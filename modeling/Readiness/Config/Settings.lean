import Readiness.Config.Error
import Readiness.Log.Session
import Readiness.Wait.Engine
import Readiness.Wait.Spec

/-!
# Configuration

A `Config` says how containers are waited for. It comes from `Settings`, each of which may be unset
and then has its default. Two settings have a bound: the buffer holds at least one chunk, and the
poll interval is not zero. The buffer is looked at first.
-/

namespace Readiness

/-- Times are in milliseconds. -/
structure Config where
  /-- The timeout of each condition. -/
  waitTimeout : Nat := 10000
  /-- The pause between two checks of a condition. -/
  pollInterval : Nat := 50
  /-- How many chunks wait at an output before the feed does. -/
  logBuffer : Nat := Splitter.defaultCapacity
  /-- How long closing a session waits for its tasks. -/
  shutdownGrace : Nat := Session.defaultGrace
  /-- Whether output without a sink goes to the console. -/
  printLogs : Bool := true
  /-- What to wait for, in order. -/
  waitFor : List WaitFor := []
  pollInterval_pos : 0 < pollInterval := by decide
  logBuffer_pos : 0 < logBuffer := by decide

/-- What was set, and what was not. -/
structure Settings where
  waitSecs : Option Nat := none
  pollIntervalMs : Option Nat := none
  logBuffer : Option Nat := none
  shutdownGraceMs : Option Nat := none
  printLogs : Option Bool := none
  waitFor : List WaitFor := []
  deriving DecidableEq, Repr

/-- The wait with the poll interval of a configuration. -/
def Config.engine (c : Config) : Engine where
  poll := c.pollInterval
  poll_pos := c.pollInterval_pos

/-- The configuration that settings make. -/
def Settings.config (s : Settings) : Except ConfigError Config :=
  let d : Config := {}
  let logBuffer := s.logBuffer.getD d.logBuffer
  let pollInterval := s.pollIntervalMs.getD d.pollInterval
  if hb : 0 < logBuffer then
    if hp : 0 < pollInterval then
      .ok {
        waitTimeout := (s.waitSecs.map (· * 1000)).getD d.waitTimeout
        pollInterval
        logBuffer
        shutdownGrace := s.shutdownGraceMs.getD d.shutdownGrace
        printLogs := s.printLogs.getD d.printLogs
        waitFor := s.waitFor
        pollInterval_pos := hp
        logBuffer_pos := hb }
    else .error (.invalidValue "poll_interval" .zero)
  else .error (.invalidValue "log_buffer" .belowOne)

end Readiness
