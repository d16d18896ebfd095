import Readiness.Container.Name
import Readiness.Log.Settling

/-!
# Log sessions

A session follows the output of one container: a pipeline whose printers are one for the listeners,
on the combined output, and one for each channel that has a sink. It is started once, closed once,
and may be dropped instead.

Closing raises the splitter's signal and gives the tasks a grace period to end; those that are still
at work then are stopped where they stand. With no grace period they are stopped before they move
again, and what they had not printed is lost. Starting and closing are guarded by a flag each: a
closed session that was never started can still be started, and closing it again then does nothing.
-/

namespace Readiness

structure Session (σ ν : Type) where
  pipeline : Pipeline σ ν
  /-- The grace period in milliseconds. -/
  grace : Nat
  started : Bool := false
  closed : Bool := false

namespace Session

/-- The grace period if nothing else is asked for, in milliseconds. -/
def defaultGrace : Nat := 1000

/-- What is written before the lines of a channel. -/
def label (container : String) (ch : Channel) : String :=
  shortId container ++ "-" ++ ch.name ++ "> "

variable {σ ν : Type}

/-- The printer for the listeners. Without listeners there is none. -/
def announcer (listeners : List σ) : Station σ ν :=
  if listeners.isEmpty then {} else { printer := some { listeners } }

/-- The printer for the sink of a channel, if it has one. -/
def echoer (container : String) (ch : Channel) (sink : Option Sink) : Station σ ν :=
  { printer := sink.map fun sink => { label := label container ch, sink := some sink } }

/-- A session that is not started. -/
def prepare (container : String) (listeners : List σ) (stdoutSink stderrSink : Option Sink)
    (capacity grace : Nat) : Session σ ν where
  pipeline :=
    { container
      splitter := .ofCapacity capacity
      stations :=
        { stdout := echoer container .stdout stdoutSink
          stderr := echoer container .stderr stderrSink
          combined := announcer listeners } }
  grace

/-- The listeners as they are now. -/
def listeners (s : Session σ ν) : List σ :=
  match (s.pipeline.station .combined).printer with
  | none => []
  | some p => p.listeners

/-- What the listeners noted so far. -/
def notes (s : Session σ ν) : List ν :=
  match (s.pipeline.station .combined).printer with
  | none => []
  | some p => p.notes

/-- The sink of a channel as it is now. -/
def sink (s : Session σ ν) (ch : Channel) : Option Sink :=
  (s.pipeline.station ch.outlet).printer.bind Printer.sink

/-- Sets the tasks to work, the first time, where that is not fatal; `start?` says where it is. -/
def start (s : Session σ ν) : Session σ ν :=
  if s.started then s else { s with started := true, pipeline := s.pipeline.start }

/-- Sets the tasks to work; `none` where that is fatal. The splitter is made the first time. -/
def start? (s : Session σ ν) : Option (Session σ ν) :=
  if s.started then some s
  else (Splitter.make? s.pipeline.splitter.capacity).map fun _ => s.start

/-- Stops at once: the signal is raised and every task stopped where it stands. -/
def drop (s : Session σ ν) : Session σ ν :=
  { s with
    pipeline := (if s.started && !s.closed then s.pipeline.close else s.pipeline).abort }

variable [Listener σ ν]

/-- Lets the tasks move until none can. -/
def settle (h : Host) (s : Session σ ν) : Host × Session σ ν :=
  let (h, pipeline) := s.pipeline.settle h
  (h, { s with pipeline })

/-- Closes the session, the first time. Also says how many milliseconds that took: none if the tasks
    end by themselves, else the whole grace period. -/
def close (h : Host) (s : Session σ ν) : Host × Session σ ν × Nat :=
  if s.closed then (h, s, 0)
  else
    let s := { s with closed := true }
    let p := if s.started then s.pipeline.close else s.pipeline
    if p.isOver then (h, { s with pipeline := p }, 0)
    -- Without a grace period no task moves again.
    else if s.grace = 0 then (h, { s with pipeline := p.abort }, 0)
    else
      let (h, p) := p.settle h
      -- What cannot move now cannot move until the period is over.
      if p.isOver then (h, { s with pipeline := p }, 0)
      else (h, { s with pipeline := p.abort }, s.grace)

end Session

end Readiness
