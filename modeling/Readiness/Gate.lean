import Readiness.Config.Settings
import Readiness.Container.Daemon
import Readiness.Wait.Vigil

/-!
# Startup gates

A gate opens when a container is ready. `start` makes the requirements of the configuration and then
the added ones, sets a log session to work with their watches in its fan-out, and waits for them one
after the other. If a requirement cannot be made nothing else happens; if a wait fails the session
is closed before the failure is handed on; if all hold the session goes on until `close`. `start?`
also says whether it comes to that: a session with too great a buffer is fatal.

The sinks of a gate go to its first session. A channel without a sink falls back to the console, for
each session anew, if the gate may use the console and the configuration has logs printed.

Beside that, `waitForLog` waits for a message in the log fetched as a whole, at any time, and `log`
fetches it.
-/

namespace Readiness

/-- The log session of a gate. -/
abbrev GateSession := Session LogWatch Empty

structure Gate where
  container : String
  name : Option String := none
  image : Option String := none
  config : Config := {}
  /-- What to wait for behind what the configuration lists. -/
  added : List WaitFor := []
  /-- Whether it may use the console. -/
  console : Bool := true
  /-- The sinks that no session has yet. -/
  stdoutSink : Option Sink := none
  stderrSink : Option Sink := none
  /-- The session of a gate that is open. -/
  session : Option GateSession := none
  /-- The sessions that are over, oldest first. -/
  past : List GateSession := []

namespace Gate

/-- What the gate is called: name, short id and image, as far as they are known. -/
def describe (g : Gate) : String :=
  " ".intercalate ((g.name.map fun n => "'" ++ n ++ "'").toList ++ [shortId g.container] ++
    g.image.toList)

def isStarted (g : Gate) : Bool := g.session.isSome

/-- What to wait for, in order. -/
def waitFor (g : Gate) : List WaitFor := g.config.waitFor ++ g.added

/-- The requirements, or why the first that cannot be made cannot. -/
def requirements (g : Gate) : Except Misconfiguration (List Requirement) :=
  g.waitFor.mapM WaitFor.build

/-- The console's side for a channel, if it is to be used. -/
def fallback (g : Gate) (ch : Channel) : Option Sink :=
  if g.console && g.config.printLogs then some (.console ch.name) else none

/-- A session that is not started, with watches in its fan-out. -/
def prepareSession (g : Gate) (watches : List LogWatch) : GateSession :=
  .prepare g.container watches (g.stdoutSink <|> g.fallback .stdout)
    (g.stderrSink <|> g.fallback .stderr) g.config.logBuffer g.config.shutdownGrace

/-- A session at work, with watches in its fan-out. -/
def openSession (g : Gate) (watches : List LogWatch) : GateSession := (g.prepareSession watches).start

/-- The gate when its sinks have gone to a session. -/
def handOver (g : Gate) : Gate := { g with stdoutSink := none, stderrSink := none }

/-- The wait that begins with an attach to the container. -/
def vigil (g : Gate) (scene : Scene) (requirements : List Requirement) : Vigil :=
  { scene
    requirements
    session := some (g.openSession (requirements.filterMap Requirement.watch?)) }

/-- A session closed, and the time that took passed. -/
def closeSession (scene : Scene) (session : GateSession) : Scene × GateSession :=
  let (host, session, waited) := session.close scene.host
  ({ scene with host, now := scene.now + waited }, session)

/-- The gate with a session that is over. -/
def retire (g : Gate) (session : GateSession) : Gate :=
  { g with session := none, past := g.past ++ [session] }

/-- Waits until the container is ready, where that is not fatal; `start?` says where it is. On an open
    gate nothing happens. -/
def start (g : Gate) (scene : Scene) : Outcome × Gate × Scene :=
  if g.isStarted then (.ready, g, scene)
  else match g.requirements with
    | .error cause => (.failed (.misconfigured cause), g, scene)
    | .ok requirements =>
      let v := g.vigil scene requirements
      let (outcome, v) := g.config.engine.runAll g.config.waitTimeout g.describe none
        (v.conditions g.container) v
      let g := g.handOver
      match v.session, outcome with
      | some session, .ready => (.ready, { g with session := some session }, v.scene)
      | some session, outcome =>
        let (scene, session) := closeSession v.scene session
        (outcome, g.retire session, scene)
      | none, outcome => (outcome, g, v.scene)

/-- Waits until the container is ready; `none` where that is fatal, which it can be once the
    requirements are made and the session is to be started. -/
def start? (g : Gate) (scene : Scene) : Option (Outcome × Gate × Scene) :=
  match g.isStarted, g.requirements with
  | false, .ok requirements =>
    (g.prepareSession (requirements.filterMap Requirement.watch?)).start?.map fun _ => g.start scene
  | _, _ => some (g.start scene)

/-- Closes an open gate. -/
def close (g : Gate) (scene : Scene) : Gate × Scene :=
  match g.session with
  | none => (g, scene)
  | some session =>
    let (scene, session) := closeSession scene session
    (g.retire session, scene)

/-- Waits until the log, fetched as a whole, mentions a message. -/
def waitForLog (g : Gate) (message : String) (timeout : Nat) (scene : Scene) :
    Outcome × Gate × Scene :=
  let v : Vigil := { scene, requirements := [.fullLog message], session := g.session }
  let (outcome, v) := g.config.engine.run (Vigil.condition g.container 0) timeout g.describe none v
  (outcome, { g with session := v.session }, v.scene)

/-- Fetches what the container has written so far. -/
def log (g : Gate) (scene : Scene) : Except LogError String × Scene :=
  let (log, host) := scene.host.currentLog g.container {}
  (log, { scene with host })

/-- Lets time pass in the foreground. -/
def pass (g : Gate) (d : Nat) (scene : Scene) : Gate × Scene :=
  let v := Vigil.pass d { scene, session := g.session }
  ({ g with session := v.session }, v.scene)

/-! ## What was written -/

/-- All sessions, oldest first. -/
def sessions (g : Gate) : List GateSession := g.past ++ g.session.toList

/-- The sink that was given to the gate for a channel, as it is now. -/
def sink (g : Gate) (ch : Channel) : Option Sink :=
  let unused := match ch with
    | .stdout => g.stdoutSink
    | .stderr => g.stderrSink
  unused <|> (g.sessions.findSome? fun s =>
    match s.sink ch with
    | some sink => if sink.isConsole then none else some sink
    | none => none)

/-- What the console got for a channel. -/
def printed (g : Gate) (ch : Channel) : Bytes :=
  g.sessions.flatMap fun s =>
    match s.sink ch with
    | some sink => if sink.isConsole then sink.written else []
    | none => []

end Gate

end Readiness
