import Readiness.Command.Reading
import Readiness.Config.Settings

/-!
# What a command line asks for

`Invocation.ofWords` reads a whole command line. The options of the program itself may also stand
behind the command, where they win over those in front of it.

`WaitArgs.conditions` lists what a wait command waits for: each log line, the sequence, each message
in the full log, then the ping. `WaitArgs.apply` puts a wait command on top of a configuration.
-/

namespace Readiness.Command

/-- What the wait command was given. -/
structure WaitArgs where
  container : String
  logs : List String := []
  sequence : List String := []
  fullLogs : List String := []
  http : Option String := none
  method : Option String := none
  status : Option String := none
  /-- The timeout in seconds. -/
  timeout : Option Nat := none
  name : Option String := none
  quiet : Bool := false
  deriving DecidableEq, Repr

inductive Task
  | wait (args : WaitArgs)
  | logs (container : String)
  deriving DecidableEq, Repr

structure Invocation where
  config : Option String := none
  /-- How much the program should say about itself. -/
  verbose : Nat := 0
  task : Task
  deriving DecidableEq, Repr

namespace WaitArgs

/-- What to wait for, in order. -/
def conditions (a : WaitArgs) : List WaitFor :=
  a.logs.map .logMessage ++
    (if a.sequence.isEmpty then [] else [.logMessageSequence a.sequence]) ++
    a.fullLogs.map .fullLogMessage ++
    (a.http.map fun url => .httpPing url a.method a.status).toList

/-- A configuration with the command on top of it. -/
def apply (a : WaitArgs) (c : Config) : Config :=
  { c with
    waitTimeout := (a.timeout.map (· * 1000)).getD c.waitTimeout
    printLogs := c.printLogs && !a.quiet
    waitFor := c.waitFor ++ a.conditions }

/-- What was read at the level of the command. A ping's settings call for a ping. -/
def ofReading (r : Reading) : Except Refusal WaitArgs :=
  match r.value? .container with
  | none => .error .missingArgument
  | some container =>
    if !r.has .http && (r.has .method || r.has .status) then .error .missingArgument
    else
      .ok {
        container
        logs := r.values .log
        sequence := r.values .sequence
        fullLogs := r.values .fullLog
        http := r.value? .http
        method := r.value? .method
        status := r.value? .status
        timeout := (r.value? .timeout).bind fun s => (Numeral.parse Numeral.max64 s).toOption
        name := r.value? .name
        quiet := r.has .quiet }

end WaitArgs

namespace Invocation

/-- What the program writes when it is asked for its version. -/
def versionText : String := "docker-ready 0.1.0\n"

/-- The greatest count of an option that is counted. -/
def maxCount : Nat := 255

/-- How often an option was given, in the counting of the program. -/
def count (r : Reading) (i : Item) : Nat := min (r.values i).length maxCount

/-- Which of the program's own messages are shown. -/
def logFilter (i : Invocation) : String :=
  match i.verbose with
  | 0 => "warn"
  | 1 => "docker_ready=debug"
  | _ => "docker_ready=trace"

/-- What was read at two levels: an option of the inner one wins. -/
def ofReadings (outer inner : Reading) (task : Task) : Invocation where
  config := inner.value? .config <|> outer.value? .config
  verbose := if inner.has .verbose then count inner .verbose else count outer .verbose
  task

/-- The words behind `help`: at most a command. -/
def helpWords : List String → Refusal
  | [] => .helpWanted
  | [name] => if Level.program.commands.contains name then .helpWanted else .unknownCommand
  | _ => .unknownCommand

/-- The command of a name with the words behind it. -/
def command (name : String) (words : List String) : Except Refusal (Reading × Task) :=
  match name with
  | "wait" => do
    let r ← Reading.all .wait words
    return (r, .wait (← WaitArgs.ofReading r))
  | "logs" => do
    let r ← Reading.all .logs words
    match r.value? .container with
    | some container => return (r, .logs container)
    | none => .error .missingArgument
  | _ => .error (helpWords words)

/-- Reads the words of a command line, without the name of the program. -/
def ofWords (words : List String) : Except Refusal Invocation := do
  let (outer, rest) ← Reading.run .program {} words
  match rest with
  | some (name, words) =>
    let (inner, task) ← command name words
    return ofReadings (← outer.settle) inner task
  | none =>
    let outer ← outer.settle
    .error (if outer.given.isEmpty then .nothingGiven else .missingCommand)

end Invocation

end Readiness.Command
