import Readiness.Command.Run
import Readiness.Config.Environment
import Readiness.Config.File

/-!
# The program

`main` carries out a command on a log that is piped in: the container's output is what stands in
standard input, all of it on standard output's channel. The settings are those of the file named on
the command line, or else of the environment.
-/

open Readiness Readiness.Command

/-- What a refusal calls for: the text to write, and the exit code. -/
def Readiness.Command.Refusal.answer : Refusal → String × UInt32
  | .versionWanted => (Invocation.versionText, 0)
  | .helpWanted => ("usage: docker-ready [-c FILE] [-v] (wait CONTAINER [OPTIONS] | logs CONTAINER)\n", 0)
  | .nothingGiven | .missingCommand => ("error: a command is required\n", 2)
  | .unknownCommand => ("error: unrecognized command\n", 2)
  | .unknownArgument => ("error: unexpected argument\n", 2)
  | .missingValue => ("error: a value is required\n", 2)
  | .needlessValue => ("error: unexpected value\n", 2)
  | .invalidValue => ("error: invalid value\n", 2)
  | .repeated => ("error: an argument cannot be used twice\n", 2)
  | .missingArgument => ("error: a required argument is missing\n", 2)

/-- Reads the configuration that an invocation is to use. -/
def readConfig (i : Invocation) : IO (Except ConfigError Config) := do
  match i.config with
  | some path =>
    try
      let bytes ← IO.FS.readBinFile path
      return Config.ofFile (some bytes.toList)
    catch _ => return Config.ofFile none
  | none =>
    let names := [Environment.waitSecs, Environment.pollIntervalMs, Environment.logBuffer,
      Environment.shutdownGraceMs, Environment.printLogs]
    let values ← names.mapM fun name => return (← IO.getEnv name).map ((name, ·))
    return Config.ofEnvironment (Environment.ofList (values.filterMap id))

/-- Reads standard input to its end, as chunks of standard output. -/
partial def readInput (stream : IO.FS.Stream) (read : List Chunk) : IO (List Chunk) := do
  let bytes ← stream.read 65536
  if bytes.isEmpty then return read.reverse
  else readInput stream ({ channel := .stdout, bytes := bytes.toList } :: read)

/-- Writes what a command wrote, and gives its exit code. -/
def finish (result : Except CommandError Unit × Transcript) : IO UInt32 := do
  (← IO.getStdout).write ⟨result.2.out.toArray⟩
  (← IO.getStderr).write ⟨result.2.err.toArray⟩
  match result.1 with
  | .ok _ => return 0
  | .error error =>
    IO.eprintln ("Error: " ++ error.message)
    return 1

def main (words : List String) : IO UInt32 := do
  match Invocation.ofWords words with
  | .error refusal =>
    let (text, code) := refusal.answer
    if code = 0 then IO.print text else IO.eprint text
    return code
  | .ok i =>
    match i.task with
    | .logs container =>
      let chunks ← readInput (← IO.getStdin) []
      finish (logs container (.ok (.replay chunks)))
    | .wait args =>
      match ← readConfig i with
      | .error error =>
        IO.eprintln ("Error: " ++ error.message)
        return 1
      | .ok config =>
        let chunks ← readInput (← IO.getStdin) []
        match wait args config (.ok (.replay chunks)) {} with
        | some result => finish result
        | none =>
          IO.eprintln "fatal: no log buffer of that size"
          return 101
