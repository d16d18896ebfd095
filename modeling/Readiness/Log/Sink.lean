import Readiness.Log.Lines
import Readiness.Text.Quoted

/-!
# Sinks

A sink takes lines of output: memory, a file, the console, or a writer that may fail. It keeps what
was written to it. A writer may take only so many bytes, and then cuts the write that crosses the
limit and refuses every later one; and one of its flushes may fail.
-/

namespace Readiness

structure Sink where
  name : String
  /-- What was written so far. -/
  written : Bytes := []
  /-- How many bytes it takes in all; `none` is no limit. -/
  limit : Option Nat := none
  /-- Which flush fails, counted from 1; `none` is never. -/
  failingFlush : Option Nat := none
  /-- How often it was flushed. -/
  flushes : Nat := 0
  /-- Whether it is a side of the console. -/
  isConsole : Bool := false
  deriving DecidableEq, Repr

namespace Sink

/-- A sink that keeps what it gets in memory. -/
def capture : Sink := { name := "capture" }

/-- The console's side of a name. -/
def console (name : String) : Sink := { name, isConsole := true }

/-- A writer that may have a limit and a failing flush. -/
def limited (limit failingFlush : Option Nat) : Sink := { name := "limited", limit, failingFlush }

/-- A file with what it held before; lines are appended. -/
def file (path : String) (existing : Bytes) : Sink := { name := path, written := existing }

/-- Writes bytes as far as they fit, and says whether all did. -/
def write (s : Sink) (bs : Bytes) : Bool × Sink :=
  match s.limit with
  | none => (true, { s with written := s.written ++ bs })
  | some n =>
    let room := n - s.written.length
    (bs.length ≤ room, { s with written := s.written ++ bs.take room })

/-- Flushes, and says whether that worked. -/
def flush (s : Sink) : Bool × Sink :=
  (s.failingFlush != some (s.flushes + 1), { s with flushes := s.flushes + 1 })

/-- The bytes of a written line. -/
def lineBytes (label line : String) : Bytes := Utf8.encode label ++ Utf8.encode line ++ [lf]

/-- Writes a label, a line and its end, then flushes; says whether all of it worked. -/
def writeLine (s : Sink) (label line : String) : Bool × Sink :=
  let (ok, s) := s.write (lineBytes label line)
  if ok then s.flush else (false, s)

/-- A sink as it is shown. -/
def debug (s : Sink) : String := "LogSink \x7b name: " ++ Quoted.text s.name ++ " \x7d"

/-- What was written, as text. -/
def contents (s : Sink) : String := Utf8.decode s.written

/-- The written lines. -/
def lines (s : Sink) : List String := Lines.ofText s.contents

end Sink

end Readiness
