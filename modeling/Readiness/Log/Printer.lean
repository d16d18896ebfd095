import Readiness.Log.Listener
import Readiness.Log.Sink
import Readiness.Log.Splitter

/-!
# Printers

A printer reads one output line by line and hands every line to its sink, behind a label, and to its
listeners, bare. A sink that fails once is left alone from then on; the listeners go on.
-/

namespace Readiness

structure Printer (σ ν : Type) where
  /-- Written before every line. -/
  label : String := ""
  sink : Option Sink := none
  /-- Whether the sink has failed. -/
  silenced : Bool := false
  listeners : List σ := []
  /-- What the listeners noted so far. -/
  notes : List ν := []
  /-- How many lines were read. -/
  count : Nat := 0

namespace Printer

variable {σ ν : Type}

/-- Hands a line to the sink, unless that has failed. -/
def echo (p : Printer σ ν) (line : String) : Printer σ ν :=
  match p.sink with
  | none => p
  | some sink =>
    if p.silenced then p
    else
      let (ok, sink) := sink.writeLine p.label line
      { p with sink := some sink, silenced := !ok }

/-- Hands a line to the listeners. -/
def announce [Listener σ ν] (p : Printer σ ν) (line : String) : Printer σ ν :=
  let (listeners, notes) := Fanout.notify p.listeners line
  { p with listeners, notes := p.notes ++ notes }

/-- One line read. -/
def deliver [Listener σ ν] (p : Printer σ ν) (line : String) : Printer σ ν :=
  { (p.echo line).announce line with count := p.count + 1 }

/-- The lines delivered one after the other. -/
def deliverAll [Listener σ ν] (p : Printer σ ν) (lines : List String) : Printer σ ν :=
  lines.foldl deliver p

end Printer

end Readiness
