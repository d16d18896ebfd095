import Readiness.Log.Settling

/-!
# A printer alone

A pipeline without a feed: one output with a printer, the others dropped, and chunks written by hand.
The printer reads on whenever a chunk was written, so the queue never fills up.
-/

namespace Readiness.Pipeline

variable {σ ν : Type}

/-- A pipeline with a printer at one output and nobody at the others. -/
def alone (capacity : Nat) (o : Outlet) (printer : Printer σ ν) : Pipeline σ ν :=
  let drop (s : Splitter) (o' : Outlet) : Splitter := if o' = o then s else s.dropReader o'
  setStation
    { container := ""
      splitter := drop (drop (drop (.ofCapacity capacity) .combined) .stdout) .stderr }
    o { printer := some printer, running := true }

variable [Listener σ ν]

/-- Lets the printer read on until it has to wait. -/
def readOn (p : Pipeline σ ν) : Pipeline σ ν := (p.settle (.replay [])).2

/-- Writes chunks one after the other. -/
def feedAll (p : Pipeline σ ν) : List Chunk → Pipeline σ ν
  | [] => p
  | c :: cs => feedAll (readOn { p with splitter := (p.splitter.write c).2 }) cs

/-- What has become of a printer at an output when chunks were written and the input was dropped,
    the splitter having been closed before that or not. -/
def printout (capacity : Nat) (o : Outlet) (printer : Printer σ ν) (chunks : List Chunk)
    (closing : Bool) : Printer σ ν :=
  let p := (alone capacity o printer).feedAll chunks
  let s := if closing then p.splitter.close else p.splitter
  ((readOn { p with splitter := s.dropInput }).station o).printer.getD printer

end Readiness.Pipeline
