import Readiness.Container.Host
import Readiness.Log.Printer

/-!
# The log pipeline

A feed takes the items of a host's stream and writes their chunks to a splitter; printers drain its
outputs. They are tasks that move one at a time, in any order. A move of the feed is to attach, to
take an item, or to carry a chunk to one queue; a move of a printer is one `Splitter.advance` and
what it does with the line. A task whose move has to wait has none (`step` is `none`).

* The feed looks at the close signal before each of its moves, and ends when the signal is up, when
  the stream ends or yields a failure, and when it cannot attach. It then raises the signal itself
  and lets go of the input.
* A printer ends at the end of its output.

Every move lowers `work`, so moving on for as long as a task can move comes to an end: `settle`.
-/

namespace Readiness

/-- Where the feed is. -/
inductive Feed
  /-- Not started. -/
  | idle
  /-- About to attach, or waiting for that. -/
  | attaching
  /-- About to take an item. -/
  | reading (tail : Tail)
  /-- About to carry a chunk to the combined output. -/
  | copying (chunk : Chunk) (tail : Tail)
  /-- About to carry a chunk to the output of its channel. -/
  | tagging (chunk : Chunk) (tail : Tail)
  | ended

/-- A printer at an output, if there is one, and whether it is at work. -/
structure Station (σ ν : Type) where
  printer : Option (Printer σ ν) := none
  running : Bool := false

/-- The tasks of a pipeline. -/
inductive TaskId
  | feed
  | printer (o : Outlet)
  deriving DecidableEq, Repr

structure Pipeline (σ ν : Type) where
  container : String
  splitter : Splitter
  feed : Feed := .idle
  stations : PerOutlet (Station σ ν) := .all {}

namespace Feed

/-- Whether the feed has something left to do. -/
def running : Feed → Bool
  | idle | ended => false
  | _ => true

end Feed

namespace Pipeline

variable {σ ν : Type}

def station (p : Pipeline σ ν) (o : Outlet) : Station σ ν := p.stations.get o

def setStation (p : Pipeline σ ν) (o : Outlet) (x : Station σ ν) : Pipeline σ ν :=
  { p with stations := p.stations.set x o }

/-- Whether a task is not over. -/
def isRunning (p : Pipeline σ ν) : TaskId → Bool
  | .feed => p.feed.running
  | .printer o => (p.station o).running

def tasks : List TaskId := [.feed, .printer .combined, .printer .stdout, .printer .stderr]

/-- Whether every task is over. -/
def isOver (p : Pipeline σ ν) : Bool := tasks.all fun t => !p.isRunning t

/-! ## Starting and stopping -/

/-- Sets the tasks to work: a printer takes its reader, an output without one is dropped, and the
    feed takes the input. -/
def start (p : Pipeline σ ν) : Pipeline σ ν :=
  let engage (p : Pipeline σ ν) (o : Outlet) : Pipeline σ ν :=
    if (p.station o).printer.isSome then
      { p with splitter := (p.splitter.takeReader o).getD p.splitter }.setStation o
        { p.station o with running := true }
    else { p with splitter := p.splitter.dropReader o }
  let p := engage (engage (engage p .combined) .stdout) .stderr
  { p with splitter := (p.splitter.takeInput).getD p.splitter, feed := .attaching }

/-- Raises the close signal. -/
def close (p : Pipeline σ ν) : Pipeline σ ν := { p with splitter := p.splitter.close }

/-- Stops every task where it stands. -/
def abort (p : Pipeline σ ν) : Pipeline σ ν :=
  { p with
    feed := if p.feed.running then .ended else p.feed
    stations := p.stations.map fun x => { x with running := false } }

/-! ## Moves -/

/-- The feed is over. -/
def endFeed (p : Pipeline σ ν) : Pipeline σ ν :=
  { p with feed := .ended, splitter := p.splitter.close.dropInput }

/-- The feed carries a chunk to an output, if there is room, and goes on. -/
def carry (p : Pipeline σ ν) (o : Outlet) (c : Chunk) (feed : Feed) : Option (Pipeline σ ν) :=
  (p.splitter.offer o c.bytes).map fun s => { p with splitter := s, feed }

/-- A move of the feed. -/
def stepFeed (h : Host) (p : Pipeline σ ν) : Option (Host × Pipeline σ ν) :=
  if p.feed.running && p.splitter.closed then some (h, p.endFeed)
  else match p.feed with
    | .idle | .ended => none
    | .attaching => match h.attach p.container {} with
      | .stream tail h' => some (h', { p with feed := .reading tail })
      | .failed _ => some (h, p.endFeed)
      | .pending => none
    | .reading tail => match h.next tail with
      | (.item (.ok c), tail', h') => some (h', { p with feed := .copying c tail' })
      | (.item (.error _), _, h') => some (h', p.endFeed)
      | (.ended, _, h') => some (h', p.endFeed)
      | (.waiting, _, _) => none
    | .copying c tail => (p.carry .combined c (.tagging c tail)).map (h, ·)
    | .tagging c tail => (p.carry c.channel.outlet c (.reading tail)).map (h, ·)

/-- A move of a printer. -/
def stepPrinter [Listener σ ν] (p : Pipeline σ ν) (o : Outlet) : Option (Pipeline σ ν) :=
  let x := p.station o
  if x.running then
    match p.splitter.advance o with
    | (.line text, s) =>
      some (setStation { p with splitter := s } o
        { x with printer := x.printer.map (Printer.deliver · text) })
    | (.gathered, s) => some { p with splitter := s }
    | (.ended, _) => some (p.setStation o { x with running := false })
    | (.waiting, _) => none
  else none

/-- A move of a task; `none` if it has none at the moment. -/
def step [Listener σ ν] (h : Host) (p : Pipeline σ ν) : TaskId → Option (Host × Pipeline σ ν)
  | .feed => p.stepFeed h
  | .printer o => (p.stepPrinter o).map (h, ·)

/-- The move of the first task that has one. -/
def move? [Listener σ ν] (h : Host) (p : Pipeline σ ν) : Option (Host × Pipeline σ ν) :=
  tasks.findSome? (p.step h)

/-! ## The work that is left -/

/-- What there is to do with a chunk behind the queue: to gather it and hand over its lines. -/
def chunkWork (bs : Bytes) : Nat := 1 + bs.length

/-- What there is to do with an item of the stream: to take it, carry it to two outputs and read it
    there. -/
def itemWork : Item → Nat
  | .ok c => 3 + 2 * chunkWork c.bytes
  | .error _ => 1

def itemsWork : List Item → Nat
  | [] => 0
  | i :: is => itemWork i + itemsWork is

/-- What there is to do with the chunks of a queue. -/
def queueWork : List Bytes → Nat
  | [] => 0
  | c :: cs => chunkWork c + queueWork cs

/-- What there is to do at an output. -/
def outputWork (x : Output) : Nat := queueWork x.queue + x.pending.length

/-- What there is to do for the feed. -/
def feedWork (h : Host) (container : String) : Feed → Nat
  | .idle | .ended => 0
  | .attaching => match h.attach container {} with
    | .stream tail h' => 2 + itemsWork (h'.backlog tail)
    | _ => 1
  | .reading tail => 1 + itemsWork (h.backlog tail)
  | .copying c tail => 3 + 2 * chunkWork c.bytes + itemsWork (h.backlog tail)
  | .tagging c tail => 2 + chunkWork c.bytes + itemsWork (h.backlog tail)

def stationWork (x : Station σ ν) : Nat := if x.running then 1 else 0

/-- A bound on the moves that are left. -/
def work (h : Host) (p : Pipeline σ ν) : Nat :=
  feedWork h p.container p.feed +
    (outputWork (p.splitter.output .combined) + outputWork (p.splitter.output .stdout) +
      outputWork (p.splitter.output .stderr)) +
    (stationWork (p.station .combined) + stationWork (p.station .stdout) +
      stationWork (p.station .stderr))

end Pipeline

end Readiness
