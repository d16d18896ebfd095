import Readiness.Log.Splitter.Marked

/-!
# An input that finds out who reads

The input of a splitter has a wire to the queue of every output. Whether somebody still reads there
it learns only when it sends: a queue whose reader was dropped refuses what it is sent, and the
input then cuts the wire. An output behind a cut wire is passed over from then on, without a look at
its queue or at the close signal. `WiredSplitter` is a splitter whose readers keep their marks and
whose input keeps its wires.

* `Splitter.send`: one attempt to send bytes to a queue;
* `forward`: what one output has of a write;
* `write`: one attempt to write a chunk, first to the combined output.
-/

namespace Readiness

open Use (Answer)

/-- What the input is told where it sends. -/
inductive SendOutcome
  | sent
  /-- The queue has no room. -/
  | full
  /-- The reader was dropped, and the queue with it. -/
  | refused
  deriving DecidableEq, Repr

/-- One attempt to send bytes to the queue of an output. -/
def Splitter.send (s : Splitter) (o : Outlet) (bs : Bytes) : SendOutcome × Splitter :=
  let x := s.output o
  if x.reader = .dropped then (.refused, s)
  else if x.queue.length < s.capacity then
    (.sent, s.setOutput o { x with queue := x.queue ++ [bs] })
  else (.full, s)

/-- A splitter with the marks of its readers and the wires of its input. -/
structure WiredSplitter where
  marked : MarkedSplitter
  /-- To which outputs the input still sends. -/
  wires : PerOutlet Bool := .all true

namespace WiredSplitter

def ofCapacity (capacity : Nat) : WiredSplitter := { marked := .ofCapacity capacity }

def splitter (w : WiredSplitter) : Splitter := w.marked.splitter

def output (w : WiredSplitter) (o : Outlet) : Output := w.splitter.output o

/-- Whether the input still sends to an output. -/
def isWired (w : WiredSplitter) (o : Outlet) : Bool := w.wires.get o

def withSplitter (w : WiredSplitter) (s : Splitter) : WiredSplitter :=
  { w with marked := { w.marked with splitter := s } }

def setOutput (w : WiredSplitter) (o : Outlet) (x : Output) : WiredSplitter :=
  w.withSplitter (w.splitter.setOutput o x)

def cut (w : WiredSplitter) (o : Outlet) : WiredSplitter :=
  { w with wires := w.wires.set false o }

/-- What an output has of a write. It is `written` as well where nobody reads the output. -/
def forward (w : WiredSplitter) (o : Outlet) (bs : Bytes) : WriteOutcome × WiredSplitter :=
  if w.isWired o then
    if w.splitter.closed then (.closed, w)
    else match w.splitter.send o bs with
      | (.sent, s) => (.written, w.withSplitter s)
      | (.full, s) => (.blocked, w.withSplitter s)
      | (.refused, s) => (.written, (w.withSplitter s).cut o)
  else (.written, w)

/-- One attempt to write a chunk. -/
def write (w : WiredSplitter) (c : Chunk) : WriteOutcome × WiredSplitter :=
  if w.splitter.closed then (.closed, w)
  else match w.forward .combined c.bytes with
    | (.written, w') => w'.forward c.channel.outlet c.bytes
    | r => r

/-- One step. Only a write involves the wires. -/
def use (w : WiredSplitter) : Use → Answer × WiredSplitter
  | .write c =>
    if w.splitter.holds .input then
      let (outcome, w') := w.write c
      (.written outcome, w')
    else (.noInput, w)
  | u =>
    let (answer, m) := w.marked.use u
    (answer, { w with marked := m })

end WiredSplitter

end Readiness
