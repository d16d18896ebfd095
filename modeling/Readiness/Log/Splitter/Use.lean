import Readiness.Log.Splitter

/-!
# Using a splitter

Whoever has a splitter takes endpoints out of it and then works with those that it holds. A `Use` is
one such step, `Splitter.use` says what it answers and leaves behind. A step with an endpoint that is
not held, because it is still inside or was dropped, is answered and changes nothing.
-/

namespace Readiness

inductive Endpoint
  | input
  | reader (o : Outlet)
  deriving DecidableEq, Repr

inductive Use
  | take (e : Endpoint)
  | drop (e : Endpoint)
  | dropSplitter
  | write (c : Chunk)
  | nextLine (o : Outlet)
  | nextChunk (o : Outlet)
  | rest (o : Outlet)
  /-- Raises the close signal by the splitter. -/
  | close
  /-- Raises the close signal by the input. -/
  | closeInput
  /-- Looks at the close signal by the input. -/
  | awaitClose
  /-- Looks at the close signal by whatever is held. -/
  | lookAtSignal
  deriving DecidableEq, Repr

namespace Use

inductive Answer
  | taken
  /-- It was taken before. -/
  | gone
  | dropped
  | written (outcome : WriteOutcome)
  | line (outcome : ReadOutcome String)
  | bytes (outcome : ReadOutcome Bytes)
  | closed
  | waiting
  /-- The close signal as the splitter and the input show it, if they are held. -/
  | signal (splitter input : Option Bool)
  | noSplitter
  | noInput
  | notHeld
  deriving DecidableEq, Repr

end Use

namespace Splitter

/-- Shown where a write is refused because the splitter is closed. -/
def closedMessage : String := "log splitter closed"

/-- Where an endpoint is. -/
def holding (s : Splitter) : Endpoint → Holding
  | .input => s.input
  | .reader o => (s.output o).reader

/-- Whether an endpoint is out of the splitter and not dropped. -/
def holds (s : Splitter) (e : Endpoint) : Bool := s.holding e == .taken

def takeEnd (s : Splitter) : Endpoint → Option Splitter
  | .input => s.takeInput
  | .reader o => s.takeReader o

def dropEnd (s : Splitter) : Endpoint → Splitter
  | .input => s.dropInput
  | .reader o => s.dropReader o

/-- One step with a splitter. -/
def use (s : Splitter) : Use → Use.Answer × Splitter
  | .take e =>
    match s.takeEnd e with
    | some s' => (.taken, s')
    | none => (if s.held then .gone else .noSplitter, s)
  | .drop e => if s.holds e then (.dropped, s.dropEnd e) else (.notHeld, s)
  | .dropSplitter => if s.held then (.dropped, s.drop) else (.notHeld, s)
  | .write c =>
    if s.holds .input then
      let (outcome, s') := s.write c
      (.written outcome, s')
    else (.noInput, s)
  | .nextLine o =>
    if s.holds (.reader o) then
      let (outcome, s') := s.nextLine o
      (.line outcome, s')
    else (.notHeld, s)
  | .nextChunk o =>
    if s.holds (.reader o) then
      let (outcome, s') := s.nextChunk o
      (.bytes outcome, s')
    else (.notHeld, s)
  | .rest o =>
    if s.holds (.reader o) then
      let (outcome, s') := s.rest o
      (.bytes outcome, s')
    else (.notHeld, s)
  | .close => if s.held then (.closed, s.close) else (.noSplitter, s)
  | .closeInput => if s.holds .input then (.closed, s.close) else (.noInput, s)
  | .awaitClose =>
    (if s.holds .input then if s.closed then .closed else .waiting else .noInput, s)
  | .lookAtSignal =>
    (.signal (if s.held then some s.closed else none)
      (if s.holds .input then some s.closed else none), s)

/-- A splitter all of whose endpoints have been taken. -/
def takeAll (s : Splitter) : Splitter :=
  [Endpoint.input, .reader .stdout, .reader .stderr, .reader .combined].foldl
    (fun s e => (s.use (.take e)).2) s

end Splitter

end Readiness
