import Readiness.Log.Chunk
import Readiness.Log.Lines

/-!
# The splitter

A splitter takes tagged chunks at its input and carries each to two bounded queues: first to the
combined one, then to that of its channel. A reader drains each queue. Nothing is ever thrown away
while somebody may still read it: a write to a full queue waits. A reader that is dropped opts out,
its queue is skipped from then on. Closing is a signal that anybody may raise; it refuses later
writes and ends a reader once its queue is empty.

A queue has a greatest capacity. Whoever asks for more gets no splitter (`make?`); that is not a
failure which could be handed on, it is the end of the program.

The four endpoints are handed out once each. One that is still inside counts as live and goes with
the splitter when that is dropped.

* `write`: one attempt to write a chunk. It is `blocked` where it would wait, and then keeps what it
  has already carried to the combined queue.
* `advance`: one move of a reader towards its next line; `nextLine` makes as many as it takes.
* `nextChunk`, `rest`: the queued chunks as they are, past the line that is being gathered.
-/

namespace Readiness

/-- Where an endpoint is. -/
inductive Holding
  | inside
  | taken
  | dropped
  deriving DecidableEq, Repr

namespace Holding

def live : Holding → Bool
  | dropped => false
  | _ => true

end Holding

/-- One output of a splitter with its reader. -/
structure Output where
  reader : Holding := .inside
  /-- The chunks that wait, oldest first. -/
  queue : List Bytes := []
  /-- What the reader has taken out and not yet handed over as a line. -/
  pending : Bytes := []
  deriving DecidableEq, Repr

structure Splitter where
  /-- How many chunks a queue holds. -/
  capacity : Nat
  capacity_pos : 0 < capacity := by decide
  /-- The close signal. -/
  closed : Bool := false
  /-- Whether the splitter itself is still held. -/
  held : Bool := true
  input : Holding := .inside
  outputs : PerOutlet Output := .all {}

/-- What became of an attempt to write. -/
inductive WriteOutcome
  | written
  | blocked
  | closed
  deriving DecidableEq, Repr

/-- What a reader is handed. -/
inductive ReadOutcome (α : Type)
  | got (a : α)
  | ended
  | waiting
  deriving DecidableEq, Repr

/-- One move of a reader towards its next line. -/
inductive Advance
  /-- A line came out. -/
  | line (text : String)
  /-- A chunk was added to what is being gathered. -/
  | gathered
  | ended
  | waiting
  deriving DecidableEq, Repr

namespace Output

/-- An output nobody will read any more, with nothing that waits. -/
def abandoned : Output := { reader := .dropped }

/-- Carries bytes to the output. One that nobody reads takes nothing and never blocks; `none` is a
    full queue. -/
def offer (x : Output) (capacity : Nat) (bs : Bytes) : Option Output :=
  if x.reader.live then
    if x.queue.length < capacity then some { x with queue := x.queue ++ [bs] } else none
  else some x

/-- The output when its reader keeps gathering from `rest`. -/
def keep (x : Output) (rest : Bytes) : Output := { x with pending := rest }

/-- The output when its reader has gathered a chunk and `cs` are still queued. -/
def gather (x : Output) (c : Bytes) (cs : List Bytes) : Output :=
  { x with queue := cs, pending := x.pending ++ c }

end Output

namespace Splitter

/-- How many chunks a queue holds if nothing else is asked for. -/
def defaultCapacity : Nat := 64

/-- A splitter whose queues hold `capacity` chunks each, at least one. -/
def ofCapacity (capacity : Nat) : Splitter where
  capacity := max capacity 1
  capacity_pos := Nat.lt_of_lt_of_le Nat.one_pos (Nat.le_max_right _ _)

/-- The greatest capacity of a queue. -/
def maxCapacity : Nat := 0x1FFFFFFFFFFFFFFF

/-- Whether a queue can have a capacity. To ask for another is fatal. -/
def canQueue (capacity : Nat) : Bool := 0 < capacity && capacity ≤ maxCapacity

/-- Makes a splitter; `none` where that is fatal. -/
def make? (capacity : Nat) : Option Splitter :=
  if canQueue (max capacity 1) then some (ofCapacity capacity) else none

def output (s : Splitter) (o : Outlet) : Output := s.outputs.get o

def setOutput (s : Splitter) (o : Outlet) (x : Output) : Splitter :=
  { s with outputs := s.outputs.set x o }

/-! ## Endpoints -/

/-- Takes the input; `none` if it is no longer inside. -/
def takeInput (s : Splitter) : Option Splitter :=
  if s.held ∧ s.input = .inside then some { s with input := .taken } else none

/-- Takes a reader; `none` if it is no longer inside. -/
def takeReader (s : Splitter) (o : Outlet) : Option Splitter :=
  if s.held ∧ (s.output o).reader = .inside then
    some (s.setOutput o { s.output o with reader := .taken })
  else none

/-- Drops the input, wherever it is. -/
def dropInput (s : Splitter) : Splitter := { s with input := .dropped }

/-- Drops a reader with all that waits for it. -/
def dropReader (s : Splitter) (o : Outlet) : Splitter :=
  s.setOutput o .abandoned

/-- Drops the splitter with the endpoints that are still inside. -/
def drop (s : Splitter) : Splitter :=
  { s with
    held := false
    input := if s.input = .inside then .dropped else s.input
    outputs := s.outputs.map fun x => if x.reader = .inside then .abandoned else x }

/-- Raises the close signal. -/
def close (s : Splitter) : Splitter := { s with closed := true }

/-! ## Writing -/

def offer (s : Splitter) (o : Outlet) (bs : Bytes) : Option Splitter :=
  ((s.output o).offer s.capacity bs).map (s.setOutput o)

/-- One attempt to write a chunk. -/
def write (s : Splitter) (c : Chunk) : WriteOutcome × Splitter :=
  if s.closed then (.closed, s)
  else match s.offer .combined c.bytes with
    | none => (.blocked, s)
    | some s' => match s'.offer c.channel.outlet c.bytes with
      | none => (.blocked, s')
      | some s'' => (.written, s'')

/-! ## Reading -/

/-- Whether no chunk can arrive any more. -/
def finished (s : Splitter) : Bool := s.closed || !s.input.live

/-- The oldest queued chunk. The signal ends a reader only behind the chunks already queued. -/
def nextChunk (s : Splitter) (o : Outlet) : ReadOutcome Bytes × Splitter :=
  match (s.output o).queue with
  | c :: cs => (.got c, s.setOutput o { s.output o with queue := cs })
  | [] => (if s.finished then .ended else .waiting, s)

/-- One move towards the next line: hand over a line that is complete, else gather a chunk, else,
    at the end, hand over the rest as a last line. -/
def advance (s : Splitter) (o : Outlet) : Advance × Splitter :=
  let x := s.output o
  match Lines.cut? x.pending with
  | some (line, rest) =>
    (.line (Utf8.decode (Lines.chomp line)), s.setOutput o (x.keep rest))
  | none => match x.queue with
    | c :: cs => (.gathered, s.setOutput o (x.gather c cs))
    | [] =>
      if s.finished then
        if x.pending.isEmpty then (.ended, s)
        else (.line (Utf8.decode x.pending), s.setOutput o (x.keep []))
      else (.waiting, s)

@[simp] theorem output_setOutput_self (s : Splitter) (o : Outlet) (x : Output) :
    (s.setOutput o x).output o = x := PerOutlet.get_set_self _ _ _

theorem output_setOutput_of_ne (s : Splitter) {o o' : Outlet} (x : Output) (h : o' ≠ o) :
    (s.setOutput o x).output o' = s.output o' := PerOutlet.get_set_of_ne _ _ h

/-- Whoever gathers takes the first chunk that is queued. -/
theorem advance_gathered {s s' : Splitter} {o : Outlet} (h : s.advance o = (.gathered, s')) :
    ∃ c cs, (s.output o).queue = c :: cs ∧ s' = s.setOutput o ((s.output o).gather c cs) := by
  unfold advance at h
  dsimp only at h
  split at h
  · cases h
  · split at h
    · next c cs hq => cases h; exact ⟨c, cs, hq, rfl⟩
    · split at h
      · split at h <;> cases h
      · cases h

/-- The next line, gathered from as many chunks as it takes. -/
def nextLine (s : Splitter) (o : Outlet) : ReadOutcome String × Splitter :=
  match _h : s.advance o with
  | (.line text, s') => (.got text, s')
  | (.gathered, s') => nextLine s' o
  | (.ended, s') => (.ended, s')
  | (.waiting, s') => (.waiting, s')
termination_by (s.output o).queue.length
decreasing_by
  obtain ⟨c, cs, hq, rfl⟩ := advance_gathered _h
  simp [hq, Output.gather]

/-- All bytes up to the end of the output, beginning with those being gathered. Where the end has
    not come, what could be read is lost. -/
def rest (s : Splitter) (o : Outlet) : ReadOutcome Bytes × Splitter :=
  let x := s.output o
  let s' := s.setOutput o { x with queue := [], pending := [] }
  (if s.finished then .got (x.pending ++ x.queue.flatten) else .waiting, s')

end Splitter

end Readiness
