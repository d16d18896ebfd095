import Readiness.Log.Sink

/-!
# Lines written piece by piece

A line goes to a writer in pieces: its label, its text, its end. Of what it is handed, a writer
takes as many bytes as it has room for; it is called again for those it left, and has failed where
it takes none of them. A piece without bytes is no call at all. What comes of that is what
`Sink.write` and `Sink.writeLine` say in one step.

* `call`: one call of a writer;
* `writeAll`: as many calls as a piece needs;
* `writePieces`, `writeLineInPieces`: a line, and the flush behind it.
-/

namespace Readiness.Sink

/-- One call of a writer: how many of the bytes it takes. -/
def call (s : Sink) (bs : Bytes) : Nat × Sink :=
  let taken := match s.limit with
    | none => bs
    | some n => bs.take (n - s.written.length)
  (taken.length, { s with written := s.written ++ taken })

/-- Calls a writer until it has taken all bytes, or takes none of them. -/
def writeAll (s : Sink) (bs : Bytes) : Bool × Sink :=
  if _h : bs = [] then (true, s)
  else match s.call bs with
    | (0, s') => (false, s')
    | (n + 1, s') => writeAll s' (bs.drop (n + 1))
termination_by bs.length
decreasing_by
  have := List.length_pos_iff.2 _h
  simp only [List.length_drop]
  omega

/-- Writes pieces one after the other, up to the first that does not go through. -/
def writePieces (s : Sink) : List Bytes → Bool × Sink
  | [] => (true, s)
  | piece :: pieces =>
    let (ok, s) := s.writeAll piece
    if ok then s.writePieces pieces else (false, s)

/-- Writes a label, a line and its end by calls of the writer, then flushes. -/
def writeLineInPieces (s : Sink) (label line : String) : Bool × Sink :=
  let (ok, s) := s.writePieces [Utf8.encode label, Utf8.encode line, [lf]]
  if ok then s.flush else (false, s)

end Readiness.Sink
