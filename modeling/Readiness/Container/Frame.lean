import Readiness.Log.Chunk

/-!
# Frames of a daemon

A daemon sends a container's log in frames. A terminal has one stream only, which counts as standard
output; what was typed into the container is no output of it.
-/

namespace Readiness

inductive FrameKind
  | stdin
  | stdout
  | stderr
  | console
  deriving DecidableEq, Repr

structure Frame where
  kind : FrameKind
  bytes : Bytes
  deriving DecidableEq, Repr

/-- The output in a frame. -/
def Frame.chunk? (f : Frame) : Option Chunk :=
  match f.kind with
  | .stdin => none
  | .stdout | .console => some ⟨.stdout, f.bytes⟩
  | .stderr => some ⟨.stderr, f.bytes⟩

end Readiness
