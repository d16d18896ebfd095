/-!
# Listeners and the fan-out

A listener has a state that lines change. With each line it may leave notes, and it may fail. A
fan-out is the ordered list of the listeners registered with it; it hands every line to every one of
them, and one that fails keeps none of the others from getting the line.
-/

namespace Readiness

/-- What a listener in a state of type `σ` does with a line. -/
structure Reaction (σ ν : Type) where
  state : σ
  notes : List ν := []
  failed : Bool := false

/-- States that react to lines. -/
class Listener (σ : Type) (ν : outParam Type) where
  hear : σ → String → Reaction σ ν

namespace Fanout

variable {σ ν : Type} [Listener σ ν]

/-- Hands a line to every listener, in the order of registration: the listeners afterwards and the
    notes they left. -/
def notify (listeners : List σ) (line : String) : List σ × List ν :=
  let reactions := listeners.map (Listener.hear · line)
  (reactions.map Reaction.state, reactions.flatMap Reaction.notes)

/-- Hands over lines one after the other. -/
def notifyAll (listeners : List σ) : List String → List σ × List ν
  | [] => (listeners, [])
  | line :: lines =>
    let (listeners, notes) := notify listeners line
    let (listeners, more) := notifyAll listeners lines
    (listeners, notes ++ more)

end Fanout

end Readiness
