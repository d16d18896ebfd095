/-!
# Timetables

A timetable lists what is due to happen, each at its instant, in the order of time.
-/

namespace Readiness

abbrev Timetable (ε : Type) := List (Nat × ε)

namespace Timetable

variable {ε σ : Type}

/-- Events in any order, put in the order of time. -/
def ofList (events : List (Nat × ε)) : Timetable ε := events.mergeSort fun a b => a.1 ≤ b.1

/-- Lets the events up to an instant happen to a state, one after the other; also gives the events
    that are left. -/
def advance (happen : ε → σ → σ) (limit : Nat) : Timetable ε → σ → σ × Timetable ε
  | [], s => (s, [])
  | (t, e) :: events, s =>
    if t ≤ limit then advance happen limit events (happen e s) else (s, (t, e) :: events)

end Timetable

end Readiness
