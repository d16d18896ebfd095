import Readiness.Proofs.Log.Printing
import Readiness.Proofs.Pipeline.Moves

/-!
# The lines that a printer delivers

Along a run of a pipeline, the printer of an outlet delivers a line wherever its reader hands one
over (`Pipeline.told`). These lines are all that changes a printer: behind a run it is what it was,
with the lines delivered (`Pipeline.Run.printer`).
-/

namespace Readiness.Pipeline

variable {σ ν : Type}

theorem station_setStation (p : Pipeline σ ν) (o o' : Outlet) (x : Station σ ν) :
    (p.setStation o x).station o' = if o' = o then x else p.station o' := PerOutlet.get_set _ _ _ _

variable [Listener σ ν]

/-- The line that a task hands to the printer of an outlet by its next move, if it does. -/
def line? (p : Pipeline σ ν) (o : Outlet) : TaskId → Option String
  | .feed => none
  | .printer o' =>
    if o' = o then
      match p.splitter.advance o with
      | (.line text, _) => some text
      | _ => none
    else none

/-- The lines that the printer of an outlet delivers over moves. -/
def told (o : Outlet) : Host × Pipeline σ ν → List Move → List String
  | _, [] => []
  | x, .task t :: ms =>
    match x.2.step x.1 t with
    | some y => (x.2.line? o t).toList ++ told o y ms
    | none => []
  | x, .happens e :: ms => told o (x.1.undergo e, x.2) ms

variable {o : Outlet}

/-- Nothing delivered changes nothing. -/
theorem map_deliverAll_nil (q : Option (Printer σ ν)) : q.map (·.deliverAll []) = q := by
  cases q <;> rfl

/-- A step of a task delivers the line that it takes, to the printer that it is about. -/
theorem printer_step {h h' : Host} {p p' : Pipeline σ ν} {t : TaskId}
    (hs : p.step h t = some (h', p')) :
    (p'.station o).printer = (p.station o).printer.map (·.deliverAll (p.line? o t).toList) := by
  cases taskMoves_of_eq hs with
  | feed hm =>
    have hid : (p'.station o).printer = (p.station o).printer := by
      cases hm <;> rfl
    exact hid.trans (map_deliverAll_nil _).symm
  | @printer o' _ hm =>
    by_cases ho : o' = o
    · subst ho
      cases hm with
      | line _ ha =>
        rw [station_setStation, if_pos rfl]
        simp only [line?, if_true, ha.eq]
        rfl
      | gathered _ ha =>
        simp only [line?, if_true, ha.eq]
        exact (map_deliverAll_nil _).symm
      | ended _ ha =>
        rw [station_setStation, if_pos rfl]
        simp only [line?, if_true, ha.eq]
        exact (map_deliverAll_nil _).symm
    · -- The printer of another outlet moves.
      have hid : (p'.station o).printer = (p.station o).printer := by
        cases hm with
        | line => rw [station_setStation, if_neg (Ne.symm ho)]; rfl
        | gathered => rfl
        | ended => rw [station_setStation, if_neg (Ne.symm ho)]
      simp only [line?, if_neg ho]
      exact hid.trans (map_deliverAll_nil _).symm

/-- What a run makes of a printer: it has delivered the lines. -/
theorem Run.printer {x y : Host × Pipeline σ ν} {ms : List Move} (h : Run x ms y) :
    (y.2.station o).printer = (x.2.station o).printer.map (·.deliverAll (told o x ms)) := by
  induction h with
  | nil => exact (map_deliverAll_nil _).symm
  | @task x y z t ms hs _ ih =>
    rw [ih, printer_step hs, told, hs, Option.map_map]
    simp only [Function.comp_def, Printer.deliverAll_append]
  | happens _ ih => exact ih

end Readiness.Pipeline
