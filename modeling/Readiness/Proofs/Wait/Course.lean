import Readiness.Proofs.Wait.Vigil

/-!
# Time that passes in a row

While time passes in a vigil, only its host and its session take part in what happens
(`Vigil.pass_eq_course`); what is being waited for does not matter (`Vigil.pass_withRequirements`).
When the tasks have moved as far as they can, they stay there until something happens. So time that
passes in two parts is the same as all of it at once (`Vigil.pass_pass`): a pause more or less changes
nothing.
-/

namespace Readiness

/-- What takes part in what happens: a host, and a session that follows a container there. -/
abbrev Course := Host × Option (Session LogWatch Empty)

namespace Course

/-- The tasks of the session move until none can. -/
def settle (c : Course) : Course :=
  match c.2 with
  | none => c
  | some s => ((s.settle c.1).1, some (s.settle c.1).2)

def undergo (e : Happening) (c : Course) : Course := settle (c.1.undergo e, c.2)

/-- Tasks that have moved as far as they can stay where they are. -/
theorem settle_settle (c : Course) : c.settle.settle = c.settle := by
  obtain ⟨h, _ | s⟩ := c
  · rfl
  · have hstuck := Pipeline.settle_of_isStuck (Pipeline.isStuck_settle h s.pipeline)
    simp only [settle, Session.settle, hstuck]

/-- Time that advances leaves a settled course settled. -/
theorem settle_advance (limit : Nat) (due : Timetable Happening) {c : Course}
    (hc : c.settle = c) : (due.advance undergo limit c).1.settle = (due.advance undergo limit c).1 :=
  Timetable.advance_preserves (fun c : Course => c.settle = c) (fun _ _ _ => settle_settle _) limit
    due hc

end Course

namespace Vigil

variable {v : Vigil}

def course (v : Vigil) : Course := (v.scene.host, v.session)

def withCourse (v : Vigil) (c : Course) : Vigil :=
  { v with scene := { v.scene with host := c.1 }, session := c.2 }

theorem settle_withCourse (v : Vigil) (c : Course) :
    (v.withCourse c).settle = v.withCourse c.settle := by
  obtain ⟨h, _ | s⟩ := c <;> rfl

theorem undergo_withCourse (e : Happening) (v : Vigil) (c : Course) :
    (v.withCourse c).undergo e = v.withCourse (c.undergo e) :=
  settle_withCourse v (c.1.undergo e, c.2)

/-- What time brings depends on the course of things alone, and changes nothing else. -/
theorem pass_eq_course {d : Nat} (hd : 0 < d) (v : Vigil) :
    v.pass d =
      let r := v.scene.due.advance Course.undergo (v.scene.now + d) v.course.settle
      { v with
        scene := { v.scene with host := r.1.1, now := v.scene.now + d, due := r.2 }
        session := r.1.2 } := by
  have hstep (e : Happening) (w : Vigil) (c : Course) (hw : w = v.withCourse c) :
      w.undergo e = v.withCourse (c.undergo e) := by rw [hw, undergo_withCourse]
  obtain ⟨h, hdue⟩ := Timetable.advance_rel (fun w c => w = v.withCourse c) hstep
    (v.scene.now + d) v.scene.due (settle_withCourse v v.course)
  have hv : v.withCourse v.course = v := rfl
  rw [hv] at h hdue
  rw [pass, if_neg (Nat.ne_of_gt hd)]
  dsimp only
  rw [h, hdue]
  rfl

/-- Time that passes in two parts. -/
theorem pass_pass (a b : Nat) (v : Vigil) : (v.pass a).pass b = v.pass (a + b) := by
  obtain rfl | ha := Nat.eq_zero_or_pos a
  · rw [Nat.zero_add]
    rfl
  obtain rfl | hb := Nat.eq_zero_or_pos b
  · rfl
  -- Behind the first part no task can move.
  have hsettled := Course.settle_advance (v.scene.now + a) v.scene.due
    (Course.settle_settle v.course)
  rw [pass_eq_course ha, pass_eq_course hb, pass_eq_course (Nat.add_pos_left ha b)]
  simp only [course] at hsettled ⊢
  rw [hsettled, Nat.add_assoc, Timetable.advance_advance (by omega)]

/-- It makes no difference what is waited for. -/
theorem pass_withRequirements (d : Nat) (v : Vigil) (rs : List Requirement) :
    pass d { v with requirements := rs } = { v.pass d with requirements := rs } := by
  obtain rfl | hd := Nat.eq_zero_or_pos d
  · rfl
  · rw [pass_eq_course hd, pass_eq_course hd]
    rfl

end Vigil

end Readiness
