import Mathlib.Logic.Function.Iterate
import Readiness.Proofs.Container.Growth
import Readiness.Proofs.Wait.Course

/-!
# Fetching a log

What a fetch does to a host depends neither on the container nor on the selection (`Host.fetched`):
a staged host counts it, and no other host notices. It makes no difference to anyone else. Whoever
follows the host does what he would do without the fetch (`Pipeline.settle_fetched`), and so does a
whole session while time passes: fetching and letting time pass may change places (`Vigil.pass_fetched`).
-/

namespace Readiness

namespace Host

/-- The host behind a fetch. -/
def fetched : Host → Host
  | staged attachment (n + 1) log => staged attachment n log
  | h => h

theorem snd_currentLog (h : Host) (container : String) (sel : Selection) :
    (h.currentLog container sel).2 = h.fetched := by
  cases h with
  | staged attachment failures log => cases failures <;> rfl
  | daemon frames refusal => cases refusal <;> rfl
  | _ => rfl

/-- A fetch and what happens to the host may change places. -/
theorem undergo_fetched (h : Host) (e : Happening) : h.fetched.undergo e = (h.undergo e).fetched := by
  cases h with
  | live log =>
    rw [undergo_live]
    change (live log).undergo e = _
    rw [undergo_live]
    cases log.finished <;> cases e <;> rfl
  | staged attachment failures log => cases failures <;> cases e <;> rfl
  | _ => cases e <;> rfl

theorem attach_fetched (h : Host) (container : String) (sel : Selection) :
    h.fetched.attach container sel =
      match h.attach container sel with
      | .stream t h' => .stream t h'.fetched
      | .failed error => .failed error
      | .pending => .pending := by
  cases h with
  | live log => cases ha : log.attached <;> simp [fetched, attach, ha]
  | staged attachment failures log => cases attachment <;> cases failures <;> rfl
  | daemon frames refusal => cases refusal <;> rfl
  | _ => rfl

theorem next_fetched (h : Host) (t : Tail) :
    h.fetched.next t = ((h.next t).1, (h.next t).2.1, (h.next t).2.2.fetched) := by
  cases t with
  | given items staysOpen => cases items <;> rfl
  | live sel =>
    cases h with
    | live log =>
      change (live log).next (.live sel) = _
      simp only [next]
      split <;> rfl
    | staged attachment failures log => cases failures <;> rfl
    | _ => rfl

end Host

namespace Pipeline

variable {σ ν : Type}

/-- Beside a fetch. -/
def fetch (x : Host × Pipeline σ ν) : Host × Pipeline σ ν := (x.1.fetched, x.2)

/-- The feed does the same behind a fetch. -/
theorem stepFeed_fetched (h : Host) (p : Pipeline σ ν) :
    p.stepFeed h.fetched = (p.stepFeed h).map fetch := by
  unfold stepFeed
  split
  · rfl
  · cases p.feed with
    | attaching =>
      dsimp only
      rw [Host.attach_fetched]
      cases h.attach p.container {} <;> rfl
    | reading tail =>
      dsimp only
      rw [Host.next_fetched]
      rcases h.next tail with ⟨n, tail', h'⟩
      rcases n with item | _ | _
      · cases item <;> rfl
      · rfl
      · rfl
    | copying c tail => cases hc : p.carry .combined c (.tagging c tail) <;> simp [hc, fetch]
    | tagging c tail => cases hc : p.carry c.channel.outlet c (.reading tail) <;> simp [hc, fetch]
    | _ => rfl

variable [Listener σ ν]

theorem step_fetched (h : Host) (p : Pipeline σ ν) (t : TaskId) :
    p.step h.fetched t = (p.step h t).map fetch := by
  cases t with
  | feed => exact stepFeed_fetched h p
  | printer o => rw [step, step, Option.map_map]; rfl

theorem move?_fetched (h : Host) (p : Pipeline σ ν) :
    p.move? h.fetched = (p.move? h).map fetch := by
  have hstep : p.step h.fetched = Option.map fetch ∘ p.step h := funext (step_fetched h p)
  rw [move?, hstep, move?, List.map_findSome?]

/-- The tasks do what they would do without the fetch. -/
theorem settle_fetched (h : Host) (p : Pipeline σ ν) :
    p.settle h.fetched = fetch (p.settle h) := by
  -- Behind a fetch a task has a move if and only if it has one before.
  fun_induction settle h p with
  | case1 h p hm =>
    have hm' := move?_fetched h p
    rw [hm] at hm'
    rw [settle]
    split
    · rfl
    · next he => cases hm'.symm.trans he
  | case2 h p h' p' hm ih =>
    have hm' := move?_fetched h p
    rw [hm] at hm'
    rw [settle]
    split
    · next he => cases hm'.symm.trans he
    · next he =>
      cases hm'.symm.trans he
      exact ih

/-- What happens to a pipeline happens to it behind a fetch as well. -/
theorem Run.fetched {x y : Host × Pipeline σ ν} {ms : List Move} (h : Run x ms y) :
    Run (fetch x) ms (fetch y) := by
  induction h with
  | nil => exact .nil
  | @task x y z t ms hs _ ih =>
    refine .task ?_ ih
    exact (step_fetched x.1 x.2 t).trans (congrArg (Option.map fetch) hs)
  | @happens x z e ms _ ih =>
    refine .happens ?_
    rw [fetch, Host.undergo_fetched]
    exact ih

end Pipeline

theorem Session.Leads.fetched {σ ν : Type} [Listener σ ν] {h h' : Host} {s s' : Session σ ν}
    {ms : List Move} (hl : Leads h s ms h' s') : Leads h.fetched s ms h'.fetched s' :=
  ⟨hl.1.fetched, hl.2⟩

namespace Course

def fetch (c : Course) : Course := (c.1.fetched, c.2)

theorem settle_fetch (c : Course) : c.fetch.settle = c.settle.fetch := by
  obtain ⟨h, _ | s⟩ := c
  · rfl
  · simp only [settle, fetch, Session.settle, Pipeline.settle_fetched]
    rfl

theorem undergo_fetch (e : Happening) (c : Course) : c.fetch.undergo e = (c.undergo e).fetch := by
  have hu : (c.fetch.1.undergo e, c.fetch.2) = fetch (c.1.undergo e, c.2) := by
    simp only [fetch, Host.undergo_fetched]
  rw [undergo, hu, settle_fetch]
  rfl

end Course

/-- The scene behind a fetch. -/
def Scene.fetched (s : Scene) : Scene := { s with host := s.host.fetched }

namespace Vigil

/-- The vigil behind a fetch. -/
def fetched (v : Vigil) : Vigil := { v with scene := v.scene.fetched }

/-- Fetching and letting time pass may change places. -/
theorem pass_fetched (d : Nat) (v : Vigil) : v.fetched.pass d = (v.pass d).fetched := by
  obtain rfl | hd := Nat.eq_zero_or_pos d
  · rfl
  obtain ⟨h, hdue⟩ := Timetable.advance_rel (fun c c' : Course => c = c'.fetch)
    (fun e c c' hc => hc ▸ Course.undergo_fetch e c') (v.scene.now + d) v.scene.due
    (Course.settle_fetch v.course)
  have hv : v.fetched.pass d =
      let r := v.scene.due.advance Course.undergo (v.scene.now + d) v.course.fetch.settle
      { v.fetched with
        scene := { v.fetched.scene with host := r.1.1, now := v.scene.now + d, due := r.2 }
        session := r.1.2 } := pass_eq_course hd v.fetched
  rw [hv, pass_eq_course hd]
  dsimp only
  rw [h, hdue]
  rfl

theorem iterate_fetched (k : Nat) (v : Vigil) :
    fetched^[k] v = { v with scene := Scene.fetched^[k] v.scene } := by
  induction k generalizing v with
  | zero => rfl
  | succ k ih => rw [Function.iterate_succ_apply, ih]; rfl

/-- A look for a message in the log is a fetch. -/
theorem findInLog_eq_fetched (container message : String) (v : Vigil) :
    v.findInLog container message = (v.scene.host.shows container message, v.fetched) := by
  rw [findInLog]
  dsimp only
  rw [Host.snd_currentLog]
  rfl

/-- A check for a message in the log is one fetch. -/
theorem check_eq_fetched {v : Vigil} {i : Nat} {message : String}
    (hr : v.requirements[i]? = some (.fullLog message)) (container : String) :
    v.check container i = (.ok (v.scene.host.shows container message), v.fetched) := by
  rw [check, requirement?_of_fullLog hr]
  dsimp only
  rw [findInLog_eq_fetched]

end Vigil

end Readiness
