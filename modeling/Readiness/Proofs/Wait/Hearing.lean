import Readiness.Proofs.Pipeline.Told
import Readiness.Proofs.Wait.WaitFor

/-!
# What has been heard

The states that a vigil can get into, from the attach on until its session is stopped, with the lines
delivered on the way (`Vigil.Reaches`): tasks move and things happen to the host, in any order;
requirements are checked and released; the session is shut, and stopped.

Wherever a vigil gets, its watches have heard exactly those lines (`Reaches.hears`). So a check of a
heard requirement tells whether they make its watch ready (`Hears.check_eq`).
-/

namespace Readiness

namespace Session

variable {σ ν : Type}

/-- The session with its close signal raised. -/
def shut (s : Session σ ν) : Session σ ν := { s with closed := true, pipeline := s.pipeline.close }

/-- The session with every task stopped where it stands. -/
def stop (s : Session σ ν) : Session σ ν := { s with pipeline := s.pipeline.abort }

@[simp] theorem listeners_shut (s : Session σ ν) : s.shut.listeners = s.listeners := rfl

@[simp] theorem listeners_stop (s : Session σ ν) : s.stop.listeners = s.listeners := by
  simp [listeners, stop, Pipeline.abort, Pipeline.station]

/-- The listeners have heard the lines that the printer for them has delivered. -/
theorem Leads.listeners [Listener σ ν] {h h' : Host} {s s' : Session σ ν} {ms : List Move}
    (hs : Leads h s ms h' s') :
    s'.listeners =
      (Fanout.notifyAll s.listeners (Pipeline.told .combined (h, s.pipeline) ms)).1 := by
  have hp := hs.1.printer (o := .combined)
  unfold Session.listeners
  rw [hp]
  cases (s.pipeline.station .combined).printer with
  | none => simp [notifyAll_nil]
  | some q => exact (q.told_deliverAll _).1

end Session

namespace Vigil

/-- The lines that the listeners are told over moves. -/
def told (v : Vigil) (ms : List Move) : List String :=
  match v.session with
  | some s => Pipeline.told .combined (v.scene.host, s.pipeline) ms
  | none => []

/-- The states that a vigil may get into from `v₀`, each with the lines that have been delivered to
    the listeners on the way. -/
inductive Reaches (container : String) (v₀ : Vigil) : List String → Vigil → Prop
  | begins : Reaches container v₀ [] v₀
  /-- Tasks move, and things happen to the host. -/
  | moves {lines : List String} {v v' : Vigil} {ms : List Move} : Reaches container v₀ lines v →
      v.Leads ms v' → Reaches container v₀ (lines ++ v.told ms) v'
  /-- The requirement at an index is checked. -/
  | checks {lines : List String} {v : Vigil} (i : Nat) : Reaches container v₀ lines v →
      Reaches container v₀ lines (v.check container i).2
  | releases {lines : List String} {v : Vigil} (i : Nat) : Reaches container v₀ lines v →
      Reaches container v₀ lines (v.release i)
  /-- The close signal is raised. -/
  | shuts {lines : List String} {v : Vigil} : Reaches container v₀ lines v →
      Reaches container v₀ lines { v with session := v.session.map Session.shut }
  /-- The tasks that are still at work are stopped. -/
  | stops {lines : List String} {v : Vigil} : Reaches container v₀ lines v →
      Reaches container v₀ lines { v with session := v.session.map Session.stop }

variable {container : String} {v₀ v v' : Vigil} {lines : List String} {i : Nat}

/-! ## What checks leave alone -/

/-- Changing one requirement changes no watch if it keeps its own. -/
theorem map_watch?_modify {rs : List Requirement} {i : Nat} {f : Requirement → Requirement}
    (h : ∀ r, rs[i]? = some r → (f r).watch? = r.watch?) :
    (rs.modify i f).map Requirement.watch? = rs.map Requirement.watch? := by
  apply List.ext_getElem?
  intro j
  rw [List.getElem?_map, List.getElem?_map, List.getElem?_modify]
  split
  · next hij =>
    subst hij
    cases hr : rs[i]? with
    | none => rfl
    | some r => exact congrArg some (h r hr)
  · simp

/-- A check leaves the watches alone. -/
theorem Checks.watches (h : v.Checks container i v') :
    v'.requirements.map Requirement.watch? = v.requirements.map Requirement.watch? := by
  cases h with
  | looks | fetches => rfl
  | sends hr =>
    simp only [List.set_eq_modify]
    refine map_watch?_modify fun r hr' => ?_
    cases hr.symm.trans hr'
    rfl

theorem watches_release (i : Nat) (v : Vigil) :
    (v.release i).requirements.map Requirement.watch? = v.requirements.map Requirement.watch? :=
  map_watch?_modify fun r _ => by cases r <;> rfl

/-! ## The invariant -/

/-- Seen from a vigil `v₀`, the requirements have the same watches as before, and those in the
    fan-out have heard lines. -/
structure Hears (v₀ v : Vigil) (lines : List String) : Prop where
  watches : v.requirements.map Requirement.watch? = v₀.requirements.map Requirement.watch?
  heard : ∃ s, v.session = some s ∧
    s.listeners = (v₀.requirements.filterMap Requirement.watch?).map (·.hearAll lines)

/-- What leaves the watches of the requirements and the listeners alone. -/
theorem Hears.frame (h : Hears v₀ v lines)
    (hw : v'.requirements.map Requirement.watch? = v.requirements.map Requirement.watch?)
    (hs : v'.session.map Session.listeners = v.session.map Session.listeners) :
    Hears v₀ v' lines := by
  refine ⟨hw.trans h.watches, ?_⟩
  obtain ⟨s, he, hl⟩ := h.heard
  rw [he, Option.map_some, Option.map_eq_some_iff] at hs
  obtain ⟨s', he', hl'⟩ := hs
  exact ⟨s', he', hl'.trans hl⟩

/-- Moves tell the watches more lines. -/
theorem Hears.moves {ms : List Move} (h : Hears v₀ v lines) (hl : v.Leads ms v') :
    Hears v₀ v' (lines ++ v.told ms) := by
  refine ⟨by rw [hl.requirements, h.watches], ?_⟩
  obtain ⟨s, hs, hheard⟩ := h.heard
  obtain ⟨s', hs', hl'⟩ := hl.session s hs
  refine ⟨s', hs', ?_⟩
  rw [hl'.listeners, hheard, LogWatch.notifyAll_eq, told, hs, List.map_map]
  simp only [Function.comp_def, LogWatch.hearAll_append]

/-- Wherever a vigil gets, its watches have heard the lines delivered on the way. -/
theorem Reaches.hears (h : v₀.Reaches container lines v) (h₀ : Hears v₀ v₀ []) :
    Hears v₀ v lines := by
  induction h with
  | begins => exact h₀
  | moves _ hl ih => exact ih.moves hl
  | @checks lines v i _ ih =>
    have hc := checks_check container i v
    exact ih.frame hc.watches (congrArg _ hc.session)
  | @releases lines v i _ ih => exact ih.frame (watches_release i v) rfl
  | shuts _ ih => exact ih.frame rfl (by simp [Function.comp_def])
  | stops _ ih => exact ih.frame rfl (by simp [Function.comp_def])

/-- What a vigil hears it has heard. -/
theorem Hears.hasHeard (h : Hears v₀ v lines) : v.HasHeard lines := by
  obtain ⟨s, hs, hl⟩ := h.heard
  have hw : v.requirements.filterMap Requirement.watch? =
      v₀.requirements.filterMap Requirement.watch? := by
    simpa only [List.filterMap_map, Function.id_comp] using congrArg (List.filterMap id) h.watches
  exact ⟨s, hs, by rw [hl, hw]⟩

/-- A heard requirement, as it is now, has heard the lines. -/
theorem Hears.requirement?_eq (h : Hears v₀ v lines) {w : LogWatch}
    (hw : v₀.requirements[i]? = some (.heard w)) :
    v.requirement? i = some (.heard (w.hearAll lines)) := by
  have hi : (v.requirements.map Requirement.watch?)[i]? = some (some w) := by
    rw [h.watches, List.getElem?_map, hw]
    rfl
  rw [List.getElem?_map, Option.map_eq_some_iff] at hi
  obtain ⟨r, hr, hrw⟩ := hi
  cases r with
  | heard w' =>
    cases hrw
    rw [Vigil.requirement?_eq h.hasHeard, hr]
    rfl
  | _ => cases hrw

/-- There is a requirement at each place where there was one. -/
theorem Hears.exists_requirement? (h : Hears v₀ v lines) (hi : i < v₀.requirements.length) :
    ∃ r, v.requirement? i = some r := by
  have hl : v.requirements.length = v₀.requirements.length := by
    simpa using congrArg List.length h.watches
  rw [Vigil.requirement?_eq h.hasHeard, List.getElem?_eq_getElem (hl ▸ hi)]
  exact ⟨_, rfl⟩

/-- A check of a heard requirement tells whether its watch is ready, and changes nothing. -/
theorem Hears.check_eq (h : Hears v₀ v lines) (container : String) {w : LogWatch}
    (hw : v₀.requirements[i]? = some (.heard w)) :
    v.check container i = (.ok (w.hearAll lines).ready, v) := by
  unfold check
  rw [h.requirement?_eq hw]

end Vigil

end Readiness
