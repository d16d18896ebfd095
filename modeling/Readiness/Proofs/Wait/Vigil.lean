import Readiness.Proofs.Session.Delivery
import Readiness.Proofs.Wait.LogMatch

/-!
# Vigils

While time passes in a vigil, the tasks of its session move and things happen to its host, and
nothing else: whatever these preserve is preserved (`Vigil.pass_preserves`), and what they lead to is
what time leads to (`Vigil.Leads`, `Vigil.pass_leads`). Behind that no task can move
(`Vigil.isSettled_pass`).

All that a check may do to a vigil is listed once (`Vigil.Checks`). A requirement that is no ping is
checked against what has been said: the watch of a heard one has heard the lines that were
delivered, wherever it stands among the others (`Vigil.requirement?_eq`), and the others look at the
log as it is fetched. Neither the check nor the end of a wait changes the vigil then
(`Vigil.check_eq`, `Vigil.release_eq`).
-/

namespace Readiness

theorem modify_eq_of_fixed {α : Type} {f : α → α} {l : List α} {i : Nat}
    (h : ∀ a, l[i]? = some a → f a = a) : l.modify i f = l := by
  apply List.ext_getElem?
  intro j
  rw [List.getElem?_modify]
  split
  · next hij =>
    subst hij
    cases ha : l[i]? with
    | none => rfl
    | some a => exact congrArg some (h a ha)
  · simp

namespace Timetable

variable {ε σ τ : Type} {happen : ε → σ → σ} {happen' : ε → τ → τ} {limit limit' : Nat}
  {s : σ} {t : τ}

/-- Up to an instant and then up to a later one is up to the later one. -/
theorem advance_advance (hle : limit ≤ limit') (events : Timetable ε) (s : σ) :
    advance happen limit' (advance happen limit events s).2 (advance happen limit events s).1 =
      advance happen limit' events s := by
  induction events generalizing s with
  | nil => rfl
  | cons d events ih =>
    by_cases hd : d.1 ≤ limit
    · rw [advance, if_pos hd, ih, advance, if_pos (Nat.le_trans hd hle)]
    · rw [advance, if_neg hd]

/-- States that are related stay so as the same happens to both, and the same is left to happen. -/
theorem advance_rel (R : σ → τ → Prop) (hstep : ∀ e s t, R s t → R (happen e s) (happen' e t))
    (limit : Nat) (events : Timetable ε) (h : R s t) :
    R (advance happen limit events s).1 (advance happen' limit events t).1 ∧
      (advance happen limit events s).2 = (advance happen' limit events t).2 := by
  induction events generalizing s t with
  | nil => exact ⟨h, rfl⟩
  | cons d events ih =>
    by_cases hd : d.1 ≤ limit
    · rw [advance, advance, if_pos hd, if_pos hd]
      exact ih (hstep d.2 s t h)
    · rw [advance, advance, if_neg hd, if_neg hd]
      exact ⟨h, rfl⟩

/-- What every event preserves. -/
theorem advance_preserves (P : σ → Prop) (hstep : ∀ e s, P s → P (happen e s)) (limit : Nat)
    (events : Timetable ε) (h : P s) : P (advance happen limit events s).1 := by
  induction events generalizing s with
  | nil => exact h
  | cons d events ih =>
    unfold advance
    split
    · exact ih (hstep d.2 s h)
    · exact h

end Timetable

namespace Requirement

/-- The requirement when lines have been delivered, one after the other. -/
def hearAll (lines : List String) : Requirement → Requirement
  | heard w => heard (w.hearAll lines)
  | r => r

theorem hearAll_message (m : LogMessage) (lines : List String) :
    hearAll lines (heard (.message m)) = heard (.message (m.hearAll lines)) :=
  congrArg heard (LogWatch.hearAll_message m lines)

theorem hearAll_sequence (q : LogSequence) (lines : List String) :
    hearAll lines (heard (.sequence q)) = heard (.sequence (q.hearAll lines)) :=
  congrArg heard (LogWatch.hearAll_sequence q lines)

/-- Whether a requirement that is no ping holds, with the log as it is fetched. -/
def holdsNow (log : Except LogError String) : Requirement → Bool
  | heard w => w.ready
  | fullLog message => match log with
    | .ok text => mentions text message
    | .error _ => false
  | ping _ => false

/-- A heard requirement finds its watch where the ones before it end. -/
theorem getElem?_watches {rs : List Requirement} {i : Nat} {w : LogWatch}
    (h : rs[i]? = some (heard w)) :
    (rs.filterMap watch?)[(rs.take i).countP isHeard]? = some w := by
  induction rs generalizing i with
  | nil => cases h
  | cons r rs ih =>
    cases i with
    | zero => cases h; rfl
    | succ i =>
      -- A heard requirement in front moves the watch and its place by one.
      have h' := ih (i := i) h
      cases r <;> simpa [watch?, isHeard, List.filterMap_cons, List.countP_cons] using h'

end Requirement

namespace Vigil

variable {v : Vigil} {s : Session LogWatch Empty}

/-! ## What passes while time passes -/

/-- The tasks of a vigil's session have moved, and things have happened to its host. -/
structure Leads (v : Vigil) (ms : List Move) (v' : Vigil) : Prop where
  requirements : v'.requirements = v.requirements
  session : ∀ s, v.session = some s →
    ∃ s', v'.session = some s' ∧ Session.Leads v.scene.host s ms v'.scene.host s'

/-- No task of the session can move. -/
def IsSettled (v : Vigil) : Prop :=
  ∀ s, v.session = some s → Pipeline.IsStuck (v.scene.host, s.pipeline)

theorem Leads.refl (v : Vigil) : v.Leads [] v :=
  ⟨rfl, fun s hs => ⟨s, hs, .nil, rfl⟩⟩

theorem Leads.trans {v' v'' : Vigil} {ms ns : List Move} (h : v.Leads ms v')
    (h' : v'.Leads ns v'') : v.Leads (ms ++ ns) v'' := by
  refine ⟨h'.requirements.trans h.requirements, fun s hs => ?_⟩
  obtain ⟨s', hs', hl⟩ := h.session s hs
  obtain ⟨s'', hs'', hl'⟩ := h'.session s' hs'
  exact ⟨s'', hs'', hl.trans hl'⟩

/-- A vigil settles by moves. -/
theorem settle_leads (v : Vigil) : ∃ ms, v.Leads ms v.settle := by
  unfold settle
  cases hs : v.session with
  | none => exact ⟨[], .refl v⟩
  | some s =>
    obtain ⟨ts, hl⟩ := Session.leads_settle v.scene.host s
    refine ⟨ts.map .task, rfl, fun s' hs' => ⟨(s.settle v.scene.host).2, rfl, ?_⟩⟩
    cases hs.symm.trans hs'
    exact hl

theorem isSettled_settle (v : Vigil) : v.settle.IsSettled := by
  unfold settle
  cases hs : v.session with
  | none => intro s hs'; cases hs.symm.trans hs'
  | some s =>
    intro s' hs'
    cases hs'
    exact Pipeline.isStuck_settle v.scene.host s.pipeline

/-- What happens to a vigil is a move. -/
theorem undergo_leads (e : Happening) (v : Vigil) : ∃ ms, v.Leads ms (v.undergo e) := by
  obtain ⟨ms, hl⟩ := settle_leads
    { v with scene := { v.scene with host := v.scene.host.undergo e } }
  refine ⟨.happens e :: ms, hl.requirements, fun s hs => ?_⟩
  obtain ⟨s', hs', hrun, heq⟩ := hl.session s hs
  exact ⟨s', hs', .happens hrun, heq⟩

/-- Time that passes settles a vigil, and then advances over what is due. -/
theorem pass_eq {d : Nat} (hd : 0 < d) (v : Vigil) :
    ∃ due, v.pass d =
      let w := (v.scene.due.advance undergo (v.scene.now + d) v.settle).1
      { w with scene := { w.scene with now := v.scene.now + d, due } } :=
  ⟨_, by rw [pass, if_neg (Nat.ne_of_gt hd)]⟩

/-- What is preserved while the tasks settle and whenever something happens, and has nothing to do
    with the clock, is preserved while time passes. -/
theorem pass_preserves {P : Vigil → Prop} (hsettle : ∀ w, P w → P w.settle)
    (hundergo : ∀ e w, P w → P (w.undergo e))
    (hclock : ∀ (w : Vigil) now due, P w → P { w with scene := { w.scene with now, due } })
    (h : P v) (d : Nat) : P (v.pass d) := by
  rcases Nat.eq_zero_or_pos d with rfl | hd
  · exact h
  · -- First the tasks move, then the events happen that are due.
    obtain ⟨due, he⟩ := pass_eq hd v
    rw [he]
    exact hclock _ _ _ (Timetable.advance_preserves P hundergo _ _ (hsettle v h))

/-- While time passes, nothing else passes. -/
theorem pass_leads (d : Nat) (v : Vigil) : ∃ ms, v.Leads ms (v.pass d) := by
  have hmove {w w' : Vigil} : (∃ ms, v.Leads ms w) → (∃ ms, w.Leads ms w') →
      ∃ ms, v.Leads ms w' := fun ⟨ms, hl⟩ ⟨ns, hl'⟩ => ⟨ms ++ ns, hl.trans hl'⟩
  refine pass_preserves (P := fun w => ∃ ms, v.Leads ms w) (fun w hw => hmove hw (settle_leads w))
    (fun e w hw => hmove hw (undergo_leads e w)) (fun w now due hw => ?_) ⟨[], .refl v⟩ d
  obtain ⟨ms, hl⟩ := hw
  exact ⟨ms, hl.requirements, hl.session⟩

/-- When time has passed, no task can move. -/
theorem isSettled_pass {d : Nat} (hd : 0 < d) (v : Vigil) : (v.pass d).IsSettled := by
  obtain ⟨due, he⟩ := pass_eq hd v
  rw [he]
  exact Timetable.advance_preserves IsSettled (fun _ _ _ => isSettled_settle _) _ _
    (isSettled_settle v)

/-- A host that is not live stays as it is while a vigil settles. -/
theorem host_settle_of_not_live (hl : ∀ log, v.scene.host ≠ .live log) :
    v.settle.scene.host = v.scene.host := by
  unfold settle
  cases hs : v.session with
  | none => rfl
  | some s =>
    obtain ⟨ts, hr⟩ := Pipeline.run_settle v.scene.host s.pipeline
    exact hr.host_of_not_live hl

/-- Time does not change a log that is not live. -/
theorem host_pass_of_not_live (hl : ∀ log, v.scene.host ≠ .live log) (d : Nat) :
    (v.pass d).scene.host = v.scene.host := by
  have hsettle (w : Vigil) (hw : w.scene.host = v.scene.host) :
      w.settle.scene.host = v.scene.host :=
    (host_settle_of_not_live (hw ▸ hl)).trans hw
  exact pass_preserves (P := fun w => w.scene.host = v.scene.host) hsettle
    (fun e w hw => hsettle _ ((Host.undergo_of_not_live (hw ▸ hl) e).trans hw))
    (fun _ _ _ hw => hw) rfl d

/-- Without a session there is nothing to settle. -/
theorem settle_of_none (h : v.session = none) : v.settle = v := by
  rw [settle, h]

/-- Where there is no session, time brings none. -/
theorem session_pass_of_none (h : v.session = none) (d : Nat) : (v.pass d).session = none := by
  have hsettle (w : Vigil) (hw : w.session = none) : w.settle.session = none := by
    rw [settle_of_none hw, hw]
  exact pass_preserves (P := fun w => w.session = none) hsettle (fun _ _ hw => hsettle _ hw)
    (fun _ _ _ hw => hw) h d

/-! ## Checks -/

/-- The watches in a vigil's fan-out have heard lines. -/
def HasHeard (v : Vigil) (lines : List String) : Prop :=
  ∃ s, v.session = some s ∧
    s.listeners = (v.requirements.filterMap Requirement.watch?).map (·.hearAll lines)

/-- A watch has heard the lines that its vigil has. -/
theorem watchAt_eq {lines : List String} (hv : v.HasHeard lines) {i : Nat} {w : LogWatch}
    (hw : v.requirements[i]? = some (.heard w)) : v.watchAt i = some (w.hearAll lines) := by
  obtain ⟨s, hs, hl⟩ := hv
  simp [watchAt, hs, hl, Requirement.getElem?_watches hw]

/-- Every requirement has heard the lines that the fan-out has. -/
theorem requirement?_eq {lines : List String} (hv : v.HasHeard lines) (i : Nat) :
    v.requirement? i = v.requirements[i]?.map (·.hearAll lines) := by
  unfold requirement?
  split
  · next w hw => rw [watchAt_eq hv hw, hw]; rfl
  · next hw =>
    cases hr : v.requirements[i]? with
    | none => rfl
    | some r =>
      cases r with
      | heard w => exact absurd hr (hw w)
      | _ => rfl

variable {container : String} {i : Nat} {r : Requirement}

/-- A check of a requirement that is no ping, where fetching the log leaves its host as it is. -/
theorem check_eq (hr : v.requirement? i = some r) (hp : ∀ p, r ≠ .ping p)
    (hh : (v.scene.host.currentLog container {}).2 = v.scene.host) :
    check container i v = (.ok (r.holdsNow (v.scene.host.currentLog container {}).1), v) := by
  unfold check
  rw [hr]
  cases r with
  | heard w => rfl
  | fullLog message =>
    rcases hc : v.scene.host.currentLog container {} with ⟨log, host⟩
    rw [hc] at hh
    subst hh
    simp only [findInLog, hc]
    rfl
  | ping p => exact absurd rfl (hp p)

/-- A search for a message in the whole log is always as it was made. -/
theorem requirement?_of_fullLog {message : String}
    (hr : v.requirements[i]? = some (.fullLog message)) :
    v.requirement? i = some (.fullLog message) := by
  rw [requirement?, hr]

/-- A requirement that is a ping at the moment is one in the list. -/
theorem getElem?_of_requirement?_ping {p : HttpPing} (h : v.requirement? i = some (.ping p)) :
    v.requirements[i]? = some (.ping p) := by
  unfold requirement? at h
  split at h
  · cases h
  · exact h

/-- All that a check of the requirement at an index does to a vigil. -/
inductive Checks (container : String) (i : Nat) (v : Vigil) : Vigil → Prop
  /-- A watch is looked at. -/
  | looks : Checks container i v v
  /-- The log is fetched. -/
  | fetches : Checks container i v
      { v with scene := { v.scene with host := (v.scene.host.currentLog container {}).2 } }
  /-- The ping at the index is sent. -/
  | sends {p p' : HttpPing} {network : Network} : v.requirements[i]? = some (.ping p) →
      Checks container i v
        { v with
          scene := { v.scene with network }
          requirements := v.requirements.set i (.ping p') }

/-- What a check does is no more than that. -/
theorem checks_check (container : String) (i : Nat) (v : Vigil) :
    v.Checks container i (v.check container i).2 := by
  unfold check
  split
  · exact .looks
  · exact .fetches
  · next p hp => exact .sends (getElem?_of_requirement?_ping hp)
  · exact .looks

/-- No check takes time. -/
theorem Checks.now {v' : Vigil} (h : v.Checks container i v') : v'.scene.now = v.scene.now := by
  cases h <;> rfl

/-- A check leaves the session alone. -/
theorem Checks.session {v' : Vigil} (h : v.Checks container i v') : v'.session = v.session := by
  cases h <;> rfl

/-- A requirement that is no ping holds nothing that could be released. -/
theorem release_eq (hr : v.requirements[i]? = some r) (hp : ∀ p, r ≠ .ping p) :
    release i v = v := by
  unfold release
  rw [modify_eq_of_fixed]
  intro r' hr'
  cases hr.symm.trans hr'
  cases r with
  | ping p => exact absurd rfl (hp p)
  | _ => rfl

end Vigil

end Readiness
