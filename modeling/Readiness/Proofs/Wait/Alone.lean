import Readiness.Proofs.Container.Record

/-!
# Scenes that are left alone

What comes to a container's host in the course of time is on the timetable of its scene, whether
anyone follows the host or not. So a scene in which the host was followed, by one session after the
other or by none, is along the scene as it would be at that instant if nobody had had anything to do
with it (`Scene.alone`, `Scene.IsAlong.pass`): the same is still due, and the log shows the same
(`Scene.IsAlong.shows_eq`).

A live log that is left alone has on record what was pushed by then (`Scene.exists_alone_live`).
-/

namespace Readiness

/-- The scene at an instant, if nobody has anything to do with it until then. -/
def Scene.alone (s : Scene) (t : Nat) : Scene :=
  let (host, due) := s.due.advance (fun e h => h.undergo e) t s.host
  { s with now := t, host, due }

/-- A scene in the course of time: it is as if left alone, up to what was taken from a stream, and to
    fetches. -/
structure Scene.IsAlong (s₀ s : Scene) : Prop where
  host : s.host.Alike (s₀.alone s.now).host
  due : s.due = (s₀.alone s.now).due

/-- Nothing is due yet. -/
def Scene.IsAhead (s : Scene) : Prop := ∀ e ∈ s.due.head?, s.now < e.1

instance (s : Scene) : Decidable s.IsAhead :=
  inferInstanceAs (Decidable (∀ e ∈ s.due.head?, s.now < e.1))

namespace Scene

variable {s₀ s : Scene}

theorem alone_now (h : s.IsAhead) : s.alone s.now = s := by
  obtain ⟨now, due, host, network⟩ := s
  cases due with
  | nil => rfl
  | cons e due => simp only [alone, Timetable.advance, if_neg (Nat.not_le.2 (h e rfl))]

/-- A scene left alone twice is left alone once. -/
theorem alone_alone {t t' : Nat} (h : t ≤ t') (s : Scene) : (s.alone t).alone t' = s.alone t' := by
  simp only [alone, Timetable.advance_advance h]

/-- A scene that is ahead is in its own course. -/
theorem IsAhead.isAlong (h : s.IsAhead) : s.IsAlong s := by
  refine ⟨?_, ?_⟩ <;> rw [alone_now h]
  exact .refl _

theorem isSteady_alone (h : s.host.IsSteady) (t : Nat) : (s.alone t).host.IsSteady :=
  Timetable.advance_preserves Host.IsSteady (fun e _ hs => hs.undergo e) t s.due h

/-- A steady host stays steady along its course. -/
theorem IsAlong.isSteady (h : s₀.IsAlong s) (hs : s₀.host.IsSteady) : s.host.IsSteady :=
  h.host.isSteady (isSteady_alone hs _)

/-- A scene along shows what it shows alone. -/
theorem IsAlong.shows_eq (h : s₀.IsAlong s) (hs : s₀.host.IsSteady) (container message : String) :
    s.host.shows container message = (s₀.alone s.now).host.shows container message :=
  h.host.shows_eq (isSteady_alone hs _) container message

/-- A fetch leaves a steady host as it is. -/
theorem fetched_of_isSteady (hs : s.host.IsSteady) : s.fetched = s := by
  rw [Scene.fetched, hs]

theorem IsAlong.fetched (h : s₀.IsAlong s) : s₀.IsAlong s.fetched :=
  ⟨s.host.alike_fetched.trans h.host, h.due⟩

/-- Time leads along. -/
theorem IsAlong.pass {v : Vigil} (h : s₀.IsAlong v.scene) (d : Nat) :
    s₀.IsAlong (v.pass d).scene := by
  obtain rfl | hd := Nat.eq_zero_or_pos d
  · exact h
  -- The tasks move on one side only, and then the same happens on both.
  obtain ⟨hhost, hdue⟩ := Timetable.advance_rel (fun (c : Course) h => c.1.Alike h)
    (fun e _ _ ha => Course.alike_undergo ha e) (v.scene.now + d) v.scene.due
    ((Course.alike_settle v.course).trans h.host)
  have hlater := alone_alone (Nat.le_add_right v.scene.now d) s₀
  rw [Vigil.pass_eq_course hd]
  refine ⟨?_, ?_⟩
  · rw [← hlater]
    exact h.due ▸ hhost
  · rw [← hlater]
    exact h.due ▸ hdue

/-! ### What is pushed -/

/-- The chunks that are pushed until the log is finished. -/
def pushedChunks : List Happening → List Chunk
  | .pushed c :: es => c :: pushedChunks es
  | _ => []

/-- What is due to happen by an instant, in order. -/
def happened (s : Scene) (t : Nat) : List Happening := (s.due.filter (·.1 ≤ t)).map Prod.snd

/-- To a finished log nothing happens. -/
theorem alone_of_finished {log : LiveLog} (hh : s.host = .live log) (hf : log.finished = true)
    (t : Nat) : (s.alone t).host = .live log :=
  Timetable.advance_preserves (fun h => h = Host.live log)
    (fun e h hh => by rw [hh, Host.undergo_live, hf]; rfl) t s.due hh

/-- Of a live log is recorded what was, and what is pushed. -/
theorem exists_alone_live {log : LiveLog} (hh : s.host = .live log) (hopen : log.finished = false)
    (hsorted : s.due.Pairwise (·.1 ≤ ·.1)) (t : Nat) :
    ∃ log', (s.alone t).host = .live log' ∧
      log'.recorded = log.recorded ++ pushedChunks (s.happened t) := by
  obtain ⟨now, due, host, network⟩ := s
  cases hh
  induction due generalizing log with
  | nil => exact ⟨log, rfl, (List.append_nil _).symm⟩
  | cons e due ih =>
    obtain ⟨i, e⟩ := e
    obtain ⟨hlater, hrest⟩ := List.pairwise_cons.1 hsorted
    by_cases hi : i ≤ t
    · have hnext : (alone ⟨now, (i, e) :: due, .live log, network⟩ t).host =
          (alone ⟨now, due, (Host.live log).undergo e, network⟩ t).host := by
        rw [alone, Timetable.advance, if_pos hi]
        rfl
      have hhead : happened ⟨now, (i, e) :: due, .live log, network⟩ t =
          e :: happened ⟨now, due, .live log, network⟩ t := by
        rw [happened, List.filter_cons_of_pos (by simpa)]
        rfl
      rw [hnext, hhead, Host.undergo_live, if_neg (Bool.eq_false_iff.1 hopen)]
      cases e with
      | pushed c =>
        obtain ⟨log', hl, hr⟩ := @ih { log with
          recorded := log.recorded ++ [c], waiting := log.waiting ++ [c] } hopen hrest
        exact ⟨log', hl, hr.trans (List.append_cons _ _ _).symm⟩
      | finished =>
        have hover := @alone_of_finished ⟨now, due, .live { log with finished := true }, network⟩
          { log with finished := true } rfl rfl t
        exact ⟨_, hover, (List.append_nil _).symm⟩
    · have hnone : ((i, e) :: due).filter (·.1 ≤ t) = [] := by
        refine List.filter_eq_nil_iff.2 fun d hd => ?_
        rw [decide_eq_true_eq]
        obtain rfl | hd := List.mem_cons.1 hd
        · exact hi
        · exact fun h => hi (Nat.le_trans (hlater d hd) h)
      rw [alone, Timetable.advance, if_neg hi, happened, hnone]
      exact ⟨log, rfl, (List.append_nil _).symm⟩

end Scene

end Readiness
