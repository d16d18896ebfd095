import Readiness.Proofs.Container.Script
import Readiness.Proofs.Splitter.Operations

/-!
# Moves and runs of a pipeline

What a task may do in one move is listed once, for the feed (`FeedMoves`) and for a printer
(`PrinterMoves`), and so is why a task may have to wait (`FeedWaits`, `PrinterWaits`). A step is a
move of the one or the other (`TaskMoves`).

A `Run` is a sequence of moves, each of any task that has one, and of things that happen to the
host meanwhile: any order in which tasks are scheduled is a run. Runs of tasks alone come to an end
(`Run.length_add_work_le`), where no task can move (`IsStuck`); `settle` makes one of them
(`run_settle`, `isStuck_settle`).
-/

namespace Readiness

/-- A move of a task, or something that happens to the host. -/
inductive Move
  | task (t : TaskId)
  | happens (e : Happening)
  deriving DecidableEq, Repr

/-- What becomes of a host by whoever follows it. -/
inductive Host.Followed (h : Host) : Host → Prop
  | alone : h.Followed h
  | attached {container : String} {sel : Selection} {t : Tail} {h' : Host} :
      h.attach container sel = .stream t h' → h.Followed h'
  | taken {t t' : Tail} {n : Next} {h' : Host} : h.next t = (n, t', h') → h.Followed h'

namespace Pipeline

variable {σ ν : Type}

/-! ## The feed -/

/-- What the feed may do in a move. -/
inductive FeedMoves (h : Host) (p : Pipeline σ ν) : Host → Pipeline σ ν → Prop
  /-- The signal is up: it stops where it is. -/
  | stops : p.feed.running = true → p.splitter.closed = true → FeedMoves h p h p.endFeed
  | attaches {t : Tail} {h' : Host} : p.feed = .attaching → p.splitter.closed = false →
      h.attach p.container {} = .stream t h' → FeedMoves h p h' { p with feed := .reading t }
  | cannotAttach {e : LogError} : p.feed = .attaching → p.splitter.closed = false →
      h.attach p.container {} = .failed e → FeedMoves h p h p.endFeed
  | takes {t t' : Tail} {h' : Host} {c : Chunk} : p.feed = .reading t → p.splitter.closed = false →
      h.next t = (.item (.ok c), t', h') → FeedMoves h p h' { p with feed := .copying c t' }
  /-- The stream fails or ends. -/
  | runsOut {t t' : Tail} {h' : Host} {n : Next} : p.feed = .reading t →
      p.splitter.closed = false → h.next t = (n, t', h') → h.flow t = ⟨[], true⟩ →
      FeedMoves h p h' p.endFeed
  | copies {c : Chunk} {t : Tail} : p.feed = .copying c t → p.splitter.closed = false →
      p.splitter.isFull .combined = false →
      FeedMoves h p h { p with splitter := p.splitter.push .combined c.bytes, feed := .tagging c t }
  | tags {c : Chunk} {t : Tail} : p.feed = .tagging c t → p.splitter.closed = false →
      p.splitter.isFull c.channel.outlet = false →
      FeedMoves h p h
        { p with splitter := p.splitter.push c.channel.outlet c.bytes, feed := .reading t }

/-- Why the feed may have no move. -/
inductive FeedWaits (h : Host) (p : Pipeline σ ν) : Prop
  | done : p.feed.running = false → FeedWaits h p
  | attaching : p.feed = .attaching → p.splitter.closed = false →
      h.attach p.container {} = .pending → FeedWaits h p
  | reading {t : Tail} : p.feed = .reading t → p.splitter.closed = false → h.flow t = ⟨[], false⟩ →
      FeedWaits h p
  | copying {c : Chunk} {t : Tail} : p.feed = .copying c t → p.splitter.closed = false →
      p.splitter.isFull .combined = true → FeedWaits h p
  | tagging {c : Chunk} {t : Tail} : p.feed = .tagging c t → p.splitter.closed = false →
      p.splitter.isFull c.channel.outlet = true → FeedWaits h p

/-- A feed carries a chunk on where the output is not full. -/
theorem carry_eq (p : Pipeline σ ν) (o : Outlet) (c : Chunk) (f : Feed) :
    p.carry o c f =
      if p.splitter.isFull o then none
      else some { p with splitter := p.splitter.push o c.bytes, feed := f } := by
  unfold carry
  rw [Splitter.offer_eq]
  split <;> rfl

theorem feedMoves_of_eq {h h' : Host} {p p' : Pipeline σ ν} (hs : p.stepFeed h = some (h', p')) :
    FeedMoves h p h' p' := by
  unfold stepFeed at hs
  split at hs
  · next hc =>
    cases hs
    rw [Bool.and_eq_true] at hc
    exact .stops hc.1 hc.2
  next hc =>
  -- A feed that is at work and does not stop has found the signal down.
  have hcl : p.feed.running = true → p.splitter.closed = false := by
    intro hr
    rw [hr, Bool.true_and] at hc
    exact Bool.eq_false_iff.2 hc
  split at hs
  · cases hs
  · cases hs
  · next hf =>
    have hcl := hcl (by rw [hf]; rfl)
    split at hs
    · next ha => cases hs; exact .attaches hf hcl ha
    · next ha => cases hs; exact .cannotAttach hf hcl ha
    · cases hs
  · next t hf =>
    have hcl := hcl (by rw [hf]; rfl)
    split at hs
    · next hn => cases hs; exact .takes hf hcl hn
    · next hn =>
      cases hs
      cases Host.takes_of_eq hn with | failure he => exact .runsOut hf hcl hn he
    · next hn =>
      cases hs
      cases Host.takes_of_eq hn with | ended he => exact .runsOut hf hcl hn he
    · cases hs
  · next c t hf =>
    have hcl := hcl (by rw [hf]; rfl)
    rw [carry_eq] at hs
    split at hs
    · cases hs
    · next hfull => cases hs; exact .copies hf hcl (Bool.eq_false_iff.2 hfull)
  · next c t hf =>
    have hcl := hcl (by rw [hf]; rfl)
    rw [carry_eq] at hs
    split at hs
    · cases hs
    · next hfull => cases hs; exact .tags hf hcl (Bool.eq_false_iff.2 hfull)

theorem feedWaits_of_eq_none {h : Host} {p : Pipeline σ ν} (hs : p.stepFeed h = none) :
    FeedWaits h p := by
  unfold stepFeed at hs
  split at hs
  · cases hs
  next hc =>
  have hcl : p.feed.running = true → p.splitter.closed = false := by
    intro hr
    rw [hr, Bool.true_and] at hc
    exact Bool.eq_false_iff.2 hc
  split at hs
  · next hf => exact .done (by rw [hf]; rfl)
  · next hf => exact .done (by rw [hf]; rfl)
  · next hf =>
    split at hs
    · cases hs
    · cases hs
    · next ha => exact .attaching hf (hcl (by rw [hf]; rfl)) ha
  · next t hf =>
    split at hs
    · cases hs
    · cases hs
    · cases hs
    · next hn =>
      cases Host.takes_of_eq hn with
      | waiting he => exact .reading hf (hcl (by rw [hf]; rfl)) he
  · next c t hf =>
    rw [carry_eq] at hs
    split at hs
    · next hfull => exact .copying hf (hcl (by rw [hf]; rfl)) hfull
    · cases hs
  · next c t hf =>
    rw [carry_eq] at hs
    split at hs
    · next hfull => exact .tagging hf (hcl (by rw [hf]; rfl)) hfull
    · cases hs

/-! ## Printers -/

variable [Listener σ ν]

/-- What a printer may do in a move. -/
inductive PrinterMoves (p : Pipeline σ ν) (o : Outlet) : Pipeline σ ν → Prop
  | line {text : String} {s : Splitter} : (p.station o).running = true →
      p.splitter.Advances o (.line text) s →
      PrinterMoves p o (setStation { p with splitter := s } o
        { p.station o with printer := (p.station o).printer.map (Printer.deliver · text) })
  | gathered {s : Splitter} : (p.station o).running = true → p.splitter.Advances o .gathered s →
      PrinterMoves p o { p with splitter := s }
  | ended : (p.station o).running = true → p.splitter.Advances o .ended p.splitter →
      PrinterMoves p o (p.setStation o { p.station o with running := false })

/-- Why a printer may have no move. -/
inductive PrinterWaits (p : Pipeline σ ν) (o : Outlet) : Prop
  | done : (p.station o).running = false → PrinterWaits p o
  | waiting : (p.station o).running = true → p.splitter.Advances o .waiting p.splitter →
      PrinterWaits p o

theorem printerMoves_of_eq {p p' : Pipeline σ ν} {o : Outlet} (hs : p.stepPrinter o = some p') :
    PrinterMoves p o p' := by
  unfold stepPrinter at hs
  dsimp only at hs
  split at hs
  · next hr =>
    split at hs
    · next ha => cases hs; exact .line hr (Splitter.advances_of_eq ha)
    · next ha => cases hs; exact .gathered hr (Splitter.advances_of_eq ha)
    · next s ha =>
      cases hs
      have ha := Splitter.advances_of_eq ha
      cases ha with
      | ended hp hq hf => exact .ended hr (.ended hp hq hf)
    · cases hs
  · cases hs

theorem printerWaits_of_eq_none {p : Pipeline σ ν} {o : Outlet} (hs : p.stepPrinter o = none) :
    PrinterWaits p o := by
  unfold stepPrinter at hs
  dsimp only at hs
  split at hs
  · next hr =>
    split at hs
    · cases hs
    · cases hs
    · cases hs
    · next ha =>
      have ha := Splitter.advances_of_eq ha
      cases ha with
      | waiting hc hq hf => exact .waiting hr (.waiting hc hq hf)
  · next hr => exact .done (Bool.eq_false_iff.2 hr)

/-! ## Steps -/

/-- What a task may do in a step. A printer leaves the host alone. -/
inductive TaskMoves (h : Host) (p : Pipeline σ ν) : TaskId → Host → Pipeline σ ν → Prop
  | feed {h' : Host} {p' : Pipeline σ ν} : FeedMoves h p h' p' → TaskMoves h p .feed h' p'
  | printer {o : Outlet} {p' : Pipeline σ ν} : PrinterMoves p o p' →
      TaskMoves h p (.printer o) h p'

theorem taskMoves_of_eq {h h' : Host} {p p' : Pipeline σ ν} {t : TaskId}
    (hs : p.step h t = some (h', p')) : TaskMoves h p t h' p' := by
  cases t with
  | feed => exact .feed (feedMoves_of_eq hs)
  | printer o =>
    obtain ⟨p'', hp, he⟩ := Option.map_eq_some_iff.1 hs
    cases he
    exact .printer (printerMoves_of_eq hp)

/-- All that a step does to a host is to attach to it, or to take what comes next. -/
theorem followed_of_step {h h' : Host} {p p' : Pipeline σ ν} {t : TaskId}
    (hs : p.step h t = some (h', p')) : h.Followed h' := by
  cases taskMoves_of_eq hs with
  | feed hm =>
    cases hm with
    | attaches _ _ ha => exact .attached ha
    | takes _ _ hn => exact .taken hn
    | runsOut _ _ hn => exact .taken hn
    | _ => exact .alone
  | printer => exact .alone

/-! ## Runs -/

/-- Moves of tasks in any order, and what happens to the host meanwhile. -/
inductive Run : Host × Pipeline σ ν → List Move → Host × Pipeline σ ν → Prop
  | nil {x : Host × Pipeline σ ν} : Run x [] x
  | task {x y z : Host × Pipeline σ ν} {t : TaskId} {ms : List Move} :
      x.2.step x.1 t = some y → Run y ms z → Run x (.task t :: ms) z
  | happens {x z : Host × Pipeline σ ν} {e : Happening} {ms : List Move} :
      Run (x.1.undergo e, x.2) ms z → Run x (.happens e :: ms) z

/-- Whether no task can move. -/
def IsStuck (x : Host × Pipeline σ ν) : Prop := ∀ t, x.2.step x.1 t = none

theorem Run.trans {x y z : Host × Pipeline σ ν} {ms ns : List Move} (h : Run x ms y)
    (h' : Run y ns z) : Run x (ms ++ ns) z := by
  induction h with
  | nil => exact h'
  | task hs _ ih => exact .task hs (ih h')
  | happens _ ih => exact .happens (ih h')

/-- No move changes which container is followed. -/
theorem container_step {h h' : Host} {p p' : Pipeline σ ν} {t : TaskId}
    (hs : p.step h t = some (h', p')) : p'.container = p.container := by
  cases taskMoves_of_eq hs with
  | feed hm => cases hm <;> rfl
  | printer hm => cases hm <;> rfl

theorem Run.container {x y : Host × Pipeline σ ν} {ms : List Move} (h : Run x ms y) :
    y.2.container = x.2.container := by
  induction h with
  | nil => rfl
  | task hs _ ih => exact ih.trans (container_step hs)
  | happens _ ih => exact ih

/-- The close signal stays up. -/
theorem closed_step {h h' : Host} {p p' : Pipeline σ ν} {t : TaskId}
    (hc : p.splitter.closed = true) (hs : p.step h t = some (h', p')) :
    p'.splitter.closed = true := by
  cases taskMoves_of_eq hs with
  | feed hm =>
    cases hm with
    | stops => rfl
    | _ _ hc' => rw [hc] at hc'; cases hc'
  | printer hm =>
    cases hm with
    | line _ ha => exact ha.draws.closed.trans hc
    | gathered _ ha => exact ha.draws.closed.trans hc
    | ended => exact hc

/-- A signal that is up stays up. -/
theorem Run.closed {x y : Host × Pipeline σ ν} {ms : List Move} (h : Run x ms y)
    (hc : x.2.splitter.closed = true) : y.2.splitter.closed = true := by
  induction h with
  | nil => exact hc
  | task hs _ ih => exact ih (closed_step hc hs)
  | happens _ ih => exact ih hc

/-- Only a live log is changed by the tasks. -/
theorem host_step_of_not_live {h h' : Host} {p p' : Pipeline σ ν} {t : TaskId}
    (hl : ∀ log, h ≠ .live log) (hs : p.step h t = some (h', p')) : h' = h := by
  cases followed_of_step hs with
  | alone => rfl
  | attached ha => exact Host.attach_of_not_live hl ha
  | taken hn => exact Host.next_of_not_live hl hn

/-- A log that is not live stays as it is. -/
theorem Run.host_of_not_live {x y : Host × Pipeline σ ν} {ms : List Move} (h : Run x ms y)
    (hl : ∀ log, x.1 ≠ .live log) : y.1 = x.1 := by
  induction h with
  | nil => rfl
  | task hs _ ih =>
    have he := host_step_of_not_live hl hs
    exact (ih fun log => by rw [he]; exact hl log).trans he
  | @happens x z e ms _ ih =>
    have he : x.1.undergo e = x.1 := Host.undergo_of_not_live hl e
    exact (ih fun log => by rw [he]; exact hl log).trans he

/-- Tasks cannot move for ever: a run of theirs is no longer than the work there was. -/
theorem Run.length_add_work_le {x y : Host × Pipeline σ ν} {ts : List TaskId}
    (h : Run x (ts.map .task) y) : ts.length + work y.1 y.2 ≤ work x.1 x.2 := by
  induction ts generalizing x with
  | nil => cases h; exact Nat.le_of_eq (Nat.zero_add _)
  | cons t ts ih =>
    cases h with
    | task hs hr =>
      have hlt := step_work_lt hs
      have hle := ih hr
      rw [List.length_cons]
      omega

/-- No task moves just if all are stuck. -/
theorem move?_eq_none_iff {h : Host} {p : Pipeline σ ν} : p.move? h = none ↔ IsStuck (h, p) := by
  rw [move?, List.findSome?_eq_none_iff]
  constructor
  · intro hn t
    cases t with
    | feed => exact hn _ (by simp [tasks])
    | printer o => cases o <;> exact hn _ (by simp [tasks])
  · intro hs t _
    exact hs t

/-- A pipeline that has settled is stuck. -/
theorem isStuck_settle (h : Host) (p : Pipeline σ ν) : IsStuck (p.settle h) := by
  fun_induction settle h p with
  | case1 h p hm => exact move?_eq_none_iff.1 hm
  | case2 h p h' p' hm ih => exact ih

/-- Settling is a run of the tasks. -/
theorem run_settle (h : Host) (p : Pipeline σ ν) :
    ∃ ts : List TaskId, Run (h, p) (ts.map .task) (p.settle h) := by
  fun_induction settle h p with
  | case1 h p hm => exact ⟨[], .nil⟩
  | case2 h p h' p' hm ih =>
    obtain ⟨t, _, ht⟩ := List.exists_of_findSome?_eq_some hm
    obtain ⟨ts, hr⟩ := ih
    exact ⟨t :: ts, .task ht hr⟩

/-- A pipeline that is stuck has settled. -/
theorem settle_of_isStuck {h : Host} {p : Pipeline σ ν} (hs : IsStuck (h, p)) :
    p.settle h = (h, p) := by
  rw [settle]
  split
  · rfl
  · next hm => rw [move?_eq_none_iff.2 hs] at hm; cases hm

/-- Where a pipeline is behind its first moves, at most so many. -/
def moved : Nat → Host × Pipeline σ ν → Host × Pipeline σ ν
  | 0, x => x
  | n + 1, x => match x.2.move? x.1 with
    | none => x
    | some y => moved n y

/-- Settling is over where there is no move. -/
theorem settle_eq_moved {n : Nat} {x : Host × Pipeline σ ν}
    (hs : (moved n x).2.move? (moved n x).1 = none) : x.2.settle x.1 = moved n x := by
  induction n generalizing x with
  | zero => exact settle_of_isStuck (move?_eq_none_iff.1 hs)
  | succ n ih =>
    rw [settle]
    rw [moved] at hs ⊢
    split
    · next hm => rw [hm]
    · next h' p' hm =>
      rw [hm] at hs
      rw [hm]
      exact ih hs

end Pipeline

end Readiness
