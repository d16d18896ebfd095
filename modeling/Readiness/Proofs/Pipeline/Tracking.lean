import Readiness.Proofs.Log.Printing
import Readiness.Proofs.Pipeline.Moves
import Readiness.Proofs.Splitter.Reading

/-!
# Tracking a pipeline

At every moment of a run, two runs of chunks tell how far a pipeline is (`Tracks`): those that the
feed has copied to the combined output, and those that it has also brought to the output of their
channel. Both are what the container has said first, and the first is ahead by at most one chunk
(`FeedAt`). What an output has received is its share of them, and its printer has delivered the
lines of that which its reader has handed over (`Serves`).

Every move of a task keeps track (`Tracks.step`), and so does whatever happens to the host
(`Tracks.undergo`) and the close signal (`Tracks.close`); hence every run does (`Tracks.run`). Where
no task can move, either all tasks are over or the stream stays open and everything it has said has
been delivered as far as it is complete (`Tracks.of_isStuck`).
-/

namespace Readiness

open Lines

/-- What an outlet carries of some chunks. -/
def Outlet.share (o : Outlet) (cs : List Chunk) : Bytes :=
  Chunk.join (cs.filter (o.carries ·.channel))

namespace Outlet

@[simp] theorem share_nil (o : Outlet) : o.share [] = [] := rfl

theorem share_combined (cs : List Chunk) : combined.share cs = Chunk.join cs :=
  congrArg Chunk.join (List.filter_eq_self.2 fun _ _ => rfl)

theorem share_concat (o : Outlet) (cs : List Chunk) (c : Chunk) :
    o.share (cs ++ [c]) = o.share cs ++ if o.carries c.channel then c.bytes else [] := by
  by_cases hc : o.carries c.channel = true <;> simp [share, Chunk.join, hc]

end Outlet

namespace Pipeline

variable {σ ν : Type}

/-- What an outlet has received, if some chunks have been copied to the combined output and some
    brought to the outputs of their channels. -/
def received (o : Outlet) (copied tagged : List Chunk) : Bytes :=
  o.share (if o = .combined then copied else tagged)

/-- A chunk copied is received by the combined output. -/
theorem received_copied (o : Outlet) (said : List Chunk) (c : Chunk) :
    received o (said ++ [c]) said =
      received o said said ++ if o = .combined then c.bytes else [] := by
  by_cases ho : o = .combined
  · subst ho
    simp [received, Outlet.share_concat, Outlet.carries]
  · simp [received, ho]

/-- A chunk brought to the output of its channel is received there. -/
theorem received_tagged (o : Outlet) (said : List Chunk) (c : Chunk) :
    received o (said ++ [c]) (said ++ [c]) =
      received o (said ++ [c]) said ++ if o = c.channel.outlet then c.bytes else [] := by
  by_cases ho : o = .combined
  · subst ho
    simp [received, c.channel.outlet_ne_combined.symm]
  · simp [received, ho, Outlet.share_concat, Outlet.carries_iff]

/-- Where the feed is with the script of its container: `origin` is the host as it would be if
    nobody had attached to it. -/
inductive FeedAt (interrupted : Prop) (origin h : Host) (container : String) :
    Feed → List Chunk → List Chunk → Prop
  | attaching : h = origin → FeedAt interrupted origin h container .attaching [] []
  | reading {t : Tail} {said : List Chunk} : Host.Kin origin h t →
      origin.script container = (h.flow t).behind said →
      FeedAt interrupted origin h container (.reading t) said said
  | copying {c : Chunk} {t : Tail} {said : List Chunk} : Host.Kin origin h t →
      origin.script container = (h.flow t).behind (said ++ [c]) →
      FeedAt interrupted origin h container (.copying c t) said said
  | tagging {c : Chunk} {t : Tail} {said : List Chunk} : Host.Kin origin h t →
      origin.script container = (h.flow t).behind (said ++ [c]) →
      FeedAt interrupted origin h container (.tagging c t) (said ++ [c]) said
  /-- The script is over. -/
  | finished {said : List Chunk} : origin.script container = ⟨said, true⟩ →
      FeedAt interrupted origin h container .ended said said
  /-- Somebody else has raised the signal. -/
  | stopped {copied tagged : List Chunk} : interrupted →
      copied <+: (origin.script container).chunks →
      (copied = tagged ∨ ∃ c, copied = tagged ++ [c]) →
      FeedAt interrupted origin h container .ended copied tagged

/-- What has become of the printer that was put at an output, if one was. -/
inductive Serves [Listener σ ν] (s : Splitter) (o : Outlet) (received : Bytes) :
    Option (Printer σ ν) → Station σ ν → Prop
  | nobody : (s.output o).reader.live = false →
      Serves s o received none { printer := none, running := false }
  /-- It has delivered what its reader has handed over. -/
  | working {q : Printer σ ν} {lines : List String} : (s.output o).reader.live = true →
      s.HasRead o received lines →
      Serves s o received (some q) { printer := some (q.deliverAll lines), running := true }
  /-- It has delivered all lines. -/
  | done {q : Printer σ ν} : s.finished = true → (s.output o).queue = [] →
      (s.output o).pending = [] →
      Serves s o received (some q)
        { printer := some (q.deliverAll (ofBytes received)), running := false }

/-- How far a pipeline is that was set to work with printers at its outputs: which chunks have been
    copied to the combined output, and which have also been brought to that of their channel. -/
structure Tracks [Listener σ ν] (printers : PerOutlet (Option (Printer σ ν))) (interrupted : Prop)
    (origin h : Host) (p : Pipeline σ ν) (copied tagged : List Chunk) : Prop where
  feed : FeedAt interrupted origin h p.container p.feed copied tagged
  /-- The feed holds the input until it is over. -/
  input : p.feed.running = true → p.splitter.input.live = true
  /-- The signal is raised by the feed, when it is over, or by somebody else. -/
  closed : p.splitter.closed = true → p.feed = .ended ∨ interrupted
  raised : p.feed = .ended → p.splitter.closed = true
  serves : ∀ o, Serves p.splitter o (received o copied tagged) (printers.get o) (p.station o)

theorem setStation_station (p : Pipeline σ ν) (o : Outlet) : p.setStation o (p.station o) = p := by
  cases o <;> rfl

theorem station_setStation_self (p : Pipeline σ ν) (o : Outlet) (x : Station σ ν) :
    (p.setStation o x).station o = x := PerOutlet.get_set_self _ _ _

/-- A pipeline is over if no task of it runs. -/
theorem isOver_iff (p : Pipeline σ ν) : p.isOver = true ↔ ∀ t, p.isRunning t = false := by
  simp only [isOver, List.all_eq_true, Bool.not_eq_eq_eq_not, Bool.not_true]
  refine ⟨fun ha t => ha t ?_, fun ha t _ => ha t⟩
  cases t with
  | feed => simp [tasks]
  | printer o => cases o <;> simp [tasks]

/-- Setting a new pipeline to work: a reader is taken where there is a printer, and dropped where
    there is none. -/
theorem start_of_new {p : Pipeline σ ν} {capacity : Nat} (hs : p.splitter = .ofCapacity capacity)
    (hr : ∀ o, (p.station o).running = false) :
    p.start.container = p.container ∧ p.start.feed = .attaching ∧
      p.start.splitter.closed = false ∧ p.start.splitter.input = .taken ∧
      ∀ o, p.start.splitter.output o =
          (if (p.station o).printer.isSome then { reader := .taken } else .abandoned) ∧
        p.start.station o =
          { printer := (p.station o).printer, running := (p.station o).printer.isSome } := by
  rcases p with ⟨container, splitter, feed, ⟨⟨p₁, r₁⟩, ⟨p₂, r₂⟩, ⟨p₃, r₃⟩⟩⟩
  have h₁ : r₁ = false := hr .stdout
  have h₂ : r₂ = false := hr .stderr
  have h₃ : r₃ = false := hr .combined
  subst hs h₁ h₂ h₃
  cases p₁ <;> cases p₂ <;> cases p₃ <;>
    refine ⟨rfl, rfl, rfl, rfl, fun o => ?_⟩ <;> cases o <;> exact ⟨rfl, rfl⟩

/-! ## The feed's position -/

namespace FeedAt

variable {interrupted : Prop} {origin h : Host} {container : String} {f : Feed}
  {copied tagged : List Chunk}

/-- The combined output is ahead of the others by at most one chunk. -/
theorem ahead (hf : FeedAt interrupted origin h container f copied tagged) :
    copied = tagged ∨ ∃ c, copied = tagged ++ [c] := by
  cases hf with
  | tagging => exact .inr ⟨_, rfl⟩
  | stopped _ _ ha => exact ha
  | _ => exact .inl rfl

/-- What is copied is what the container has said first. -/
theorem copied_prefix (hf : FeedAt interrupted origin h container f copied tagged) :
    copied <+: (origin.script container).chunks := by
  cases hf with
  | attaching => exact List.nil_prefix
  | reading _ hs => rw [hs]; exact List.prefix_append _ _
  | copying _ hs =>
    rw [hs, Script.behind_append]
    exact List.prefix_append _ _
  | tagging _ hs => rw [hs]; exact List.prefix_append _ _
  | finished hs => simp [hs]
  | stopped _ hp _ => exact hp

theorem mono {interrupted' : Prop} (hi : interrupted → interrupted')
    (hf : FeedAt interrupted origin h container f copied tagged) :
    FeedAt interrupted' origin h container f copied tagged := by
  cases hf with
  | attaching he => exact .attaching he
  | reading hk hs => exact .reading hk hs
  | copying hk hs => exact .copying hk hs
  | tagging hk hs => exact .tagging hk hs
  | finished hs => exact .finished hs
  | stopped hi' hp ha => exact .stopped (hi hi') hp ha

/-- What happens to the host happens to the origin as well, and leaves the feed where it is. -/
theorem undergo (hf : FeedAt interrupted origin h container f copied tagged) (e : Happening) :
    FeedAt interrupted (origin.undergo e) (h.undergo e) container f copied tagged := by
  cases hf with
  | attaching he => exact .attaching (by rw [he])
  | reading hk hs => exact .reading (hk.undergo hs e).1 (hk.undergo hs e).2
  | copying hk hs => exact .copying (hk.undergo hs e).1 (hk.undergo hs e).2
  | tagging hk hs => exact .tagging (hk.undergo hs e).1 (hk.undergo hs e).2
  | finished hs =>
    refine .finished ?_
    rw [Host.script_undergo_of_ends (by rw [hs]), hs]
  | stopped hi hp ha =>
    exact .stopped hi (hp.trans (Host.chunks_script_prefix_undergo _ _ _)) ha

end FeedAt

/-! ## The printers -/

section Printers

variable [Listener σ ν]

namespace Serves

variable {s s' : Splitter} {o : Outlet} {received : Bytes} {q : Option (Printer σ ν)}
  {x : Station σ ν}

/-- What is done elsewhere does not disturb a printer. -/
theorem frame (hs : Serves s o received q x) (ho : s'.output o = s.output o)
    (hf : s.finished = true → s'.finished = true) : Serves s' o received q x := by
  cases hs with
  | nobody hl => exact .nobody (ho ▸ hl)
  | working hl hr => exact .working (ho ▸ hl) (hr.frame ho hf)
  | done hd hq hp => exact .done (hf hd) (ho ▸ hq) (ho ▸ hp)

/-- A chunk that the output accepts is one more to print. -/
theorem push (hs : Serves s o received q x) (hf : s.finished = false) (bs : Bytes) :
    Serves (s.push o bs) o (received ++ bs) q x := by
  cases hs with
  | nobody hl => exact .nobody (by simpa using hl)
  | working hl hr => exact .working (by simpa using hl) (hr.push hl hf bs)
  | done hd => rw [hf] at hd; cases hd

/-- The reader of another output leaves the printer be. -/
theorem frame_of_draws {o' : Outlet} {drawn : List Bytes} (hs : Serves s o received q x)
    (hd : s.Draws o' drawn s') (ho : o ≠ o') : Serves s' o received q x := by
  cases hd
  exact hs.frame (Splitter.output_setOutput_of_ne _ _ ho) id

/-- A printer at work has delivered what its reader has handed over. -/
theorem of_running (hs : Serves s o received q x) (hr : x.running = true) :
    ∃ q' lines, q = some q' ∧ x = { printer := some (q'.deliverAll lines), running := true } ∧
      (s.output o).reader.live = true ∧ s.HasRead o received lines := by
  cases hs with
  | nobody => cases hr
  | working hl hread => exact ⟨_, _, rfl, rfl, hl, hread⟩
  | done => cases hr

/-- Every move of a printer delivers what its reader hands over by it. -/
theorem stepPrinter {p p' : Pipeline σ ν} (hs : Serves p.splitter o received q (p.station o))
    (hm : PrinterMoves p o p') : Serves p'.splitter o received q (p'.station o) := by
  cases hm with
  | @line text s hr ha =>
    obtain ⟨q, lines, rfl, hx, hl, hread⟩ := hs.of_running hr
    have hw : Serves s o received (some q)
        { printer := some (q.deliverAll (lines ++ [text])), running := true } :=
      .working (ha.draws.reader o ▸ hl) (hread.line ha)
    rw [Printer.deliverAll_concat] at hw
    rw [hx, station_setStation_self]
    exact hw
  | @gathered s hr ha =>
    obtain ⟨q, lines, rfl, hx, hl, hread⟩ := hs.of_running hr
    have hw : Serves s o received (some q) (p.station o) := by
      rw [hx]
      exact .working (ha.draws.reader o ▸ hl) (hread.gathered ha)
    exact hw
  | ended hr ha =>
    obtain ⟨q, lines, rfl, hx, _, hread⟩ := hs.of_running hr
    rw [hx, station_setStation_self, hread.of_ended ha]
    cases ha with
    | ended hp hqueue hf => exact .done hf hqueue hp

end Serves

/-- A printer's move takes chunks out of its own output, and changes no other station. -/
theorem PrinterMoves.draws {p p' : Pipeline σ ν} {o : Outlet} (hm : PrinterMoves p o p') :
    ∃ drawn, p.splitter.Draws o drawn p'.splitter ∧
      p' = Pipeline.setStation { p with splitter := p'.splitter } o (p'.station o) := by
  cases hm with
  | line _ ha => exact ⟨_, ha.draws, by rw [station_setStation_self]; rfl⟩
  | gathered _ ha => exact ⟨_, ha.draws, (setStation_station _ o).symm⟩
  | ended => exact ⟨_, .refl _ _, by rw [station_setStation_self]; rfl⟩

end Printers

/-! ## Every move keeps track -/

section Steps

variable [Listener σ ν] {printers : PerOutlet (Option (Printer σ ν))} {interrupted : Prop}
  {origin h h' : Host} {p p' : Pipeline σ ν} {copied tagged : List Chunk}

namespace Tracks

/-- Chunks can arrive as long as the feed is at work and the signal is not up. -/
theorem finished_eq_false (ht : Tracks printers interrupted origin h p copied tagged)
    (hr : p.feed.running = true) (hc : p.splitter.closed = false) :
    p.splitter.finished = false := by
  simp [Splitter.finished, hc, ht.input hr]

/-- A feed that is over keeps track. -/
theorem endFeed (ht : Tracks printers interrupted origin h p copied tagged)
    (hf : FeedAt interrupted origin h' p.container .ended copied tagged) :
    Tracks printers interrupted origin h' p.endFeed copied tagged where
  feed := hf
  input := nofun
  closed _ := .inl rfl
  raised _ := rfl
  serves o := (ht.serves o).frame rfl fun _ => rfl

/-- A feed that finds the signal up keeps track. -/
theorem stop (ht : Tracks printers interrupted origin h p copied tagged)
    (hr : p.feed.running = true) (hc : p.splitter.closed = true) :
    Tracks printers interrupted origin h p.endFeed copied tagged := by
  have hi : interrupted := (ht.closed hc).resolve_left fun he => by rw [he] at hr; cases hr
  exact ht.endFeed (.stopped hi ht.feed.copied_prefix ht.feed.ahead)

/-- A feed that goes on without touching the outputs keeps track. -/
theorem goOn (ht : Tracks printers interrupted origin h p copied tagged) {f : Feed}
    (hr : p.feed.running = true) (hc : p.splitter.closed = false) (hr' : f.running = true)
    (hf : FeedAt interrupted origin h' p.container f copied tagged) :
    Tracks printers interrupted origin h' { p with feed := f } copied tagged where
  feed := hf
  input _ := ht.input hr
  closed hc' := by rw [hc] at hc'; cases hc'
  raised he := by subst he; cases hr'
  serves := ht.serves

/-- A feed that brings a chunk to an output keeps track. -/
theorem carry (ht : Tracks printers interrupted origin h p copied tagged) {o : Outlet}
    {bs : Bytes} {f : Feed} {copied' tagged' : List Chunk} (hr : p.feed.running = true)
    (hc : p.splitter.closed = false) (hr' : f.running = true)
    (hf : FeedAt interrupted origin h p.container f copied' tagged')
    (hrec : ∀ o', received o' copied' tagged' =
      received o' copied tagged ++ if o' = o then bs else []) :
    Tracks printers interrupted origin h
      { p with splitter := p.splitter.push o bs, feed := f } copied' tagged' where
  feed := hf
  input _ := ht.input hr
  closed hc' := by rw [Splitter.push_closed, hc] at hc'; cases hc'
  raised he := by subst he; cases hr'
  serves o' := by
    have hs := ht.serves o'
    rw [hrec]
    by_cases ho : o' = o
    · subst ho
      rw [if_pos rfl]
      exact hs.push (ht.finished_eq_false hr hc) bs
    · rw [if_neg ho, List.append_nil]
      exact hs.frame (Splitter.output_push_of_ne _ _ ho) id

/-- Every move of the feed keeps track. -/
theorem stepFeed (ht : Tracks printers interrupted origin h p copied tagged)
    (hm : FeedMoves h p h' p') :
    ∃ copied' tagged', Tracks printers interrupted origin h' p' copied' tagged' := by
  have hat := ht.feed
  cases hm with
  | stops hr hc => exact ⟨_, _, ht.stop hr hc⟩
  | attaches hf hc ha =>
    rw [hf] at hat
    cases hat with
    | attaching he =>
      subst he
      refine ⟨_, _, ht.goOn (by rw [hf]; rfl) hc rfl (.reading (Host.kin_of_attach ha) ?_)⟩
      simp [Host.script, ha]
  | cannotAttach hf hc ha =>
    rw [hf] at hat
    cases hat with
    | attaching he =>
      subst he
      exact ⟨_, _, ht.endFeed (.finished (by simp [Host.script, ha]))⟩
  | takes hf hc hn =>
    rw [hf] at hat
    cases hat with
    | reading hk hs =>
      cases Host.takes_of_eq hn with
      | chunk he =>
        refine ⟨_, _, ht.goOn (by rw [hf]; rfl) hc rfl (.copying (hk.next hn) ?_)⟩
        rw [hs, he, Script.behind_append]
  | runsOut hf hc _ he =>
    rw [hf] at hat
    cases hat with
    | reading hk hs =>
      exact ⟨_, _, ht.endFeed (.finished (by rw [hs, he]; simp [Script.behind]))⟩
  | copies hf hc _ =>
    -- The combined output is one chunk ahead until the chunk is brought to its channel.
    rw [hf] at hat
    cases hat with
    | copying hk hs =>
      exact ⟨_, _, ht.carry (by rw [hf]; rfl) hc rfl (.tagging hk hs)
        fun o => received_copied o copied _⟩
  | tags hf hc _ =>
    rw [hf] at hat
    cases hat with
    | tagging hk hs =>
      exact ⟨_, _, ht.carry (by rw [hf]; rfl) hc rfl (.reading hk hs)
        fun o => received_tagged o tagged _⟩

/-- A printer's move changes its own output and station alone. -/
theorem setStation (ht : Tracks printers interrupted origin h p copied tagged) {s : Splitter}
    {o : Outlet} {x : Station σ ν} {drawn : List Bytes} (hd : p.splitter.Draws o drawn s)
    (hs : Serves s o (received o copied tagged) (printers.get o) x) :
    Tracks printers interrupted origin h (Pipeline.setStation { p with splitter := s } o x) copied
      tagged where
  feed := ht.feed
  input hr := hd.input ▸ ht.input hr
  closed hc := ht.closed (hd.closed ▸ hc)
  raised he := hd.closed ▸ ht.raised he
  serves o' := by
    by_cases ho : o' = o
    · subst ho
      simpa [station, Pipeline.setStation] using hs
    · have hx : (Pipeline.setStation { p with splitter := s } o x).station o' = p.station o' :=
        PerOutlet.get_set_of_ne _ _ ho
      rw [hx]
      exact (ht.serves o').frame_of_draws hd ho

/-- Every move of a printer keeps track. -/
theorem stepPrinter (ht : Tracks printers interrupted origin h p copied tagged) {o : Outlet}
    (hm : PrinterMoves p o p') : Tracks printers interrupted origin h p' copied tagged := by
  obtain ⟨drawn, hd, he⟩ := hm.draws
  rw [he]
  exact ht.setStation hd ((ht.serves o).stepPrinter hm)

/-- Every move of a task keeps track. -/
theorem step (ht : Tracks printers interrupted origin h p copied tagged) {t : TaskId}
    (hs : p.step h t = some (h', p')) :
    ∃ copied' tagged', Tracks printers interrupted origin h' p' copied' tagged' := by
  cases taskMoves_of_eq hs with
  | feed hm => exact ht.stepFeed hm
  | printer hm => exact ⟨_, _, ht.stepPrinter hm⟩

/-- Behind the signal no chunk is brought to an output any more. -/
theorem step_of_closed (ht : Tracks printers interrupted origin h p copied tagged) {t : TaskId}
    (hc : p.splitter.closed = true) (hs : p.step h t = some (h', p')) :
    Tracks printers interrupted origin h' p' copied tagged ∧ p'.splitter.closed = true := by
  refine ⟨?_, closed_step hc hs⟩
  cases taskMoves_of_eq hs with
  | feed hm =>
    cases hm with
    | stops hr => exact ht.stop hr hc
    | _ _ hc' => rw [hc] at hc'; cases hc'
  | printer hm => exact ht.stepPrinter hm

/-- Whatever happens to the host keeps track. -/
theorem undergo (ht : Tracks printers interrupted origin h p copied tagged) (e : Happening) :
    Tracks printers interrupted (origin.undergo e) (h.undergo e) p copied tagged where
  feed := ht.feed.undergo e
  input := ht.input
  closed := ht.closed
  raised := ht.raised
  serves := ht.serves

/-- The close signal keeps track. -/
theorem close (ht : Tracks printers interrupted origin h p copied tagged) :
    Tracks printers True origin h p.close copied tagged where
  feed := ht.feed.mono fun _ => trivial
  input := ht.input
  closed _ := .inr trivial
  raised _ := rfl
  serves o := (ht.serves o).frame rfl fun _ => rfl

end Tracks

/-- A new pipeline that was set to work has copied nothing. -/
theorem tracks_start {p : Pipeline σ ν} {capacity : Nat}
    (hs : p.splitter = .ofCapacity capacity) (hr : ∀ o, (p.station o).running = false) (h : Host) :
    Tracks (p.stations.map Station.printer) False h h p.start [] [] := by
  obtain ⟨hc, hf, hcl, hi, ho⟩ := start_of_new hs hr
  refine ⟨by rw [hf]; exact .attaching rfl, fun _ => by rw [hi]; rfl, fun hc' => ?_, fun he => ?_,
    fun o => ?_⟩
  · rw [hcl] at hc'; cases hc'
  · rw [hf] at he; cases he
  · have hrec : received o [] [] = [] := by simp [received]
    rw [(ho o).2, hrec, PerOutlet.get_map]
    have hout := (ho o).1
    change Serves p.start.splitter o [] (p.station o).printer _
    cases hx : (p.station o).printer with
    | none => exact .nobody (by rw [hout, hx]; rfl)
    | some q =>
      rw [hx] at hout
      have hw : Serves p.start.splitter o [] (some q)
          { printer := some (q.deliverAll []), running := true } :=
        .working (by rw [hout]; rfl) (.start (by rw [hout]; rfl) (by rw [hout]; rfl))
      exact hw

/-- What the host would be behind a run if nobody had attached to it. -/
def originAfter (origin : Host) (ms : List Move) : Host :=
  ms.foldl (fun o m => match m with
    | .task _ => o
    | .happens e => o.undergo e) origin

/-- Tasks alone do not change where the chunks come from. -/
theorem originAfter_tasks (origin : Host) (ts : List TaskId) :
    originAfter origin (ts.map .task) = origin := by
  induction ts with
  | nil => rfl
  | cons t ts ih => exact ih

/-- A log that is not live is where the chunks come from, whatever happens. -/
theorem originAfter_of_not_live {origin : Host} (hl : ∀ log, origin ≠ .live log) (ms : List Move) :
    originAfter origin ms = origin := by
  induction ms with
  | nil => rfl
  | cons m ms ih =>
    cases m with
    | task t => exact ih
    | happens e => exact (congrArg (originAfter · ms) (Host.undergo_of_not_live hl e)).trans ih

/-- Every run keeps track. -/
theorem Tracks.run {x y : Host × Pipeline σ ν} {ms : List Move}
    (ht : Tracks printers interrupted origin x.1 x.2 copied tagged) (hr : Run x ms y) :
    ∃ copied' tagged',
      Tracks printers interrupted (originAfter origin ms) y.1 y.2 copied' tagged' := by
  -- By induction on the moves: tasks carry chunks on, and what happens extends the script that they
  -- come from.
  induction hr generalizing origin copied tagged with
  | nil => exact ⟨_, _, ht⟩
  | task hs _ ih =>
    obtain ⟨_, _, ht'⟩ := ht.step hs
    exact ih ht'
  | happens _ ih => exact ih (ht.undergo _)

/-! ## Where no task can move -/

/-- In a stuck pipeline every printer waits. -/
theorem printerWaits_of_isStuck {x : Host × Pipeline σ ν} (hs : IsStuck x) (o : Outlet) :
    PrinterWaits x.2 o :=
  printerWaits_of_eq_none (Option.map_eq_none_iff.1 (hs (.printer o)))

/-- A printer that has to wait at an output that is not finished has delivered the complete lines.
    -/
theorem Serves.of_waits {o : Outlet} {received : Bytes} {q : Option (Printer σ ν)}
    (hs : Serves p.splitter o received q (p.station o)) (hw : PrinterWaits p o)
    (hf : p.splitter.finished = false) :
    (p.station o).printer = q.map (·.deliverAll (complete received)) := by
  generalize hx : p.station o = x at hs
  cases hs with
  | nobody => rfl
  | working _ hread =>
    cases hw with
    | done hr => rw [hx] at hr; cases hr
    | waiting _ ha => rw [hread.of_waiting ha]; rfl
  | done hd => rw [hf] at hd; cases hd

/-- A printer that has to wait at an output that is finished is over, with all lines delivered. -/
theorem Serves.of_waits_finished {o : Outlet} {received : Bytes} {q : Option (Printer σ ν)}
    (hs : Serves p.splitter o received q (p.station o)) (hw : PrinterWaits p o)
    (hf : p.splitter.finished = true) :
    (p.station o).running = false ∧
      (p.station o).printer = q.map (·.deliverAll (ofBytes received)) := by
  generalize hx : p.station o = x at hs
  cases hs with
  | nobody => exact ⟨rfl, rfl⟩
  | working =>
    cases hw with
    | done hr => rw [hx] at hr; cases hr
    | waiting _ ha => cases ha with | waiting _ _ hf' => rw [hf] at hf'; cases hf'
  | done => exact ⟨rfl, rfl⟩

/-- Where every printer has to wait, no output is full: somebody reads it, and has drained it. -/
theorem Serves.isFull_eq_false {o : Outlet} {received : Bytes} {q : Option (Printer σ ν)}
    (hs : Serves p.splitter o received q (p.station o)) (hw : PrinterWaits p o) :
    p.splitter.isFull o = false := by
  have hpos := p.splitter.capacity_pos
  have hempty : (p.splitter.output o).queue = [] → p.splitter.isFull o = false := by
    intro hq
    simp [Splitter.isFull, hq]
    omega
  generalize hx : p.station o = x at hs
  cases hs with
  | nobody hl => simp [Splitter.isFull, hl]
  | working =>
    cases hw with
    | done hr => rw [hx] at hr; cases hr
    | waiting _ ha => cases ha with | waiting _ hq _ => exact hempty hq
  | done _ hq => exact hempty hq

namespace Tracks

/-- Where no task can move, either all are over, with all lines of what was received delivered; or
    the signal is not up, the stream has said all it has to say and stays open, and the complete
    lines of that are delivered. -/
theorem of_isStuck (ht : Tracks printers interrupted origin h p copied tagged)
    (hs : IsStuck (h, p)) :
    (p.isOver = true ∧ p.feed = .ended ∧ ∀ o, (p.station o).printer =
      (printers.get o).map (·.deliverAll (ofBytes (received o copied tagged)))) ∨
    (p.splitter.closed = false ∧ p.feed ≠ .ended ∧ tagged = copied ∧
      origin.script p.container = ⟨copied, false⟩ ∧ ∀ o, (p.station o).printer =
        (printers.get o).map (·.deliverAll (complete (received o copied tagged)))) := by
  have hw := printerWaits_of_isStuck hs
  have hfull : ∀ o, p.splitter.isFull o = false := fun o => (ht.serves o).isFull_eq_false (hw o)
  have hat := ht.feed
  -- A feed that waits for more leaves the printers at the complete lines.
  have hopen : p.feed.running = true → p.splitter.closed = false → ∀ o, (p.station o).printer =
      (printers.get o).map (·.deliverAll (complete (received o copied tagged))) :=
    fun hr hc o => (ht.serves o).of_waits (hw o) (ht.finished_eq_false hr hc)
  cases feedWaits_of_eq_none (hs .feed) with
  | done hr =>
    left
    have he : p.feed = .ended := by
      cases hf : p.feed <;> rw [hf] at hr hat <;> cases hat <;> first | rfl | cases hr
    have hfin : p.splitter.finished = true := by simp [Splitter.finished, ht.raised he]
    have hdone := fun o => (ht.serves o).of_waits_finished (hw o) hfin
    refine ⟨(isOver_iff p).2 fun t => ?_, he, fun o => (hdone o).2⟩
    cases t with
    | feed => exact hr
    | printer o => exact (hdone o).1
  | attaching hf hc ha =>
    right
    refine ⟨hc, fun he => (by rw [hf] at he; cases he), ?_, ?_, hopen (by rw [hf]; rfl) hc⟩ <;>
      rw [hf] at hat <;> cases hat with | attaching he => ?_
    · rfl
    · subst he; simp [Host.script, ha]
  | reading hf hc he =>
    right
    refine ⟨hc, fun he => (by rw [hf] at he; cases he), ?_, ?_, hopen (by rw [hf]; rfl) hc⟩ <;>
      rw [hf] at hat <;> cases hat with | reading _ hsc => ?_
    · rfl
    · rw [hsc, he]; simp [Script.behind]
  | copying _ _ hfull' => rw [hfull] at hfull'; cases hfull'
  | tagging _ _ hfull' => rw [hfull] at hfull'; cases hfull'

end Tracks

/-- Behind the signal, tasks that move until none can bring everything to an end, and all that has
    been received is delivered. -/
theorem Tracks.of_isStuck_of_closed {x y : Host × Pipeline σ ν} {ts : List TaskId}
    (ht : Tracks printers interrupted origin x.1 x.2 copied tagged)
    (hc : x.2.splitter.closed = true) (hr : Run x (ts.map .task) y) (hs : IsStuck y) :
    y.2.isOver = true ∧ ∀ o, (y.2.station o).printer =
      (printers.get o).map (·.deliverAll (ofBytes (received o copied tagged))) := by
  -- By induction on the moves behind the signal: they only read, until all tasks are over.
  induction ts generalizing x with
  | nil =>
    cases hr
    obtain ⟨ho, _, hp⟩ | ⟨hc', _⟩ := ht.of_isStuck hs
    · exact ⟨ho, hp⟩
    · rw [hc] at hc'; cases hc'
  | cons t ts ih =>
    cases hr with
    | task hst hr =>
      obtain ⟨ht', hc'⟩ := ht.step_of_closed hc hst
      exact ih ht' hc' hr

end Steps

end Pipeline

end Readiness
