import Readiness.Log.Printout
import Readiness.Proofs.Log.Cutoff
import Readiness.Proofs.Pipeline.Tracking
import Readiness.Proofs.Splitter.LineByLine
import Readiness.Rehearsal

/-!
# A printer at work, whatever becomes of its sink

A printer at an output goes on beside others, who may do whatever there is to do with a splitter but
for what takes the reader of that output (`Use.ofReader`). A `Deed` is a move of the printer or a
step of somebody else; over any deeds the printer has delivered the lines that its reader has handed
over of what the output accepted (`Prints.actAll`), and where nothing can arrive any more it comes
to its end by its own moves (`Prints.exists_over`). A printer with nobody beside it delivers all
lines of the chunks that its output carries (`printout_eq`).

What the lines come to at a sink that fails is told by how far a sink gets (`Printer.HasPrinted`).
`Printing.survives_failing_sink` puts both together.
-/

namespace Readiness

open Lines

theorem Outlet.share_cons (o : Outlet) (c : Chunk) (cs : List Chunk) :
    o.share (c :: cs) = (if o.carries c.channel then c.bytes else []) ++ o.share cs := by
  by_cases hc : o.carries c.channel = true <;> simp [share, Chunk.join, hc]

/-- What is done where a printer is at work. -/
inductive Deed
  /-- A move of the printer, if it has one. -/
  | prints
  /-- A step of somebody else with the splitter. -/
  | uses (u : Use)
  deriving DecidableEq, Repr

/-- Whether a deed is none with the reader of an output, unless it is its printer's. -/
def Deed.spares (o : Outlet) : Deed → Bool
  | .prints => true
  | .uses u => !u.ofReader o

namespace Splitter

variable {s : Splitter} {o : Outlet} {u : Use}

theorem reader_output_push (s : Splitter) (o o' : Outlet) (bs : Bytes) :
    ((s.push o bs).output o').reader = (s.output o').reader := by
  rw [push, output_setOutput]
  split
  · next h => rw [Output.reader_push, h]
  · rfl

end Splitter

namespace Pipeline

variable {σ ν : Type} [Listener σ ν] {o : Outlet}

/-- What a deed makes of a pipeline with a printer at an output. -/
def act (o : Outlet) (p : Pipeline σ ν) : Deed → Pipeline σ ν
  | .prints => (p.stepPrinter o).getD p
  | .uses u => { p with splitter := (p.splitter.use u).2 }

def actAll (o : Outlet) (p : Pipeline σ ν) (ds : List Deed) : Pipeline σ ν := ds.foldl (act o) p

/-- The bytes that the output accepts by a deed. -/
def supply (o : Outlet) (p : Pipeline σ ν) : Deed → Bytes
  | .prints => []
  | .uses u => (p.splitter.accepted o u).flatten

/-- The bytes that the output accepts by deeds. -/
def supplyAll (o : Outlet) : Pipeline σ ν → List Deed → Bytes
  | _, [] => []
  | p, d :: ds => supply o p d ++ supplyAll o (act o p d) ds

/-- A printer that has taken the reader of its output, and has delivered what was read. -/
structure Prints (o : Outlet) (received : Bytes) (q : Printer σ ν) (p : Pipeline σ ν) : Prop where
  reader : (p.splitter.output o).reader = .taken
  serves : Serves p.splitter o received (some q) (p.station o)

variable {received : Bytes} {q : Printer σ ν} {p : Pipeline σ ν}

/-- Others bring chunks to an output or end it; they do not disturb its printer. -/
theorem Serves.of_not_ofReader {s : Splitter} {u : Use} {x : Station σ ν}
    (hs : Serves s o received (some q) x) (hu : u.ofReader o = false)
    (hl : ((s.use u).2.output o).reader.live = true) :
    Serves (s.use u).2 o (received ++ (s.accepted o u).flatten) (some q) x := by
  have hr := Use.reads_of_ofReader hu
  cases hs with
  | working _ hread => exact .working hl (hread.of_not_reads hr hl)
  | done hf hq hp =>
    have ha := Splitter.accepted_of_finished hf o u
    rw [ha, List.flatten_nil, List.append_nil]
    have hp' := ((s.steps_of_use u).pending hr hl).trans hp
    refine .done ((s.steps_of_use u).finished hf) ?_ hp'
    rw [Splitter.queue_of_not_reads hr hl, ha, hq, List.append_nil]

namespace Prints

/-- A deed leaves the printer at its work, with what the deed supplies. -/
theorem act (h : Prints o received q p) {d : Deed} (hd : d.spares o = true) :
    Prints o (received ++ supply o p d) q (Pipeline.act o p d) := by
  cases d with
  | prints =>
    rw [supply, List.append_nil, Pipeline.act]
    cases hs : p.stepPrinter o with
    | none => exact h
    | some p' =>
      have hm := printerMoves_of_eq hs
      obtain ⟨drawn, hdr, -⟩ := hm.draws
      exact ⟨(hdr.reader o).trans h.reader, h.serves.stepPrinter hm⟩
  | uses u =>
    have hu : u.ofReader o = false := by simpa [Deed.spares] using hd
    have ht := (p.splitter.steps_of_use u).reader hu h.reader
    exact ⟨ht, h.serves.of_not_ofReader hu (by rw [ht]; rfl)⟩

theorem actAll {ds : List Deed} (h : Prints o received q p)
    (hd : ∀ d ∈ ds, d.spares o = true) :
    Prints o (received ++ supplyAll o p ds) q (p.actAll o ds) := by
  induction ds generalizing p received with
  | nil => rw [supplyAll, List.append_nil]; exact h
  | cons d ds ih =>
    rw [supplyAll, ← List.append_assoc]
    exact ih (h.act (hd d List.mem_cons_self)) fun d hd' => hd d (List.mem_cons_of_mem _ hd')

/-- Of what its output received, a printer has delivered the first lines, and all once it is over.
    -/
theorem exists_deliverAll (h : Prints o received q p) :
    ∃ lines, lines <+: ofBytes received ∧ (p.station o).printer = some (q.deliverAll lines) ∧
      ((p.station o).running = false → lines = ofBytes received) := by
  have hs := h.serves
  generalize p.station o = x at hs
  cases hs with
  | working _ hread =>
    exact ⟨_, hread.prefix_sofar.trans (sofar_prefix_ofBytes _ _), rfl, nofun⟩
  | done => exact ⟨_, List.prefix_rfl, rfl, fun _ => rfl⟩

/-- Where nothing can arrive any more, a printer that goes on comes to its end. -/
theorem exists_over (h : Prints o received q p) (hf : p.splitter.finished = true) :
    ∃ n, ((p.actAll o (List.replicate n .prints)).station o).running = false := by
  -- By induction on the work that is left, of which every move leaves less.
  induction hn : work (.replay []) p using Nat.strongRecOn generalizing p with
  | ind n ih =>
    cases hs : p.stepPrinter o with
    | none => exact ⟨0, (h.serves.of_waits_finished (printerWaits_of_eq_none hs) hf).1⟩
    | some p' =>
      have hm := printerMoves_of_eq hs
      obtain ⟨drawn, hdr, -⟩ := hm.draws
      obtain ⟨m, hm'⟩ := ih _ (hn ▸ work_stepPrinter_lt hs)
        (p := p') ⟨(hdr.reader o).trans h.reader, h.serves.stepPrinter hm⟩ (hdr.finished.trans hf) rfl
      refine ⟨m + 1, ?_⟩
      rw [List.replicate_succ, Pipeline.actAll, List.foldl_cons, Pipeline.act, hs]
      exact hm'

end Prints

/-- A deed at most lets the printer deliver lines. -/
theorem printer_act (o : Outlet) (p : Pipeline σ ν) (d : Deed) :
    ∃ lines, ((act o p d).station o).printer = (p.station o).printer.map (·.deliverAll lines) := by
  have hid : (p.station o).printer = (p.station o).printer.map (·.deliverAll []) := by
    cases (p.station o).printer <;> rfl
  cases d with
  | prints =>
    rw [act]
    cases hs : p.stepPrinter o with
    | none => exact ⟨[], hid⟩
    | some p' =>
      cases printerMoves_of_eq hs with
      | @line text => exact ⟨[text], by rw [Option.getD_some, station_setStation_self]; rfl⟩
      | gathered => exact ⟨[], hid⟩
      | ended => exact ⟨[], by rw [Option.getD_some, station_setStation_self]; exact hid⟩
  | uses u => exact ⟨[], hid⟩

/-- Whatever is done, the printer has delivered some lines more. -/
theorem printer_actAll (o : Outlet) (p : Pipeline σ ν) (ds : List Deed) :
    ∃ lines, ((p.actAll o ds).station o).printer =
      (p.station o).printer.map (·.deliverAll lines) := by
  induction ds generalizing p with
  | nil => exact ⟨[], by rw [actAll, List.foldl_nil]; cases (p.station o).printer <;> rfl⟩
  | cons d ds ih =>
    obtain ⟨first, hf⟩ := printer_act o p d
    obtain ⟨more, hm⟩ := ih (act o p d)
    refine ⟨first ++ more, hm.trans ?_⟩
    rw [hf, Option.map_map]
    simp only [Function.comp_def, Printer.deliverAll_append]

/-! ## A printer with nobody beside it -/

/-- A pipeline in which nothing is at work but the printer of one output. -/
structure IsAlone (o : Outlet) (received : Bytes) (q : Printer σ ν) (p : Pipeline σ ν) : Prop where
  feed : p.feed = .idle
  others : ∀ o', o' ≠ o → (p.station o').running = false ∧
    (p.splitter.output o').reader.live = false
  serves : Serves p.splitter o received (some q) (p.station o)

namespace IsAlone

/-- A move of a task leaves the printer alone at its work, and the end of the input where it is. -/
theorem step (h : IsAlone o received q p) {hst h' : Host} {p' : Pipeline σ ν} {t : TaskId}
    (hs : p.step hst t = some (h', p')) :
    IsAlone o received q p' ∧ p'.splitter.finished = p.splitter.finished := by
  cases taskMoves_of_eq hs with
  | feed hm => cases hm <;> simp_all [h.feed, Feed.running]
  | @printer o' _ hm =>
    by_cases ho : o' = o
    · subst ho
      obtain ⟨drawn, hd, he⟩ := hm.draws
      refine ⟨⟨by rw [he]; exact h.feed, fun o₁ ho₁ => ?_, h.serves.stepPrinter hm⟩, hd.finished⟩
      rw [hd.output_of_ne ho₁]
      refine ⟨?_, (h.others o₁ ho₁).2⟩
      rw [he, setStation, station, PerOutlet.get_set_of_ne _ _ ho₁]
      exact (h.others o₁ ho₁).1
    · have hr := (h.others o' ho).1
      cases hm <;> simp_all

theorem run {ts : List TaskId} {x y : Host × Pipeline σ ν} (h : IsAlone o received q x.2)
    (hr : Run x (ts.map .task) y) :
    IsAlone o received q y.2 ∧ y.2.splitter.finished = x.2.splitter.finished := by
  induction ts generalizing x with
  | nil => cases hr; exact ⟨h, rfl⟩
  | cons t ts ih =>
    cases hr with
    | task hs hr =>
      obtain ⟨h', hf⟩ := h.step hs
      obtain ⟨hi, hf'⟩ := ih h' hr
      exact ⟨hi, hf'.trans hf⟩

/-- Reading on, the printer comes to where it has to wait. -/
theorem readOn (h : IsAlone o received q p) :
    IsAlone o received q p.readOn ∧ p.readOn.splitter.finished = p.splitter.finished ∧
      PrinterWaits p.readOn o := by
  obtain ⟨ts, hr⟩ := run_settle (.replay []) p
  obtain ⟨h', hf⟩ := h.run hr
  exact ⟨h', hf, printerWaits_of_isStuck (isStuck_settle (.replay []) p) o⟩

/-- A chunk that is written where no output is full is received by those that carry its channel. -/
theorem write (h : IsAlone o received q p) (hf : p.splitter.finished = false)
    (ho : p.splitter.isFull o = false) (c : Chunk) :
    IsAlone o (received ++ if o.carries c.channel then c.bytes else []) q
        { p with splitter := (p.splitter.write c).2 } ∧
      (p.splitter.write c).2.finished = false := by
  have hfree (o' : Outlet) : p.splitter.isFull o' = false := by
    by_cases he : o' = o
    · rw [he]; exact ho
    · simp [Splitter.isFull, (h.others o' he).2]
  have hc : p.splitter.closed = false := by
    rw [Splitter.finished, Bool.or_eq_false_iff] at hf
    exact hf.1
  rw [Splitter.write_eq, hc, hfree, hfree]
  simp only [Bool.false_eq_true, if_false]
  have hne := c.channel.outlet_ne_combined
  refine ⟨⟨h.feed, fun o' ho' => ⟨(h.others o' ho').1, ?_⟩, ?_⟩, hf⟩
  · rw [Splitter.reader_output_push, Splitter.reader_output_push]
    exact (h.others o' ho').2
  · by_cases hco : o = .combined
    · subst hco
      exact (h.serves.push hf c.bytes).frame (Splitter.output_push_of_ne _ _ hne.symm) id
    by_cases hch : o = c.channel.outlet
    · have hfr : Serves (p.splitter.push .combined c.bytes) o _ _ _ :=
        h.serves.frame (Splitter.output_push_of_ne _ _ hco) id
      subst hch
      rw [if_pos (Outlet.carries_iff.2 (.inr rfl))]
      exact hfr.push hf c.bytes
    · have hno : o.carries c.channel ≠ true := fun hc => (Outlet.carries_iff.1 hc).elim hco hch
      rw [if_neg hno, List.append_nil]
      refine h.serves.frame ?_ id
      exact (Splitter.output_push_of_ne _ _ hch).trans (Splitter.output_push_of_ne _ _ hco)

/-- Chunks that are fed leave the printer alone at its work, with its share of them behind what it
    had received. -/
theorem feedAll (h : IsAlone o received q p) (hf : p.splitter.finished = false)
    (ho : p.splitter.isFull o = false) (cs : List Chunk) :
    IsAlone o (received ++ o.share cs) q (p.feedAll cs) := by
  induction cs generalizing p received with
  | nil => rw [Outlet.share_nil, List.append_nil]; exact h
  | cons c cs ih =>
    obtain ⟨hw, hfw⟩ := h.write hf ho c
    obtain ⟨hr, hfr, hwait⟩ := hw.readOn
    have hi := ih hr (hfr.trans hfw) (hr.serves.isFull_eq_false hwait)
    rw [List.append_assoc, ← Outlet.share_cons] at hi
    exact hi

end IsAlone

/-- To begin with, nothing is queued for a printer that is alone. -/
theorem isAlone_alone (capacity : Nat) (o : Outlet) (q : Printer σ ν) :
    IsAlone o [] q (alone capacity o q) ∧ (alone capacity o q).splitter.finished = false ∧
      (alone capacity o q).splitter.isFull o = false := by
  have hout : (alone capacity o q).splitter.output o = {} := by cases o <;> rfl
  have hstation : (alone capacity o q).station o =
      { printer := some (q.deliverAll []), running := true } := by cases o <;> rfl
  have hfin : (alone capacity o q).splitter.finished = false := by cases o <;> rfl
  have hpos := (alone capacity o q).splitter.capacity_pos
  refine ⟨⟨rfl, fun o' ho' => ?_, ?_⟩, hfin, ?_⟩
  · cases o <;> cases o' <;> first | exact ⟨rfl, rfl⟩ | exact absurd rfl ho'
  · rw [hstation]
    exact .working (by rw [hout]; rfl) (.start (by rw [hout]) (by rw [hout]))
  · rw [Splitter.isFull, hout, Bool.and_eq_false_iff]
    exact .inr (decide_eq_false (Nat.not_le.2 hpos))

/-- Chunks that are written to a printer that is alone make it deliver all lines of what its output
    carries of them. -/
theorem printout_eq (capacity : Nat) (o : Outlet) (q : Printer σ ν) (chunks : List Chunk)
    (closing : Bool) :
    printout capacity o q chunks closing = q.deliverAll (ofBytes (o.share chunks)) := by
  obtain ⟨ha, hf, hfull⟩ := isAlone_alone capacity o q
  have hfed := ha.feedAll hf hfull chunks
  rw [List.nil_append] at hfed
  unfold printout
  dsimp only
  generalize (alone capacity o q).feedAll chunks = p at hfed
  -- Behind the input, closed or not, the printer goes on to the end of what is queued.
  generalize hs : (if closing then p.splitter.close else p.splitter).dropInput = s
  have hout (o' : Outlet) : s.output o' = p.splitter.output o' := by
    rw [← hs]; cases closing <;> rfl
  have hd : s.finished = true := by
    rw [← hs]; exact Bool.or_true _
  have hp : IsAlone o (o.share chunks) q { p with splitter := s } :=
    ⟨hfed.feed, fun o' ho' => by rw [hout]; exact hfed.others o' ho',
      hfed.serves.frame (hout o) fun _ => hd⟩
  obtain ⟨hr, hfr, hwait⟩ := hp.readOn
  rw [(hr.serves.of_waits_finished hwait (hfr.trans hd)).2]
  rfl

end Pipeline

/-! ## A sink that fails -/

namespace Printer

variable {σ ν : Type} [Listener σ ν] {label : String} {limit failingFlush : Option Nat}
  {listeners : List σ}

/-- A new printer whose sink takes so many bytes and has a flush that fails. -/
def fallible (label : String) (limit failingFlush : Option Nat) (listeners : List σ) :
    Printer σ ν :=
  { label, sink := some (.limited limit failingFlush), listeners }

/-- The bytes of lines, each with its label and its end, up to the line behind which the flush
    fails. -/
def due (label : String) (failingFlush : Option Nat) (lines : List String) : Bytes :=
  (upTo failingFlush lines).flatMap (Sink.lineBytes label)

/-- What such a printer has made of lines. -/
structure HasPrinted (label : String) (limit failingFlush : Option Nat) (listeners : List σ)
    (lines : List String) (q : Printer σ ν) : Prop where
  count : q.count = lines.length
  heard : q.listeners = (Fanout.notifyAll listeners lines).1
  noted : q.notes = (Fanout.notifyAll listeners lines).2
  written : ∃ k, q.sink = some k ∧ k.written = upTo limit (due label failingFlush lines)
  /-- The sink has failed: it had no room for what was due, or the flush that fails was due. -/
  silenced : q.silenced = true ↔
    (∃ n, limit = some n ∧ n < (due label failingFlush lines).length) ∨
      ∃ n, failingFlush = some n ∧ n ≤ lines.length

/-- A printer counts the lines that it delivers. -/
theorem count_deliverAll (q : Printer σ ν) (lines : List String) :
    (q.deliverAll lines).count = q.count + lines.length := by
  induction lines generalizing q with
  | nil => rfl
  | cons line lines ih =>
    have hd : (q.deliver line).count = q.count + 1 := rfl
    rw [deliverAll_cons, ih, hd, List.length_cons, Nat.add_right_comm, Nat.add_assoc]

/-- A fallible printer has printed what it has delivered. -/
theorem hasPrinted_deliverAll (hK : failingFlush ≠ some 0) (lines : List String) :
    HasPrinted label limit failingFlush listeners lines
      ((fallible (ν := ν) label limit failingFlush listeners).deliverAll lines) := by
  let k : Sink := .limited limit failingFlush
  have hroom : k.room = limit := by cases limit <;> rfl
  have hleft : k.flushesLeft = failingFlush := by cases failingFlush <;> rfl
  have hfresh : k.IsFresh := fun n hn =>
    Nat.pos_of_ne_zero fun h0 => hK (hn.trans (congrArg some h0))
  have hdue : k.due label lines = due label failingFlush lines := by rw [Sink.due, hleft]; rfl
  obtain ⟨k', hk', hw, hs⟩ := sink_deliverAll (p := fallible (ν := ν) label limit failingFlush
    listeners) (k := k) rfl rfl hfresh lines
  have hlabel : (fallible (ν := ν) label limit failingFlush listeners).label = label := rfl
  rw [hlabel, hroom, hdue] at hw
  rw [hlabel, Sink.Carries, hroom, hdue, hleft] at hs
  refine ⟨?_, (told_deliverAll _ _).1, ?_, ⟨k', hk', hw⟩, ?_⟩
  · rw [count_deliverAll]; exact Nat.zero_add _
  · rw [(told_deliverAll _ _).2]; rfl
  · rw [← Bool.not_eq_false, hs, not_and_or]
    refine or_congr ?_ ?_
    · cases limit <;> simp [within]
    · simp

end Printer

open Pipeline

/-- A printer at work at an output of a new splitter, and what is done there. Nobody else holds its
    reader. -/
structure Printing {σ ν : Type} (q : Printer σ ν) where
  outlet : Outlet
  capacity : Nat
  deeds : List Deed
  spares : ∀ d ∈ deeds, d.spares outlet = true

namespace Printing

variable {σ ν : Type} [Listener σ ν] {q : Printer σ ν}

/-- The printer has taken its reader and is set to work. -/
def start (r : Printing q) : Pipeline σ ν :=
  Pipeline.setStation
    { container := ""
      splitter := ((Splitter.ofCapacity r.capacity).use (.take (.reader r.outlet))).2 }
    r.outlet { printer := some q, running := true }

/-- What has become of it. -/
def final (r : Printing q) : Pipeline σ ν := r.start.actAll r.outlet r.deeds

/-- The bytes that the output accepted. -/
def received (r : Printing q) : Bytes := supplyAll r.outlet r.start r.deeds

/-- The printer at the output. -/
def station (r : Printing q) : Station σ ν := r.final.station r.outlet

/-- A printing leaves the printer at its work, with all that was received. -/
theorem prints (r : Printing q) : Prints r.outlet r.received q r.final := by
  have hout : r.start.splitter.output r.outlet = { reader := .taken } := by
    obtain ⟨o, capacity, deeds, hf⟩ := r
    cases o <;> rfl
  have hs : r.start.station r.outlet = { printer := some (q.deliverAll []), running := true } :=
    station_setStation_self _ _ _
  have h : Prints r.outlet [] q r.start := by
    refine ⟨by rw [hout], ?_⟩
    rw [hs]
    exact .working (by rw [hout]; rfl) (.start (by rw [hout]) (by rw [hout]))
  exact h.actAll r.spares

/-- A printer whose sink takes `limit` bytes in all, and fails at the flush that is to fail.

* With nobody beside it, however the chunks are cut: it counts all lines of what its output carries,
  its listeners hear them, bare and in order, and the sink ends up with the first `limit` bytes of
  the lines that have a flush, each behind the label.
* Whatever others do beside it: at every moment this holds for the lines that it has delivered,
  which are the first of the lines of what its output accepted, and all of them once it is over. A
  sink that has failed stays as it is, whatever is done from then on.
* Where nothing can arrive any more, it comes to its end. -/
theorem survives_failing_sink (label : String) (limit failingFlush : Option Nat)
    (listeners : List σ) (hK : failingFlush ≠ some 0) :
    (∀ capacity o chunks closing,
      Printer.HasPrinted label limit failingFlush listeners (ofBytes (o.share chunks))
        (printout capacity o (.fallible label limit failingFlush listeners) chunks closing)) ∧
    ∀ r : Printing (.fallible label limit failingFlush listeners : Printer σ ν),
      (∃ lines q, lines <+: ofBytes r.received ∧ r.station.printer = some q ∧
        Printer.HasPrinted label limit failingFlush listeners lines q ∧
        (r.station.running = false → lines = ofBytes r.received) ∧
        (q.silenced = true → ∀ ds q',
          ((r.final.actAll r.outlet ds).station r.outlet).printer = some q' →
            q'.sink = q.sink)) ∧
      (r.final.splitter.finished = true → ∃ n,
        ((r.final.actAll r.outlet (List.replicate n .prints)).station r.outlet).running =
          false) := by
  refine ⟨fun capacity o chunks closing => ?_, fun r => ⟨?_, r.prints.exists_over⟩⟩
  · rw [printout_eq]
    exact Printer.hasPrinted_deliverAll hK _
  · obtain ⟨lines, hl, hq, hover⟩ := r.prints.exists_deliverAll
    refine ⟨lines, _, hl, hq, Printer.hasPrinted_deliverAll hK lines, hover, fun hs ds q' hq' => ?_⟩
    -- What is done later at most delivers more lines, and a sink that was given up takes none.
    obtain ⟨more, hm⟩ := printer_actAll r.outlet r.final ds
    rw [hq', show (r.final.station r.outlet).printer = _ from hq] at hm
    cases hm
    exact (Printer.sink_deliverAll_of_silenced hs more).1

/-- Three lines come in two chunks. There is room for the first one, and for a part of the label of
    the second; the printer has not yet read the third. -/
def cutInLabel (q : Printer Ear String) : Printing q where
  outlet := .combined
  capacity := 1
  deeds := [.uses (.take .input), .prints, .uses (.write ⟨.stdout, [0x61, 0x0A, 0x62]⟩), .prints,
    .prints, .uses (.write ⟨.stderr, [0x0A, 0x63]⟩), .prints, .prints, .uses .close]
  spares := by decide

/-- A sink with room for nine bytes fails in the label of the second line; and a printer comes to
    its end when the splitter was closed beside it. -/
theorem survives_failing_sink_in_label :
    let q : Printer Ear String := .fallible "box> " (some 9) (some 3) [.recorder "ear"]
    some 3 ≠ some 0 ∧
      (∃ k, (printout 1 .stdout q [⟨.stdout, [0x61, 0x0A, 0x62]⟩, ⟨.stderr, [0x0A]⟩] true).sink =
        some k ∧ k.written = Utf8.encode "box> a\nbo") ∧
      (cutInLabel q).final.splitter.finished = true ∧
      ∃ n, (((cutInLabel q).final.actAll .combined (List.replicate n .prints)).station
        .combined).running = false := by
  intro q
  have hK : some 3 ≠ some 0 := by decide
  have h := survives_failing_sink (ν := String) "box> " (some 9) (some 3) [Ear.recorder "ear"] hK
  have hf : (cutInLabel q).final.splitter.finished = true := by cbv
  obtain ⟨k, hk, hw⟩ :=
    (h.1 1 .stdout [⟨.stdout, [0x61, 0x0A, 0x62]⟩, ⟨.stderr, [0x0A]⟩] true).written
  refine ⟨hK, ⟨k, hk, hw.trans ?_⟩, hf, (h.2 (cutInLabel q)).2 hf⟩
  cbv

end Printing

end Readiness
