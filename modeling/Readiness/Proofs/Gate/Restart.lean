import Readiness.Proofs.Gate.Cycle
import Readiness.Proofs.Log.Cutoff

/-!
# Gates that are started again

A gate that was closed, or whose start has failed, can be started again. Before a replayed log every
cycle behind the first comes to the same outcome after the same time (`Gate.Worn.cycle`). But the
sinks of a gate have gone to its first session, and no later one gives anything to them: what is
printed in later cycles goes to the console, or to nobody (`Gate.cycle_again`).
-/

namespace Readiness

open Lines

namespace Gate

variable {g : Gate} {chunks : List Chunk} {scene : Scene} {s : GateSession}
  {past : List GateSession} {r : Outcome × Gate × Scene} {d t : Nat}

/-- The sink of a session for a channel, unless that is the console. -/
def ownSink (s : GateSession) (ch : Channel) : Option Sink :=
  (s.sink ch).bind fun k => if k.isConsole then none else some k

/-- What a session had the console print for a channel. -/
def consoleText (s : GateSession) (ch : Channel) : Bytes :=
  match s.sink ch with
  | some k => if k.isConsole then k.written else []
  | none => []

/-- The sink of a channel is that of the gate, or else that of the session that has it. -/
theorem sink_eq (g : Gate) (ch : Channel) :
    g.sink ch = (g.unusedSink ch <|> g.sessions.findSome? (ownSink · ch)) := by
  have hown : (ownSink · ch) = fun s : GateSession => match s.sink ch with
      | some sink => if sink.isConsole then none else some sink
      | none => none :=
    funext fun s => by cases h : s.sink ch <;> simp [ownSink, h]
  rw [hown]
  cases ch <;> rfl

/-- A gate without a session at work has the sessions that are over. -/
theorem sessions_refit (g : Gate) (past : List GateSession) :
    (g.refit none none past).sessions = past := List.append_nil past

/-- One more session that is over, at the end of the others. -/
theorem sink_refit_concat (g : Gate) (past : List GateSession) (s : GateSession) (ch : Channel) :
    (g.refit none none (past ++ [s])).sink ch =
      ((g.refit none none past).sink ch <|> ownSink s ch) := by
  have hs : ∀ p, (g.refit none none p).sink ch = p.findSome? (ownSink · ch) := fun p => by
    rw [sink_eq, sessions_refit]
    cases ch <;> rfl
  rw [hs, hs, List.findSome?_append]
  simp

/-- What was printed is what the sessions printed, one after the other. -/
theorem printed_refit_concat (g : Gate) (past : List GateSession) (s : GateSession)
    (ch : Channel) :
    (g.refit none none (past ++ [s])).printed ch =
      (g.refit none none past).printed ch ++ consoleText s ch := by
  have hs : ∀ p, (g.refit none none p).printed ch = p.flatMap (consoleText · ch) := fun p => by
    rw [printed, sessions_refit]
    rfl
  rw [hs, hs, List.flatMap_append]
  simp

/-! ## What a cycle leaves behind -/

/-- A printer of the gate's sessions behind the lines of a channel that have come in some
    milliseconds, if it has been given a sink. -/
def echoed (g : Gate) (chunks : List Chunk) (t : Nat) (ch : Channel) (k : Sink) :
    Printer LogWatch Empty :=
  (Session.echoing g.container ch k).deliverAll (linesAfter chunks t ch.outlet)

/-- Those lines as they are printed. -/
def text (g : Gate) (chunks : List Chunk) (t : Nat) (ch : Channel) : Bytes :=
  (linesAfter chunks t ch.outlet).flatMap (Sink.lineBytes (Session.label g.container ch))

/-- A sink that a channel has echoed to is still one of the same kind. -/
theorem exists_sink_echoed (g : Gate) (chunks : List Chunk) (t : Nat) (ch : Channel) (k : Sink) :
    ∃ k', (g.echoed chunks t ch k).sink = some k' ∧ k'.isConsole = k.isConsole :=
  Printer.exists_sink_deliverAll rfl _

/-- A reliable sink has all of the echo in it. -/
theorem written_echoed (g : Gate) (chunks : List Chunk) (t : Nat) (ch : Channel) {k : Sink}
    (hk : k.IsReliable) :
    ∃ k', (g.echoed chunks t ch k).sink = some k' ∧
      k'.written = k.written ++ g.text chunks t ch :=
  Printer.written_deliverAll rfl
    (Printer.silenced_deliverAll rfl (fun k' hk' => by cases hk'; exact hk) _)

namespace Completes

/-- The sessions before the cycle keep what they had; the last one has what its printers made of the
    sinks that it was given. -/
theorem exists_session (h : Completes g chunks scene t r) :
    ∃ s : GateSession, r.2.1 = g.refit none none (g.past ++ [s]) ∧
      ∀ ch, s.sink ch = (g.channelSink ch).bind fun k => (g.echoed chunks t ch k).sink := by
  obtain ⟨s, he, hp⟩ := h.session
  refine ⟨s, he, fun ch => ?_⟩
  rw [Session.sink, hp, Option.bind_map]
  rfl

/-- The sink of a gate that nothing was printed to before. -/
theorem sink_eq_echoed (h : Completes g chunks scene t r) (hpast : g.past = []) {ch : Channel}
    {k : Sink} (hk : g.unusedSink ch = some k) (hc : k.isConsole = false) :
    r.2.1.sink ch = (g.echoed chunks t ch k).sink := by
  obtain ⟨s, he, hs⟩ := h.exists_session
  obtain ⟨k', hk', hc'⟩ := exists_sink_echoed g chunks t ch k
  have hch : g.channelSink ch = some k := by rw [channelSink, hk]; rfl
  have hnone : (g.refit none none []).sink ch = none := by cases ch <;> rfl
  rw [he, sink_refit_concat, hpast, hnone, ownSink, hs, hch, Option.bind_some, hk']
  simp [hc', hc]

/-- A gate whose sinks are gone leaves them alone, and prints to the console if it may. -/
theorem sink_and_printed_of_refit (h : Completes (g.refit none none past) chunks scene t r)
    (ch : Channel) :
    r.2.1.sink ch = (g.refit none none past).sink ch ∧
      r.2.1.printed ch = (g.refit none none past).printed ch ++
        if g.console && g.config.printLogs then g.text chunks t ch else [] := by
  obtain ⟨s, he, hs⟩ := h.exists_session
  have hch : (g.refit none none past).channelSink ch = g.fallback ch := by cases ch <;> rfl
  replace hs := hs ch
  rw [hch, fallback] at hs
  have hlast : ownSink s ch = none ∧
      consoleText s ch = if g.console && g.config.printLogs then g.text chunks t ch else [] := by
    split at hs
    · next hconsole =>
      have hreliable : (Sink.console ch.name).IsReliable := ⟨rfl, rfl⟩
      obtain ⟨k, hk, hc⟩ := exists_sink_echoed g chunks t ch (.console ch.name)
      obtain ⟨k', hk', hw⟩ := written_echoed g chunks t ch hreliable
      cases hk.symm.trans hk'
      replace hs : s.sink ch = some k := hs.trans hk
      have hw : k.written = g.text chunks t ch := hw
      have hc : k.isConsole = true := hc
      simp [ownSink, consoleText, hs, hc, hw, hconsole]
    · next hconsole =>
      rw [Option.bind_none] at hs
      simp [ownSink, consoleText, hs, hconsole]
  rw [he]
  refine ⟨(sink_refit_concat g past s ch).trans ?_, (printed_refit_concat g past s ch).trans ?_⟩
  · rw [hlast.1]
    simp
  · rw [hlast.2]

end Completes

/-! ## Cycle after cycle -/

/-- The gate and the scene behind so many cycles. -/
def afterCycles (g : Gate) (d : Nat) (scene : Scene) : Nat → Gate × Scene
  | 0 => (g, scene)
  | n + 1 => ((g.afterCycles d scene n).1.cycle d (g.afterCycles d scene n).2).2

/-- The gate and the scene behind so many cycles; `none` where one of them is fatal. -/
def afterCycles? (g : Gate) (d : Nat) (scene : Scene) : Nat → Option (Gate × Scene)
  | 0 => some (g, scene)
  | n + 1 => (g.afterCycles? d scene n).bind fun x => (x.1.cycle? d x.2).map (·.2)

/-- The gate when its sinks are gone and it is closed, before the replayed log. -/
structure Worn (g : Gate) (chunks : List Chunk) (x : Gate × Scene) : Prop where
  gate : ∃ past, x.1 = g.refit none none past
  host : x.2.host = .replay chunks

theorem Worn.config {x : Gate × Scene} (hx : Worn g chunks x) : x.1.config = g.config := by
  obtain ⟨past, he⟩ := hx.gate
  rw [he]
  rfl

section Again

variable {x : Gate × Scene} (hs : g.session = none) (hl : ∀ w ∈ g.waitFor, w.isLog = true)
  (ht : 0 < g.config.waitTimeout) (hg : 0 < g.config.shutdownGrace)
  (hh : scene.host = .replay chunks)

include hs hl ht hg hh

/-- One cycle more comes to what the first came to, but for what is printed. -/
theorem Worn.cycle (hx : Worn g chunks x) (d : Nat) :
    let first := g.cycle d scene
    let again := x.1.cycle d x.2
    again.1 = first.1 ∧ ∃ t, d ≤ t ∧ Completes g chunks scene t first ∧
      again.2.2.now = x.2.now + t ∧ Worn g chunks again.2 ∧
      ∀ ch, again.2.1.sink ch = x.1.sink ch ∧ again.2.1.printed ch = x.1.printed ch ++
        if g.console && g.config.printLogs then g.text chunks t ch else [] := by
  obtain ⟨gate, scene'⟩ := x
  obtain ⟨past, rfl⟩ := hx.gate
  obtain ⟨ho, t, hd, hc, hc'⟩ := cycle_refit none none past hs hl ht hg hh hx.host d
  obtain ⟨s, he, -⟩ := hc'.session
  exact ⟨ho, t, hd, hc, hc'.now, ⟨⟨_, he⟩, hc'.host⟩, hc'.sink_and_printed_of_refit⟩

/-- A gate is worn by its first cycle. -/
theorem worn_cycle (d : Nat) : Worn g chunks (g.cycle d scene).2 := by
  obtain ⟨-, t, -, hc, -⟩ := cycle_refit none none [] hs hl ht hg hh hh d
  obtain ⟨s, he, -⟩ := hc.session
  exact ⟨⟨_, he⟩, hc.host⟩

/-- Behind the first cycle the sinks stay as they are. -/
theorem worn_afterCycles (d n : Nat) :
    Worn g chunks (g.afterCycles d scene (n + 1)) ∧
      ∀ ch, (g.afterCycles d scene (n + 1)).1.sink ch = (g.cycle d scene).2.1.sink ch := by
  induction n with
  | zero => exact ⟨worn_cycle hs hl ht hg hh d, fun _ => rfl⟩
  | succ n ih =>
    obtain ⟨hworn, hsink⟩ := ih
    obtain ⟨-, t, -, -, -, hworn', hsink'⟩ := hworn.cycle hs hl ht hg hh d
    exact ⟨hworn', fun ch => (hsink' ch).1.trans (hsink ch)⟩

/-- With a buffer that is not too great for a queue no cycle is fatal. -/
theorem afterCycles?_of_le (hc : g.config.logBuffer ≤ Splitter.maxCapacity) (d n : Nat) :
    g.afterCycles? d scene n = some (g.afterCycles d scene n) := by
  induction n with
  | zero => rfl
  | succ n ih =>
    have hc' : (g.afterCycles d scene n).1.config.logBuffer ≤ Splitter.maxCapacity := by
      cases n with
      | zero => exact hc
      | succ n =>
        rw [(worn_afterCycles hs hl ht hg hh d n).1.config]
        exact hc
    rw [afterCycles?, ih, Option.bind_some, cycle?_of_le hc']
    rfl

/-- The last of some cycles, beside the first. -/
theorem cycle_afterCycles (hpast : g.past = []) (d n : Nat) :
    let first := g.cycle d scene
    let before := g.afterCycles d scene (n + 1)
    let again := before.1.cycle d before.2
    again.1 = first.1 ∧ ∃ t, d ≤ t ∧ first.2.2.now = scene.now + t ∧
      again.2.2.now = before.2.now + t ∧
      (∀ ch, before.1.sink ch = first.2.1.sink ch ∧ again.2.1.sink ch = first.2.1.sink ch ∧
        again.2.1.printed ch = before.1.printed ch ++
          if g.console && g.config.printLogs then g.text chunks t ch else []) ∧
      ∀ ch k, g.unusedSink ch = some k → k.isConsole = false →
        ∃ k', first.2.1.sink ch = some k' ∧ (g.echoed chunks t ch k).sink = some k' ∧
          (k.IsReliable → k'.written = k.written ++ g.text chunks t ch) ∧
          ((∃ text k'', k'.written = k.written ++ text ∧ again.2.1.sink ch = some k'' ∧
              k''.written = k'.written ++ text) ↔
            t = 0 ∨ ch.outlet.share chunks = [] ∨ k.room = some 0) := by
  intro first before again
  obtain ⟨hworn, hsink⟩ := worn_afterCycles hs hl ht hg hh d n
  obtain ⟨ho, t, hd, hc, hnow, -, hagain⟩ := hworn.cycle hs hl ht hg hh d
  have hkept : ∀ ch, again.2.1.sink ch = first.2.1.sink ch := fun ch =>
    (hagain ch).1.trans (hsink ch)
  refine ⟨ho, t, hd, hc.now, hnow, fun ch => ⟨hsink ch, hkept ch, (hagain ch).2⟩,
    fun ch k hk hconsole => ?_⟩
  obtain ⟨k', hk', -⟩ := exists_sink_echoed g chunks t ch k
  have hfirst : first.2.1.sink ch = some k' := (hc.sink_eq_echoed hpast hk hconsole).trans hk'
  refine ⟨k', hfirst, hk', fun hr => ?_, ?_⟩
  · obtain ⟨k'', hk'', hw⟩ := written_echoed g chunks t ch hr
    cases hk'.symm.trans hk''
    exact hw
  · -- The same is appended where nothing is.
    have hnone : (∃ text k'', k'.written = k.written ++ text ∧ again.2.1.sink ch = some k'' ∧
        k''.written = k'.written ++ text) ↔ k'.written = k.written := by
      rw [hkept, hfirst]
      constructor
      · rintro ⟨text, k'', hw, h, hw'⟩
        cases h
        simpa [List.self_eq_append_right.1 hw'] using hw
      · intro hw
        exact ⟨[], k', by simp [hw], rfl, by simp⟩
    have hlines : linesAfter chunks t ch.outlet = [] ↔ t = 0 ∨ ch.outlet.share chunks = [] := by
      rw [linesAfter, ite_eq_left_iff, ofBytes_eq_nil_iff, or_iff_not_imp_left]
    rw [hnone, Printer.written_deliverAll_eq_iff rfl rfl hk', hlines, or_assoc]

/-- What a gate with sinks does if it is started again and again before a replayed log, each time
    left alone for as long, and closed.

* To start it is fatal if the buffer is too great for a queue, and only then. If the first start is
  not, neither is a later one.
* Every start ends with the result of the first, and every cycle takes the time of the first.
* The sinks of the gate get something in the first cycle only. They keep it, and what later cycles
  print goes to the console, or to nobody.
* So a later cycle appends the same to a sink as the first just where the first appends nothing: no
  time passes in a cycle, or there is nothing on the channel, or the sink takes nothing. -/
theorem cycle_again (hpast : g.past = []) (d : Nat) :
    (g.cycle? d scene = none ↔ Splitter.maxCapacity < g.config.logBuffer) ∧
    ∀ first, g.cycle? d scene = some first → ∀ n, ∃ before again,
      g.afterCycles? d scene (n + 1) = some before ∧ before.1.cycle? d before.2 = some again ∧
      again.1 = first.1 ∧ ∃ t, d ≤ t ∧ first.2.2.now = scene.now + t ∧
        again.2.2.now = before.2.now + t ∧
        (∀ ch, before.1.sink ch = first.2.1.sink ch ∧ again.2.1.sink ch = first.2.1.sink ch ∧
          again.2.1.printed ch = before.1.printed ch ++
            if g.console && g.config.printLogs then g.text chunks t ch else []) ∧
        ∀ ch k, g.unusedSink ch = some k → k.isConsole = false →
          ∃ k', first.2.1.sink ch = some k' ∧ (g.echoed chunks t ch k).sink = some k' ∧
            (k.IsReliable → k'.written = k.written ++ g.text chunks t ch) ∧
            ((∃ text k'', k'.written = k.written ++ text ∧ again.2.1.sink ch = some k'' ∧
                k''.written = k'.written ++ text) ↔
              t = 0 ∨ ch.outlet.share chunks = [] ∨ k.room = some 0) := by
  obtain ⟨rs, hb⟩ := WaitFor.mapM_build_of_isLog hl
  have hnone : g.cycle? d scene = none ↔ Splitter.maxCapacity < g.config.logBuffer := by
    rw [cycle?_eq_map, Option.map_eq_none_iff, start?_eq_none_iff_of_requirements hs hb]
  refine ⟨hnone, fun first hgiven n => ?_⟩
  have hc : g.config.logBuffer ≤ Splitter.maxCapacity := Nat.not_lt.1 fun hlt => by
    rw [hnone.2 hlt] at hgiven
    cases hgiven
  obtain rfl : g.cycle d scene = first :=
    Option.some.inj ((cycle?_of_le hc d scene).symm.trans hgiven)
  have hworn := (worn_afterCycles hs hl ht hg hh d n).1
  exact ⟨_, _, afterCycles?_of_le hs hl ht hg hh hc d (n + 1),
    cycle?_of_le (by rw [hworn.config]; exact hc) d _, cycle_afterCycles hs hl ht hg hh hpast d n⟩

end Again

/-- A line on each channel. -/
def upAndWarning : List Chunk := [⟨.stdout, Utf8.encode "up\n"⟩, ⟨.stderr, Utf8.encode "warn\n"⟩]

def replayed : Scene where
  host := .replay upAndWarning

theorem text_upAndWarning {g : Gate} (hg : g.container = "box") {t : Nat} (ht : 0 < t) :
    g.text upAndWarning t .stdout = Utf8.encode "box-stdout> up\n" := by
  have hlines : ofBytes (Outlet.stdout.share upAndWarning) = ["up"] := by decide
  have hlabel : Session.label g.container .stdout = "box-stdout> " := by
    rw [hg]
    decide
  rw [text, linesAfter, if_neg (Nat.ne_of_gt ht), hlabel]
  change (ofBytes (Outlet.stdout.share upAndWarning)).flatMap _ = _
  rw [hlines]
  decide

/-- A gate waits in vain, time after time, and its sink keeps what it got the first time. -/
theorem cycle_again_inVain :
    let g : Gate :=
      { container := "box", added := [.logMessage "down"], stdoutSink := some .capture }
    ∃ before again, g.afterCycles? 1 replayed (1 + 1) = some before ∧
      before.1.cycle? 1 before.2 = some again ∧
      again.1 = .failed (.timeout "box" "log message 'down'" (.ofMillis 10000)) ∧
      (again.2.1.sink .stdout).map Sink.written = some (Utf8.encode "box-stdout> up\n") ∧
      again.2.1.printed .stdout = before.1.printed .stdout ++ Utf8.encode "box-stdout> up\n" := by
  intro g
  have hh : replayed.host = .replay upAndWarning := rfl
  have hgiven : g.cycle? 1 replayed = some _ := cycle?_of_le (by decide) 1 replayed
  obtain ⟨-, hcycles⟩ :=
    cycle_again (g := g) rfl (by decide) (by decide) (by decide) hh rfl 1
  obtain ⟨before, again, hbefore, hagain?, ho, t, hd, -, -, hagain, hsinks⟩ := hcycles _ hgiven 1
  obtain ⟨k', hk', -, hw, -⟩ := hsinks .stdout .capture rfl rfl
  obtain ⟨-, hkept, hprinted⟩ := hagain .stdout
  have hsplit : g.waitFor = [] ++ .logMessage "down" :: [] := rfl
  obtain ⟨condition, hc, hf⟩ := start_of_not_holds rfl hh (by decide) (by decide) hsplit nofun
    (by decide)
  have hcondition : condition = "log message 'down'" := hc.trans (by decide)
  have hdescribe : g.describe = "box" := by decide
  refine ⟨before, again, hbefore, hagain?, ho.trans ?_, ?_, ?_⟩
  · rw [cycle_fst, hf, hcondition, hdescribe]
  · rw [hkept, hk', Option.map_some, hw ⟨rfl, rfl⟩, text_upAndWarning rfl hd]
    rfl
  · rw [hprinted, text_upAndWarning rfl hd, if_pos (by decide)]

/-- A gate opens twice. A line goes to its sink the first time, and to the console the second. -/
theorem second_cycle_skips_sink :
    let g : Gate := { container := "box", added := [.logMessage "up"], stdoutSink := some .capture }
    ∃ first again k' k'', g.cycle? 1 replayed = some first ∧
      first.2.1.cycle? 1 first.2.2 = some again ∧ first.1 = .ready ∧ again.1 = .ready ∧
      first.2.1.sink .stdout = some k' ∧ again.2.1.sink .stdout = some k'' ∧
      k'.written = Utf8.encode "box-stdout> up\n" ∧
      again.2.1.printed .stdout = first.2.1.printed .stdout ++ Utf8.encode "box-stdout> up\n" ∧
      ¬ ∃ text, k'.written = Sink.capture.written ++ text ∧ k''.written = k'.written ++ text := by
  intro g
  let first := g.cycle 1 replayed
  have hh : replayed.host = .replay upAndWarning := rfl
  have hready : first.1 = .ready := (cycle_fst g 1 replayed).trans
    (start_of_hold rfl hh (by decide) (by decide) (by decide)).1
  have hworn := worn_cycle (g := g) rfl (by decide) (by decide) (by decide) hh 1
  obtain ⟨ho, t, hd, hc, -, -, hagain⟩ :=
    hworn.cycle rfl (by decide) (by decide) (by decide) hh 1
  obtain ⟨hkept, hprinted⟩ := hagain .stdout
  obtain ⟨k', hk', hw⟩ := written_echoed g _ t .stdout (k := .capture) ⟨rfl, rfl⟩
  have hfirst : first.2.1.sink .stdout = some k' :=
    (hc.sink_eq_echoed rfl rfl rfl).trans hk'
  have hw : k'.written = Utf8.encode "box-stdout> up\n" := hw.trans (text_upAndWarning rfl hd)
  have hgiven : g.cycle? 1 replayed = some first := cycle?_of_le (by decide) 1 replayed
  have hagain? : first.2.1.cycle? 1 first.2.2 = some _ :=
    cycle?_of_le (by rw [hworn.config]; decide) 1 first.2.2
  refine ⟨first, _, k', k', hgiven, hagain?, hready, ho.trans hready, hfirst, ?_, hw, ?_, ?_⟩
  · rw [hkept, hfirst]
  · rw [hprinted, text_upAndWarning rfl hd, if_pos (by decide)]
  · rintro ⟨text, hadded, hagain'⟩
    have hnil := List.self_eq_append_right.1 hagain'
    rw [hnil, hw] at hadded
    exact absurd hadded (by decide)

end Gate

end Readiness
