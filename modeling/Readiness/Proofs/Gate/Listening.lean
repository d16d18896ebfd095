import Readiness.Proofs.Gate.Scheduling
import Readiness.Proofs.Gate.Verdict

/-!
# What a gate's conditions know

The conditions on log lines are in the fan-out before the container is attached to, so they know all
lines that have been delivered, whichever of them is being waited for, and nothing else
(`Vigil.Reflects`). This holds wherever a start gets, until its session is closed.

So a gate that opens has all its conditions on lines met by the lines delivered; one that gives up
names a condition that they do not meet, behind conditions that they do
(`Gate.start_reflects`). The lines are those delivered when the wait gives up. Closing the session,
before the start is over, may deliver some more, and the conditions reflect those too. One of them
may be what the condition that was named had been waiting for (`Gate.timeout_before_line_ends`).
-/

namespace Readiness

open Vigil (Reaches Hears)

namespace WaitFor

/-- Whether lines drive it. -/
def isHeard : WaitFor → Bool
  | logMessage _ | logMessageSequence _ => true
  | _ => false

/-- A condition is met by lines, whatever the log is like as it is fetched. -/
def MetBy (lines : List String) (w : WaitFor) : Prop := ∀ log, w.Holds lines log

/-- A watch that is built from a condition is ready if and only if the lines meet the condition. -/
theorem ready_iff_metBy {w : WaitFor} (hl : w.isLog = true) {watch : LogWatch}
    (hb : w.build = .ok (.heard watch)) (lines : List String) :
    (watch.hearAll lines).ready = true ↔ w.MetBy lines :=
  ⟨fun h _ => (holdsNow_iff hl hb).1 h, fun h => (holdsNow_iff hl hb).2 (h (.ok ""))⟩

/-- A condition on lines is made as a watch, which is ready when the lines meet the condition. -/
theorem build_of_isHeard {w : WaitFor} (hw : w.isHeard = true) :
    ∃ watch, w.build = .ok (.heard watch) ∧
      ∀ lines, (watch.hearAll lines).ready = true ↔ w.MetBy lines := by
  cases w with
  | logMessage => exact ⟨_, rfl, ready_iff_metBy rfl rfl⟩
  | logMessageSequence => exact ⟨_, rfl, ready_iff_metBy rfl rfl⟩
  | _ => cases hw

end WaitFor

/-- The conditions on lines are as the lines make them: a message is found if and only if some line
    mentions it, and of a sequence as many messages are seen as can be found at all. -/
structure Vigil.Reflects (ws : List WaitFor) (lines : List String) (v : Vigil) : Prop where
  message : ∀ i text, ws[i]? = some (.logMessage text) →
    ∃ found, v.requirement? i = some (.heard (.message { text, found })) ∧
      (found = true ↔ ∃ line ∈ lines, mentions line text = true)
  sequence : ∀ i texts, ws[i]? = some (.logMessageSequence texts) →
    ∃ seen, v.requirement? i = some (.heard (.sequence { texts, seen })) ∧
      IsGreatest { k | k ≤ texts.length ∧ LogSequence.Embeds (texts.take k) lines } seen

namespace Gate

variable {π : Scheduler} {g : Gate} {scene : Scene} {rs : List Requirement} {i : Nat}
  {lines : List String} {v : Vigil}

/-- A vigil that has heard some lines reflects them. -/
theorem reflects_of_hears (hb : g.requirements = .ok rs)
    (h : Hears (g.vigil scene rs) v lines) : v.Reflects g.waitFor lines where
  message i text hw := by
    obtain ⟨r, hr, hbr⟩ := WaitFor.getElem?_of_mapM_build hb hw
    cases hbr
    refine ⟨(LogMessage.hearAll { text } lines).found, ?_, ?_⟩
    · rw [h.requirement?_eq hr, LogWatch.hearAll_message, ← LogMessage.hearAll_fresh]
    · simpa using LogMessage.found_hearAll { text } lines
  sequence i texts hw := by
    obtain ⟨r, hr, hbr⟩ := WaitFor.getElem?_of_mapM_build hb hw
    cases hbr
    refine ⟨(LogSequence.hearAll { texts } lines).seen, ?_, LogSequence.isGreatest_seen texts lines⟩
    rw [h.requirement?_eq hr, LogWatch.hearAll_sequence, ← LogSequence.hearAll_fresh]

/-- A condition on lines at an index is built to a watch that the lines make ready if they meet it.
    -/
theorem exists_watch (hb : g.requirements = .ok rs) {w : WaitFor} (hw : g.waitFor[i]? = some w)
    (hh : w.isHeard = true) :
    ∃ watch, rs[i]? = some (.heard watch) ∧
      ∀ lines, (watch.hearAll lines).ready = true ↔ w.MetBy lines := by
  obtain ⟨r, hr, hbr⟩ := WaitFor.getElem?_of_mapM_build hb hw
  obtain ⟨watch, hbw, hiff⟩ := WaitFor.build_of_isHeard hh
  cases hbr.symm.trans hbw
  exact ⟨watch, hr, hiff⟩

/-- The conditions on lines whose turn is over are met by the lines delivered. -/
theorem Stage.metBy (h : Stage g scene rs i lines v) (hb : g.requirements = .ok rs) {j : Nat}
    (hj : j < i) {w : WaitFor} (hw : g.waitFor[j]? = some w) (hh : w.isHeard = true) :
    w.MetBy lines := by
  obtain ⟨watch, hr, hiff⟩ := exists_watch hb hw hh
  exact (hiff lines).1 (h.met j hj watch hr)

/-- A condition on lines that a check finds not to hold is not met by the lines delivered. -/
theorem Stage.not_metBy (h : Stage g scene rs i lines v) (hb : g.requirements = .ok rs)
    (hc : (v.check g.container i).1 = .ok false) {w : WaitFor} (hw : g.waitFor[i]? = some w)
    (hh : w.isHeard = true) : ¬ w.MetBy lines := by
  intro hmet
  obtain ⟨watch, hr, hiff⟩ := exists_watch hb hw hh
  rw [h.check_fst hr, (hiff lines).2 hmet] at hc
  cases hc

theorem exists_split_at {α : Type} {l : List α} {i : Nat} (hi : i < l.length) :
    ∃ before a behind, l = before ++ a :: behind ∧ before.length = i :=
  ⟨l.take i, l[i], l.drop (i + 1), by simp, by simp [Nat.le_of_lt hi]⟩

/-- Every start, under any scheduler, that of `start?` among them, of a gate whose conditions can be
    built. It is fatal if the buffer is too great for a queue, and only then.

* From the attach on, the conditions on lines reflect the lines delivered, in whatever state.
* If the gate opens, all its conditions on lines are met by the lines delivered.
* If it gives up, the condition that it names is as the lines delivered make it. If it is one on
  lines, they do not meet it; they meet all conditions on lines before it. Behind that the session is
  closed, and reflects the lines delivered by that as well. -/
theorem start_reflects (π : Scheduler) (g : Gate) (scene : Scene) (rs : List Requirement)
    (hs : g.session = none) (hb : g.requirements = .ok rs) :
    g.startUnder? .clock scene = g.start? scene ∧
    (g.startUnder? π scene = none ↔ Splitter.maxCapacity < g.config.logBuffer) ∧
    (∀ lines v, Reaches g.container (g.vigil scene rs) lines v → v.Reflects g.waitFor lines) ∧
    (∀ g' scene', g.startUnder? π scene = some (.ready, g', scene') →
      ∃ lines v s, Reaches g.container (g.vigil scene rs) lines v ∧ v.session = some s ∧
        g' = { g.handOver with session := some s } ∧ scene' = v.scene ∧
        ∀ w ∈ g.waitFor, w.isHeard = true → w.MetBy lines) ∧
    ∀ description condition timeout g' scene',
      g.startUnder? π scene = some (.failed (.timeout description condition timeout), g', scene') →
      ∃ before w behind lines v r, g.waitFor = before ++ w :: behind ∧
        Reaches g.container (g.vigil scene rs) lines v ∧
        g.waitUnder π rs (g.vigil scene rs) =
          (.failed (.timeout description condition timeout), v.release before.length) ∧
        v.requirement? before.length = some r ∧ condition = r.describe ∧
        (w.isHeard = true → ¬ w.MetBy lines) ∧
        (∀ b ∈ before, b.isHeard = true → b.MetBy lines) ∧
        ∃ s more v', g' = g.handOver.retire s ∧
          Reaches g.container (g.vigil scene rs) (lines ++ more) v' ∧ v'.session = some s := by
  have hlen : rs.length = g.waitFor.length := (mapM_eq_ok_iff.1 hb).length_eq.symm
  refine ⟨startUnder?_clock g scene, startUnder?_eq_none_iff hs hb,
    fun lines v hv => reflects_of_hears hb (hv.hears (hears_vigil g scene rs)),
    fun g' scene' hr => ?_, fun description condition timeout g' scene' hf => ?_⟩
  · have hr := eq_startUnder_of_startUnder? hr
    rcases startUnder_ends π scene hs hb with ⟨lines, v, s, -, hv, hss, he⟩ |
      ⟨_, _, _, _, -, -, -, -, _, _, he, -⟩
    · rw [he] at hr
      cases hr
      refine ⟨lines, v, s, hv.reaches, hss, rfl, rfl, fun w hw hh => ?_⟩
      obtain ⟨j, hj⟩ := List.getElem?_of_mem hw
      have hlt : j < rs.length := hlen ▸ (List.getElem?_eq_some_iff.1 hj).1
      exact hv.metBy hb hlt hj hh
    · rw [he] at hr; cases hr
  · have hf := eq_startUnder_of_startUnder? hf
    rcases startUnder_ends π scene hs hb with ⟨_, _, _, -, -, -, he⟩ |
      ⟨i, error, lines, v, hw, hi, hv, hend, s, scene', he, -, more, v', hmore, hss⟩
    · rw [he] at hf; cases hf
    · rw [he] at hf
      cases hf
      cases hend with
      | timeout hc =>
      obtain ⟨before, w, behind, hsplit, rfl⟩ := exists_split_at (hlen ▸ hi)
      have hv' := hv.check before.length
      obtain ⟨r, hr⟩ := hv'.hears.exists_requirement? hi
      refine ⟨before, w, behind, lines, _, r, hsplit, hv'.reaches, hw, hr, ?_,
        hv.not_metBy hb hc (by simp [hsplit]), fun b hb' hh => ?_, s, more, v', rfl, hmore, hss⟩
      · simp only [Vigil.condition, hr]
        rfl
      · obtain ⟨j, hj⟩ := List.getElem?_of_mem hb'
        have hlt := (List.getElem?_eq_some_iff.1 hj).1
        refine hv.metBy hb hlt ?_ hh
        rw [hsplit, List.getElem?_append_left hlt, hj]

/-- A message, and the same message on a later line than another. -/
def upTwice : List WaitFor := [.logMessage "up", .logMessageSequence ["db", "up"]]

/-- A log in which both messages are on one line. -/
def oneLine : Scene where
  host := .replay [⟨.stdout, Utf8.encode "db up\n"⟩]

/-- The message was found while the gate waited for it, and counts for the sequence only once. -/
theorem start_reflects_oneLine :
    let g : Gate := { container := "box", added := upTwice }
    (∃ g' scene', g.start? oneLine = some (.failed (.timeout "box"
      "log message sequence ['db', 'up'] (1 of 2 seen)" (.ofMillis 10000)), g', scene')) ∧
    ∃ rs lines v, Reaches "box" (g.vigil oneLine rs) lines v ∧ v.Reflects upTwice lines ∧
      (WaitFor.logMessage "up").MetBy lines ∧
      ¬ (WaitFor.logMessageSequence ["db", "up"]).MetBy lines := by
  intro g
  obtain ⟨o, g', scene', hstart⟩ : ∃ o g' scene', g.start? oneLine = some (o, g', scene') :=
    ⟨_, _, _, start?_of_le (by decide) oneLine⟩
  have ho : o = .failed (.timeout "box" "log message sequence ['db', 'up'] (1 of 2 seen)"
      (.ofMillis 10000)) := by
    have hsplit : g.waitFor = [.logMessage "up"] ++ .logMessageSequence ["db", "up"] :: [] := rfl
    have hh : oneLine.host = .replay [⟨.stdout, Utf8.encode "db up\n"⟩] := rfl
    obtain ⟨condition, ⟨k, hk, hc⟩, hf⟩ := start_of_not_holds rfl hh (by decide) (by decide) hsplit
      (by decide) (by decide)
    have ho : o = (g.start oneLine).1 := congrArg Prod.fst (eq_start_of_start? hstart)
    rw [ho, hf, hc, hk.unique (LogSequence.isGreatest_seen _ _)]
    decide
  subst ho
  refine ⟨⟨g', scene', hstart⟩, ?_⟩
  obtain ⟨hclock, -, hreflects, -, htimeout⟩ := start_reflects .clock g oneLine _ rfl rfl
  rw [hclock] at htimeout
  obtain ⟨before, w, behind, lines, v, r, hsplit, hv, -, hr, hc, hnot, hmet, -⟩ :=
    htimeout _ _ _ _ _ hstart
  have hre := hreflects lines v hv
  refine ⟨_, lines, v, hv, hre, ?_⟩
  have hsplit' : upTwice = before ++ w :: behind := hsplit
  cases before with
  | nil =>
    -- It is not the message that is named.
    obtain ⟨found, hr', -⟩ := hre.message 0 "up" rfl
    cases hr'.symm.trans hr
    cases found <;> exact absurd hc (by decide)
  | cons b before =>
    obtain ⟨rfl, htail⟩ := List.cons.inj hsplit'
    cases before with
    | nil =>
      obtain ⟨rfl, -⟩ := List.cons.inj htail
      exact ⟨hmet _ List.mem_cons_self rfl, hnot rfl⟩
    | cons => simp at htail

/-! ## Lines that only closing ends -/

/-- A live log that stands in the middle of a line. -/
def midLine : Host := .liveWith [⟨.stdout, Utf8.encode "up"⟩]

/-- A session that follows it for a message, as it begins. -/
def midLineSession : GateSession :=
  (Session.prepare "box" [.message { text := "up" }] (some .capture) none Splitter.defaultCapacity
    Session.defaultGrace).start

/-- The host and the tasks when what there is of the line has been read. -/
def midLineRead : Host × Pipeline LogWatch Empty :=
  Pipeline.moved 12 (midLine, midLineSession.pipeline)

/-- The host and the tasks when the session has been closed. -/
def midLineClosed : Host × Pipeline LogWatch Empty :=
  Pipeline.moved 12 (midLineRead.1, midLineRead.2.close)

theorem settle_midLine : midLineSession.pipeline.settle midLine = midLineRead := by
  have h : (midLineRead.2.move? midLineRead.1).isNone = true := by decide +kernel
  exact Pipeline.settle_eq_moved (x := (_, _)) (Option.isNone_iff_eq_none.1 h)

theorem settle_midLineRead : midLineRead.2.close.settle midLineRead.1 = midLineClosed := by
  have h : (midLineClosed.2.move? midLineClosed.1).isNone = true := by decide +kernel
  exact Pipeline.settle_eq_moved (x := (_, _)) (Option.isNone_iff_eq_none.1 h)

/-- A wait for the message when its first pause is over. -/
def midLinePaused (d : Nat) : Vigil where
  scene := { host := midLineRead.1, now := d }
  requirements := [.heard (.message { text := "up" })]
  session := some { midLineSession with pipeline := midLineRead.2 }

theorem pass_midLine {d : Nat} (hd : 0 < d) :
    Vigil.pass d
      { scene := { host := midLine }, requirements := [.heard (.message { text := "up" })]
        session := some midLineSession } = midLinePaused d := by
  simp [Vigil.pass, Nat.ne_of_gt hd, Vigil.settle, Session.settle, settle_midLine,
    Timetable.advance, midLinePaused]

/-- No line has been delivered then. -/
theorem requirement?_midLinePaused (d : Nat) :
    (midLinePaused d).requirement? 0 = some (.heard (.message { text := "up" })) := by
  have hl : ({ midLineSession with pipeline := midLineRead.2 } : GateSession).listeners =
      [.message { text := "up" }] := by decide +kernel
  simp [Vigil.requirement?, Vigil.watchAt, midLinePaused, hl]

/-- The session when it has been closed. -/
def midLineOver : GateSession :=
  { midLineSession with closed := true, pipeline := midLineClosed.2 }

theorem close_midLine :
    ({ midLineSession with pipeline := midLineRead.2 } : GateSession).close midLineRead.1 =
      (midLineClosed.1, midLineOver, 0) := by
  have ho : midLineClosed.2.isOver = true := by decide +kernel
  rw [Session.close_of_isOver_settle rfl rfl (by decide) (by rw [settle_midLineRead]; exact ho),
    settle_midLineRead]
  rfl

/-- Closing has ended the line, and delivered it. -/
theorem listeners_midLineOver :
    midLineOver.listeners = [.message { text := "up", found := true }] := by
  decide +kernel

/-- A gate gives up on a message before the line that mentions it has ended. Closing the session ends
    the line. So when the start is over the message has been delivered, whichever lines are taken to
    have led to the session as it is left. -/
theorem timeout_before_line_ends :
    let g : Gate := { container := "box", config := { waitTimeout := 1 }, console := false
                      added := [.logMessage "up"], stdoutSink := some .capture }
    ∃ rs s scene', g.requirements = .ok rs ∧
      g.start? { host := midLine } =
        some (.failed (.timeout "box" "log message 'up'" (.ofMillis 1)), g.handOver.retire s,
          scene') ∧
      (∃ lines v, Reaches "box" (g.vigil { host := midLine } rs) lines v ∧ v.session = some s) ∧
      ∀ lines v, Reaches "box" (g.vigil { host := midLine } rs) lines v → v.session = some s →
        (WaitFor.logMessage "up").MetBy lines := by
  intro g
  let r : Requirement := .heard (.message { text := "up" })
  let v := g.vigil { host := midLine } [r]
  have hheard := hears_vigil g { host := midLine } [r]
  have hpass : v.pass 50 = midLinePaused 50 := pass_midLine (by decide)
  -- Neither the check before the pause nor the one behind it finds the message.
  have hw : g.waitUnder .clock [r] v =
      (.failed (.timeout "box" "log message 'up'" (.ofMillis 1)), midLinePaused 50) := by
    have hc : v.check "box" 0 = (.ok false, v) :=
      hheard.check_eq (i := 0) "box" (w := .message { text := "up" }) rfl
    have hround : g.config.engine.round (Vigil.condition "box" 0) v 1 = midLinePaused 50 := by
      rw [Engine.round, Engine.round]
      change Vigil.pass 50 (v.check "box" 0).2 = _
      rw [hc, hpass]
    have hk : g.config.engine.lastRound 1 = 1 := by decide
    have hlast : (midLinePaused 50).check "box" 0 = (.ok false, midLinePaused 50) := by
      rw [Vigil.check, requirement?_midLinePaused]
      rfl
    have hwait := waitUnder_of_silent (g := g) (v := midLinePaused 50) (r := r) (k := 1) hk
      (fun j hj => by
        obtain rfl : j = 0 := Nat.lt_one_iff.1 hj
        exact congrArg Prod.fst hc) (by rw [hround]; exact hlast)
    have hd : (Vigil.condition "box" 0).describe (midLinePaused 50) = "log message 'up'" := by
      simp only [Vigil.condition, requirement?_midLinePaused]
      rfl
    rw [hd, show g.describe = "box" by decide] at hwait
    exact hwait
  obtain ⟨ms, hlead⟩ := Vigil.pass_leads 50 v
  rw [hpass] at hlead
  obtain ⟨s, hs, -, more, v', hreach, hv'⟩ :=
    ((stage_vigil g { host := midLine } [r]).moves hlead).closeUnder .clock
  have hclose : s.closeUnder Scheduler.clock.drain (midLinePaused 50).scene.host =
      (midLineClosed.1, midLineOver, 0) := by
    obtain rfl := Option.some.inj hs
    exact close_midLine
  have hstart := startUnder_of_failed (π := .clock) rfl rfl hw hs
  rw [hclose] at hstart hv'
  have hgiven : g.start? { host := midLine } = some _ :=
    (start?_of_le (by decide) { host := midLine }).trans (congrArg some hstart)
  refine ⟨[r], midLineOver, _, rfl, hgiven, ⟨_, v', hreach, hv'⟩, fun lines v hv hvs => ?_⟩
  -- What the session has heard shows in its watch, and that has found the message.
  obtain ⟨s', hs', hl⟩ := (hv.hears hheard).heard
  obtain rfl := Option.some.inj (hvs.symm.trans hs')
  rw [listeners_midLineOver] at hl
  refine (WaitFor.ready_iff_metBy rfl rfl lines).1 ?_
  exact (congrArg LogWatch.ready (List.cons.inj hl).1).symm

end Gate

end Readiness
