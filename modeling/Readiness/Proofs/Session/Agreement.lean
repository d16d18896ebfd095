import Readiness.Proofs.Log.Mentions
import Readiness.Proofs.Wait.Vigil

/-!
# A log that is followed and the same log fetched

A daemon that serves a log in frames can be asked for it in two ways. A session follows it: what was
typed is left out, the rest goes through the splitter in chunks, is cut into lines as bytes, and
each line is read as text on its own. A fetch gathers what is not typed and reads it as one text.

Both find the same messages (`Session.message_agrees`): a message that some line mentions is in the
whole log; one that is in the whole log is mentioned by a line, unless it is empty or has an LF or
CR. Neither depends on how the log is cut into frames, nor on how the tasks are scheduled.
-/

namespace Readiness

open Lines

/-- What a daemon serves of a log, typed input left out. -/
def Frame.output (frames : List Frame) : Bytes := Chunk.join (frames.filterMap Frame.chunk?)

namespace Vigil

variable {v : Vigil} {container message : String} {frames : List Frame} {j : Nat}

/-- A check of the whole log of a daemon reads all its output as one text. -/
theorem check_fullLog_of_daemon (hr : v.requirements[j]? = some (.fullLog message))
    (hh : v.scene.host = .daemon frames none) :
    (check container j v).1 = .ok (mentions (Utf8.decode (Frame.output frames)) message) := by
  have hsame : (v.scene.host.currentLog container {}).2 = v.scene.host := by rw [hh]; rfl
  rw [check_eq (requirement?_of_fullLog hr) nofun hsame, hh]
  rfl

end Vigil

namespace Session

variable {frames : List Frame} {container message : String} {watches : List LogWatch}
  {stdoutSink stderrSink : Option Sink} {capacity grace : Nat} {ms : List Move} {h' : Host}
  {s : Session LogWatch Empty} {v : Vigil} {i j : Nat}

/-- Where no task of a session can move that follows a daemon's log, all are over and every listener
    has heard the lines of all output. -/
theorem heard_of_daemon
    (hs : Leads (.daemon frames none)
      (prepare container watches stdoutSink stderrSink capacity grace).start ms h' s)
    (hstuck : Pipeline.IsStuck (h', s.pipeline)) :
    s.pipeline.isOver = true ∧
      s.listeners = watches.map (·.hearAll (ofBytes (Frame.output frames))) := by
  obtain ⟨hd, hover⟩ := delivered_of_isStuck hs hstuck
  have hscript : (Pipeline.originAfter (.daemon frames none) ms).script container =
      ⟨frames.filterMap Frame.chunk?, true⟩ := by
    rw [Pipeline.originAfter_of_not_live (by simp), Host.script_daemon]
  rw [hscript] at hd hover
  refine ⟨hover rfl, ?_⟩
  rw [hd.heard, LogWatch.notifyAll_eq, Outlet.share_combined]
  rfl

/-- A session that is started to follow a daemon's log, with a watch for a message among its
    listeners, beside a check of the same log fetched as a whole. To start it is fatal if its queues
    would be too great, and only then. Else, wherever its tasks are, they come to a stop; and where
    none can move, they have ended and the watch has heard all lines. If it has found the message
    then so does the check; and if the message is not empty and has neither LF nor CR, the watch has
    found it wherever the check does. -/
theorem message_agrees (hw : watches[i]? = some (.message { text := message }))
    (hr : v.requirements[j]? = some (.fullLog message))
    (hh : v.scene.host = .daemon frames none) :
    let s₀ : Session LogWatch Empty :=
      prepare container watches stdoutSink stderrSink capacity grace
    (s₀.start? = none ↔ Splitter.maxCapacity < capacity) ∧
    ∀ s₁, s₀.start? = some s₁ → ∀ ms h' s, Leads (.daemon frames none) s₁ ms h' s →
      (∃ (ts : List TaskId) (y : _), Pipeline.Run (h', s.pipeline) (ts.map .task) y ∧
        Pipeline.IsStuck y) ∧
      (Pipeline.IsStuck (h', s.pipeline) → s.pipeline.isOver = true ∧
        ∃ found, s.listeners[i]? = some (.message { text := message, found }) ∧
          (found = true → (Vigil.check container j v).1 = .ok true) ∧
          (message ≠ "" → '\n' ∉ message.toList → '\r' ∉ message.toList →
            (Vigil.check container j v).1 = .ok true → found = true)) := by
  intro s₀
  refine ⟨start?_prepare_eq_none_iff, fun s₁ hs₁ ms h' s hs => ?_⟩
  obtain rfl := eq_start_of_start? hs₁
  constructor
  · obtain ⟨ts, hr⟩ := Pipeline.run_settle h' s.pipeline
    exact ⟨ts, _, hr, Pipeline.isStuck_settle _ _⟩
  intro hstuck
  obtain ⟨hover, hheard⟩ := heard_of_daemon hs hstuck
  let lines := ofBytes (Frame.output frames)
  let m : LogMessage := LogMessage.hearAll { text := message } lines
  -- What the watch has found is what some line mentions.
  have hfound : m.found = true ↔ ∃ line ∈ lines, mentions line message = true := by
    simpa using LogMessage.found_hearAll { text := message } lines
  have hcheck : (Vigil.check container j v).1 = .ok true ↔
      mentions (Utf8.decode (Frame.output frames)) message = true := by
    rw [Vigil.check_fullLog_of_daemon hr hh, Except.ok.injEq]
  refine ⟨hover, m.found, ?_, ?_, ?_⟩
  · rw [hheard, List.getElem?_map, hw, Option.map_some, LogWatch.hearAll_message]
    exact congrArg (some ∘ LogWatch.message) (LogMessage.hearAll_fresh message lines)
  · rw [hfound, hcheck]
    rintro ⟨line, hl, hline⟩
    exact mentions_decode_of_mem hl hline
  · rw [hfound, hcheck]
    exact exists_mem_of_mentions_decode

/-- A line whose second character is cut by a frame of typed input and whose end is CR LF. -/
def typedAcross : List Frame :=
  [⟨.stdout, [0x64, 0xC3]⟩, ⟨.stdin, Utf8.encode "q\n"⟩, ⟨.console, [0xA9, 0x6A, 0x0D, 0x0A, 0xFF]⟩]

/-- A wait for a message in the whole of that log. -/
def typedAcrossWait : Vigil where
  scene := { host := .daemon typedAcross none }
  requirements := [.fullLog "éj"]

/-- The character is whole again for both, and so the message is found by both. -/
theorem message_agrees_typedAcross :
    ∃ (s₁ : Session LogWatch Empty) (ms : List Move) (h' : Host) (s : Session LogWatch Empty),
      (prepare "box" [.sequence { texts := ["d", "j"] }, .message { text := "éj" }] none
        (some .capture) 1 0).start? = some s₁ ∧
      Leads (.daemon typedAcross none) s₁ ms h' s ∧
      Pipeline.IsStuck (h', s.pipeline) ∧ "éj" ≠ "" ∧ '\n' ∉ "éj".toList ∧ '\r' ∉ "éj".toList ∧
      s.listeners[1]? = some (.message { text := "éj", found := true }) ∧
      (Vigil.check "box" 0 typedAcrossWait).1 = .ok true := by
  let s₁ : Session LogWatch Empty := (prepare "box" [.sequence { texts := ["d", "j"] },
    .message { text := "éj" }] none (some .capture) 1 0).start
  have hstart : (prepare "box" [.sequence { texts := ["d", "j"] }, .message { text := "éj" }] none
      (some .capture) 1 0).start? = some s₁ := start?_prepare_of_le (by decide)
  obtain ⟨ts, hrun⟩ := Pipeline.run_settle (.daemon typedAcross none) s₁.pipeline
  have hs : Leads (.daemon typedAcross none) s₁ (ts.map .task)
      (s₁.pipeline.settle (.daemon typedAcross none)).1
      { s₁ with pipeline := (s₁.pipeline.settle (.daemon typedAcross none)).2 } := ⟨hrun, rfl⟩
  have hstuck := Pipeline.isStuck_settle (.daemon typedAcross none) s₁.pipeline
  have hw : [LogWatch.sequence { texts := ["d", "j"] }, .message { text := "éj" }][1]? =
      some (.message { text := "éj" }) := rfl
  have hr : typedAcrossWait.requirements[0]? = some (.fullLog "éj") := rfl
  obtain ⟨-, found, hl, -, hconv⟩ :=
    ((message_agrees hw hr rfl).2 s₁ hstart _ _ _ hs).2 hstuck
  have hcheck : (Vigil.check "box" 0 typedAcrossWait).1 = .ok true := by decide
  obtain rfl : found = true := hconv (by decide) (by decide) (by decide) hcheck
  exact ⟨s₁, _, _, _, hstart, hs, hstuck, by decide, by decide, by decide, hl, hcheck⟩

end Session

end Readiness
