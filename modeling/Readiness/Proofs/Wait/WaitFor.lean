import Readiness.Proofs.Data.Reading
import Readiness.Proofs.Wait.Vigil

/-!
# What a log says of conditions

A condition on a log holds or does not hold of the lines that were delivered and of the log as it is
fetched (`WaitFor.Holds`). The requirement built from it says the same when it has heard the lines
(`WaitFor.holdsNow_iff`), and describes itself by how much of it was found (`WaitFor.Reports`).
-/

namespace Readiness

namespace WaitFor

/-- Whether it is a log that is waited for. -/
def isLog : WaitFor → Bool
  | httpPing .. => false
  | _ => true

/-- A condition on a log holds of the lines that were delivered and the log as it is fetched. -/
def Holds (lines : List String) (log : Except LogError String) : WaitFor → Prop
  | logMessage message => ∃ line ∈ lines, mentions line message = true
  | logMessageSequence messages => LogSequence.Embeds messages lines
  | fullLogMessage message => ∃ text, log = .ok text ∧ mentions text message = true
  | httpPing .. => False

instance (lines : List String) (log : Except LogError String) :
    (w : WaitFor) → Decidable (w.Holds lines log)
  | logMessage message => inferInstanceAs (Decidable (∃ line ∈ lines, mentions line message = true))
  | logMessageSequence messages => inferInstanceAs (Decidable (LogSequence.Embeds messages lines))
  | fullLogMessage message => match log with
    | .ok text => decidable_of_iff (mentions text message = true) (by simp [Holds])
    | .error _ => isFalse (by simp [Holds])
  | httpPing .. => isFalse id

/-- How a condition on a log is described behind lines; for a sequence, with the greatest number of
    its messages that can be found in them. -/
def Reports (lines : List String) : WaitFor → String → Prop
  | logMessage message, text => text = LogMessage.describe { text := message }
  | logMessageSequence messages, text =>
    ∃ k, IsGreatest { k | k ≤ messages.length ∧ LogSequence.Embeds (messages.take k) lines } k ∧
      text = LogSequence.describe { texts := messages, seen := k }
  | fullLogMessage message, text => text = Requirement.describe (.fullLog message)
  | httpPing .., _ => False

variable {w : WaitFor} {r : Requirement} {lines : List String} {log : Except LogError String}

/-- What holds without any lines holds with them. -/
theorem Holds.of_nil (h : w.Holds [] log) : w.Holds lines log := by
  cases w with
  | logMessage => obtain ⟨_, hm, _⟩ := h; cases hm
  | logMessageSequence => cases h; exact .nil
  | fullLogMessage => exact h
  | httpPing => exact h

/-- A condition on a log can be built. -/
theorem build_of_isLog (hl : w.isLog = true) : ∃ r, w.build = .ok r := by
  cases w with
  | httpPing => cases hl
  | _ => exact ⟨_, rfl⟩

/-- A condition on a log does not become a ping. -/
theorem ne_ping_of_build (hl : w.isLog = true) (hb : w.build = .ok r) (p : HttpPing) :
    r ≠ .ping p := by
  cases w with
  | httpPing => cases hl
  | _ => cases hb; nofun

/-- A condition on a log holds now just if it holds of the lines and the log. -/
theorem holdsNow_iff (hl : w.isLog = true) (hb : w.build = .ok r) :
    (r.hearAll lines).holdsNow log = true ↔ w.Holds lines log := by
  cases w with
  | logMessage message =>
    cases hb
    rw [Requirement.hearAll_message]
    refine (LogMessage.found_hearAll _ lines).trans ?_
    simp [Holds]
  | logMessageSequence messages =>
    cases hb
    rw [Requirement.hearAll_sequence]
    exact LogSequence.ready_hearAll_iff messages lines
  | fullLogMessage message =>
    cases hb
    cases log <;> simp [Requirement.hearAll, Requirement.holdsNow, Holds]
  | httpPing => cases hl

/-- A condition on a log reports how far it has got. -/
theorem reports (hl : w.isLog = true) (hb : w.build = .ok r) :
    w.Reports lines (r.hearAll lines).describe := by
  cases w with
  | logMessage message =>
    cases hb
    rw [Requirement.hearAll_message]
    exact LogMessage.describe_hearAll _ lines
  | logMessageSequence messages =>
    cases hb
    rw [Requirement.hearAll_sequence]
    refine ⟨_, LogSequence.isGreatest_seen messages lines, ?_⟩
    exact congrArg LogSequence.describe (LogSequence.hearAll_fresh messages lines)
  | fullLogMessage => cases hb; rfl
  | httpPing => cases hl

/-- Conditions on a log can all be built. -/
theorem mapM_build_of_isLog {ws : List WaitFor} (hl : ∀ w ∈ ws, w.isLog = true) :
    ∃ rs, ws.mapM build = .ok rs := by
  induction ws with
  | nil => exact ⟨[], rfl⟩
  | cons w ws ih =>
    obtain ⟨r, hr⟩ := build_of_isLog (hl w List.mem_cons_self)
    obtain ⟨rs, hrs⟩ := ih fun w' hw' => hl w' (List.mem_cons_of_mem w hw')
    exact ⟨r :: rs, mapM_eq_ok_iff.2 (.cons hr (mapM_eq_ok_iff.1 hrs))⟩

/-- The requirement at an index is built from the condition there. -/
theorem getElem?_of_mapM_build {ws : List WaitFor} {rs : List Requirement}
    (hb : ws.mapM build = .ok rs) {i : Nat} {w : WaitFor} (hw : ws[i]? = some w) :
    ∃ r, rs[i]? = some r ∧ w.build = .ok r := by
  have hf := mapM_eq_ok_iff.1 hb
  clear hb
  induction hf generalizing i with
  | nil => cases hw
  | cons h _ ih =>
    cases i with
    | zero => cases hw; exact ⟨_, rfl, h⟩
    | succ i => exact ih hw

end WaitFor

end Readiness
