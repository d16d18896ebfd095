import Readiness.Proofs.Container.Script
import Readiness.Proofs.Text.Pieces

/-!
# The log of a scripted host

A replayed or a live host keeps all chunks it was given (`Host.Scripted`). Its log is fetched chunk by
chunk, each read as text on its own, while a daemon that serves the same chunks in frames gathers
their bytes and reads them as one text. The two agree just if no chunk of the selection ends inside a
character that goes on in those behind it; and then any other scripted host whose chunks are cut from
the same bytes has the same log just if its cuts are so too (`Host.currentLog_eq_daemon_iff`).

A character cut between two chunks is shown as two replacements or more, and a message with that
character is not found (`Host.currentLog_of_cut_character`).
-/

namespace Readiness

namespace Host

/-- Following a live log leaves its record alone. -/
theorem recorded_of_attach {log : LiveLog} {h' : Host} {container : String} {sel : Selection}
    {t : Tail} (ha : (live log).attach container sel = .stream t h') :
    ∃ log', h' = .live log' ∧ log'.recorded = log.recorded := by
  unfold attach at ha
  dsimp only at ha
  split at ha
  · cases ha
  · cases ha
    exact ⟨_, rfl, rfl⟩

/-- Taking chunks from its stream leaves the record of a live log alone. -/
theorem recorded_of_next {log : LiveLog} {h' : Host} {t t' : Tail} {n : Next}
    (hn : (live log).next t = (n, t', h')) :
    ∃ log', h' = .live log' ∧ log'.recorded = log.recorded := by
  unfold next at hn
  split at hn
  · cases hn; exact ⟨_, rfl, rfl⟩
  · cases hn; exact ⟨_, rfl, rfl⟩
  · dsimp only at hn
    split at hn <;> cases hn <;> exact ⟨_, rfl, rfl⟩

/-- A host that follows a script, at any moment, with all the chunks it was given so far. -/
inductive Scripted : Host → List Chunk → Prop
  | replay {cs : List Chunk} : Scripted (.replay cs) cs
  | live : Scripted (.live {}) []
  | pushed {h h' : Host} {cs : List Chunk} {c : Chunk} :
      Scripted h cs → h.push? c = some h' → Scripted h' (cs ++ [c])
  | finished {h h' : Host} {cs : List Chunk} :
      Scripted h cs → h.finish? = some h' → Scripted h' cs
  | attached {h h' : Host} {cs : List Chunk} {container : String} {sel : Selection} {t : Tail} :
      Scripted h cs → h.attach container sel = .stream t h' → Scripted h' cs
  | read {h h' : Host} {cs : List Chunk} {t t' : Tail} {n : Next} :
      Scripted h cs → h.next t = (n, t', h') → Scripted h' cs

/-- The chunks are what is replayed, or what is recorded. -/
theorem Scripted.eq_or_exists {h : Host} {cs : List Chunk} (hs : Scripted h cs) :
    h = .replay cs ∨ ∃ log, h = .live log ∧ log.recorded = cs := by
  induction hs with
  | replay => exact .inl rfl
  | live => exact .inr ⟨_, rfl, rfl⟩
  | pushed _ hp ih =>
    rcases ih with rfl | ⟨log, rfl, rfl⟩
    · cases hp
    · obtain ⟨-, rfl⟩ : log.finished = false ∧ _ := by simpa [push?] using hp
      exact .inr ⟨_, rfl, rfl⟩
  | finished _ hf ih =>
    rcases ih with rfl | ⟨log, rfl, rfl⟩
    · cases hf
    · obtain ⟨-, rfl⟩ : log.finished = false ∧ _ := by simpa [finish?] using hf
      exact .inr ⟨_, rfl, rfl⟩
  | attached _ ha ih =>
    rcases ih with rfl | ⟨log, rfl, rfl⟩
    · exact .inl (attach_of_not_live (by simp) ha)
    · exact .inr (recorded_of_attach ha)
  | read _ hn ih =>
    rcases ih with rfl | ⟨log, rfl, rfl⟩
    · exact .inl (next_of_not_live (by simp) hn)
    · exact .inr (recorded_of_next hn)

/-- A scripted host reads its log chunk by chunk. -/
theorem Scripted.currentLog_eq {h : Host} {cs : List Chunk} (hs : Scripted h cs)
    (container : String) (sel : Selection) :
    h.currentLog container sel = (.ok (textByChunk (selected sel cs)), h) := by
  rcases hs.eq_or_exists with rfl | ⟨log, rfl, rfl⟩ <;> rfl

/-- The bytes of the chunks of a selection, chunk by chunk. -/
def pieces (sel : Selection) (cs : List Chunk) : List Bytes := (selected sel cs).map Chunk.bytes

/-- A selection that is joined is read as one text. -/
theorem textOfAll_selected (sel : Selection) (cs : List Chunk) :
    textOfAll (selected sel cs) = Utf8.decode (pieces sel cs).flatten := by
  rw [textOfAll, Chunk.join, List.flatMap_def, pieces]

/-- Read chunk by chunk, chunks give the text of all their bytes just if no cut between them lies
    within a character. -/
theorem textByChunk_eq_textOfAll_iff (sel : Selection) (cs : List Chunk) :
    textByChunk (selected sel cs) = textOfAll (selected sel cs) ↔
      Utf8.areWhole (pieces sel cs) = true := by
  have hchunks : (textByChunk (selected sel cs)).toList =
      (pieces sel cs).flatMap (Utf8.decodeFrom none) := by
    simp only [textByChunk, pieces, String.toList_join, List.flatMap_map, Utf8.toList_decode]
  rw [← Utf8.flatMap_decodeFrom_eq_iff, ← String.toList_inj, hchunks, textOfAll_selected,
    Utf8.toList_decode]

/-- A log is found to mention a message by what is fetched of it. -/
theorem findInLog_eq (v : Vigil) (container message : String) :
    (v.findInLog container message).1 = match (v.scene.host.currentLog container {}).1 with
      | .ok text => mentions text message
      | .error _ => false := rfl

/-- The log of a host that follows a script, at any moment, and that of a daemon that serves the
    chunks of the selection in frames. The daemon's is the text of all bytes. The other is the same
    just if no chunk ends inside a character that goes on in those behind it. Of such a cut of the
    bytes another one can be told apart only if it is none: else the log is the same, and so is what
    messages it is found to mention. -/
theorem currentLog_eq_daemon_iff {h : Host} {chunks : List Chunk} {frames : List Frame}
    (container : String) (sel : Selection) (hs : Scripted h chunks)
    (hf : frames.filterMap Frame.chunk? = selected sel chunks) :
    ((daemon frames none).currentLog container sel).1 =
        .ok (Utf8.decode (pieces sel chunks).flatten) ∧
    ((h.currentLog container sel).1 = ((daemon frames none).currentLog container sel).1 ↔
      Utf8.areWhole (pieces sel chunks) = true) ∧
    ∀ h' chunks', Scripted h' chunks' →
      (pieces sel chunks').flatten = (pieces sel chunks).flatten →
      Utf8.areWhole (pieces sel chunks) = true →
      ((h'.currentLog container sel).1 = (h.currentLog container sel).1 ↔
        Utf8.areWhole (pieces sel chunks') = true) ∧
      (Utf8.areWhole (pieces sel chunks') = true → sel = {} → ∀ (v v' : Vigil) message,
        v.scene.host = h → v'.scene.host = h' →
          (v'.findInLog container message).1 = (v.findInLog container message).1) := by
  have hd : ((daemon frames none).currentLog container sel).1 =
      .ok (Utf8.decode (pieces sel chunks).flatten) := by
    rw [← textOfAll_selected, ← hf]
    rfl
  refine ⟨hd, ?_, fun h' chunks' hs' hbytes hw => ?_⟩
  · rw [hs.currentLog_eq, hd, Except.ok.injEq, ← textOfAll_selected, textByChunk_eq_textOfAll_iff]
  · have hlog : (h'.currentLog container sel).1 = (h.currentLog container sel).1 ↔
        Utf8.areWhole (pieces sel chunks') = true := by
      rw [hs.currentLog_eq, hs'.currentLog_eq, Except.ok.injEq,
        (textByChunk_eq_textOfAll_iff _ _).2 hw, textOfAll_selected, ← hbytes, ← textOfAll_selected,
        textByChunk_eq_textOfAll_iff]
    refine ⟨hlog, fun hw' hsel v v' message hv hv' => ?_⟩
    subst hsel hv hv'
    rw [findInLog_eq, findInLog_eq, hlog.2 hw']

/-- A character that is given up at the end of a chunk, as the daemon gives it up, and one that lies
    in a chunk. -/
theorem currentLog_eq_daemon_iff_givenUp :
    ∃ h, Scripted h [⟨.stdout, [0xE2, 0x82]⟩, ⟨.stderr, [0xC3, 0xA9]⟩] ∧
      [⟨.console, [0xE2, 0x82]⟩, ⟨.stdin, [0x71]⟩, ⟨.stderr, [0xC3, 0xA9]⟩].filterMap Frame.chunk? =
        selected {} [⟨.stdout, [0xE2, 0x82]⟩, ⟨.stderr, [0xC3, 0xA9]⟩] ∧
      (h.currentLog "box" {}).1 = .ok (Utf8.decode [0xE2, 0x82, 0xC3, 0xA9]) := by
  have hs : Scripted _ ([] ++ [⟨.stdout, [0xE2, 0x82]⟩] ++ [⟨.stderr, [0xC3, 0xA9]⟩]) :=
    .pushed (.pushed .live rfl) rfl
  have hf : [⟨.console, [0xE2, 0x82]⟩, ⟨.stdin, [0x71]⟩, ⟨.stderr, [0xC3, 0xA9]⟩].filterMap
      Frame.chunk? = selected {} [⟨.stdout, [0xE2, 0x82]⟩, ⟨.stderr, [0xC3, 0xA9]⟩] := by decide
  obtain ⟨hd, hiff, -⟩ := currentLog_eq_daemon_iff "box" {} hs hf
  exact ⟨_, hs, hf, (hiff.2 (by decide)).trans hd⟩

/-- A character cut between two chunks: a daemon shows it, and so does a script with the same bytes in
    one chunk; the script that is cut shows two replacements, and the character is not found. -/
theorem currentLog_of_cut_character :
    let cut : Host := .replay [⟨.stdout, [0xC3]⟩, ⟨.stdout, [0xA9]⟩]
    let uncut : Host := .replay [⟨.stdout, [0xC3, 0xA9]⟩]
    (cut.currentLog "box" {}).1 = .ok "\uFFFD\uFFFD" ∧
    ((daemon [⟨.stdout, [0xC3]⟩, ⟨.stdout, [0xA9]⟩] none).currentLog "box" {}).1 = .ok "é" ∧
    (uncut.currentLog "box" {}).1 = .ok "é" ∧
    (Vigil.findInLog "box" "é" { scene := { host := cut } }).1 = false ∧
    (Vigil.findInLog "box" "é" { scene := { host := uncut } }).1 = true := by
  decide

end Host

end Readiness
