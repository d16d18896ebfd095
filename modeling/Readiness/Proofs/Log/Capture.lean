import Readiness.Proofs.Log.Mentions
import Readiness.Proofs.Pipeline.Beside
import Readiness.Proofs.Text.Encoding

/-!
# What a captured log shows

A sink that captures keeps the bytes of all lines in memory. They are read back as one text
(`Sink.contents`) and as the lines of that text (`Sink.lines`).

* Nothing can fail at such a sink, and the text is exactly what was written, as decoding undoes
  encoding (`Sink.contents_writeLines_capture`).
* A text that was laid out with an LF behind each line falls into these lines again if and only if
  none of them has an LF itself or ends in a CR (`Lines.ofText_join_eq_iff`); empty lines come back
  as well, the first and the last too.
* The lines of bytes without CR are such lines, even where the bytes are ill-formed, since no other
  bytes are shown as line breaks (`Lines.not_mem_of_mem_ofBytes`). A printer writes them one after
  the other (`Printer.sink_deliverAll_eq_writeLines`), so what it captures are its lines behind
  their label.

`Printing.capture_reads_back` puts this together.
-/

namespace Readiness

namespace Lines

/-! ### Lines of a text -/

/-- Whether a text that is written as a line is read as that line: an LF would end it earlier, and a
    CR at its end would go with the end of the line. -/
def IsLine (text : String) : Prop := '\n' ∉ text.toList ∧ text.toList.getLast? ≠ some '\r'

instance (text : String) : Decidable (IsLine text) := inferInstanceAs (Decidable (_ ∧ _))

/-- A terminated line of a text less the CR it may end in. -/
def chompChars (line : List Char) : List Char :=
  if line.getLast? = some '\r' then line.dropLast else line

/-- Chomping leaves a line alone unless a CR ends it. -/
theorem chompChars_eq_self_iff {line : List Char} :
    chompChars line = line ↔ line.getLast? ≠ some '\r' := by
  unfold chompChars
  split
  · next h =>
    refine iff_of_false (fun he => ?_) (not_not_intro h)
    have hne : line ≠ [] := by
      rintro rfl
      nomatch h
    have hlen := congrArg List.length he
    rw [List.length_dropLast] at hlen
    have := List.length_pos_iff.2 hne
    omega
  · next h => exact iff_of_true rfl h

theorem chompChars_subset (line : List Char) : chompChars line ⊆ line := by
  unfold chompChars
  split
  · exact List.dropLast_subset _
  · exact List.Subset.refl _

theorem ofChars_newline (line cs : List Char) :
    ofChars line ('\n' :: cs) = chompChars line.reverse :: ofChars [] cs := by
  rcases line with _ | ⟨c, line⟩
  · rfl
  · by_cases hc : c = '\r'
    · subst hc
      simp [ofChars, chompChars]
    · simp [ofChars, chompChars, hc]

theorem ofChars_cons {c : Char} (hc : c ≠ '\n') (line cs : List Char) :
    ofChars line (c :: cs) = ofChars (c :: line) cs := by
  rw [ofChars]
  exact hc

/-- A text without LF is gathered up to the LF behind it. -/
theorem ofChars_append {text : List Char} (h : '\n' ∉ text) (line cs : List Char) :
    ofChars line (text ++ '\n' :: cs) = chompChars (line.reverse ++ text) :: ofChars [] cs := by
  induction text generalizing line with
  | nil => rw [List.nil_append, ofChars_newline, List.append_nil]
  | cons c text ih =>
    rw [List.mem_cons, not_or] at h
    rw [List.cons_append, ofChars_cons (Ne.symm h.1), ih h.2]
    simp

/-- No line has an LF. -/
theorem newline_not_mem_ofChars {line cs : List Char} (hl : '\n' ∉ line) :
    ∀ text ∈ ofChars line cs, '\n' ∉ text := by
  induction cs generalizing line with
  | nil =>
    intro text ht
    rw [ofChars] at ht
    split at ht
    · nomatch ht
    · rw [List.mem_singleton.1 ht, List.mem_reverse]
      exact hl
  | cons c cs ih =>
    by_cases hc : c = '\n'
    · subst hc
      intro text ht
      rw [ofChars_newline] at ht
      rcases List.mem_cons.1 ht with rfl | ht
      · intro hm
        exact hl (List.mem_reverse.1 (chompChars_subset _ hm))
      · exact ih List.not_mem_nil text ht
    · rw [ofChars_cons hc]
      exact ih fun hm => (List.mem_cons.1 hm).elim (fun he => hc he.symm) hl

/-- Texts without LF, each with an LF behind it, are the lines, less a CR that they end in. -/
theorem ofChars_flatMap {texts : List (List Char)} (h : ∀ text ∈ texts, '\n' ∉ text) :
    ofChars [] (texts.flatMap (· ++ ['\n'])) = texts.map chompChars := by
  induction texts with
  | nil => rfl
  | cons text texts ih =>
    rw [List.flatMap_cons, List.append_assoc, List.singleton_append,
      ofChars_append (h text List.mem_cons_self), ih fun t ht => h t (List.mem_cons_of_mem _ ht)]
    rfl

theorem map_chompChars_eq_self_iff {texts : List (List Char)} :
    texts.map chompChars = texts ↔ ∀ text ∈ texts, text.getLast? ≠ some '\r' := by
  have h := List.map_inj_left (l := texts) (f := chompChars) (g := id)
  rw [List.map_id] at h
  exact h.trans (forall₂_congr fun _ _ => chompChars_eq_self_iff)

/-- Texts with an LF behind each are read as the same texts if they are lines. -/
theorem ofChars_flatMap_eq_iff {texts : List (List Char)} :
    ofChars [] (texts.flatMap (· ++ ['\n'])) = texts ↔
      ∀ text ∈ texts, '\n' ∉ text ∧ text.getLast? ≠ some '\r' := by
  constructor
  · intro he
    -- As lines they have no LF, so each of them is one line.
    have hlf : ∀ text ∈ texts, '\n' ∉ text := by
      intro text ht
      exact newline_not_mem_ofChars List.not_mem_nil text (he ▸ ht)
    rw [ofChars_flatMap hlf, map_chompChars_eq_self_iff] at he
    exact fun text ht => ⟨hlf text ht, he text ht⟩
  · intro h
    rw [ofChars_flatMap fun text ht => (h text ht).1]
    exact map_chompChars_eq_self_iff.2 fun text ht => (h text ht).2

theorem map_toList_ofText (s : String) : (ofText s).map String.toList = ofChars [] s.toList := by
  simp [ofText, Function.comp_def]

/-- Texts that are laid out line by line are the lines again if and only if each of them is one. -/
theorem ofText_join_eq_iff (texts : List String) :
    ofText (String.join (texts.map (· ++ "\n"))) = texts ↔ ∀ text ∈ texts, IsLine text := by
  have hchars : (String.join (texts.map (· ++ "\n"))).toList =
      (texts.map String.toList).flatMap (· ++ ['\n']) := by
    simp [String.toList_join, List.flatMap_map]
  have hinj : Function.Injective String.toList := fun _ _ => String.toList_injective
  rw [← (List.map_injective_iff.2 hinj).eq_iff, map_toList_ofText, hchars, ofChars_flatMap_eq_iff,
    List.forall_mem_map]
  rfl

/-! ### Lines of bytes without CR -/

/-- Bytes are split at every LF. -/
theorem lf_not_mem_split (bs : Bytes) :
    (∀ line ∈ (split bs).1, lf ∉ line) ∧ lf ∉ (split bs).2 := by
  induction bs with
  | nil => exact ⟨nofun, List.not_mem_nil⟩
  | cons b bs ih =>
    by_cases hb : b = lf
    · simpa [split, hb] using ih
    · rcases hs : split bs with ⟨_ | ⟨line, lines⟩, rest⟩ <;> rw [hs] at ih <;>
        simpa [split, hb, hs, Ne.symm hb] using ih

theorem split_subset (bs : Bytes) :
    (∀ line ∈ (split bs).1, line ⊆ bs) ∧ (split bs).2 ⊆ bs := by
  constructor
  · intro line hl b hb
    rw [← flatMap_split bs]
    exact List.mem_append_left _ (List.mem_flatMap.2 ⟨line, hl, List.mem_append_left _ hb⟩)
  · intro b hb
    rw [← flatMap_split bs]
    exact List.mem_append_right _ hb

theorem chomp_subset (line : Bytes) : chomp line ⊆ line := by
  unfold chomp
  split
  · split
    · exact List.dropLast_subset _
    · exact List.Subset.refl _
  · exact List.Subset.refl _

/-- The lines of bytes without CR have neither LF nor CR. -/
theorem not_mem_of_mem_ofBytes {bs : Bytes} (hcr : cr ∉ bs) {line : String}
    (h : line ∈ ofBytes bs) : '\n' ∉ line.toList ∧ '\r' ∉ line.toList := by
  obtain ⟨piece, hp, rfl⟩ := List.mem_map.1 h
  have hpiece : lf ∉ piece ∧ piece ⊆ bs := by
    rcases List.mem_append.1 hp with hp | hp
    · obtain ⟨raw, hraw, rfl⟩ := List.mem_map.1 hp
      have hsub := chomp_subset raw
      exact ⟨fun hm => (lf_not_mem_split bs).1 raw hraw (hsub hm),
        List.Subset.trans hsub ((split_subset bs).1 raw hraw)⟩
    · rw [eq_of_mem_ofRest hp]
      exact ⟨(lf_not_mem_split bs).2, (split_subset bs).2⟩
  constructor
  · intro hm
    exact hpiece.1 (Utf8.mem_of_mem_decode (by decide) (by decide) hm)
  · intro hm
    exact hcr (hpiece.2 (Utf8.mem_of_mem_decode (by decide) (by decide) hm))

end Lines

/-! ### Lines written one after the other -/

namespace Sink

/-- Writes lines, each behind its label, one after the other; says of each whether it worked. -/
def writeLines (s : Sink) : List (String × String) → List Bool × Sink
  | [] => ([], s)
  | (label, line) :: entries =>
    let (ok, s) := s.writeLine label line
    let (oks, s) := s.writeLines entries
    (ok :: oks, s)

/-- The text of lines, each behind its label and with its end. -/
def layout (entries : List (String × String)) : String :=
  String.join (entries.map fun e => e.1 ++ e.2 ++ "\n")

/-- A line is written as its label, its text and an LF. -/
theorem lineBytes_eq (label line : String) :
    lineBytes label line = Utf8.encode (label ++ line ++ "\n") := by
  rw [Utf8.encode_append, Utf8.encode_append]
  rfl

theorem writeLines_cons (s : Sink) (label line : String) (entries : List (String × String)) :
    s.writeLines ((label, line) :: entries) =
      ((s.writeLine label line).1 :: ((s.writeLine label line).2.writeLines entries).1,
        ((s.writeLine label line).2.writeLines entries).2) := rfl

theorem layout_cons (label line : String) (entries : List (String × String)) :
    layout ((label, line) :: entries) = label ++ line ++ "\n" ++ layout entries := by
  rw [layout, List.map_cons, String.join_cons]
  rfl

/-- Where nothing can fail, all lines are written. -/
theorem IsReliable.writeLines {s : Sink} (h : s.IsReliable) (entries : List (String × String)) :
    (s.writeLines entries).1 = List.replicate entries.length true ∧
      (s.writeLines entries).2.written = s.written ++ Utf8.encode (layout entries) := by
  induction entries generalizing s with
  | nil => exact ⟨rfl, (List.append_nil _).symm⟩
  | cons entry entries ih =>
    obtain ⟨label, line⟩ := entry
    obtain ⟨hok, hr⟩ := h.writeLine label line
    obtain ⟨hoks, hw⟩ := ih hr
    rw [writeLines_cons, hok, hoks, hw, written_of_writeLine (Prod.ext hok rfl), lineBytes_eq,
      layout_cons, Utf8.encode_append (label ++ line ++ "\n"), List.append_assoc]
    exact ⟨rfl, rfl⟩

theorem isReliable_capture : capture.IsReliable := ⟨rfl, rfl⟩

/-- A sink that captures all contains the entries, one behind the other. -/
theorem contents_writeLines_capture (entries : List (String × String)) :
    (capture.writeLines entries).2.contents = layout entries := by
  rw [contents, (isReliable_capture.writeLines entries).2, capture, List.nil_append,
    Utf8.decode_encode]

/-- Captured lines are read back if and only if each is a line, label and all. -/
theorem lines_writeLines_capture_eq_iff {entries : List (String × String)} :
    (capture.writeLines entries).2.lines = entries.map (fun e => e.1 ++ e.2) ↔
      ∀ e ∈ entries, Lines.IsLine (e.1 ++ e.2) := by
  have h := Lines.ofText_join_eq_iff (entries.map fun e => e.1 ++ e.2)
  rw [List.map_map, List.forall_mem_map] at h
  rw [lines, contents_writeLines_capture]
  exact h

example : (capture.writeLines [("", "a\r"), ("", "b\nc")]).2.lines = ["a", "b", "c"] := by cbv

end Sink

/-! ### What a printer captures -/

namespace Printer

variable {σ ν : Type} [Listener σ ν]

/-- A new printer with a sink that captures. -/
def capturing (label : String) (listeners : List σ) : Printer σ ν :=
  { label, sink := some .capture, listeners }

/-- A printer whose sink cannot fail writes its lines to it, one after the other. -/
theorem sink_deliverAll_eq_writeLines {p : Printer σ ν} {k : Sink} (hk : p.sink = some k)
    (hs : p.silenced = false) (hr : k.IsReliable) (lines : List String) :
    (p.deliverAll lines).sink = some (k.writeLines (lines.map (p.label, ·))).2 := by
  induction lines generalizing p k with
  | nil => exact hk
  | cons line lines ih =>
    obtain ⟨hok, hr'⟩ := hr.writeLine p.label line
    obtain ⟨hsink, hsil⟩ := sink_deliver_of_not_silenced hk hs line
    rw [hok] at hsil
    have hi := ih hsink hsil hr'
    rw [label_deliver] at hi
    exact hi

/-- Of lines of bytes without CR, a printer whose label has no line break captures each. -/
theorem lines_sink_deliverAll_capturing {label : String} (hlf : '\n' ∉ label.toList)
    (hcr : '\r' ∉ label.toList) (listeners : List σ) {bs : Bytes} (hbs : cr ∉ bs)
    {lines : List String} (hl : lines <+: Lines.ofBytes bs) :
    ((capturing (ν := ν) label listeners).deliverAll lines).sink.map Sink.lines =
      some (lines.map (label ++ ·)) := by
  have hline : ∀ e ∈ lines.map (label, ·), Lines.IsLine (e.1 ++ e.2) := by
    intro e he
    obtain ⟨line, hmem, rfl⟩ := List.mem_map.1 he
    obtain ⟨hlf', hcr'⟩ := Lines.not_mem_of_mem_ofBytes hbs (hl.subset hmem)
    constructor
    · rw [String.toList_append, List.mem_append, not_or]
      exact ⟨hlf, hlf'⟩
    · intro hlast
      have hmem := List.mem_of_getLast? hlast
      rw [String.toList_append, List.mem_append] at hmem
      exact hmem.elim hcr hcr'
  rw [sink_deliverAll_eq_writeLines (k := .capture) rfl rfl Sink.isReliable_capture,
    Option.map_some]
  refine congrArg some ((Sink.lines_writeLines_capture_eq_iff.2 hline).trans ?_)
  rw [List.map_map]
  rfl

end Printer

open Lines Pipeline

variable {σ ν : Type} [Listener σ ν]

/-- The moves of a printer bring nothing to its output. -/
theorem Pipeline.supplyAll_prints (o : Outlet) (p : Pipeline σ ν) (n : Nat) :
    supplyAll o p (List.replicate n .prints) = [] := by
  induction n generalizing p with
  | zero => rfl
  | succ n ih =>
    rw [List.replicate_succ, supplyAll, ih]
    rfl

namespace Printing

/-- What was written to a sink that captures is read back.

* All lines are written, their text is each label, line and LF in turn, and the lines of that text
  are those that were written, behind their labels, if and only if none of these has an LF or ends
  in a CR.
* A printer with nobody beside it whose label has no line break captures the lines of what its
  output carries, however the chunks are cut, if there is no CR in that.
* Whatever others do beside it, at every moment it has captured the lines that it has delivered,
  which are the first of the lines of what its output accepted, and all of them once it is over;
  and where nothing can arrive any more it comes to its end. -/
theorem capture_reads_back (listeners : List σ) :
    (∀ entries : List (String × String),
      (Sink.capture.writeLines entries).1 = List.replicate entries.length true ∧
      (Sink.capture.writeLines entries).2.contents =
        String.join (entries.map fun e => e.1 ++ e.2 ++ "\n") ∧
      ((Sink.capture.writeLines entries).2.lines = entries.map (fun e => e.1 ++ e.2) ↔
        ∀ e ∈ entries, IsLine (e.1 ++ e.2))) ∧
    ∀ label : String, '\n' ∉ label.toList → '\r' ∉ label.toList →
      (∀ capacity o chunks closing, cr ∉ o.share chunks →
        (printout (ν := ν) capacity o (.capturing label listeners) chunks closing).sink.map
          Sink.lines = some ((ofBytes (o.share chunks)).map (label ++ ·))) ∧
      ∀ r : Printing (.capturing label listeners : Printer σ ν), cr ∉ r.received →
        (∃ lines q, lines <+: ofBytes r.received ∧ r.station.printer = some q ∧
          q.sink.map Sink.lines = some (lines.map (label ++ ·)) ∧
          (r.station.running = false → lines = ofBytes r.received)) ∧
        (r.final.splitter.finished = true → ∃ n q,
          let x := (r.final.actAll r.outlet (List.replicate n .prints)).station r.outlet
          x.running = false ∧ x.printer = some q ∧
            q.sink.map Sink.lines = some ((ofBytes r.received).map (label ++ ·))) := by
  refine ⟨fun entries => ⟨?_, ?_, ?_⟩, fun label hlf hcr => ⟨?_, ?_⟩⟩
  · exact (Sink.isReliable_capture.writeLines entries).1
  · exact Sink.contents_writeLines_capture entries
  · exact Sink.lines_writeLines_capture_eq_iff
  · intro capacity o chunks closing hbs
    rw [printout_eq]
    exact Printer.lines_sink_deliverAll_capturing hlf hcr listeners hbs List.prefix_rfl
  · intro r hbs
    obtain ⟨lines, hl, hq, hover⟩ := r.prints.exists_deliverAll
    refine ⟨⟨lines, _, hl, hq, ?_, hover⟩, fun hfin => ?_⟩
    · exact Printer.lines_sink_deliverAll_capturing hlf hcr listeners hbs hl
    · obtain ⟨n, hn⟩ := r.prints.exists_over hfin
      have hspares : ∀ d ∈ List.replicate n Deed.prints, d.spares r.outlet = true := by
        intro d hd
        rw [List.eq_of_mem_replicate hd]
        rfl
      have hprints := r.prints.actAll hspares
      rw [supplyAll_prints, List.append_nil] at hprints
      obtain ⟨lines, hl, hq, hover⟩ := hprints.exists_deliverAll
      refine ⟨n, _, hn, hq, ?_⟩
      rw [← hover hn]
      exact Printer.lines_sink_deliverAll_capturing hlf hcr listeners hbs hl

/-- A byte that is no character, an empty line, a character that is cut, and a last line without
    end. -/
def cutChunks : List Chunk :=
  [⟨.stdout, [0xFF, 0x0A, 0x0A, 0xC3]⟩, ⟨.stderr, [0xA9, 0x0A]⟩, ⟨.stdout, [0x74]⟩]

/-- They come to a printer that has delivered two lines when the splitter is closed. -/
def cutCharacter (q : Printer Ear String) : Printing q where
  outlet := .combined
  capacity := 1
  deeds := [.uses (.take .input), .prints, .uses (.write ⟨.stdout, [0xFF, 0x0A, 0x0A, 0xC3]⟩),
    .prints, .prints, .uses (.write ⟨.stderr, [0xA9, 0x0A]⟩), .prints, .prints, .uses .close]
  spares := by decide

/-- A character that is cut between two chunks is read back as well. -/
theorem capture_reads_back_cut_character :
    let q : Printer Ear String := .capturing "box> " [.recorder "ear"]
    (∀ e ∈ [("", ""), ("box> ", "a\rb"), ("\r", "é"), ("", "")], IsLine (e.1 ++ e.2)) ∧
      (Sink.capture.writeLines [("", ""), ("box> ", "a\rb"), ("\r", "é"), ("", "")]).2.lines =
        ["", "box> a\rb", "\ré", ""] ∧
      '\n' ∉ "box> ".toList ∧ '\r' ∉ "box> ".toList ∧ cr ∉ Outlet.combined.share cutChunks ∧
      (printout 1 .combined q cutChunks true).sink.map Sink.lines =
        some ["box> \uFFFD", "box> ", "box> é", "box> t"] ∧
      cr ∉ (cutCharacter q).received ∧ (cutCharacter q).final.splitter.finished = true ∧
      ∃ n x, (((cutCharacter q).final.actAll .combined (List.replicate n .prints)).station
          .combined).printer = some x ∧
        x.sink.map Sink.lines = some ["box> \uFFFD", "box> ", "box> é"] := by
  intro q
  have hlines : ∀ e ∈ [("", ""), ("box> ", "a\rb"), ("\r", "é"), ("", "")],
      IsLine (e.1 ++ e.2) := by decide
  have hlf : '\n' ∉ "box> ".toList := by decide
  have hcr : '\r' ∉ "box> ".toList := by decide
  have hbs : cr ∉ Outlet.combined.share cutChunks := by decide
  have hr : (cutCharacter q).received = [0xFF, 0x0A, 0x0A, 0xC3, 0xA9, 0x0A] := by cbv
  have hbs' : cr ∉ (cutCharacter q).received := by
    rw [hr]
    decide
  have hfin : (cutCharacter q).final.splitter.finished = true := by cbv
  obtain ⟨hwritten, hprinted⟩ := capture_reads_back (ν := String) [Ear.recorder "ear"]
  obtain ⟨halone, hbeside⟩ := hprinted "box> " hlf hcr
  obtain ⟨n, x, -, hx, hsink⟩ := (hbeside (cutCharacter q) hbs').2 hfin
  refine ⟨hlines, (hwritten _).2.2.2 hlines, hlf, hcr, hbs, ?_, hbs', hfin, n, x, hx, ?_⟩
  · refine (halone 1 .combined cutChunks true hbs).trans ?_
    cbv
  · refine hsink.trans ?_
    rw [hr]
    cbv

end Printing

end Readiness
