import Readiness.Log.Sink.Pieces
import Readiness.Proofs.Log.Printing

/-!
# How far a sink gets

Two things can stop a sink: there is room for so many bytes only (`Sink.room`), and there are so
many flushes up to the one that fails (`Sink.flushesLeft`). Both leave a sink with the first part of
what it was to take (`upTo`), cut at a byte by the one and behind a line by the other, whichever
comes first.

* It does not matter that a line is written piece by piece, each by as many calls of the writer as
  it takes (`Sink.writeLineInPieces_eq`).
* A printer leaves in its sink exactly the bytes of the lines that have a flush left, as far as
  there is room for them (`Printer.sink_deliverAll`), and it has given the sink up if and only if
  that stopped it.
* What was written stays, and more is written from the first line on, unless there is no room at all
  (`Printer.written_deliverAll_eq_iff`).
-/

namespace Readiness

variable {α : Type}

/-- The first so many of a list; `none` is no bound. -/
def upTo : Option Nat → List α → List α
  | none, xs => xs
  | some n, xs => xs.take n

/-- Whether there are no more than so many; `none` is no bound. -/
def within : Option Nat → Nat → Bool
  | none, _ => true
  | some n, m => m ≤ n

@[simp] theorem upTo_nil (n : Option Nat) : upTo n ([] : List α) = [] := by
  cases n <;> simp [upTo]

theorem upTo_eq_nil_iff {n : Option Nat} {xs : List α} :
    upTo n xs = [] ↔ n = some 0 ∨ xs = [] := by
  cases n <;> simp [upTo]

theorem upTo_of_within {n : Option Nat} {xs : List α} (h : within n xs.length = true) :
    upTo n xs = xs := by
  cases n with
  | none => rfl
  | some n => exact List.take_of_length_le (of_decide_eq_true h)

/-- A list that is not within its bound leaves nothing for what comes behind it. -/
theorem upTo_append_of_not_within {n : Option Nat} {xs : List α} (ys : List α)
    (h : within n xs.length = false) : upTo n (xs ++ ys) = upTo n xs := by
  cases n with
  | none => cases h
  | some n =>
    have hlt : n < xs.length := by simpa [within] using h
    rw [upTo, upTo, List.take_append_of_le_length (Nat.le_of_lt hlt)]

/-- Where the first part fits, the second may have what room it leaves. -/
theorem upTo_append_of_within {n : Option Nat} {xs : List α} (ys : List α)
    (h : within n xs.length = true) :
    upTo n (xs ++ ys) = xs ++ upTo (n.map (· - xs.length)) ys := by
  cases n with
  | none => rfl
  | some n => rw [Option.map_some, upTo, upTo, List.take_append,
      List.take_of_length_le (of_decide_eq_true h)]

theorem within_add_of_within {n : Option Nat} {k : Nat} (m : Nat) (h : within n k = true) :
    within n (k + m) = within (n.map (· - k)) m := by
  cases n with
  | none => rfl
  | some n =>
    have hle : k ≤ n := of_decide_eq_true h
    simp only [within, Option.map_some, decide_eq_decide]
    omega

theorem within_add_of_not_within {n : Option Nat} {k : Nat} (m : Nat) (h : within n k = false) :
    within n (k + m) = false := by
  cases n with
  | none => cases h
  | some n =>
    have hlt : n < k := by simpa [within] using h
    simp only [within, decide_eq_false_iff_not]
    omega

theorem within_length_upTo (n : Option Nat) (xs : List α) :
    within n (upTo n xs).length = true := by
  cases n with
  | none => rfl
  | some n =>
    rw [within, upTo, List.length_take]
    exact decide_eq_true (Nat.min_le_left _ _)

theorem upTo_append_drop (n : Option Nat) (xs : List α) :
    upTo n xs ++ xs.drop (upTo n xs).length = xs := by
  cases n with
  | none => simp [upTo]
  | some n =>
    obtain h | h := Nat.le_total n xs.length
    · simp [upTo, Nat.min_eq_left h]
    · simp [upTo, List.take_of_length_le h]

/-- Where nothing is left of a list that has something, it is not within its bound. -/
theorem not_within_of_upTo_eq_nil {n : Option Nat} {xs : List α} (hx : xs ≠ [])
    (h : upTo n xs = []) : within n xs.length = false := by
  cases hw : within n xs.length with
  | false => rfl
  | true => rw [upTo_of_within hw] at h; exact absurd h hx

namespace Sink

/-- For how many bytes there is room; `none` is no bound. -/
def room (s : Sink) : Option Nat := s.limit.map (· - s.written.length)

/-- How many flushes there are up to the one that fails, that one included. -/
def flushesLeft (s : Sink) : Option Nat := s.failingFlush.map (· - s.flushes)

/-- Whether the flush that is to fail, if one is, lies ahead. -/
def IsFresh (s : Sink) : Prop := ∀ n, s.failingFlush = some n → s.flushes < n

/-- A sink takes what it has room for, and says whether it had room for everything. -/
theorem write_eq (s : Sink) (bs : Bytes) :
    s.write bs = (within s.room bs.length, { s with written := s.written ++ upTo s.room bs }) := by
  unfold write room
  cases s.limit <;> rfl

/-! ## Piece by piece -/

theorem call_eq (s : Sink) (bs : Bytes) :
    s.call bs = ((upTo s.room bs).length, { s with written := s.written ++ upTo s.room bs }) := by
  unfold call room
  cases s.limit <;> rfl

theorem room_append (s : Sink) (bs : Bytes) :
    room { s with written := s.written ++ bs } = s.room.map (· - bs.length) := by
  simp [room, Function.comp_def, Nat.sub_sub]

/-- Writing in two parts is writing both at once, unless the first does not go through. -/
theorem write_append (s : Sink) (as bs : Bytes) :
    s.write (as ++ bs) =
      if (s.write as).1 then (s.write as).2.write bs else (false, (s.write as).2) := by
  simp only [write_eq, List.length_append]
  cases hw : within s.room as.length with
  | true =>
    rw [if_pos rfl, upTo_of_within hw, room_append, upTo_append_of_within bs hw,
      within_add_of_within _ hw, List.append_assoc]
  | false =>
    rw [if_neg nofun, upTo_append_of_not_within bs hw, within_add_of_not_within _ hw]

@[simp] theorem write_nil (s : Sink) : s.write [] = (true, s) := by
  rw [write_eq]
  cases s.room <;> simp [within]

/-- Calls that go on until all is written, or no room is left, come to one write. -/
theorem writeAll_eq (s : Sink) (bs : Bytes) : s.writeAll bs = s.write bs := by
  fun_induction writeAll s bs with
  | case1 s => exact (write_nil s).symm
  | case2 s bs h s' hc =>
    rw [call_eq, Prod.mk.injEq] at hc
    rw [write_eq, hc.2, not_within_of_upTo_eq_nil h (List.length_eq_zero_iff.1 hc.1)]
  | case3 s bs h n s' hc ih =>
    -- What the writer took and what is left of the piece are taken together.
    rw [call_eq, Prod.mk.injEq] at hc
    have hw := within_length_upTo s.room bs
    have ht : s.write (upTo s.room bs) = (true, s') := by
      rw [write_eq, hw, upTo_of_within hw, hc.2]
    calc s'.writeAll (bs.drop (n + 1)) = s'.write (bs.drop (upTo s.room bs).length) := by
          rw [ih, hc.1]
      _ = s.write (upTo s.room bs ++ bs.drop (upTo s.room bs).length) := by
          rw [write_append, ht, if_pos rfl]
      _ = s.write bs := by rw [upTo_append_drop]

/-- Pieces that are written one by one come to one write of all of them. -/
theorem writePieces_eq (s : Sink) (pieces : List Bytes) :
    s.writePieces pieces = s.write pieces.flatten := by
  induction pieces generalizing s with
  | nil => exact (write_nil s).symm
  | cons piece pieces ih =>
    rw [writePieces, writeAll_eq, List.flatten_cons, write_append]
    rcases s.write piece with ⟨_ | _, s'⟩
    · rfl
    · exact ih s'

/-- A line written piece by piece is written as if in one piece. -/
theorem writeLineInPieces_eq (s : Sink) (label line : String) :
    s.writeLineInPieces label line = s.writeLine label line := by
  have hb : [Utf8.encode label, Utf8.encode line, [lf]].flatten = lineBytes label line := by
    simp [lineBytes]
  rw [writeLineInPieces, writePieces_eq, hb, writeLine]

/-! ## Line by line -/

/-- The bytes of the lines that have a flush left, the one that fails included. -/
def due (s : Sink) (label : String) (lines : List String) : Bytes :=
  (upTo s.flushesLeft lines).flatMap (lineBytes label)

/-- Whether lines go through: there is room for them, and the flush that fails is not among theirs.
    -/
def Carries (s : Sink) (label : String) (lines : List String) : Prop :=
  within s.room (s.due label lines).length = true ∧ ∀ n, s.flushesLeft = some n → lines.length < n

/-- The sink behind a line that was written. -/
def behindLine (s : Sink) (label line : String) : Sink :=
  { s with written := s.written ++ lineBytes label line, flushes := s.flushes + 1 }

variable {s : Sink} {label line : String}

/-- A line is cut where there is no room for it; else the flush behind it decides. -/
theorem writeLine_eq (s : Sink) (label line : String) :
    s.writeLine label line =
      if within s.room (lineBytes label line).length then
        (s.failingFlush != some (s.flushes + 1), s.behindLine label line)
      else (false, { s with written := s.written ++ upTo s.room (lineBytes label line) }) := by
  rw [writeLine, write_eq]
  cases hw : within s.room (lineBytes label line).length with
  | true => rw [upTo_of_within hw]; rfl
  | false => rfl

theorem lineBytes_ne_nil (label line : String) : lineBytes label line ≠ [] := by simp [lineBytes]

@[simp] theorem isConsole_writeLine (s : Sink) (label line : String) :
    (s.writeLine label line).2.isConsole = s.isConsole := by
  rw [writeLine_eq]
  split <;> rfl

/-- A line is written as far as there is room for it. -/
theorem written_writeLine (s : Sink) (label line : String) :
    (s.writeLine label line).2.written = s.written ++ upTo s.room (lineBytes label line) := by
  rw [writeLine_eq]
  split
  · next hw => rw [upTo_of_within hw]; rfl
  · rfl

/-- A line takes its bytes from the room of the sink. -/
theorem room_behindLine (s : Sink) (label line : String) :
    (s.behindLine label line).room = s.room.map (· - (lineBytes label line).length) :=
  room_append s _

theorem flushesLeft_behindLine (s : Sink) (label line : String) :
    (s.behindLine label line).flushesLeft = s.flushesLeft.map (· - 1) := by
  simp [flushesLeft, behindLine, Function.comp_def, Nat.sub_sub]

/-- A sink is fresh behind a line unless its flush failed. -/
theorem IsFresh.behindLine (h : s.IsFresh) (hf : s.failingFlush ≠ some (s.flushes + 1))
    (label line : String) : (s.behindLine label line).IsFresh := fun n hn => by
  have hlt := h n hn
  have hne : n ≠ s.flushes + 1 := fun he => hf (he ▸ hn)
  exact Nat.lt_of_le_of_ne hlt (Ne.symm hne)

/-- The flush that fails is at the earliest the next one, so the next line is due. -/
theorem IsFresh.due_cons (h : s.IsFresh) (label line : String) (lines : List String) :
    s.due label (line :: lines) =
      lineBytes label line ++ (s.behindLine label line).due label lines := by
  rw [due, due, flushesLeft_behindLine]
  cases hf : s.failingFlush with
  | none => simp [flushesLeft, hf, upTo]
  | some n =>
    obtain ⟨m, hm⟩ := Nat.exists_eq_succ_of_ne_zero (Nat.sub_ne_zero_of_lt (h n hf))
    simp [flushesLeft, hf, upTo, hm]

end Sink

namespace Printer

variable {σ ν : Type} [Listener σ ν] {p : Printer σ ν}

/-- A printer whose sink has not failed writes the line, and remembers if that fails. -/
theorem sink_deliver_of_not_silenced {k : Sink} (hk : p.sink = some k) (hs : p.silenced = false)
    (line : String) :
    (p.deliver line).sink = some (k.writeLine p.label line).2 ∧
      (p.deliver line).silenced = !(k.writeLine p.label line).1 := by
  simp [echo, hk, hs]

/-- A sink that was given up is left alone. -/
theorem sink_deliverAll_of_silenced (h : p.silenced = true) (lines : List String) :
    (p.deliverAll lines).sink = p.sink ∧ (p.deliverAll lines).silenced = true := by
  induction lines generalizing p with
  | nil => exact ⟨rfl, h⟩
  | cons line lines ih =>
    have he : p.echo line = p := by
      unfold echo
      cases p.sink with
      | none => rfl
      | some k => exact if_pos h
    have hd := ih (p := p.deliver line) (by rw [silenced_deliver, he]; exact h)
    rw [sink_deliver, he] at hd
    exact hd

/-- Behind some lines, a sink holds exactly those that had a flush left, as far as there was room
    for them, and it was given up if and only if that stopped it. -/
theorem sink_deliverAll {k : Sink} (hk : p.sink = some k) (hs : p.silenced = false)
    (hf : k.IsFresh) (lines : List String) :
    ∃ k', (p.deliverAll lines).sink = some k' ∧
      k'.written = k.written ++ upTo k.room (k.due p.label lines) ∧
      ((p.deliverAll lines).silenced = false ↔ k.Carries p.label lines) := by
  induction lines generalizing p k with
  | nil =>
    refine ⟨k, hk, by simp [Sink.due], iff_of_true hs ⟨?_, fun n hn => ?_⟩⟩
    · cases k.room <;> simp [Sink.due, within]
    · obtain ⟨m, hm, rfl⟩ := Option.map_eq_some_iff.1 hn
      exact Nat.sub_pos_of_lt (hf m hm)
  | cons line lines ih =>
    obtain ⟨hsink, hsil⟩ := sink_deliver_of_not_silenced hk hs line
    rw [deliverAll_cons, Sink.Carries, hf.due_cons, List.length_append]
    rw [k.writeLine_eq p.label line] at hsink hsil
    cases hr : within k.room (Sink.lineBytes p.label line).length with
    | false =>
      -- There is no room: the line is cut, and the sink given up.
      rw [hr, if_neg nofun] at hsink hsil
      have hd := sink_deliverAll_of_silenced hsil lines
      refine ⟨_, hd.1.trans hsink, ?_, ?_⟩
      · rw [upTo_append_of_not_within _ hr]
      · rw [hd.2, within_add_of_not_within _ hr]; simp
    | true =>
      rw [hr, if_pos rfl] at hsink hsil
      rw [upTo_append_of_within _ hr, within_add_of_within _ hr, ← k.room_behindLine,
        ← List.append_assoc]
      have hfl := k.flushesLeft_behindLine p.label line
      by_cases hlast : k.failingFlush = some (k.flushes + 1)
      · -- The flush behind the line fails: nothing more was due.
        have hleft : k.flushesLeft = some 1 := by simp [Sink.flushesLeft, hlast]
        have hdue : (k.behindLine p.label line).due p.label lines = [] := by
          rw [Sink.due, hfl, hleft]; rfl
        have hgiven : (p.deliver line).silenced = true := by rw [hsil, hlast]; simp
        have hd := sink_deliverAll_of_silenced hgiven lines
        refine ⟨_, hd.1.trans hsink, ?_, ?_⟩
        · rw [hdue, upTo_nil, List.append_nil]; rfl
        · rw [hd.2, hleft]; simp
      · have hkept : (p.deliver line).silenced = false := by rw [hsil]; simp [hlast]
        obtain ⟨k', hk', hwr, hiff⟩ := ih hsink hkept (hf.behindLine hlast _ _)
        rw [label_deliver] at hwr hiff
        refine ⟨k', hk', hwr, hiff.trans (and_congr_right fun _ => ?_)⟩
        rw [hfl]
        cases k.flushesLeft with
        | none => simp
        | some n =>
          simp only [Option.map_some, Option.some.injEq, forall_eq', List.length_cons]
          omega

/-! ## What stays -/

variable {k k' : Sink} {lines : List String}

/-- A sink stays there, and the console stays the console. -/
theorem isConsole_deliverAll (p : Printer σ ν) (lines : List String) :
    (p.deliverAll lines).sink.map Sink.isConsole = p.sink.map Sink.isConsole := by
  induction lines generalizing p with
  | nil => rfl
  | cons line lines ih =>
    rw [deliverAll_cons, ih, sink_deliver]
    unfold echo
    cases hk : p.sink with
    | none => simp [hk]
    | some k => cases p.silenced <;> simp [hk]

/-- Whatever a printer delivers, it still has a sink, of the same kind. -/
theorem exists_sink_deliverAll (hk : p.sink = some k) (lines : List String) :
    ∃ k', (p.deliverAll lines).sink = some k' ∧ k'.isConsole = k.isConsole := by
  have h := isConsole_deliverAll p lines
  rw [hk, Option.map_some, Option.map_eq_some_iff] at h
  exact h

/-- Nothing that was written is lost. -/
theorem written_prefix_deliverAll (hk : p.sink = some k) (hk' : (p.deliverAll lines).sink = some k') :
    k.written <+: k'.written := by
  induction lines generalizing p k with
  | nil =>
    cases hk.symm.trans hk'
    exact List.prefix_rfl
  | cons line lines ih =>
    rw [deliverAll_cons] at hk'
    cases hs : p.silenced with
    | true => exact ih (p := p.deliver line) (by simp [echo, hk, hs]) hk'
    | false =>
      have h := ih (sink_deliver_of_not_silenced hk hs line).1 hk'
      rw [Sink.written_writeLine] at h
      exact (List.prefix_append _ _).trans h

/-- A sink gets something from the first line on, if it takes anything at all. -/
theorem written_deliverAll_eq_iff (hk : p.sink = some k) (hs : p.silenced = false)
    (hk' : (p.deliverAll lines).sink = some k') :
    k'.written = k.written ↔ lines = [] ∨ k.room = some 0 := by
  cases lines with
  | nil =>
    cases hk.symm.trans hk'
    simp
  | cons line lines =>
    rw [deliverAll_cons] at hk'
    obtain ⟨hsink, hsil⟩ := sink_deliver_of_not_silenced hk hs line
    have hw := k.written_writeLine p.label line
    constructor
    · intro he
      have hp := (written_prefix_deliverAll hsink hk').length_le
      rw [he, hw, List.length_append] at hp
      have hnil : upTo k.room (Sink.lineBytes p.label line) = [] :=
        List.length_eq_zero_iff.1 (by omega)
      exact .inr ((upTo_eq_nil_iff.1 hnil).resolve_right (Sink.lineBytes_ne_nil _ _))
    · rintro (h | hr)
      · cases h
      · -- There is no room at all: the first line fails, and the sink is given up.
        have hfail : (k.writeLine p.label line).1 = false := by
          rw [Sink.writeLine_eq, hr]
          simp [within, Sink.lineBytes]
        rw [hfail] at hsil
        rw [(sink_deliverAll_of_silenced hsil lines).1, hsink] at hk'
        cases hk'
        rw [hw, hr]
        simp [upTo]

end Printer

end Readiness
