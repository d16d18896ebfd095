import Mathlib.Data.List.Basic
import Readiness.Log.Fanout
import Readiness.Rehearsal

/-!
# Listeners do not interfere

A guarded call returns whether the listener fails or not, and changes nothing but that listener
(`Fanout.guarded_eq`). By induction over the listeners a line gives each of them its turn, in order
(`Fanout.callAll_eq`), and by induction over the lines each comes to where it would be alone
(`Fanout.sendAll_eq`). What happens on the way is `Fanout.chronicle`. In it every listener is called
once with every line, and the turns of some are left out without a change to those of the others but
their numbers (`Fanout.without_chronicle`).

`Fanout.sendAll_isolates` has all of this. So a listener that is added, removed or replaced, by one
that fails or by any other, makes no difference to the rest.
-/

namespace Readiness

variable {σ ν : Type} [Listener σ ν]

/-- A listener that alone is fed lines. -/
def Listener.hearAll (x : σ) (lines : List String) : σ :=
  lines.foldl (fun x line => (hear x line).state) x

namespace Fanout

variable {xs ys zs : List σ} {events : List (Occurrence ν)} {x : σ} {line : String}
  {lines : List String} {i k n : Nat}

/-! ### What happens -/

/-- What a call of one listener comes to, with the warning where it fails. -/
def happens (i : Nat) (x : σ) (line : String) : List (Occurrence ν) :=
  let r := Listener.hear x line
  .called i line :: r.notes.map (.noted i) ++ if r.failed then [.warned i] else []

/-- What happens as a line is handed to listeners that are numbered from `k` on. -/
def turn (line : String) (k : Nat) (xs : List σ) : List (Occurrence ν) :=
  (xs.zipIdx k).flatMap fun (x, i) => happens i x line

/-- What happens as lines are handed over. -/
def chronicle (xs : List σ) (lines : List String) : List (Occurrence ν) :=
  lines.zipIdx.flatMap fun (line, k) => turn line 0 (xs.map (Listener.hearAll · (lines.take k)))

@[simp] theorem turn_nil : turn line k ([] : List σ) = [] := rfl

theorem turn_cons : turn line k (x :: xs) = happens k x line ++ turn line (k + 1) xs := by
  rw [turn, List.zipIdx_cons, List.flatMap_cons]
  rfl

theorem turn_append : turn line k (xs ++ ys) = turn line k xs ++ turn line (k + xs.length) ys := by
  rw [turn, List.zipIdx_append, List.flatMap_append]
  rfl

theorem chronicle_cons : chronicle xs (line :: lines) =
    turn line 0 xs ++ chronicle (xs.map fun x => (Listener.hear x line).state) lines := by
  simp [chronicle, List.zipIdx_cons, List.zipIdx_succ, List.flatMap_map, Listener.hearAll,
    Function.comp_def]

/-! ### The loop -/

omit [Listener σ ν] in
theorem bind_of_ok {α β : Type} {a : α} {x : Act σ ν α} {f : α → Act σ ν β} {s s' : Stage σ ν}
    (h : x s = .ok a s') : (x >>= f) s = f a s' := by
  change EStateM.bind x f s = _
  rw [EStateM.bind, h]

/-- Whether the call fails or not, all that a guarded call changes is the listener. -/
theorem guarded_eq {s : Stage σ ν} (h : s.listeners[i]? = some x) : guarded line i s = .ok () {
    listeners := s.listeners.set i (Listener.hear x line).state
    events := s.events ++ happens i x line } := by
  change EStateM.tryCatch (call line i) _ s = _
  rw [EStateM.tryCatch, call, h]
  dsimp only
  cases hf : (Listener.hear x line).failed with
  | false => simp [happens, hf]
  | true =>
    rw [happens, hf, if_pos rfl, if_pos rfl, ← List.append_assoc]
    rfl

/-- The loop over the listeners from a number on. Those before it have had their turn. -/
theorem forM_guarded (done rest : List σ) (events : List (Occurrence ν)) :
    (List.range' done.length rest.length).forM (guarded line)
        { listeners := done ++ rest, events } = .ok () {
        listeners := done ++ rest.map fun x => (Listener.hear x line).state
        events := events ++ turn line done.length rest } := by
  induction rest generalizing done events with
  | nil => simp [pure, EStateM.pure]
  | cons x rest ih =>
    have hx : (done ++ x :: rest)[done.length]? = some x := by simp
    rw [List.length_cons, List.range'_succ, List.forM, bind_of_ok (guarded_eq hx)]
    have hset : (done ++ x :: rest).set done.length (Listener.hear x line).state =
        (done ++ [(Listener.hear x line).state]) ++ rest := by simp
    have := ih (done ++ [(Listener.hear x line).state]) (events ++ happens done.length x line)
    simp only [hset, turn_cons, List.map_cons] at this ⊢
    simpa using this

/-- To call all listeners makes them react, and tells what happened in their turn. -/
theorem callAll_eq (xs : List σ) (events : List (Occurrence ν)) :
    callAll line { listeners := xs, events } = .ok () {
      listeners := xs.map fun x => (Listener.hear x line).state
      events := events ++ turn line 0 xs } := by
  change (List.range xs.length).forM (guarded line) _ = _
  rw [List.range_eq_range']
  exact forM_guarded [] xs events

theorem send_eq {door : Door} (xs : List σ) (events : List (Occurrence ν)) :
    send door line { listeners := xs, events } = .ok () {
      listeners := xs.map fun x => (Listener.hear x line).state
      events := events ++ turn line 0 xs } := by
  cases door <;> exact callAll_eq xs events

/-- To send lines makes the listeners react to one after the other. -/
theorem sendAll_eq (xs : List σ) (events : List (Occurrence ν)) (sent : List (Door × String)) :
    sendAll sent { listeners := xs, events } = .ok () {
      listeners := xs.map (Listener.hearAll · (sent.map Prod.snd))
      events := events ++ chronicle xs (sent.map Prod.snd) } := by
  induction sent generalizing xs events with
  | nil => simp [sendAll, pure, EStateM.pure, Listener.hearAll, chronicle]
  | cons pair sent ih =>
    obtain ⟨door, line⟩ := pair
    rw [sendAll, List.forM, bind_of_ok (send_eq xs events)]
    have := ih (xs.map fun x => (Listener.hear x line).state) (events ++ turn line 0 xs)
    rw [sendAll] at this
    rw [this, List.map_cons, chronicle_cons, List.map_map, List.append_assoc]
    rfl

omit [Listener σ ν] in
theorem foldl_add (xs : List σ) (s : Stage σ ν) :
    xs.foldl Stage.add s = { s with listeners := s.listeners ++ xs } := by
  induction xs generalizing s with
  | nil => simp
  | cons x xs ih => simp [ih, Stage.add]

omit [Listener σ ν] in
theorem Stage.ofList_eq (xs : List σ) : (ofList xs : Stage σ ν) = { listeners := xs } := by
  simp [ofList, foldl_add]

/-! ### Calls and notes -/

namespace Occurrence

/-- Who is called, and with what. -/
def call? : Occurrence ν → Option (Nat × String)
  | called i line => some (i, line)
  | _ => none

def note? : Occurrence ν → Option ν
  | noted _ note => some note
  | _ => none

/-- Whom it is about. -/
def index : Occurrence ν → Nat
  | called i _ | noted i _ | warned i => i

/-- The same of a listener with another number. -/
def renumber (f : Nat → Nat) : Occurrence ν → Occurrence ν
  | called i line => called (f i) line
  | noted i note => noted (f i) note
  | warned i => warned (f i)

/-- What is left of it without the `n` listeners from `k` on. Those behind move up. -/
def without (k n : Nat) (e : Occurrence ν) : Option (Occurrence ν) :=
  if e.index < k then some e else if e.index < k + n then none else some (e.renumber (· - n))

end Occurrence

open Occurrence

theorem call?_happens : (happens i x line).filterMap call? = [(i, line)] := by
  have hc : call? (called i line : Occurrence ν) = some (i, line) := rfl
  rw [happens, List.cons_append, List.filterMap_cons_some hc, List.filterMap_append,
    List.filterMap_map]
  split <;> simp [call?, Function.comp_def]

theorem note?_happens : (happens i x line).filterMap note? = (Listener.hear x line).notes := by
  have hc : note? (called i line : Occurrence ν) = none := rfl
  have hn (notes : List ν) : (notes.map (noted i)).filterMap note? = notes := by
    simp [List.filterMap_map, Function.comp_def, note?]
  rw [happens, List.cons_append, List.filterMap_cons_none hc, List.filterMap_append, hn]
  split <;> simp [note?]

/-- Every listener is called once with a line. -/
theorem call?_turn :
    (turn line k xs).filterMap call? = (List.range' k xs.length).map (·, line) := by
  induction xs generalizing k with
  | nil => rfl
  | cons x xs ih => simp [turn_cons, call?_happens, ih, List.range'_succ]

/-- All that is noted in a turn is noted by the listeners one by one. -/
theorem note?_turn :
    (turn line k xs).filterMap note? = (xs.map (Listener.hear · line)).flatMap Reaction.notes := by
  induction xs generalizing k with
  | nil => rfl
  | cons x xs ih => simp [turn_cons, note?_happens, ih]

/-- Every listener is called for every line. -/
theorem call?_chronicle : (chronicle xs lines).filterMap call? =
    lines.flatMap fun line => (List.range xs.length).map (·, line) := by
  induction lines generalizing xs with
  | nil => rfl
  | cons line lines ih =>
    rw [chronicle_cons, List.filterMap_append, call?_turn, ih, List.length_map,
      List.flatMap_cons, List.range_eq_range']

/-- In one step the lines come to the same. -/
theorem notifyAll_eq : notifyAll xs lines =
    (xs.map (Listener.hearAll · lines), (chronicle xs lines).filterMap note?) := by
  induction lines generalizing xs with
  | nil => simp [notifyAll, Listener.hearAll, chronicle]
  | cons line lines ih =>
    simp only [notifyAll, notify, List.map_map, Function.comp_def, ih, chronicle_cons,
      List.filterMap_append, note?_turn]
    rfl

/-! ### Without some -/

theorem index_of_mem_happens {e : Occurrence ν} (h : e ∈ happens i x line) : e.index = i := by
  simp only [happens, List.cons_append, List.mem_cons, List.mem_append, List.mem_map] at h
  obtain rfl | ⟨note, -, rfl⟩ | h := h
  · rfl
  · rfl
  · split at h
    · rw [List.mem_singleton.1 h]
      rfl
    · exact absurd h List.not_mem_nil

/-- What happens in a turn happens to a listener that is in it. -/
theorem index_of_mem_turn {e : Occurrence ν} (h : e ∈ turn line k xs) :
    k ≤ e.index ∧ e.index < k + xs.length := by
  induction xs generalizing k with
  | nil => exact absurd h List.not_mem_nil
  | cons x xs ih =>
    rw [turn_cons, List.mem_append] at h
    rw [List.length_cons]
    obtain h | h := h
    · have := index_of_mem_happens h
      omega
    · have := ih h
      omega

theorem renumber_happens (f : Nat → Nat) :
    (happens i x line).map (renumber f) = happens (f i) x line := by
  rw [happens, happens, List.map_append, List.map_cons, List.map_map]
  split <;> rfl

theorem renumber_turn : (turn line k xs).map (renumber (· + n)) = turn line (k + n) xs := by
  induction xs generalizing k with
  | nil => rfl
  | cons x xs ih =>
    rw [turn_cons, turn_cons, List.map_append, renumber_happens, ih, Nat.add_right_comm]

theorem index_renumber (f : Nat → Nat) (e : Occurrence ν) : (e.renumber f).index = f e.index := by
  cases e <;> rfl

theorem renumber_sub_add (e : Occurrence ν) : (e.renumber (· + n)).renumber (· - n) = e := by
  cases e <;> simp [renumber]

/-- Without some of the listeners the others have the same turns. -/
theorem without_turn (xs ys zs : List σ) :
    (turn line 0 (xs ++ ys ++ zs)).filterMap (without xs.length ys.length) =
      turn line 0 (xs ++ zs) := by
  have hx : (turn line 0 xs).filterMap (without xs.length ys.length) = turn line 0 xs := by
    refine (List.filterMap_congr fun e he => ?_).trans List.filterMap_some
    rw [without, if_pos (by simpa using (index_of_mem_turn he).2)]
  have hy : (turn line xs.length ys).filterMap (without xs.length ys.length) = [] := by
    rw [List.filterMap_eq_nil_iff]
    intro e he
    obtain ⟨h₁, h₂⟩ := index_of_mem_turn he
    rw [without, if_neg (Nat.not_lt.2 h₁), if_pos h₂]
  have hz : (turn line (xs.length + ys.length) zs).filterMap (without xs.length ys.length) =
      turn line xs.length zs := by
    rw [← renumber_turn, List.filterMap_map]
    refine (List.filterMap_congr fun e he => ?_).trans List.filterMap_some
    have := (index_of_mem_turn he).1
    rw [Function.comp_apply, without, index_renumber, if_neg (by omega), if_neg (by omega),
      renumber_sub_add]
  rw [turn_append, turn_append, turn_append, List.filterMap_append, List.filterMap_append]
  simp only [Nat.zero_add, List.length_append, hx, hy, hz, List.append_nil]

/-- Without some listeners in the middle, the others are told as they are with them. -/
theorem without_chronicle (xs ys zs : List σ) (lines : List String) :
    (chronicle (xs ++ ys ++ zs) lines).filterMap (without xs.length ys.length) =
      chronicle (xs ++ zs) lines := by
  induction lines generalizing xs ys zs with
  | nil => rfl
  | cons line lines ih =>
    have := ih (xs.map fun x => (Listener.hear x line).state)
      (ys.map fun x => (Listener.hear x line).state) (zs.map fun x => (Listener.hear x line).state)
    simp only [List.length_map] at this
    simp only [chronicle_cons, List.filterMap_append, without_turn, List.map_append, this]

/-- Lines sent to listeners, by whichever door, all go through. Each listener is then where it would
    be alone, each was called once with each line, and all that happened was line by line, in the
    order of registration. Without some of the listeners the others are where they are with them,
    and the same happens to them. -/
theorem sendAll_isolates (xs : List σ) (sent : List (Door × String)) {lines : List String}
    (hsent : sent.map Prod.snd = lines) :
    ∃ s, sendAll sent (.ofList xs) = .ok () s ∧
      s.listeners = xs.map (Listener.hearAll · lines) ∧
      s.events = chronicle xs lines ∧
      s.events.filterMap call? = lines.flatMap (fun line => (List.range xs.length).map (·, line)) ∧
      notifyAll xs lines = (s.listeners, s.events.filterMap note?) ∧
      ∀ before others behind, xs = before ++ others ++ behind →
        sendAll sent (.ofList (before ++ behind)) = .ok () {
          listeners := (before ++ behind).map (Listener.hearAll · lines)
          events := s.events.filterMap (without before.length others.length) } := by
  have hrun (xs : List σ) : sendAll sent (.ofList xs) = .ok () {
      listeners := xs.map (Listener.hearAll · lines)
      events := chronicle xs lines } := by
    rw [Stage.ofList_eq, sendAll_eq, hsent, List.nil_append]
  refine ⟨_, hrun xs, rfl, rfl, call?_chronicle, notifyAll_eq, ?_⟩
  rintro before others behind rfl
  rw [hrun, without_chronicle]

/-- Two lines, one of which goes in by the door of a listener. -/
def upDown : List (Door × String) := [(.notify, "up"), (.onLine, "down")]

/-- A listener that fails at the first line is called for the second as well, and the others take
    note of both. -/
theorem sendAll_isolates_fragile :
    ∃ s, sendAll upDown (.ofList [Ear.recorder "a", .fragile "up", .recorder "b"]) = .ok () s ∧
      s.events = [.called 0 "up", .noted 0 "a:up", .called 1 "up", .warned 1, .called 2 "up",
        .noted 2 "b:up", .called 0 "down", .noted 0 "a:down", .called 1 "down",
        .called 2 "down", .noted 2 "b:down"] ∧
      sendAll upDown (.ofList [Ear.recorder "a", .recorder "b"]) = .ok () {
        listeners := [.recorder "a", .recorder "b"]
        events := s.events.filterMap (without 1 1) } := by
  obtain ⟨s, hs, -, he, -, -, hw⟩ :=
    sendAll_isolates [Ear.recorder "a", .fragile "up", .recorder "b"] upDown rfl
  exact ⟨s, hs, he.trans (by decide), hw [.recorder "a"] [.fragile "up"] [.recorder "b"] rfl⟩

end Fanout

end Readiness
