import Mathlib.Data.List.TakeWhile
import Readiness.Wait.Vigil

/-!
# What a container's stream has to say

A stream yields chunks until it fails or ends, or stays open behind them. That is its `Script`: the
chunks before the first failure, and whether the stream is over behind them. A host has a script for
whoever attaches (`Host.script`), an attached stream one for what is left of it (`Host.flow`).

* Taking an item takes it off the script (`Host.takes_of_eq`).
* What happens to a live log extends the script of the host and of a stream that draws on it in the
  same way (`Host.Kin.undergo`): a script never loses a chunk (`Host.chunks_script_prefix_undergo`),
  and one that is over stays as it is (`Host.script_undergo_of_ends`).
-/

namespace Readiness

/-- What a stream has to say. -/
structure Script where
  /-- The chunks before the first failure. -/
  chunks : List Chunk
  /-- Whether the stream ends or fails behind them. -/
  ends : Bool
  deriving DecidableEq, Repr

namespace Script

/-- The script of a stream of items that stays open behind them or ends. -/
def ofItems (staysOpen : Bool) : List Item → Script
  | [] => ⟨[], !staysOpen⟩
  | .ok c :: items => ⟨c :: (ofItems staysOpen items).chunks, (ofItems staysOpen items).ends⟩
  | .error _ :: _ => ⟨[], true⟩

/-- A script with chunks before it. -/
def behind (s : Script) (cs : List Chunk) : Script := ⟨cs ++ s.chunks, s.ends⟩

/-- Items without a failure say all their chunks. -/
theorem ofItems_map_ok (staysOpen : Bool) (cs : List Chunk) :
    ofItems staysOpen (cs.map .ok) = ⟨cs, !staysOpen⟩ := by
  induction cs with
  | nil => rfl
  | cons c cs ih => simp [ofItems, ih]

@[simp] theorem behind_nil (s : Script) : s.behind [] = s := rfl

theorem behind_append (s : Script) (as bs : List Chunk) :
    s.behind (as ++ bs) = (s.behind bs).behind as := by
  simp [behind]

end Script

namespace Host

/-- What is left of an attached stream. -/
def flow (h : Host) : Tail → Script
  | .given items staysOpen => .ofItems staysOpen items
  | .live sel => match h with
    | live log => ⟨selected sel log.waiting, log.finished⟩
    | _ => ⟨[], true⟩

/-- What there is for whoever follows a container. An attach that fails is over with nothing said,
    one that never comes back says nothing and is never over. -/
def script (h : Host) (container : String) : Script :=
  match h.attach container {} with
  | .stream t h' => h'.flow t
  | .failed _ => ⟨[], true⟩
  | .pending => ⟨[], false⟩

@[simp] theorem selected_all (cs : List Chunk) : selected {} cs = cs := by
  refine List.filter_eq_self.2 fun c _ => ?_
  cases c with | mk ch bs => cases ch <;> rfl

theorem script_replay (chunks : List Chunk) (container : String) :
    (replay chunks).script container = ⟨chunks, true⟩ := by
  simp [script, attach, flow, Script.ofItems_map_ok]

theorem script_daemon (frames : List Frame) (container : String) :
    (daemon frames none).script container = ⟨frames.filterMap Frame.chunk?, true⟩ := by
  simp only [script, attach, flow, Script.ofItems_map_ok, Bool.not_false]

/-! ## Taking items -/

/-- What a stream may give at the moment, and what that says of its script. -/
inductive Takes (h : Host) (t : Tail) : Next → Tail → Host → Prop
  | chunk {c : Chunk} {t' : Tail} {h' : Host} : h.flow t = (h'.flow t').behind [c] →
      Takes h t (.item (.ok c)) t' h'
  | failure {e : LogError} {t' : Tail} {h' : Host} : h.flow t = ⟨[], true⟩ →
      Takes h t (.item (.error e)) t' h'
  | ended {t' : Tail} {h' : Host} : h.flow t = ⟨[], true⟩ → Takes h t .ended t' h'
  | waiting {t' : Tail} {h' : Host} : h.flow t = ⟨[], false⟩ → Takes h t .waiting t' h'

/-- What comes next is taken from the front of the script. -/
theorem takes_of_eq {h h' : Host} {t t' : Tail} {n : Next} (hn : h.next t = (n, t', h')) :
    Takes h t n t' h' := by
  unfold next at hn
  split at hn
  · next i is staysOpen =>
    cases hn
    cases i with
    | ok c => exact .chunk rfl
    | error e => exact .failure rfl
  · next staysOpen =>
    cases staysOpen with
    | false => cases hn; exact .ended rfl
    | true => cases hn; exact .waiting rfl
  · next sel =>
    split at hn
    · next log =>
      split at hn
      · next c cs hd =>
        cases hn
        refine .chunk ?_
        simp only [flow, Script.behind, selected, List.cons_append, List.nil_append]
        rw [filter_of_dropWhile (p := fun c : Chunk => sel.wants c.channel) hd]
      · next hd =>
        -- None of the chunks that wait is wanted.
        have hnone : selected sel log.waiting = [] := by
          refine List.filter_eq_nil_iff.2 fun c hc => ?_
          have := List.dropWhile_eq_nil_iff.1 hd c hc
          simpa using this
        cases hf : log.finished with
        | false => simp only [hf] at hn; cases hn; exact .waiting (by simp [flow, hnone, hf])
        | true => simp only [hf] at hn; cases hn; exact .ended (by simp [flow, hnone, hf])
    · cases hn; exact .ended (by cases h <;> simp_all [flow])

/-! ## What happens to a live log -/

/-- A stream and the host it was attached to, beside the host as it would be without that: they come
    from one log. -/
inductive Kin : Host → Host → Tail → Prop
  /-- The stream was given with the attach, and nothing happens to its host. -/
  | given {origin h : Host} {items : List Item} {staysOpen : Bool} :
      (∀ e, origin.undergo e = origin) → Kin origin h (.given items staysOpen)
  /-- The stream draws on a live log. -/
  | live {l₀ l : LiveLog} : l₀.attached = false → l₀.finished = l.finished →
      Kin (.live l₀) (.live l) (.live {})

theorem undergo_live (log : LiveLog) (e : Happening) :
    (live log).undergo e =
      if log.finished then live log
      else match e with
        | .pushed c =>
          .live { log with recorded := log.recorded ++ [c], waiting := log.waiting ++ [c] }
        | .finished => .live { log with finished := true } := by
  cases e <;> cases hf : log.finished <;> simp [undergo, push?, finish?, hf]

/-- Only a live log changes by itself. -/
theorem undergo_of_not_live {h : Host} (hl : ∀ log, h ≠ live log) (e : Happening) :
    h.undergo e = h := by
  cases h with
  | live log => exact absurd rfl (hl log)
  | _ => cases e <;> rfl

/-- To attach to a log that is not live changes nothing. -/
theorem attach_of_not_live {h h' : Host} {container : String} {sel : Selection} {t : Tail}
    (hl : ∀ log, h ≠ live log) (ha : h.attach container sel = .stream t h') : h' = h := by
  cases h with
  | live log => exact absurd rfl (hl log)
  | replay => cases ha; rfl
  | failing => cases ha
  | staged attachment => cases attachment <;> cases ha; rfl
  | daemon frames refusal => cases refusal <;> cases ha <;> rfl

/-- To take from a log that is not live changes nothing. -/
theorem next_of_not_live {h h' : Host} {t t' : Tail} {n : Next} (hl : ∀ log, h ≠ live log)
    (hn : h.next t = (n, t', h')) : h' = h := by
  unfold next at hn
  split at hn
  · cases hn; rfl
  · cases hn; rfl
  · cases h with
    | live log => exact absurd rfl (hl log)
    | _ => cases hn; rfl

theorem script_live (log : LiveLog) (container : String) :
    (live log).script container =
      if log.attached then ⟨[], true⟩ else ⟨log.waiting, log.finished⟩ := by
  cases ha : log.attached <;> simp [script, attach, ha, flow]

/-- A script never loses a chunk, whatever happens to the host. -/
theorem chunks_script_prefix_undergo (h : Host) (container : String) (e : Happening) :
    (h.script container).chunks <+: ((h.undergo e).script container).chunks := by
  cases h with
  | live log =>
    rw [undergo_live]
    split
    · exact List.prefix_rfl
    · cases ha : log.attached <;> cases e <;> simp [script_live, ha]
  | _ => simp [undergo_of_not_live]

/-- What is over stays as it is. -/
theorem script_undergo_of_ends {h : Host} {container : String}
    (ho : (h.script container).ends = true) (e : Happening) :
    (h.undergo e).script container = h.script container := by
  cases h with
  | live log =>
    rw [undergo_live]
    split
    · rfl
    · next hf =>
      cases ha : log.attached with
      | false => simp [script_live, ha] at ho; exact absurd ho hf
      | true => cases e <;> simp [script_live, ha]
  | _ => rw [undergo_of_not_live (by simp)]

/-- An attach makes kin. -/
theorem kin_of_attach {h h' : Host} {container : String} {t : Tail}
    (ha : h.attach container {} = .stream t h') : Kin h h' t := by
  cases h with
  | live log =>
    unfold attach at ha
    dsimp only at ha
    split at ha
    · cases ha
    · next hf => cases ha; exact .live (Bool.eq_false_iff.2 hf) rfl
  | replay => cases ha; exact .given (undergo_of_not_live (by simp))
  | failing => cases ha
  | staged attachment =>
    cases attachment with
    | yields => cases ha; exact .given (undergo_of_not_live (by simp))
    | _ => cases ha
  | daemon frames refusal =>
    cases refusal <;> cases ha <;> exact .given (undergo_of_not_live (by simp))

/-- Taking an item leaves kin. -/
theorem Kin.next {origin h h' : Host} {t t' : Tail} {i : Item} (hk : Kin origin h t)
    (hn : h.next t = (.item i, t', h')) : Kin origin h' t' := by
  cases hk with
  | given hu =>
    next items staysOpen =>
    cases items with
    | nil => cases staysOpen <;> cases hn
    | cons i items => cases hn; exact .given hu
  | live ha hf =>
    unfold Host.next at hn
    dsimp only at hn
    split at hn
    · cases hn; exact .live ha hf
    · split at hn <;> cases hn

/-- What happens to a log extends what a stream still has to say as it extends the script of the
    host that nobody has attached to. -/
theorem Kin.undergo {origin h : Host} {t : Tail} {container : String} {said : List Chunk}
    (hk : Kin origin h t) (hs : origin.script container = (h.flow t).behind said) (e : Happening) :
    Kin (origin.undergo e) (h.undergo e) t ∧
      (origin.undergo e).script container = ((h.undergo e).flow t).behind said := by
  cases hk with
  | given hu => rw [hu]; exact ⟨.given hu, hs⟩
  | live ha hf =>
    next l₀ l =>
    simp only [undergo_live, hf]
    split
    · exact ⟨.live ha hf, hs⟩
    · next hl =>
      simp only [script_live, ha, flow, selected_all, Script.behind, Script.mk.injEq,
        Bool.false_eq_true, if_false] at hs
      cases e with
      | pushed c =>
        exact ⟨.live ha rfl, by simp [script_live, ha, flow, Script.behind, hs.1]⟩
      | finished => exact ⟨.live ha rfl, by simp [script_live, ha, flow, Script.behind, hs.1]⟩

end Host

end Readiness
