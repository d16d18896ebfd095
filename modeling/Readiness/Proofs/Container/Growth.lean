import Readiness.Proofs.Container.CurrentLog
import Readiness.Proofs.Log.Mentions
import Readiness.Proofs.Wait.Hearing

/-!
# A log that grows

A host at a later moment (`Host.Grows`) has been followed and fetched, things have happened to it,
and a daemon may have more frames to serve. What it shows of its log is not always the earlier text
with more behind it: where a daemon's log ended within a character, the replacement that stood for
it goes when the rest of the character comes. Everything before that replacement stays, whatever the
bytes are (`Utf8.infix_decodeFrom_append`). A live log is read chunk by chunk and loses nothing at
all.

So a message without a replacement that is found in a log is found in it ever after
(`Host.Grows.shows`), and a check for it that has held once holds from then on, in one wait or over
several (`Vigil.check_fullLog_holds_on`).
-/

namespace Readiness

namespace Utf8

/-- Of what was decoded, only a replacement at the very end may go when more bytes come. -/
theorem infix_decodeFrom_append {l : List Char} (hl : replacement ∉ l) {p : Option Partial}
    {as : Bytes} (h : l <:+: decodeFrom p as) (bs : Bytes) : l <:+: decodeFrom p (as ++ bs) := by
  have hstays : emitted p as <:+: decodeFrom p (as ++ bs) := by
    rw [decodeFrom_append]
    exact (List.prefix_append _ _).isInfix
  rw [decodeFrom_eq] at h
  refine List.IsInfix.trans ?_ hstays
  cases hh : held p as with
  | none => rwa [hh, finish, List.append_nil] at h
  | some q =>
    -- A piece that is not the replacement lies before it.
    rw [hh, finish, infix_append_cons_iff hl] at h
    exact h.elim id fun hn => List.infix_nil.1 hn ▸ List.nil_infix

end Utf8

namespace Host

/-- A host and the same host later. -/
inductive Grows : Host → Host → Prop
  | refl (h : Host) : Grows h h
  /-- Something happens to it: a live log is pushed to, or finished. -/
  | undergoes {h h' : Host} (e : Happening) : Grows h h' → Grows h (h'.undergo e)
  | attaches {h h' h'' : Host} {container : String} {sel : Selection} {t : Tail} :
      Grows h h' → h'.attach container sel = .stream t h'' → Grows h h''
  | reads {h h' h'' : Host} {t t' : Tail} {n : Next} :
      Grows h h' → h'.next t = (n, t', h'') → Grows h h''
  | fetches {h h' : Host} (container : String) (sel : Selection) :
      Grows h h' → Grows h (h'.currentLog container sel).2
  /-- A daemon has more frames to serve. -/
  | serves {h : Host} {frames : List Frame} (more : List Frame) :
      Grows h (.daemon frames none) → Grows h (.daemon (frames ++ more) none)

/-- Whether a message is found in what is fetched of a container's log. -/
def shows (h : Host) (container message : String) : Bool :=
  match (h.currentLog container {}).1 with
  | .ok text => mentions text message
  | .error _ => false

variable {h h' h'' : Host} {container message : String}

theorem Grows.trans (h₁ : Grows h h') (h₂ : Grows h' h'') : Grows h h'' := by
  induction h₂ with
  | refl => exact h₁
  | undergoes e _ ih => exact .undergoes e ih
  | attaches _ ha ih => exact .attaches ih ha
  | reads _ hn ih => exact .reads ih hn
  | fetches c sel _ ih => exact .fetches c sel ih
  | serves more _ ih => exact .serves more ih

theorem shows_live (log : LiveLog) (container message : String) :
    (live log).shows container message = mentions (textByChunk log.recorded) message := by
  rw [shows, currentLog]
  dsimp only
  rw [selected_all]

/-- A text that mentions a message still does with more chunks behind it. -/
theorem mentions_textByChunk_append {as : List Chunk} (h : mentions (textByChunk as) message = true)
    (bs : List Chunk) : mentions (textByChunk (as ++ bs)) message = true := by
  rw [mentions_iff] at h ⊢
  refine h.trans (List.IsPrefix.isInfix ?_)
  simp [textByChunk]

/-! ### One step of a host -/

/-- A log keeps showing a message, whatever happens to the host. -/
theorem shows_undergo (hs : h.shows container message = true) (e : Happening) :
    (h.undergo e).shows container message = true := by
  cases h with
  | live log =>
    rw [shows_live] at hs
    cases hf : log.finished <;> cases e <;>
      simp only [undergo, push?, finish?, hf, if_true, Bool.false_eq_true, if_false,
        Option.getD_some, Option.getD_none, shows_live]
    · exact mentions_textByChunk_append hs _
    all_goals exact hs
  | _ => rwa [undergo_of_not_live (by simp)]

/-- A log keeps showing a message when a stream is attached to it. -/
theorem shows_attach {container' : String} {sel : Selection} {t : Tail}
    (hs : h.shows container message = true) (ha : h.attach container' sel = .stream t h') :
    h'.shows container message = true := by
  cases h with
  | live log =>
    rw [shows_live] at hs
    obtain ⟨log', rfl, hr⟩ := recorded_of_attach ha
    rw [shows_live, hr]
    exact hs
  | _ => rwa [attach_of_not_live (by simp) ha]

/-- A log keeps showing a message when a chunk is taken from it. -/
theorem shows_next {t t' : Tail} {n : Next} (hs : h.shows container message = true)
    (hn : h.next t = (n, t', h')) : h'.shows container message = true := by
  cases h with
  | live log =>
    rw [shows_live] at hs
    obtain ⟨log', rfl, hr⟩ := recorded_of_next hn
    rw [shows_live, hr]
    exact hs
  | _ => rwa [next_of_not_live (by simp) hn]

/-- A log that shows something is fetched without a change to the host. -/
theorem currentLog_of_shows (hs : h.shows container message = true) (container' : String)
    (sel : Selection) : (h.currentLog container' sel).2 = h := by
  cases h with
  | staged attachment failures log =>
    cases failures with
    | zero => rfl
    | succ n => cases hs
  | daemon frames refusal => cases refusal <;> rfl
  | _ => rfl

theorem shows_daemon (frames : List Frame) (container message : String) :
    (daemon frames none).shows container message =
      mentions (Utf8.decode (Chunk.join (frames.filterMap Frame.chunk?))) message := rfl

/-- A log keeps showing a message when frames are added to it, if there is no replacement character
    in the message. -/
theorem shows_daemon_append {frames : List Frame} (hm : Utf8.replacement ∉ message.toList)
    (hs : (daemon frames none).shows container message = true) (more : List Frame) :
    (daemon (frames ++ more) none).shows container message = true := by
  rw [shows_daemon, mentions_iff, Utf8.toList_decode] at hs ⊢
  rw [List.filterMap_append, Chunk.join, List.flatMap_append]
  exact Utf8.infix_decodeFrom_append hm hs _

/-- A message without a replacement that is found in a log is found in it ever after. -/
theorem Grows.shows (hg : Grows h h') (hm : Utf8.replacement ∉ message.toList)
    (hs : h.shows container message = true) : h'.shows container message = true := by
  induction hg with
  | refl => exact hs
  | undergoes e _ ih => exact shows_undergo ih e
  | attaches _ ha ih => exact shows_attach ih ha
  | reads _ hn ih => exact shows_next ih hn
  | fetches c sel _ ih => rw [currentLog_of_shows ih]; exact ih
  | serves more _ ih => exact shows_daemon_append hm ih more

end Host

/-! ### In the course of a wait -/

/-- What tasks do, and what happens, makes a host grow. -/
theorem Pipeline.Run.grows {σ ν : Type} [Listener σ ν] {x y : Host × Pipeline σ ν}
    {ms : List Move} (h : Run x ms y) : x.1.Grows y.1 := by
  induction h with
  | nil => exact .refl _
  | @task x y z t ms hs _ ih =>
    refine Host.Grows.trans ?_ ih
    obtain ⟨h', p'⟩ := y
    cases followed_of_step hs with
    | alone => exact .refl _
    | attached ha => exact .attaches (.refl _) ha
    | taken hn => exact .reads (.refl _) hn
  | happens _ ih => exact (Host.Grows.undergoes _ (.refl _)).trans ih

namespace Vigil

variable {container message : String} {v v₀ : Vigil} {i : Nat}

/-- A vigil in the course of a wait: time passes, and requirements are checked and released. -/
inductive Proceeds (container : String) (v₀ : Vigil) : Vigil → Prop
  | begins : Proceeds container v₀ v₀
  | passes {v : Vigil} (d : Nat) : Proceeds container v₀ v → Proceeds container v₀ (v.pass d)
  | checks {v : Vigil} (i : Nat) :
      Proceeds container v₀ v → Proceeds container v₀ (v.check container i).2
  | releases {v : Vigil} (i : Nat) : Proceeds container v₀ v → Proceeds container v₀ (v.release i)

theorem grows_settle (v : Vigil) : v.scene.host.Grows v.settle.scene.host := by
  unfold settle
  cases v.session with
  | none => exact .refl _
  | some s =>
    obtain ⟨ts, hl⟩ := Session.leads_settle v.scene.host s
    exact hl.1.grows

/-- While time passes a host at most grows. -/
theorem grows_pass (d : Nat) (v : Vigil) : v.scene.host.Grows (v.pass d).scene.host := by
  have hundergo (e : Happening) (w : Vigil) : w.scene.host.Grows (w.undergo e).scene.host :=
    (Host.Grows.undergoes e (.refl _)).trans
      (grows_settle { w with scene := { w.scene with host := w.scene.host.undergo e } })
  exact pass_preserves (P := fun w => v.scene.host.Grows w.scene.host)
    (fun w hw => hw.trans (grows_settle w)) (fun e w hw => hw.trans (hundergo e w))
    (fun _ _ _ hw => hw) (.refl _) d

/-- A check at most lets the host grow. -/
theorem Checks.grows {v' : Vigil} (h : v.Checks container i v') :
    v.scene.host.Grows v'.scene.host := by
  cases h with
  | looks | sends => exact .refl _
  | fetches => exact .fetches container {} (.refl _)

/-- A check leaves a search for a message in the whole log at its place. -/
theorem Checks.requirement {v' : Vigil} {j : Nat} (h : v.Checks container j v')
    (hr : v.requirements[i]? = some (.fullLog message)) :
    v'.requirements[i]? = some (.fullLog message) := by
  cases h with
  | looks | fetches => exact hr
  | sends hj =>
    -- A ping that is sent is at another place.
    have hne : j ≠ i := fun he => by rw [he, hr] at hj; cases hj
    rw [List.getElem?_set_ne hne]
    exact hr

/-- Whatever a wait proceeds by, its host at most grows. -/
theorem Proceeds.grows (h : v₀.Proceeds container v) : v₀.scene.host.Grows v.scene.host := by
  induction h with
  | begins => exact .refl _
  | passes d _ ih => exact ih.trans (grows_pass d _)
  | checks i _ ih => exact ih.trans (checks_check container i _).grows
  | releases i _ ih => exact ih

/-- A check for a message in the whole log is one in a list for good. -/
theorem Proceeds.requirement (h : v₀.Proceeds container v)
    (hr : v₀.requirements[i]? = some (.fullLog message)) :
    v.requirements[i]? = some (.fullLog message) := by
  induction h with
  | begins => exact hr
  | @passes v d _ ih =>
    obtain ⟨ms, hl⟩ := pass_leads d v
    rw [hl.requirements]
    exact ih
  | @checks v j _ ih => exact (checks_check container j v).requirement ih
  | @releases v j _ ih =>
    simp only [release, List.getElem?_modify, ih]
    split <;> rfl

theorem check_fullLog (hr : v.requirements[i]? = some (.fullLog message)) (container : String) :
    (v.check container i).1 = .ok (v.scene.host.shows container message) := by
  rw [check, requirement?_of_fullLog hr]
  rfl

/-- A check of a container's whole log for a message that has no replacement, once it has held:

* it holds of the same host at any later moment, whatever has happened to it, whoever has followed
  or fetched its log, and whatever frames a daemon has come to serve since;
* it holds whenever it is made again in the course of the wait. -/
theorem check_fullLog_holds_on (hm : Utf8.replacement ∉ message.toList)
    (hr : v₀.requirements[i]? = some (.fullLog message))
    (hc : (v₀.check container i).1 = .ok true) :
    (∀ h', v₀.scene.host.Grows h' → ∀ (v : Vigil) j, v.scene.host = h' →
      v.requirements[j]? = some (.fullLog message) → (v.check container j).1 = .ok true) ∧
    ∀ v, v₀.Proceeds container v → (v.check container i).1 = .ok true := by
  rw [check_fullLog hr, Except.ok.injEq] at hc
  have hlater (h' : Host) (hg : v₀.scene.host.Grows h') (v : Vigil) (j : Nat)
      (hh : v.scene.host = h') (hr' : v.requirements[j]? = some (.fullLog message)) :
      (v.check container j).1 = .ok true := by
    rw [check_fullLog hr', hh, hg.shows hm hc]
  exact ⟨hlater, fun v hp => hlater _ hp.grows v i rfl (hp.requirement hr)⟩

/-- A wait for a message in the whole log of a host. -/
def lookingFor (message : String) (h : Host) : Vigil where
  scene := { host := h, due := [(1, .pushed ⟨.stderr, [0xA9]⟩)] }
  requirements := [.fullLog message]

/-- A daemon's log that ends within a character, which it serves the rest of later; and a live log
    to which that rest is pushed. -/
theorem check_fullLog_holds_on_cut_character :
    let early : Vigil := lookingFor "up" (.daemon [⟨.stdout, [0x75, 0x70, 0xC3]⟩] none)
    let late : Vigil :=
      lookingFor "up" (.daemon ([⟨.stdout, [0x75, 0x70, 0xC3]⟩] ++ [⟨.stderr, [0xA9]⟩]) none)
    let live : Vigil := lookingFor "up" (.liveWith [⟨.stdout, [0x75, 0x70, 0xC3]⟩])
    Utf8.replacement ∉ "up".toList ∧
      (early.check "box" 0).1 = .ok true ∧ (late.check "box" 0).1 = .ok true ∧
      (live.check "box" 0).1 = .ok true ∧ ((live.pass 2).check "box" 0).1 = .ok true := by
  intro early late live
  have hm : Utf8.replacement ∉ "up".toList := by decide
  have he : (early.check "box" 0).1 = .ok true := by decide
  have hl : (live.check "box" 0).1 = .ok true := by decide
  exact ⟨hm, he, (check_fullLog_holds_on hm rfl he).1 _ (.serves _ (.refl _)) late 0 rfl rfl, hl,
    (check_fullLog_holds_on hm rfl hl).2 _ (.passes 2 .begins)⟩

/-- The replacement itself is found only until the rest of the character comes. -/
example : (Host.daemon [⟨.stdout, [0xC3]⟩] none).shows "box" "\uFFFD" = true ∧
    (Host.daemon [⟨.stdout, [0xC3]⟩, ⟨.stdout, [0xA9]⟩] none).shows "box" "\uFFFD" = false := by
  decide

end Vigil

end Readiness
