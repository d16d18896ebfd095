import Readiness.Proofs.Config.Sources
import Readiness.Proofs.Text.Blank

/-!
# Blanks around the values of variables

A value with more blanks around it (`Environment.padded`) trims to the same (`trimChars_pad`). It is
blank if it was blank before, and a number reads as before (`Environment.number?_padded`), so blanks
around a number never matter.

A switch is not trimmed. Blanks around `true` or `false` make a malformed value of it, which goes
unnoticed only where a number is malformed too, as that comes first.
`Config.ofEnvironment_padded` says for every variable whether an environment comes to the same with
blanks around the value.
-/

namespace Readiness

/-! ### The environment -/

namespace Environment

/-- The environment in which more is around the value of a variable, if it has one. -/
def padded (env : Environment) (name before behind : String) : Environment := fun other =>
  if other = name then (env other).map fun raw => before ++ raw ++ behind else env other

variable {env : Environment} {name other before behind raw : String}

theorem padded_of_ne (h : other ≠ name) : env.padded name before behind other = env other :=
  if_neg h

theorem get?_padded_of_ne (h : other ≠ name) :
    (env.padded name before behind).get? other = env.get? other := by
  rw [get?, get?, padded_of_ne h]

theorem padded_empty (h : before ++ behind = "") (env : Environment) (name : String) :
    env.padded name before behind = env := by
  obtain ⟨rfl, rfl⟩ := String.append_eq_empty_iff.1 h
  funext other
  simp only [padded, String.empty_append, String.append_empty, Option.map_id', ite_self]

/-- A variable has a switch in it. -/
def IsSwitch (env : Environment) (name : String) : Prop :=
  env name = some "true" ∨ env name = some "false"

theorem IsSwitch.exists_word (h : env.IsSwitch name) :
    ∃ word, env name = some word ∧ word.toList.any isBlank = false := by
  rcases h with h | h
  · exact ⟨_, h, by decide⟩
  · exact ⟨_, h, by decide⟩

theorem IsSwitch.get? (h : env.IsSwitch name) : ∃ raw, env.get? name = some raw := by
  rcases h with h | h
  · exact ⟨_, get?_eq h (by decide)⟩
  · exact ⟨_, get?_eq h (by decide)⟩

theorem IsSwitch.switch? (h : env.IsSwitch name) : ∃ on, env.switch? name = .ok on := by
  rcases h with h | h
  · exact ⟨_, switch?_eq (o := some true) h⟩
  · exact ⟨_, switch?_eq (o := some false) h⟩

theorem eq_some_of_get? (h : env.get? name = some raw) : env name = some raw := by
  unfold get? at h
  split at h
  · split at h
    · cases h
    · rwa [← h]
  · cases h

theorem switch?_of_not_isSwitch (h : ¬ env.IsSwitch name) :
    env.switch? name =
      match env.get? name with
      | none => .ok none
      | some _ => .error (.invalidValue name .notBoolean) := by
  rw [switch?]
  split
  · simp only [*]
  · exact absurd (.inl (eq_some_of_get? ‹_›)) h
  · exact absurd (.inr (eq_some_of_get? ‹_›)) h
  · simp only [*]

/-- The settings that are numbers. -/
def numbers (env : Environment) : Except ConfigError Settings := do
  let waitSecs ← env.number? waitSecs
  let pollIntervalMs ← env.number? pollIntervalMs
  let logBuffer ← env.number? logBuffer
  let shutdownGraceMs ← env.number? shutdownGraceMs
  return { waitSecs, pollIntervalMs, logBuffer, shutdownGraceMs }

theorem settings_eq (env : Environment) : env.settings = do
    let s ← env.numbers
    let on ← env.switch? printLogs
    return { s with printLogs := on } := by
  simp only [settings, numbers, bind_assoc, pure_bind]

/-- Blanks around the value of a variable are where they matter: around a switch, all else being in
    order. -/
structure Spoils (env : Environment) (name before behind : String) : Prop where
  name_eq : name = printLogs
  isSwitch : env.IsSwitch printLogs
  ne_empty : before ++ behind ≠ ""
  readable : ∃ s, env.settings = .ok s

/-! ### Blanks -/

section Blank

variable (hb : IsBlanks before.toList) (hc : IsBlanks behind.toList)
include hb hc

/-- Blanks around a text are trimmed with it. -/
theorem trim_pad (raw : String) : trim (before ++ raw ++ behind) = trim raw := by
  rw [trim, trim, String.toList_append, String.toList_append, trimChars_pad hb hc]

/-- A value is blank with or without blanks around it. -/
theorem get?_padded (env : Environment) (name : String) :
    (env.padded name before behind).get? name =
      (env.get? name).map fun raw => before ++ raw ++ behind := by
  rw [get?, get?, padded, if_pos rfl]
  cases env name with
  | none => rfl
  | some raw =>
    simp only [Option.map_some, String.toList_append, trimChars_pad hb hc]
    split <;> rfl

/-- A number is read through the blanks around it. -/
theorem number?_padded (env : Environment) (name other : String) :
    (env.padded name before behind).number? other = env.number? other := by
  by_cases h : other = name
  · rw [h, number?, number?, get?_padded hb hc]
    cases env.get? name with
    | none => rfl
    | some raw => simp only [Option.map_some, trim_pad hb hc]
  · rw [number?, number?, get?_padded_of_ne h]

/-- With blanks around it no value is a switch. -/
theorem not_isSwitch_padded (hn : before ++ behind ≠ "") (env : Environment) (name : String) :
    ¬ (env.padded name before behind).IsSwitch name := by
  intro h
  obtain ⟨word, hword, hw⟩ := h.exists_word
  rw [padded, if_pos rfl] at hword
  obtain ⟨raw, -, rfl⟩ := Option.map_eq_some_iff.1 hword
  refine hn (String.toList_eq_nil_iff.1 (List.eq_nil_iff_forall_not_mem.2 fun c hm => ?_))
  simp only [String.toList_append, List.any_eq_false, List.mem_append] at hm hw
  rcases hm with hm | hm
  · exact hw c (.inl (.inl hm)) (hb c hm)
  · exact hw c (.inr hm) (hc c hm)

/-- A switch is read alike as long as nothing is put around its word. -/
theorem switch?_padded (h : env.IsSwitch name → before ++ behind = "") :
    (env.padded name before behind).switch? name = env.switch? name := by
  by_cases hn : before ++ behind = ""
  · rw [padded_empty hn]
  · rw [switch?_of_not_isSwitch (not_isSwitch_padded hb hc hn env name),
      switch?_of_not_isSwitch (mt h hn), get?_padded hb hc]
    cases env.get? name <;> rfl

theorem numbers_padded (env : Environment) (name : String) :
    (env.padded name before behind).numbers = env.numbers := by
  simp only [numbers, number?_padded hb hc]

/-- Blanks that do not spoil the switch leave the settings alone. -/
theorem settings_padded (h : ¬ env.Spoils name before behind) :
    (env.padded name before behind).settings = env.settings := by
  by_cases hname : name = printLogs
  · subst hname
    by_cases hw : env.IsSwitch printLogs → before ++ behind = ""
    · rw [settings_eq, settings_eq, numbers_padded hb hc, switch?_padded hb hc hw]
    · -- A number is malformed, and nobody looks at the switch.
      obtain ⟨hs, hn⟩ := Classical.not_imp.1 hw
      obtain ⟨on, hon⟩ := hs.switch?
      rw [settings_eq, settings_eq, numbers_padded hb hc]
      cases hm : env.numbers with
      | error e => rfl
      | ok s =>
        have hr : env.settings = .ok { s with printLogs := on } := by
          rw [settings_eq, hm, hon]
          rfl
        exact absurd ⟨rfl, hs, hn, _, hr⟩ h
  · have hp : (env.padded name before behind).switch? printLogs = env.switch? printLogs := by
      rw [switch?, switch?, get?_padded_of_ne (Ne.symm hname)]
    rw [settings_eq, settings_eq, numbers_padded hb hc, hp]

/-- Blanks that spoil the switch are a failure at it. -/
theorem Spoils.settings (h : env.Spoils name before behind) :
    (env.padded name before behind).settings = .error (.invalidValue printLogs .notBoolean) := by
  obtain ⟨rfl, hs, hn, s, hr⟩ := h
  obtain ⟨raw, hraw⟩ := hs.get?
  rw [settings_eq, bind_eq_ok_iff] at hr
  obtain ⟨s, hm, -⟩ := hr
  rw [settings_eq, numbers_padded hb hc, hm,
    switch?_of_not_isSwitch (not_isSwitch_padded hb hc hn env printLogs), get?_padded hb hc, hraw]
  rfl

end Blank

end Environment

/-! ### Outcomes -/

/-- A failure, if it is one, is that of a value and names its key. -/
def NamesKey {α : Type} (x : Except ConfigError α) : Prop :=
  ∀ e, x = .error e → ∃ key fault, e = .invalidValue key fault

theorem NamesKey.ok {α : Type} (a : α) : NamesKey (.ok a) := nofun

theorem NamesKey.invalidValue {α : Type} (key : String) (fault : ValueFault) :
    NamesKey (.error (.invalidValue key fault) : Except ConfigError α) := by
  rintro _ ⟨⟩
  exact ⟨key, fault, rfl⟩

/-- A sequence of readings names a key if each of them does. -/
theorem NamesKey.bind {α β : Type} {x : Except ConfigError α} {f : α → Except ConfigError β}
    (hx : NamesKey x) (hf : ∀ a, NamesKey (f a)) : NamesKey (x >>= f) := by
  cases x with
  | error e => exact fun e' h => hx e' (congrArg Except.error (Except.error.inj h))
  | ok a => exact hf a

namespace Environment

theorem number?_namesKey (env : Environment) (name : String) : NamesKey (env.number? name) := by
  unfold number?
  split
  · exact .ok _
  · split
    · exact .ok _
    · exact .invalidValue _ _

theorem switch?_namesKey (env : Environment) (name : String) : NamesKey (env.switch? name) := by
  unfold switch?
  split
  · exact .ok _
  · exact .ok _
  · exact .ok _
  · exact .invalidValue _ _

theorem settings_namesKey (env : Environment) : NamesKey env.settings :=
  (env.number?_namesKey _).bind fun _ => (env.number?_namesKey _).bind fun _ =>
    (env.number?_namesKey _).bind fun _ => (env.number?_namesKey _).bind fun _ =>
      (env.switch?_namesKey _).bind fun _ => .ok _

end Environment

theorem Settings.config_namesKey (s : Settings) : NamesKey s.config := by
  intro e h
  rcases Settings.config_eq_error_iff.1 h with ⟨-, rfl⟩ | ⟨-, -, rfl⟩
  · exact ⟨_, _, rfl⟩
  · exact ⟨_, _, rfl⟩

namespace Config

/-- The same configuration, or failures at the same key. -/
inductive Alike : Except ConfigError Config → Except ConfigError Config → Prop
  | ok (c : Config) : Alike (.ok c) (.ok c)
  | key (key : String) (fault fault' : ValueFault) :
      Alike (.error (.invalidValue key fault)) (.error (.invalidValue key fault'))

/-- What is wrong with an environment names one of its keys. -/
theorem ofEnvironment_namesKey (env : Environment) : NamesKey (ofEnvironment env) :=
  env.settings_namesKey.bind Settings.config_namesKey

theorem Alike.of_namesKey {x : Except ConfigError Config} (h : NamesKey x) : Alike x x := by
  cases x with
  | ok c => exact .ok c
  | error e =>
    obtain ⟨key, fault, rfl⟩ := h e rfl
    exact .key key fault fault

/-- What is wrong with settings that have been read is not where a switch is. -/
theorem not_alike_config (s : Settings) (fault : ValueFault) :
    ¬ Alike (.error (.invalidValue Environment.printLogs fault)) s.config := by
  intro h
  generalize hx : s.config = x at h
  obtain _ | ⟨_, _, fault'⟩ := h
  rcases Settings.config_eq_error_iff.1 hx with ⟨-, h⟩ | ⟨-, -, h⟩
  · exact absurd (ConfigError.invalidValue.inj h).1 (by decide)
  · exact absurd (ConfigError.invalidValue.inj h).1 (by decide)

variable {env : Environment} {name before behind : String}

/-- Blanks around the value of a variable, whichever and of whatever environment, change nothing, not
    even what a failure says, unless they spoil a switch. Then they are a failure at the switch, and
    without them there is none. -/
theorem ofEnvironment_padded (hb : IsBlanks before.toList) (hc : IsBlanks behind.toList) :
    (Alike (ofEnvironment (env.padded name before behind)) (ofEnvironment env) ↔
        ¬ env.Spoils name before behind) ∧
      (¬ env.Spoils name before behind →
        ofEnvironment (env.padded name before behind) = ofEnvironment env) ∧
      (env.Spoils name before behind →
        ofEnvironment (env.padded name before behind) =
          .error (.invalidValue Environment.printLogs .notBoolean)) := by
  have heq (h : ¬ env.Spoils name before behind) :
      ofEnvironment (env.padded name before behind) = ofEnvironment env := by
    rw [ofEnvironment, ofEnvironment, Environment.settings_padded hb hc h]
  have herror (h : env.Spoils name before behind) :
      ofEnvironment (env.padded name before behind) =
        .error (.invalidValue Environment.printLogs .notBoolean) := by
    rw [ofEnvironment, h.settings hb hc]
    rfl
  refine ⟨⟨fun h hs => ?_, fun h => ?_⟩, heq, herror⟩
  · obtain ⟨s, hr⟩ := hs.readable
    have hconfig : ofEnvironment env = s.config := by
      rw [ofEnvironment, hr]
      rfl
    rw [herror hs, hconfig] at h
    exact not_alike_config s _ h
  · rw [heq h]
    exact .of_namesKey (ofEnvironment_namesKey env)

/-- An environment that sets a number and a switch. -/
def quiet : Environment :=
  .ofList [(Environment.waitSecs, "30"), (Environment.printLogs, "false")]

/-- Blanks around a number change nothing, and blanks around the word of the switch spoil it. -/
theorem ofEnvironment_padded_quiet :
    ofEnvironment (quiet.padded Environment.waitSecs "\u2003" "\n") = ofEnvironment quiet ∧
      ofEnvironment (quiet.padded Environment.printLogs "" "\t") =
        .error (.invalidValue Environment.printLogs .notBoolean) := by
  have hn : ¬ quiet.Spoils Environment.waitSecs "\u2003" "\n" := fun h =>
    absurd h.name_eq (by decide)
  have hs : quiet.Spoils Environment.printLogs "" "\t" :=
    ⟨rfl, .inr (by decide), by decide, { waitSecs := some 30, printLogs := some false }, by rfl⟩
  have hb (s : String) (h : s.toList.all isBlank = true) : IsBlanks s.toList :=
    List.all_eq_true.1 h
  exact ⟨(ofEnvironment_padded (hb _ (by decide)) (hb _ (by decide))).2.1 hn,
    (ofEnvironment_padded (hb _ (by decide)) (hb _ (by decide))).2.2 hs⟩

/-- A blank in front of `false` turns a configuration into a failure. -/
theorem ofEnvironment_blank_switch :
    IsBlanks " ".toList ∧
      ofEnvironment quiet = .ok { waitTimeout := 30000, printLogs := false } ∧
      ofEnvironment (quiet.padded Environment.printLogs " " "") =
        .error (.invalidValue "DOCKER_READY_PRINT_LOGS" .notBoolean) ∧
      ¬ Alike (ofEnvironment (quiet.padded Environment.printLogs " " ""))
        (ofEnvironment quiet) := by
  have hok : ofEnvironment quiet = .ok { waitTimeout := 30000, printLogs := false } := by rfl
  have herror : ofEnvironment (quiet.padded Environment.printLogs " " "") =
      .error (.invalidValue "DOCKER_READY_PRINT_LOGS" .notBoolean) := by rfl
  refine ⟨List.all_eq_true.1 (by decide), hok, herror, fun h => ?_⟩
  rw [herror, hok] at h
  cases h

end Config

end Readiness
