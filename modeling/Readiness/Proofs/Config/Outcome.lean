import Readiness.Proofs.Config.Padding

/-!
# What an environment comes to

Each of the five variables is unset, set to a value, or malformed. What counts as which can be said
without the reader (`Environment.IsUnset`, `Environment.Gives`, `Environment.IsMalformed`), and the
reader agrees (`Environment.number?_eq_ok_iff`, `Environment.switch?_eq_ok_iff`).

The variables are looked at in order (`Environment.discard_settings`), so the first malformed one is
the failure. Where none is malformed the settings are the values that are given, and only then their
bounds matter, first that of the buffer and then that of the poll interval
(`Config.ofEnvironment_decides`).
-/

namespace Readiness

variable {α ε : Type}

/-- Of steps one after the other, the first failure is that of all. -/
theorem forM_eq_error {f : α → Except ε Unit} {before behind : List α} {a : α} {e : ε}
    (hb : ∀ b ∈ before, f b = .ok ()) (ha : f a = .error e) :
    (before ++ a :: behind).forM f = .error e := by
  induction before with
  | nil => rw [List.nil_append, List.forM, ha]; rfl
  | cons b before ih =>
    obtain ⟨hb, hbefore⟩ := List.forall_mem_cons.1 hb
    rw [List.cons_append, List.forM, hb]
    exact ih hbefore

theorem discard_eq_ok_iff {x : Except ε α} : discard x = .ok () ↔ ∃ a, x = .ok a := by
  cases x with
  | ok a => exact ⟨fun _ => ⟨a, rfl⟩, fun _ => rfl⟩
  | error e => exact ⟨nofun, nofun⟩

theorem eq_error_of_discard {x : Except ε α} {e : ε} (h : discard x = .error e) : x = .error e := by
  cases x with
  | ok a => cases h
  | error e' => exact congrArg Except.error (Except.error.inj h)

namespace Environment

variable {env env' : Environment} {name raw : String}

/-! ### Variables -/

/-- The variables that hold settings, in the order in which they are looked at. -/
def names : List String := [waitSecs, pollIntervalMs, logBuffer, shutdownGraceMs, printLogs]

/-- A variable that is not there, or has nothing but blanks in it, counts as unset. -/
def IsUnset (env : Environment) (name : String) : Prop := ∀ raw ∈ env name, IsBlanks raw.toList

/-- What a variable gives, where `Written` says how values of its kind are written. -/
inductive Gives (Written : String → α → Prop) (env : Environment) (name : String) :
    Option α → Prop
  | unset : env.IsUnset name → Gives Written env name none
  | set {raw : String} {a : α} : env name = some raw → Written raw a →
      Gives Written env name (some a)

/-- A number of 64 bits, with blanks around it or without. -/
abbrev IsNumber : String → Nat → Prop := Numeral.StandsIn Numeral.max64

/-- One of two words, and nothing around it. -/
def IsWord (raw : String) (on : Bool) : Prop := raw = if on then "true" else "false"

/-- Each of the variables that hold settings is the same in both, or unset in both. -/
def Agrees (env env' : Environment) : Prop :=
  ∀ name ∈ names, env name = env' name ∨ env.IsUnset name ∧ env'.IsUnset name

/-- A variable is set, and not to a value of its kind. -/
def IsMalformed (env : Environment) (name : String) : Prop :=
  ∃ raw, env name = some raw ∧ ¬ IsBlanks raw.toList ∧
    if name = printLogs then raw ≠ "true" ∧ raw ≠ "false" else ∀ n, ¬ IsNumber raw n

/-- The settings that the variables give. -/
structure Sets (env : Environment) (s : Settings) : Prop where
  waitSecs : env.Gives IsNumber waitSecs s.waitSecs
  pollIntervalMs : env.Gives IsNumber pollIntervalMs s.pollIntervalMs
  logBuffer : env.Gives IsNumber logBuffer s.logBuffer
  shutdownGraceMs : env.Gives IsNumber shutdownGraceMs s.shutdownGraceMs
  printLogs : env.Gives IsWord printLogs s.printLogs
  waitFor : s.waitFor = []

/-! ### Reading one -/

/-- A variable is got if it is set to more than blanks. -/
theorem get?_eq_some_iff :
    env.get? name = some raw ↔ env name = some raw ∧ ¬ IsBlanks raw.toList := by
  rw [get?]
  cases env name with
  | none => simp
  | some raw' =>
    simp only [List.isEmpty_iff, trimChars_eq_nil_iff, Option.some.injEq]
    by_cases hb : IsBlanks raw'.toList
    · simp only [if_pos hb, reduceCtorEq, false_iff]
      rintro ⟨rfl, h⟩
      exact h hb
    · simp only [if_neg hb, Option.some.injEq]
      exact ⟨fun h => ⟨h, h ▸ hb⟩, And.left⟩

theorem get?_eq_none_iff : env.get? name = none ↔ env.IsUnset name := by
  simp only [Option.eq_none_iff_forall_ne_some, ne_eq, get?_eq_some_iff, not_and, not_not, IsUnset,
    Option.mem_def]

/-- What a variable is read as is what it gives, if its values are read as they are written. -/
theorem gives_iff {Written : String → α → Prop}
    (hw : ∀ {raw a}, Written raw a → ¬ IsBlanks raw.toList) {o : Option α} :
    env.Gives Written name o ↔
      match env.get? name with
      | none => o = none
      | some raw => ∃ a, o = some a ∧ Written raw a := by
  constructor
  · rintro (hu | ⟨hraw, h⟩)
    · rw [get?_eq_none_iff.2 hu]
    · rw [get?_eq_some_iff.2 ⟨hraw, hw h⟩]
      exact ⟨_, rfl, h⟩
  · intro h
    split at h
    · next hn => exact h ▸ .unset (get?_eq_none_iff.1 hn)
    · next raw hs =>
      obtain ⟨a, rfl, h⟩ := h
      exact .set (get?_eq_some_iff.1 hs).1 h

/-- A number is read from a variable just where the variable gives one. -/
theorem number?_eq_ok_iff {o : Option Nat} :
    env.number? name = .ok o ↔ env.Gives IsNumber name o := by
  rw [gives_iff Numeral.StandsIn.not_isBlanks, number?]
  cases env.get? name with
  | none => simp [eq_comm]
  | some raw =>
    simp only [← Numeral.parse_trim_eq_ok_iff]
    cases Numeral.parse Numeral.max64 (trim raw) <;> simp [eq_comm]

/-- A word has more than blanks in it. -/
theorem IsWord.not_isBlanks {on : Bool} (h : IsWord raw on) : ¬ IsBlanks raw.toList := by
  intro hb
  cases on with
  | false =>
    rw [show raw = "false" from h] at hb
    exact absurd (hb 'f' (by decide)) (by decide)
  | true =>
    rw [show raw = "true" from h] at hb
    exact absurd (hb 't' (by decide)) (by decide)

/-- The words of a switch are `true` and `false`. -/
theorem isWord_iff {on : Bool} :
    IsWord raw on ↔ raw = "true" ∧ on = true ∨ raw = "false" ∧ on = false := by
  cases on <;> simp [IsWord]

/-- A switch is read from a variable just where the variable gives one. -/
theorem switch?_eq_ok_iff {o : Option Bool} :
    env.switch? name = .ok o ↔ env.Gives IsWord name o := by
  rw [gives_iff IsWord.not_isBlanks, switch?]
  split
  · next hn => simp [hn, eq_comm]
  · next ht => simp [ht, isWord_iff, eq_comm]
  · next hf => simp [hf, isWord_iff, eq_comm]
  · next raw ht hf hraw =>
    have hno : raw ≠ "true" ∧ raw ≠ "false" := ⟨fun h => ht h, fun h => hf h⟩
    simp [hraw, isWord_iff, hno]

/-! ### Reading all -/

/-- What is read is what the variables give. -/
theorem settings_eq_ok_iff {s : Settings} : env.settings = .ok s ↔ env.Sets s := by
  simp only [settings, bind_eq_ok_iff, number?_eq_ok_iff, switch?_eq_ok_iff, pure, Except.pure,
    Except.ok.injEq]
  constructor
  · rintro ⟨_, h₁, _, h₂, _, h₃, _, h₄, _, h₅, rfl⟩
    exact ⟨h₁, h₂, h₃, h₄, h₅, rfl⟩
  · intro h
    refine ⟨_, h.waitSecs, _, h.pollIntervalMs, _, h.logBuffer, _, h.shutdownGraceMs, _,
      h.printLogs, ?_⟩
    rw [← h.waitFor]

/-- Looks at one variable only. -/
def attempt (env : Environment) (name : String) : Except ConfigError Unit :=
  if name = printLogs then discard (env.switch? name) else discard (env.number? name)

/-- The variables are looked at in order. -/
theorem discard_settings (env : Environment) : discard env.settings = names.forM env.attempt := by
  simp only [names, List.forM, attempt, settings]
  rw [if_neg (by decide), if_neg (by decide), if_neg (by decide), if_neg (by decide), if_true]
  cases env.number? waitSecs with
  | error e => rfl
  | ok waitSecs =>
  cases env.number? pollIntervalMs with
  | error e => rfl
  | ok pollIntervalMs =>
  cases env.number? logBuffer with
  | error e => rfl
  | ok logBuffer =>
  cases env.number? shutdownGraceMs with
  | error e => rfl
  | ok shutdownGraceMs => cases env.switch? printLogs <;> rfl

/-- To read a variable goes well if it is set to something that has a meaning, or is not set. -/
theorem discard_eq_ok_iff_of_gives {Written : String → α → Prop} {x : Except ConfigError (Option α)}
    (hw : ∀ {raw a}, Written raw a → ¬ IsBlanks raw.toList)
    (hx : ∀ {o}, x = .ok o ↔ env.Gives Written name o) : discard x = .ok () ↔
      ∀ raw, env name = some raw → ¬ IsBlanks raw.toList → ∃ a, Written raw a := by
  rw [discard_eq_ok_iff]
  simp only [hx, gives_iff hw, ← and_imp, ← get?_eq_some_iff]
  cases env.get? name with
  | none => simp
  | some raw => simp

theorem discard_number?_eq_ok_iff : discard (env.number? name) = .ok () ↔
    ∀ raw, env name = some raw → ¬ IsBlanks raw.toList → ∃ n, IsNumber raw n :=
  discard_eq_ok_iff_of_gives Numeral.StandsIn.not_isBlanks number?_eq_ok_iff

theorem discard_switch?_eq_ok_iff : discard (env.switch? name) = .ok () ↔
    ∀ raw, env name = some raw → ¬ IsBlanks raw.toList → raw = "true" ∨ raw = "false" := by
  rw [discard_eq_ok_iff_of_gives IsWord.not_isBlanks switch?_eq_ok_iff]
  simp [isWord_iff, exists_or, or_comm]

/-- An attempt at a variable goes well just if the variable is not malformed. -/
theorem attempt_eq_ok_iff : env.attempt name = .ok () ↔ ¬ env.IsMalformed name := by
  rw [attempt, IsMalformed]
  split
  · rw [discard_switch?_eq_ok_iff]
    push Not
    exact forall₂_congr fun raw _ => imp_congr_right fun _ => or_iff_not_imp_left
  · rw [discard_number?_eq_ok_iff]
    push Not
    exact Iff.rfl

/-- An environment without malformed variables has settings. -/
theorem exists_settings_of_forall (h : ∀ name ∈ names, ¬ env.IsMalformed name) :
    ∃ s, env.settings = .ok s := by
  rw [← discard_eq_ok_iff, discard_settings, forM_eq_ok_iff]
  exact fun name hm => attempt_eq_ok_iff.2 (h name hm)

/-- An attempt that fails names its variable. -/
theorem attempt_namesKey (env : Environment) (name : String) {e : ConfigError}
    (h : env.attempt name = .error e) : ∃ fault, e = .invalidValue name fault := by
  rw [attempt] at h
  split at h
  · have h := eq_error_of_discard h
    rw [switch?] at h
    split at h <;> cases h
    exact ⟨_, rfl⟩
  · have h := eq_error_of_discard h
    rw [number?] at h
    split at h
    · cases h
    · split at h <;> cases h
      exact ⟨_, rfl⟩

/-- An attempt at a malformed variable fails, and names it. -/
theorem attempt_of_isMalformed (h : env.IsMalformed name) :
    ∃ fault, env.attempt name = .error (.invalidValue name fault) := by
  cases ha : env.attempt name with
  | ok u => exact absurd h (attempt_eq_ok_iff.1 ha)
  | error e =>
    obtain ⟨fault, rfl⟩ := env.attempt_namesKey name ha
    exact ⟨fault, rfl⟩

/-- The first malformed variable is the failure. -/
theorem settings_of_isMalformed {before behind : List String}
    (hn : names = before ++ name :: behind) (hb : ∀ other ∈ before, ¬ env.IsMalformed other)
    (h : env.IsMalformed name) : ∃ fault, env.settings = .error (.invalidValue name fault) := by
  obtain ⟨fault, hf⟩ := attempt_of_isMalformed h
  refine ⟨fault, eq_error_of_discard ?_⟩
  rw [discard_settings, hn]
  exact forM_eq_error (fun other hm => attempt_eq_ok_iff.2 (hb other hm)) hf

theorem Agrees.get?_eq (h : env.Agrees env') (hn : name ∈ names) :
    env'.get? name = env.get? name := by
  obtain h | ⟨hu, hu'⟩ := h name hn
  · rw [get?, get?, h]
  · rw [get?_eq_none_iff.2 hu, get?_eq_none_iff.2 hu']

/-- Settings depend on nothing but the names of the program. -/
theorem Agrees.settings_eq (h : env.Agrees env') : env'.settings = env.settings := by
  have hg : ∀ name ∈ names, env'.get? name = env.get? name := fun name hn => h.get?_eq hn
  simp only [names, List.forall_mem_cons, List.not_mem_nil, false_imp_iff, implies_true,
    and_true] at hg
  obtain ⟨h₁, h₂, h₃, h₄, h₅⟩ := hg
  simp only [settings, number?, switch?, h₁, h₂, h₃, h₄, h₅]

end Environment

/-! ### Bounds -/

/-- A configuration of exactly the values that are set, with the defaults for the rest. -/
structure Config.Follows (c : Config) (s : Settings) : Prop where
  waitTimeout : c.waitTimeout = (s.waitSecs.map (· * 1000)).getD 10000
  pollInterval : c.pollInterval = s.pollIntervalMs.getD 50
  logBuffer : c.logBuffer = s.logBuffer.getD 64
  shutdownGrace : c.shutdownGrace = s.shutdownGraceMs.getD 1000
  printLogs : c.printLogs = s.printLogs.getD true
  waitFor : c.waitFor = s.waitFor

/-- What settings come to. Their bounds are looked at in this order. -/
inductive Settings.Becomes (s : Settings) : Except ConfigError Config → Prop
  | noBuffer : s.logBuffer = some 0 → s.Becomes (.error (.invalidValue "log_buffer" .belowOne))
  | noPause : s.logBuffer ≠ some 0 → s.pollIntervalMs = some 0 →
      s.Becomes (.error (.invalidValue "poll_interval" .zero))
  | config {c : Config} : c.Follows s → 1 ≤ c.logBuffer → c.pollInterval ≠ 0 → s.Becomes (.ok c)

theorem Settings.becomes_config (s : Settings) : s.Becomes s.config := by
  cases hc : s.config with
  | error e =>
    obtain ⟨hb, rfl⟩ | ⟨hb, hp, rfl⟩ := Settings.config_eq_error_iff.1 hc
    · exact .noBuffer hb
    · exact .noPause hb hp
  | ok c =>
    refine .config ?_ c.logBuffer_pos (Nat.pos_iff_ne_zero.1 c.pollInterval_pos)
    unfold Settings.config at hc
    dsimp only at hc
    split at hc
    · split at hc
      · cases hc
        exact ⟨rfl, rfl, rfl, rfl, rfl, rfl⟩
      · cases hc
    · cases hc

namespace Config

open Environment in
/-- The five variables decide, and blank ones are unset. The first malformed one is the failure,
    whatever is out of bounds. Where none is malformed, what the variables give is one lot of
    settings without specs, and only its bounds are left to fail. -/
theorem ofEnvironment_decides (env : Environment) :
    (∀ env', env.Agrees env' → ofEnvironment env' = ofEnvironment env) ∧
    (∀ before name behind, names = before ++ name :: behind →
      (∀ other ∈ before, ¬ env.IsMalformed other) → env.IsMalformed name →
        ∃ fault, ofEnvironment env = .error (.invalidValue name fault)) ∧
    ((∀ name ∈ names, ¬ env.IsMalformed name) →
      ∃ s, env.Sets s ∧ (∀ s', env.Sets s' → s' = s) ∧ s.Becomes (ofEnvironment env)) := by
  refine ⟨fun env' h => ?_, fun before name behind hn hb hm => ?_, fun h => ?_⟩
  · rw [ofEnvironment, ofEnvironment, h.settings_eq]
  · obtain ⟨fault, hf⟩ := settings_of_isMalformed hn hb hm
    refine ⟨fault, ?_⟩
    rw [ofEnvironment, hf]
    rfl
  · obtain ⟨s, hs⟩ := exists_settings_of_forall h
    refine ⟨s, settings_eq_ok_iff.1 hs, fun s' hs' => ?_, ?_⟩
    · exact Except.ok.inj ((settings_eq_ok_iff.2 hs').symm.trans hs)
    · have he : ofEnvironment env = s.config := by
        rw [ofEnvironment, hs]
        rfl
      exact he ▸ s.becomes_config

/-- The first malformed variable stands between one that is out of bounds and another that is
    malformed. -/
def crossed : Environment := .ofList [(Environment.pollIntervalMs, "0"),
  (Environment.logBuffer, "9x"), (Environment.printLogs, "yes")]

/-- Both bounds are broken by well-formed values. -/
def narrow : Environment := .ofList [(Environment.waitSecs, "\u2003"),
  (Environment.pollIntervalMs, " +0\n"), (Environment.logBuffer, "00")]

/-- Reported are the first malformed variable and, where none is malformed, the buffer before the
    poll interval; another variable makes no difference. -/
theorem ofEnvironment_decides_crossed :
    (∃ fault, ofEnvironment crossed = .error (.invalidValue Environment.logBuffer fault)) ∧
      ofEnvironment narrow = .error (.invalidValue "log_buffer" .belowOne) ∧
      ofEnvironment (fun name => if name = "HOME" then some "/" else narrow name) =
        ofEnvironment narrow := by
  refine ⟨?_, ?_, ?_⟩
  · have hm : crossed.IsMalformed Environment.logBuffer :=
      not_not.1 fun h => absurd (Environment.attempt_eq_ok_iff.2 h) (by decide)
    have hb : ∀ other ∈ [Environment.waitSecs, Environment.pollIntervalMs],
        ¬ crossed.IsMalformed other := by
      simp only [List.forall_mem_cons]
      exact ⟨Environment.attempt_eq_ok_iff.1 (by decide),
        Environment.attempt_eq_ok_iff.1 (by decide), by simp⟩
    exact (ofEnvironment_decides crossed).2.1 _ _ _ rfl hb hm
  · have hb : ∀ name ∈ Environment.names, ¬ narrow.IsMalformed name := by
      simp only [Environment.names, List.forall_mem_cons]
      exact ⟨Environment.attempt_eq_ok_iff.1 (by decide),
        Environment.attempt_eq_ok_iff.1 (by decide), Environment.attempt_eq_ok_iff.1 (by decide),
        Environment.attempt_eq_ok_iff.1 (by decide), Environment.attempt_eq_ok_iff.1 (by decide),
        by simp⟩
    obtain ⟨s, hs, hu, hbecomes⟩ := (ofEnvironment_decides narrow).2.2 hb
    have hzero : narrow.Sets { pollIntervalMs := some 0, logBuffer := some 0 } :=
      Environment.settings_eq_ok_iff.1 (by decide)
    cases hu _ hzero
    cases hout : ofEnvironment narrow with
    | ok c =>
      rw [hout] at hbecomes
      obtain _ | _ | ⟨hc, hpos, -⟩ := hbecomes
      exact absurd (hc.logBuffer ▸ hpos) (by decide)
    | error e =>
      rw [hout] at hbecomes
      cases hbecomes with
      | noBuffer _ => rfl
      | noPause hn _ => exact absurd rfl hn
  · refine (ofEnvironment_decides narrow).1 _ fun name hn => .inl ?_
    have hne : name ≠ "HOME" := by
      rintro rfl
      exact absurd hn (by decide)
    rw [if_neg hne]

end Config

end Readiness
