import Readiness.Command.Run
import Readiness.Proofs.Config.Sources
import Readiness.Proofs.Gate.Starting

/-!
# The capacity of the log queues

How many chunks may wait at an output is a setting. It is read from an environment or from a document
(`Config.Source`), is left alone by a command on top of that, and becomes the capacity of the queues
of every session that a gate prepares (`Gate.capacity_prepareSession`).

A configuration bounds it from below only, whereas queues have a greatest capacity too. So there are
configurations, from either source, that are accepted and on which a gate cannot be started; to try
is fatal. `Gate.start?_eq_none_iff_logBuffer` says when this happens: the gate has still to open, all
its requirements can be made, and the setting is above the greatest capacity.
-/

namespace Readiness

/-! ### Sources of a configuration -/

/-- What a configuration is read from. -/
inductive Config.Source
  | environment (env : Environment)
  | document (content : String)

namespace Config.Source

/-- The settings in a source. -/
def settings : Source → Except ConfigError Settings
  | environment env => env.settings
  | document content =>
    match Toml.parse content with
    | none => .error (.parse .malformed)
    | some fields =>
      match Settings.ofFields fields with
      | .ok s => .ok s
      | .error fault => .error (.parse (.data fault))

/-- The configuration in a source. -/
def config : Source → Except ConfigError Config
  | environment env => ofEnvironment env
  | document content => ofDocument content

theorem config_eq (source : Source) : source.config = source.settings >>= Settings.config := by
  cases source with
  | environment env => rfl
  | document content =>
    rw [config, settings, ofDocument]
    rcases Toml.parse content with _ | fields
    · rfl
    · rcases hs : Settings.ofFields fields with _ | _ <;> (simp only [hs]; rfl)

/-- A source that sets the buffer and nothing else. -/
inductive SetsBuffer (n : Nat) : Source → Prop
  | environment :
      SetsBuffer n (.environment (.ofList [(Environment.logBuffer, toString n)]))
  | document : SetsBuffer n (.document ("log_buffer = " ++ toString n))

namespace SetsBuffer

variable {n : Nat} {source : Source}

theorem document_eq (n : Nat) :
    Settings.document [.logBuffer n] "" = "log_buffer = " ++ toString n :=
  Toml.listing_singleton.trans String.append_empty

/-- A source that sets the buffer gives it. -/
theorem settings_eq (h : source.SetsBuffer n) (hn : n ≤ 0x7FFFFFFFFFFFFFFF) :
    source.settings = .ok { logBuffer := some n } := by
  let s : Settings := { logBuffer := some n }
  have hf : s.Fits := ⟨nofun, nofun, fun m hm => Option.mem_some.1 hm ▸ hn, nofun⟩
  cases h with
  | environment => exact Environment.settings_of_holds ⟨rfl, rfl, rfl, rfl, rfl⟩ rfl hf
  | document =>
    have hp : [Assignment.logBuffer n].Perm s.assigned := .refl _
    have ht : Toml.parse ("log_buffer = " ++ toString n) = _ :=
      document_eq n ▸ Settings.parse_document hf hp (.inl rfl)
    simp only [settings, ht, Settings.ofFields_of_perm rfl hp]
    rfl

/-- Every number of 63 bits but zero is accepted. -/
theorem config_eq (h : source.SetsBuffer n) (h0 : 0 < n) (hn : n ≤ 0x7FFFFFFFFFFFFFFF) :
    source.config = .ok { logBuffer := n, logBuffer_pos := h0 } := by
  rw [Source.config_eq, h.settings_eq hn]
  exact dif_pos h0

end SetsBuffer

end Config.Source

/-- A configuration has what was set of the two settings with a bound, or else their defaults. -/
theorem Settings.bounded_config {s : Settings} {c : Config} (h : s.config = .ok c) :
    c.logBuffer = s.logBuffer.getD Splitter.defaultCapacity ∧
      c.pollInterval = s.pollIntervalMs.getD 50 := by
  unfold config at h
  dsimp only at h
  split at h
  · split at h
    · cases h; exact ⟨rfl, rfl⟩
    · cases h
  · cases h

/-- A configuration has the buffer that was set, or the usual one. -/
theorem Settings.logBuffer_config {s : Settings} {c : Config} (h : s.config = .ok c) :
    c.logBuffer = s.logBuffer.getD Splitter.defaultCapacity :=
  (bounded_config h).1

namespace Gate

variable {g : Gate}

/-- On a configuration that was read from a source, with or without a command on top of it, the queues
    of a gate's sessions have the capacity that was set, or else the usual one. To start the gate is
    fatal exactly if it has still to open, all its requirements can be made, and the capacity was set
    to more than a queue can have. Otherwise it is started. -/
theorem start?_eq_none_iff_logBuffer {source : Config.Source} {c : Config}
    (hc : source.config = .ok c)
    (hg : g.config = c ∨ ∃ a : Command.WaitArgs, g.config = a.apply c) :
    ∃ s, source.settings = .ok s ∧
      (∀ watches, (g.prepareSession watches).pipeline.splitter.capacity =
        s.logBuffer.getD Splitter.defaultCapacity) ∧
      ∀ scene,
        (g.start? scene = none ↔ g.isStarted = false ∧ (∃ rs, g.requirements = .ok rs) ∧
          ∃ n, s.logBuffer = some n ∧ Splitter.maxCapacity < n) ∧
        ∀ r, g.start? scene = some r → r = g.start scene := by
  rw [Config.Source.config_eq] at hc
  obtain ⟨s, hs, hc⟩ := bind_eq_ok_iff.1 hc
  have hb : g.config.logBuffer = s.logBuffer.getD Splitter.defaultCapacity := by
    rw [← Settings.logBuffer_config hc]
    obtain hg | ⟨a, hg⟩ := hg
    · rw [hg]
    · -- A command leaves the buffer alone.
      rw [hg, Command.WaitArgs.apply]
  have hmax : Splitter.maxCapacity < s.logBuffer.getD Splitter.defaultCapacity ↔
      ∃ n, s.logBuffer = some n ∧ Splitter.maxCapacity < n := by
    cases s.logBuffer with
    | none => simp [Splitter.maxCapacity, Splitter.defaultCapacity]
    | some n => simp
  refine ⟨s, hs, fun watches => (capacity_prepareSession g watches).trans hb, fun scene =>
    ⟨?_, fun r => eq_start_of_start?⟩⟩
  rw [start?_eq_none_iff, hb, hmax]

/-- The greatest capacity, read from the environment, and one more, read from a document, with a
    command on top. -/
theorem start?_eq_none_iff_logBuffer_greatest :
    (∃ c, Config.ofEnvironment (.ofList [("DOCKER_READY_LOG_BUFFER", "2305843009213693951")]) = .ok c ∧
      start? { container := "box", config := c } { host := .replay [] } ≠ none) ∧
    ∃ c, Config.ofDocument "log_buffer = 2305843009213693952" = .ok c ∧
      (Command.WaitArgs.gate { container := "box", logs := ["up"] } c).start? { host := .replay [] } =
        none := by
  have henv := Config.Source.SetsBuffer.environment (n := 2305843009213693951)
  have hdoc := Config.Source.SetsBuffer.document (n := 2305843009213693952)
  have hc := henv.config_eq (by decide) (by decide)
  have hd := hdoc.config_eq (by decide) (by decide)
  refine ⟨⟨_, hc, ?_⟩, ⟨_, hd, ?_⟩⟩
  · obtain ⟨s, hs, -, h⟩ := start?_eq_none_iff_logBuffer (g := { container := "box", config := _ })
      hc (.inl rfl)
    cases hs.symm.trans (henv.settings_eq (by decide))
    rw [ne_eq, (h _).1]
    rintro ⟨-, -, n, hn, hlt⟩
    cases hn
    exact absurd hlt (by decide)
  · obtain ⟨s, hs, -, h⟩ := start?_eq_none_iff_logBuffer
      (g := Command.WaitArgs.gate { container := "box", logs := ["up"] } _) hd (.inr ⟨_, rfl⟩)
    cases hs.symm.trans (hdoc.settings_eq (by decide))
    exact (h _).1.2 ⟨rfl, ⟨_, rfl⟩, _, rfl, by decide⟩

/-- From either source a buffer is accepted on which no gate can be started, whether a command is put
    on top of the configuration or not. -/
theorem start?_of_accepted_eq_none :
    ∃ c, Config.ofEnvironment (.ofList [("DOCKER_READY_LOG_BUFFER", "2305843009213693952")]) = .ok c ∧
      Config.ofDocument "log_buffer = 2305843009213693952" = .ok c ∧
      start? { container := "box", config := c } { host := .replay [] } = none ∧
      (Command.WaitArgs.gate { container := "box", logs := ["up"] } c).start? { host := .replay [] } =
        none := by
  have hc := Config.Source.SetsBuffer.environment.config_eq (n := 2305843009213693952) (by decide)
    (by decide)
  have hd := Config.Source.SetsBuffer.document.config_eq (n := 2305843009213693952) (by decide)
    (by decide)
  exact ⟨_, hc, hd, start?_eq_none_iff.2 ⟨rfl, ⟨_, rfl⟩, by decide⟩,
    start?_eq_none_iff.2 ⟨rfl, ⟨_, rfl⟩, by decide⟩⟩

end Gate
end Readiness
