import Readiness.Config.Environment
import Readiness.Config.File
import Readiness.Proofs.Toml.Listing

/-!
# Two sources of a configuration

Settings may come from the environment or from a document. The same settings, set in the one or
listed in the other in whatever order, give the same configuration or the same failure
(`Config.ofEnvironment_eq_ofDocument`): both readers arrive at the settings themselves
(`Environment.settings_of_holds`, `Settings.ofFields_of_perm`), and what is wrong with those does not
depend on where they come from (`Settings.config_eq_error_iff`).
-/

namespace Readiness

/-! ### Settings -/

/-- A setting and what it is set to. -/
inductive Assignment
  | waitSecs (n : Nat)
  | pollIntervalMs (n : Nat)
  | logBuffer (n : Nat)
  | shutdownGraceMs (n : Nat)
  | printLogs (on : Bool)
  deriving DecidableEq, Repr

namespace Assignment

/-- The key in a document. -/
def key : Assignment → String
  | waitSecs _ => "wait_secs"
  | pollIntervalMs _ => "poll_interval_ms"
  | logBuffer _ => "log_buffer"
  | shutdownGraceMs _ => "shutdown_grace_ms"
  | printLogs _ => "print_logs"

def word : Assignment → Toml.Word
  | waitSecs n | pollIntervalMs n | logBuffer n | shutdownGraceMs n => .number n
  | printLogs on => .switch on

def apply (s : Settings) : Assignment → Settings
  | waitSecs n => { s with waitSecs := some n }
  | pollIntervalMs n => { s with pollIntervalMs := some n }
  | logBuffer n => { s with logBuffer := some n }
  | shutdownGraceMs n => { s with shutdownGraceMs := some n }
  | printLogs on => { s with printLogs := some on }

/-- As a field of a document. -/
def field (a : Assignment) : String × Toml.Word := (a.key, a.word)

theorem key_mem_keys (a : Assignment) : a.key ∈ Settings.keys := by
  cases a <;> simp [key, Settings.keys]

theorem isBareKey (a : Assignment) : Toml.IsBareKey a.key := by
  have h : ∀ name ∈ Settings.keys, Toml.IsBareKey name := by decide
  exact h _ a.key_mem_keys

/-- A field of a document sets what it assigns. -/
theorem withField_field (s : Settings) (a : Assignment) :
    s.withField (a.key, a.word.datum) = .ok (a.apply s) := by
  cases a <;> rfl

/-- Different settings are set in any order. -/
theorem apply_comm {a b : Assignment} (h : a.key = b.key → a = b) (s : Settings) :
    b.apply (a.apply s) = a.apply (b.apply s) := by
  by_cases hn : a.key = b.key
  · rw [h hn]
  · cases a <;> cases b <;> first | rfl | exact absurd rfl hn

end Assignment

namespace Settings

variable {s : Settings} {order : List Assignment} {ending : String}

/-- What is set. -/
def assigned (s : Settings) : List Assignment :=
  (s.waitSecs.map .waitSecs).toList ++ (s.pollIntervalMs.map .pollIntervalMs).toList ++
    (s.logBuffer.map .logBuffer).toList ++ (s.shutdownGraceMs.map .shutdownGraceMs).toList ++
    (s.printLogs.map .printLogs).toList

/-- An optional setting is assigned at most once. -/
theorem keys_toList_sublist {α : Type} (o : Option α) {f : α → Assignment} {name : String}
    (h : ∀ a, (f a).key = name) : ((o.map f).toList.map Assignment.key).Sublist [name] := by
  cases o with
  | none => exact List.nil_sublist _
  | some a => exact List.singleton_sublist.2 (List.mem_singleton.2 (h a))

/-- Nothing is set twice. -/
theorem nodup_keys_assigned (s : Settings) : (s.assigned.map Assignment.key).Nodup := by
  have hs : (s.assigned.map Assignment.key).Sublist (["wait_secs"] ++ ["poll_interval_ms"] ++
      ["log_buffer"] ++ ["shutdown_grace_ms"] ++ ["print_logs"]) := by
    simp only [assigned, List.map_append]
    have h1 := keys_toList_sublist s.waitSecs (f := .waitSecs) fun _ => rfl
    have h2 := keys_toList_sublist s.pollIntervalMs (f := .pollIntervalMs) fun _ => rfl
    have h3 := keys_toList_sublist s.logBuffer (f := .logBuffer) fun _ => rfl
    have h4 := keys_toList_sublist s.shutdownGraceMs (f := .shutdownGraceMs) fun _ => rfl
    have h5 := keys_toList_sublist s.printLogs (f := .printLogs) fun _ => rfl
    exact (((h1.append h2).append h3).append h4).append h5
  exact hs.nodup (by decide)

/-- What is assigned makes up the settings again. -/
theorem foldl_assigned (hw : s.waitFor = []) : s.assigned.foldl Assignment.apply {} = s := by
  obtain ⟨_ | _, _ | _, _ | _, _ | _, _ | _, _⟩ := s <;> cases hw <;> rfl

/-- Every field sets its own. -/
theorem foldlM_withField (s : Settings) (order : List Assignment) :
    (Toml.contents (order.map Assignment.field)).foldlM withField s =
      .ok (order.foldl Assignment.apply s) := by
  induction order generalizing s with
  | nil => rfl
  | cons a order ih =>
    rw [List.map_cons, Toml.contents, List.map_cons, List.foldlM_cons, Assignment.field,
      Assignment.withField_field]
    exact ih _

/-- The fields of a document set the settings, whatever their order. -/
theorem ofFields_of_perm (hw : s.waitFor = []) (hp : order.Perm s.assigned) :
    ofFields (Toml.contents (order.map Assignment.field)) = .ok s := by
  -- No key comes twice, so any two of them are set in either order.
  have hk : (order.map Assignment.key).Nodup := (hp.map _).nodup_iff.2 s.nodup_keys_assigned
  have hc : order.foldl Assignment.apply {} = s.assigned.foldl Assignment.apply {} :=
    hp.foldl_eq' (fun a ha b hb => Assignment.apply_comm (List.inj_on_of_nodup_map hk ha hb)) {}
  rw [ofFields, foldlM_withField, hc, foldl_assigned hw]

/-- No number is above the greatest of 64 bits with a sign. -/
structure Fits (s : Settings) : Prop where
  waitSecs : ∀ n ∈ s.waitSecs, n ≤ 0x7FFFFFFFFFFFFFFF
  pollIntervalMs : ∀ n ∈ s.pollIntervalMs, n ≤ 0x7FFFFFFFFFFFFFFF
  logBuffer : ∀ n ∈ s.logBuffer, n ≤ 0x7FFFFFFFFFFFFFFF
  shutdownGraceMs : ∀ n ∈ s.shutdownGraceMs, n ≤ 0x7FFFFFFFFFFFFFFF

/-- A number that fits into 63 bits can be written in a document. -/
theorem fits_number {n : Nat} (h : n ≤ 0x7FFFFFFFFFFFFFFF) : (Toml.Word.number n).Fits := by
  unfold Toml.Word.Fits Toml.maxInteger
  omega

theorem Fits.word (hf : s.Fits) {a : Assignment} (ha : a ∈ s.assigned) : a.word.Fits := by
  simp only [assigned, List.mem_append, Option.mem_toList, Option.map_eq_some_iff] at ha
  obtain (((⟨n, hn, rfl⟩ | ⟨n, hn, rfl⟩) | ⟨n, hn, rfl⟩) | ⟨n, hn, rfl⟩) | ⟨on, -, rfl⟩ := ha
  · exact fits_number (hf.waitSecs n hn)
  · exact fits_number (hf.pollIntervalMs n hn)
  · exact fits_number (hf.logBuffer n hn)
  · exact fits_number (hf.shutdownGraceMs n hn)
  · trivial

/-- What is wrong with settings: the buffer, and then the poll interval. -/
theorem config_eq_error_iff {e : ConfigError} : s.config = .error e ↔
    s.logBuffer = some 0 ∧ e = .invalidValue "log_buffer" .belowOne ∨
    s.logBuffer ≠ some 0 ∧ s.pollIntervalMs = some 0 ∧ e = .invalidValue "poll_interval" .zero := by
  have hb : 0 < s.logBuffer.getD Splitter.defaultCapacity ↔ s.logBuffer ≠ some 0 := by
    cases s.logBuffer <;> simp [Splitter.defaultCapacity, Nat.pos_iff_ne_zero]
  have hp : 0 < s.pollIntervalMs.getD 50 ↔ s.pollIntervalMs ≠ some 0 := by
    cases s.pollIntervalMs <;> simp [Nat.pos_iff_ne_zero]
  unfold config
  dsimp only
  split
  · have hb := hb.1 ‹_›
    split
    · have hp := hp.1 ‹_›
      simp [hb, hp]
    · have hp : s.pollIntervalMs = some 0 := not_not.1 (mt hp.2 ‹_›)
      simp [hb, hp, eq_comm]
  · have hb : s.logBuffer = some 0 := not_not.1 (mt hb.2 ‹_›)
    simp [hb, eq_comm]

/-- A document that lists settings. -/
def document (order : List Assignment) (ending : String) : String :=
  Toml.listing (order.map Assignment.field) ending

/-- A document reads as the fields that are listed in it. -/
theorem parse_document (hf : s.Fits) (hp : order.Perm s.assigned)
    (he : ending = "" ∨ ending = "\n") :
    Toml.parse (document order ending) = some (Toml.contents (order.map Assignment.field)) := by
  have hk : DistinctNames (order.map Assignment.field) := by
    rw [DistinctNames, List.map_map]
    exact (hp.map _).nodup_iff.2 s.nodup_keys_assigned
  refine Toml.parse_listing hk ?_ ?_ ?_
  · exact List.forall_mem_map.2 fun a _ => a.isBareKey
  · exact List.forall_mem_map.2 fun a ha => hf.word (hp.mem_iff.1 ha)
  · obtain rfl | rfl := he
    · exact .document
    · exact .line _

end Settings

/-! ### The environment -/

namespace Environment

variable {env : Environment} {s : Settings} {name : String}

/-- An environment has in its variables what is set, in decimal or in words, and lacks those of what
    is unset. Other variables do not matter. -/
structure Holds (env : Environment) (s : Settings) : Prop where
  waitSecs : env waitSecs = s.waitSecs.map toString
  pollIntervalMs : env pollIntervalMs = s.pollIntervalMs.map toString
  logBuffer : env logBuffer = s.logBuffer.map toString
  shutdownGraceMs : env shutdownGraceMs = s.shutdownGraceMs.map toString
  printLogs : env printLogs = s.printLogs.map toString

theorem get?_eq {raw : String} (h : env name = some raw)
    (hb : (trimChars raw.toList).isEmpty = false) : env.get? name = some raw := by
  rw [get?, h]
  dsimp only
  rw [hb, if_neg Bool.false_ne_true]

theorem get?_of_eq_none (h : env name = none) : env.get? name = none := by
  rw [get?, h]

theorem number?_eq {o : Option Nat} (h : env name = o.map toString)
    (ho : ∀ n ∈ o, n ≤ 0x7FFFFFFFFFFFFFFF) : env.number? name = .ok o := by
  cases o with
  | none => rw [number?, get?_of_eq_none h]
  | some n =>
    have hn : n ≤ Numeral.max64 := Nat.le_trans (ho n rfl) (by decide)
    have hb : (trimChars (toString n).toList).isEmpty = false := by
      rw [trimChars_toString, toList_toString]
      exact List.isEmpty_eq_false_iff.2 Nat.toDigits_ne_nil
    rw [number?, get?_eq h hb]
    simp only [trim_toString, Numeral.parse_toString hn]

theorem switch?_eq {o : Option Bool} (h : env name = o.map toString) :
    env.switch? name = .ok o := by
  obtain _ | _ | _ := o
  · rw [switch?, get?_of_eq_none h]
  · have hg : env.get? name = some "false" := get?_eq h (by decide)
    rw [switch?, hg]
    rfl
  · have hg : env.get? name = some "true" := get?_eq h (by decide)
    rw [switch?, hg]
    rfl

/-- An environment that holds some settings gives them. -/
theorem settings_of_holds (h : env.Holds s) (hw : s.waitFor = []) (hf : s.Fits) :
    env.settings = .ok s := by
  rw [settings, number?_eq h.waitSecs hf.waitSecs, number?_eq h.pollIntervalMs hf.pollIntervalMs,
    number?_eq h.logBuffer hf.logBuffer, number?_eq h.shutdownGraceMs hf.shutdownGraceMs,
    switch?_eq h.printLogs]
  cases s
  cases hw
  rfl

end Environment

namespace Config

/-- Settings without specs, no number of which is above those of a document, read the same from an
    environment that has them and from a document that lists them in any order. They fail exactly if
    the buffer or the poll interval is zero; of the two the buffer comes first. -/
theorem ofEnvironment_eq_ofDocument {env : Environment} {s : Settings} {order : List Assignment}
    {ending : String} (hw : s.waitFor = []) (hf : s.Fits) (henv : env.Holds s)
    (hp : order.Perm s.assigned) (hend : ending = "" ∨ ending = "\n") :
    ofEnvironment env = ofDocument (Settings.document order ending) ∧
    ∀ e, ofEnvironment env = .error e ↔
      s.logBuffer = some 0 ∧ e = .invalidValue "log_buffer" .belowOne ∨
      s.logBuffer ≠ some 0 ∧ s.pollIntervalMs = some 0 ∧ e = .invalidValue "poll_interval" .zero := by
  have he : ofEnvironment env = s.config := by
    rw [ofEnvironment, Environment.settings_of_holds henv hw hf]
    rfl
  have hd : ofDocument (Settings.document order ending) = s.config := by
    simp only [ofDocument, Settings.parse_document hf hp hend, Settings.ofFields_of_perm hw hp]
  rw [he, hd]
  exact ⟨rfl, fun e => Settings.config_eq_error_iff⟩

/-- Settings with two faults. -/
def faulty : Settings :=
  { waitSecs := some 30, pollIntervalMs := some 0, logBuffer := some 0, printLogs := some false }

def faultyEnvironment : Environment := .ofList [("DOCKER_READY_WAIT_SECS", "30"),
  ("DOCKER_READY_POLL_INTERVAL_MS", "0"), ("DOCKER_READY_LOG_BUFFER", "0"),
  ("DOCKER_READY_PRINT_LOGS", "false")]

/-- An environment and a document with the same fault in them are refused with the same error. -/
theorem ofEnvironment_eq_ofDocument_faulty :
    ofEnvironment faultyEnvironment =
        ofDocument "print_logs = false\nlog_buffer = 0\npoll_interval_ms = 0\nwait_secs = 30" ∧
      ofEnvironment faultyEnvironment = .error (.invalidValue "log_buffer" .belowOne) := by
  have hf : faulty.Fits := ⟨by decide, by decide, by decide, by decide⟩
  have henv : faultyEnvironment.Holds faulty := ⟨rfl, rfl, rfl, rfl, rfl⟩
  have h := ofEnvironment_eq_ofDocument rfl hf henv (List.reverse_perm _) (.inl rfl)
  have hd : Settings.document faulty.assigned.reverse "" =
      "print_logs = false\nlog_buffer = 0\npoll_interval_ms = 0\nwait_secs = 30" := by decide
  exact ⟨hd ▸ h.1, (h.2 _).2 (.inl ⟨rfl, rfl⟩)⟩

end Config

end Readiness
