import Readiness.Command.Run
import Readiness.Proofs.Command.Spelling
import Readiness.Proofs.Text.Numeral

/-!
# The order of options

A line that says what is waited for is the program's own options, the command, and the items behind
it (`IsWaitLine`). It is read as those items, however it is taken apart (`ReadsAs.given_eq`), and of
an item only its values matter, in their order (`WaitArgs.Holds.eq`). So items of different kinds
may stand in any order: what a line makes of a configuration is told by the values of each kind
(`applies_of_ofWords`), and no condition among them is lost.
-/

namespace Readiness.Command

variable {words inner : List String} {items items' : List (Item × String)} {inv : Invocation}
  {a a' : WaitArgs} {r outer : Reading}

namespace Reading

/-- Words that are read to their end leave no option without its value, and what was read takes
    effect. -/
theorem all_eq_ok {l : Level} (h : all l words = .ok r) : ∃ r' rest,
    run l {} words = .ok (r', rest) ∧ r'.waitsFor = none ∧ r.given = r'.soFar ∧
      (IsSound r'.given → IsSound r.given) := by
  obtain ⟨⟨r', rest⟩, hrun, h⟩ := bind_eq_ok_iff.1 h
  obtain ⟨hw, rfl, hs⟩ := settle_eq_ok h
  exact ⟨r', rest, hrun, hw, rfl, hs⟩

/-- The words of a wait command spell what it was given, which is sound. -/
theorem spells_of_all (h : all .wait words = .ok r) :
    Spells .wait none r.given words ∧ IsSound r.given := by
  obtain ⟨r', rest, hrun, hw, hg, hs⟩ := all_eq_ok h
  obtain ⟨front, items, rfl, hm, hspells, hc⟩ := exists_spells rfl hrun hw
  have hrest : rest = none := by
    cases rest with
    | none => rfl
    | some c => exact absurd (hm c rfl) List.not_mem_nil
  have hitems : r.given = items := hg.trans hc.soFar_eq
  have hsound : IsSound ({} : Reading).given := ⟨nofun, fun _ _ => Nat.zero_le _⟩
  refine ⟨?_, hs (hc.isSound hsound)⟩
  rw [hitems, hrest, behind, List.append_nil]
  exact hspells

/-- Words are read as what they spell. -/
theorem given_eq_of_spells {l : Level} (hs : Spells l none items words) (h : all l words = .ok r) :
    r.given = items := by
  obtain ⟨r', rest, hrun, -, hg, -⟩ := all_eq_ok h
  rw [← List.append_nil words] at hrun
  obtain ⟨r₁, hrun', hc⟩ := completes_of_spells hs rfl rfl hrun
  cases hrun'
  exact hg.trans hc.soFar_eq

end Reading

/-! ### Wait lines -/

/-- How a wait line is read: the program's own options, and then those of the command. -/
structure ReadsAs (words inner : List String) (r : Reading) : Prop where
  exists_outer : ∃ outer,
    Reading.run .program {} words = .ok (outer, some ("wait", inner)) ∧ outer.waitsFor = none
  all_eq : Reading.all .wait inner = .ok r

/-- A line with a wait command in it is read level by level. -/
theorem exists_readsAs (h : Invocation.ofWords words = .ok inv) (ha : inv.task = .wait a) :
    ∃ inner r, ReadsAs words inner r ∧ WaitArgs.ofReading r = .ok a := by
  obtain ⟨⟨outer, rest⟩, hrun, h⟩ := bind_eq_ok_iff.1 h
  cases rest with
  | none =>
    obtain ⟨_, -, h⟩ := bind_eq_ok_iff.1 h
    cases h
  | some c =>
    obtain ⟨name, inner⟩ := c
    obtain ⟨⟨r, task⟩, hc, h⟩ := bind_eq_ok_iff.1 h
    obtain ⟨outer', hsettle, h⟩ := bind_eq_ok_iff.1 h
    cases h
    have htask : task = .wait a := ha
    subst htask
    unfold Invocation.command at hc
    split at hc
    · obtain ⟨r', hall, hc⟩ := bind_eq_ok_iff.1 hc
      obtain ⟨a', hof, hc⟩ := bind_eq_ok_iff.1 hc
      cases hc
      exact ⟨inner, r, ⟨⟨outer, hrun, (Reading.settle_eq_ok hsettle).1⟩, hall⟩, hof⟩
    · obtain ⟨r', -, hc⟩ := bind_eq_ok_iff.1 hc
      split at hc <;> cases hc
    · cases hc

/-- A command line that says what is waited for, and the items behind the command. Those in front
    of it are options of the program itself. -/
def IsWaitLine (words : List String) (items : List (Item × String)) : Prop :=
  ∃ outer inner before, words = outer ++ "wait" :: inner ∧
    Spells .program none before outer ∧ Spells .wait none items inner

/-- A line that is read this way is a wait line, of just the items that were read. -/
theorem ReadsAs.isWaitLine (h : ReadsAs words inner r) : IsWaitLine words r.given := by
  obtain ⟨⟨outer, hrun, hw⟩, hall⟩ := h
  obtain ⟨front, before, rfl, -, hs, -⟩ := Reading.exists_spells rfl hrun hw
  exact ⟨front, inner, before, rfl, hs, (Reading.spells_of_all hall).1⟩

/-- However a line is taken apart, it is read as the items that it is made of. -/
theorem ReadsAs.given_eq (h : ReadsAs words inner r) (hl : IsWaitLine words items) :
    r.given = items := by
  obtain ⟨⟨outer, hrun, -⟩, hall⟩ := h
  obtain ⟨front, inner', before, rfl, hs, hs'⟩ := hl
  obtain ⟨r₁, hrun', hc⟩ := Reading.completes_of_spells hs rfl rfl hrun
  have hinner : inner' = inner := by
    rw [Reading.run, Reading.step] at hrun'
    cases ht : r₁.trailing with
    | true =>
      rw [ht, if_pos rfl] at hrun'
      cases ho : r₁.operand .program "wait" with
      | ok r₂ => exact absurd (Reading.gains_of_operand ho).1 (Nat.lt_irrefl 0)
      | error refusal =>
        rw [ho] at hrun'
        cases hrun'
    | false =>
      rw [ht, if_neg Bool.false_ne_true, Reading.awaits_eq, hc.waitsFor_eq] at hrun'
      cases hrun'
      rfl
  exact Reading.given_eq_of_spells (hinner ▸ hs') hall

/-! ### Values -/

/-- What a wait command was given, by the values of each item. -/
structure WaitArgs.Holds (items : List (Item × String)) (a : WaitArgs) : Prop where
  container : (valuesOf items .container).head? = some a.container
  logs : a.logs = valuesOf items .log
  sequence : a.sequence = valuesOf items .sequence
  fullLogs : a.fullLogs = valuesOf items .fullLog
  http : valuesOf items .http = a.http.toList
  method : valuesOf items .method = a.method.toList
  status : valuesOf items .status = a.status.toList
  timeout : valuesOf items .timeout = [] ∧ a.timeout = none ∨
    ∃ text n, valuesOf items .timeout = [text] ∧ Numeral.IsNumeral Numeral.max64 text.toList n ∧
      a.timeout = some n
  name : valuesOf items .name = a.name.toList
  quiet : a.quiet = true ↔ valuesOf items .quiet ≠ []
  /-- The settings of a ping call for a ping. -/
  ping : a.http = none → a.method = none ∧ a.status = none

/-- An item that is given once has its one value or none. -/
theorem Reading.values_eq_toList (hs : IsSound r.given) {i : Item} (hi : i.repeatable = false) :
    valuesOf r.given i = (r.value? i).toList := by
  have hlen := hs.once i hi
  rw [value?, values_eq]
  generalize valuesOf r.given i = values at hlen
  match values with
  | [] => rfl
  | [_] => rfl
  | _ :: _ :: _ => exact absurd hlen (by simp)

theorem Reading.has_eq_true_iff {i : Item} : r.has i = true ↔ valuesOf r.given i ≠ [] := by
  rw [← Bool.not_eq_false, has_eq_false_iff]

theorem Reading.value?_eq_none_iff {i : Item} : r.value? i = none ↔ r.has i = false := by
  rw [value?, values_eq, List.head?_eq_none_iff, has_eq_false_iff]

/-- A timeout that was read is a number. -/
theorem Reading.IsSound.exists_numeral (hs : IsSound r.given) {text : String}
    (h : r.value? .timeout = some text) :
    ∃ n, Numeral.parse Numeral.max64 text = .ok n ∧
      Numeral.IsNumeral Numeral.max64 text.toList n := by
  have hm : (Item.timeout, text) ∈ r.given := by
    have : text ∈ r.values .timeout := List.mem_of_head? h
    simpa [values] using this
  have hc := hs.value _ _ hm
  unfold checkValue at hc
  cases hn : Numeral.parse Numeral.max64 text with
  | ok n => exact ⟨n, rfl, Numeral.parseChars_eq_ok_iff.1 hn⟩
  | error fault =>
    rw [hn] at hc
    cases hc

/-- The arguments of a wait hold what its items say. -/
theorem WaitArgs.holds_of_ofReading (h : WaitArgs.ofReading r = .ok a)
    (hs : Reading.IsSound r.given) : a.Holds r.given := by
  unfold WaitArgs.ofReading at h
  split at h
  · cases h
  · next container hcontainer =>
    split at h
    · cases h
    · next hping =>
      cases h
      refine ⟨hcontainer, rfl, rfl, rfl, Reading.values_eq_toList hs rfl,
        Reading.values_eq_toList hs rfl, Reading.values_eq_toList hs rfl, ?_,
        Reading.values_eq_toList hs rfl, Reading.has_eq_true_iff, fun hhttp => ?_⟩
      · cases ht : r.value? .timeout with
        | none => exact .inl ⟨by rw [Reading.values_eq_toList hs rfl, ht]; rfl, rfl⟩
        | some text =>
          obtain ⟨n, hn, hnum⟩ := hs.exists_numeral ht
          refine .inr ⟨text, n, by rw [Reading.values_eq_toList hs rfl, ht]; rfl, hnum, ?_⟩
          rw [Option.bind_some, hn]
          rfl
      · have hno : (r.has .method || r.has .status) = false := by
          simpa [Reading.value?_eq_none_iff.1 hhttp] using hping
        obtain ⟨hm, hst⟩ := Bool.or_eq_false_iff.1 hno
        exact ⟨Reading.value?_eq_none_iff.2 hm, Reading.value?_eq_none_iff.2 hst⟩

theorem toList_inj {o o' : Option String} (h : o.toList = o'.toList) : o = o' := by
  rw [← Option.head?_toList (o := o), h, Option.head?_toList]

/-- The values of the items determine it. -/
theorem WaitArgs.Holds.eq {b : WaitArgs} (h : a.Holds items) (h' : b.Holds items) : b = a := by
  have hcontainer : b.container = a.container :=
    Option.some.inj (h'.container.symm.trans h.container)
  have hlogs : b.logs = a.logs := h'.logs.trans h.logs.symm
  have hsequence : b.sequence = a.sequence := h'.sequence.trans h.sequence.symm
  have hfull : b.fullLogs = a.fullLogs := h'.fullLogs.trans h.fullLogs.symm
  have hhttp : b.http = a.http := toList_inj (h'.http.symm.trans h.http)
  have hmethod : b.method = a.method := toList_inj (h'.method.symm.trans h.method)
  have hstatus : b.status = a.status := toList_inj (h'.status.symm.trans h.status)
  have hname : b.name = a.name := toList_inj (h'.name.symm.trans h.name)
  have hquiet : b.quiet = a.quiet := Bool.eq_iff_iff.2 (h'.quiet.trans h.quiet.symm)
  have htimeout : b.timeout = a.timeout := by
    obtain ⟨hn, ht⟩ | ⟨text, n, hn, hnum, ht⟩ := h.timeout
    · obtain ⟨-, ht'⟩ | ⟨_, _, hn', -⟩ := h'.timeout
      · rw [ht, ht']
      · exact absurd (hn.symm.trans hn') nofun
    · obtain ⟨hn', -⟩ | ⟨text', n', hn', hnum', ht'⟩ := h'.timeout
      · exact absurd (hn'.symm.trans hn) nofun
      · cases hn.symm.trans hn'
        rw [ht, ht', hnum.eq hnum']
  cases a
  cases b
  simp_all

/-- The program's own options make no difference to a wait command. -/
theorem WaitArgs.Holds.congr (h : a.Holds items)
    (hv : ∀ i, i ≠ .config → i ≠ .verbose → valuesOf items' i = valuesOf items i) :
    a.Holds items' where
  container := by rw [hv .container nofun nofun, h.container]
  logs := by rw [hv .log nofun nofun, h.logs]
  sequence := by rw [hv .sequence nofun nofun, h.sequence]
  fullLogs := by rw [hv .fullLog nofun nofun, h.fullLogs]
  http := by rw [hv .http nofun nofun, h.http]
  method := by rw [hv .method nofun nofun, h.method]
  status := by rw [hv .status nofun nofun, h.status]
  timeout := by rw [hv .timeout nofun nofun]; exact h.timeout
  name := by rw [hv .name nofun nofun, h.name]
  quiet := by rw [hv .quiet nofun nofun, h.quiet]
  ping := h.ping

/-- A configuration that a wait line with some items makes of another. -/
structure Applies (items : List (Item × String)) (base c : Config) : Prop where
  waitFor : ∃ http method status : Option String,
    valuesOf items .http = http.toList ∧ valuesOf items .method = method.toList ∧
    valuesOf items .status = status.toList ∧
    c.waitFor = base.waitFor ++ (valuesOf items .log).map .logMessage ++
      (if valuesOf items .sequence = [] then []
        else [.logMessageSequence (valuesOf items .sequence)]) ++
      (valuesOf items .fullLog).map .fullLogMessage ++
      (http.map fun url => .httpPing url method status).toList
  waitTimeout : valuesOf items .timeout = [] ∧ c.waitTimeout = base.waitTimeout ∨
    ∃ text n, valuesOf items .timeout = [text] ∧ Numeral.IsNumeral Numeral.max64 text.toList n ∧
      c.waitTimeout = n * 1000
  printLogs : c.printLogs = true ↔ base.printLogs = true ∧ valuesOf items .quiet = []
  pollInterval : c.pollInterval = base.pollInterval
  logBuffer : c.logBuffer = base.logBuffer
  shutdownGrace : c.shutdownGrace = base.shutdownGrace

/-- Arguments that hold of some items make of any configuration what the items say. -/
theorem WaitArgs.Holds.applies (h : a.Holds items) (base : Config) :
    Applies items base (a.apply base) where
  waitFor := by
    refine ⟨a.http, a.method, a.status, h.http, h.method, h.status, ?_⟩
    simp only [apply, conditions, h.logs, h.sequence, h.fullLogs, List.isEmpty_iff,
      List.append_assoc]
  waitTimeout := by
    obtain ⟨hn, ht⟩ | ⟨text, n, hv, hnum, ht⟩ := h.timeout
    · exact .inl ⟨hn, by rw [apply, ht]; rfl⟩
    · exact .inr ⟨text, n, hv, hnum, by rw [apply, ht]; rfl⟩
  printLogs := by
    have : a.quiet = false ↔ valuesOf items .quiet = [] := by
      rw [← Bool.not_eq_true, h.quiet, not_not]
    simp [apply, this]
  pollInterval := rfl
  logBuffer := rfl
  shutdownGrace := rfl

/-- The items that are conditions. -/
def conditionItems : List Item := [.log, .sequence, .fullLog, .http]

/-- There is nothing to wait for if none of the items is a condition. -/
theorem WaitArgs.Holds.conditions_eq_nil_iff (h : a.Holds items) :
    a.conditions = [] ↔ ∀ i ∈ conditionItems, valuesOf items i = [] := by
  simp [conditions, conditionItems, h.logs, h.sequence, h.fullLogs, h.http,
    Option.toList_eq_nil_iff]

/-- A wait command refuses if and only if there is nothing to wait for. -/
theorem wait_eq_nothing_iff (base : Config) (connect : Except LogError Host) (network : Network) :
    wait a base connect network = some (.error .nothingToWaitFor, {}) ↔
      base.waitFor = [] ∧ a.conditions = [] := by
  have hconfig : (a.gate base).config.waitFor = base.waitFor ++ a.conditions := rfl
  rw [← List.append_eq_nil_iff, ← hconfig]
  unfold wait
  dsimp only
  split
  · next he => exact ⟨fun _ => List.isEmpty_iff.1 he, fun _ => rfl⟩
  · next he =>
    refine iff_of_false ?_ fun h => he (List.isEmpty_iff.2 h)
    cases connect with
    | error error => simp
    | ok host =>
      cases hs : (a.gate base).start? { host, network } with
      | none => simp [hs]
      | some out =>
        obtain ⟨outcome, gate, scene⟩ := out
        simp only [hs]
        cases outcome <;> simp [WaitArgs.conclude]

/-- What a line comes to holds of the items that it is made of, whichever way they are found in
    it. -/
theorem holds_of_ofWords (h : Invocation.ofWords words = .ok inv) (ha : inv.task = .wait a)
    (hl : IsWaitLine words items) : a.Holds items := by
  obtain ⟨inner, r, hr, hof⟩ := exists_readsAs h ha
  rw [← hr.given_eq hl]
  exact WaitArgs.holds_of_ofReading hof (Reading.spells_of_all hr.all_eq).2

/-- An accepted command line that says what is waited for is spelled by items. However it is taken
    apart, the configuration is what the values of the items make of the one it is put on, there is
    nothing to wait for if and only if neither has a condition, and another accepted line gives the
    same if each item has the same values in it, in the same order. The program's own options make
    no difference. -/
theorem applies_of_ofWords (h : Invocation.ofWords words = .ok inv) (ha : inv.task = .wait a) :
    (∃ items, IsWaitLine words items) ∧ ∀ items, IsWaitLine words items →
      (∀ base, Applies items base (a.apply base)) ∧
      (∀ base connect network,
        wait a base connect network = some (.error .nothingToWaitFor, {}) ↔
          base.waitFor = [] ∧ ∀ i ∈ conditionItems, valuesOf items i = []) ∧
      ∀ words' inv' a' items', Invocation.ofWords words' = .ok inv' → inv'.task = .wait a' →
        IsWaitLine words' items' →
        (∀ i, i ≠ .config → i ≠ .verbose → valuesOf items' i = valuesOf items i) →
          ∀ base, a'.apply base = a.apply base := by
  obtain ⟨inner, r, hr, -⟩ := exists_readsAs h ha
  refine ⟨⟨_, hr.isWaitLine⟩, fun items hl => ?_⟩
  have hholds := holds_of_ofWords h ha hl
  refine ⟨hholds.applies, fun base connect network => ?_, ?_⟩
  · rw [wait_eq_nothing_iff, hholds.conditions_eq_nil_iff]
  · intro words' inv' a' items' h' ha' hl' hv base
    rw [(hholds.congr hv).eq (holds_of_ofWords h' ha' hl')]

/-- Two lines with the options in another order, one of them with letters and with two dashes. -/
def plainLine : List String :=
  ["wait", "db", "--log", "a", "--quiet", "--log=b", "-t", "5", "--http", "u", "--method", "GET"]

def shuffledLine : List String :=
  ["-v", "wait", "--http=u", "--log", "a", "--method", "GET", "-vqt5", "--log", "b", "--", "db"]

def plainArgs : WaitArgs :=
  { container := "db", logs := ["a", "b"], http := some "u", method := some "GET",
    timeout := some 5, quiet := true }

/-- One line with its items in two orders: both are accepted, and come to the same. -/
theorem applies_of_ofWords_shuffled :
    Invocation.ofWords plainLine = .ok { task := .wait plainArgs } ∧
      (∃ inv a', Invocation.ofWords shuffledLine = .ok inv ∧ inv.task = .wait a' ∧
        ∀ base, a'.apply base = plainArgs.apply base) ∧
      (plainArgs.apply {}).waitFor =
        [.logMessage "a", .logMessage "b", .httpPing "u" (some "GET") none] ∧
      ∀ connect network,
        wait plainArgs {} connect network ≠ some (.error .nothingToWaitFor, {}) := by
  have hplain : Invocation.ofWords plainLine = .ok { task := .wait plainArgs } := by rfl
  have hshuffled :
      Invocation.ofWords shuffledLine = .ok { verbose := 1, task := .wait plainArgs } := by rfl
  have hl : ReadsAs plainLine plainLine.tail {
      given := [(.container, "db"), (.log, "a"), (.quiet, ""), (.log, "b"), (.timeout, "5"),
        (.http, "u"), (.method, "GET")]
      operands := 1 } := ⟨⟨{}, by rfl, rfl⟩, by rfl⟩
  have hl' : ReadsAs shuffledLine (shuffledLine.drop 2) {
      given := [(.http, "u"), (.log, "a"), (.method, "GET"), (.verbose, ""), (.quiet, ""),
        (.timeout, "5"), (.log, "b"), (.container, "db")]
      operands := 1
      trailing := true } := ⟨⟨{ given := [(.verbose, "")] }, by rfl, rfl⟩, by rfl⟩
  obtain ⟨-, hnothing, horder⟩ := (applies_of_ofWords hplain rfl).2 _ hl.isWaitLine
  refine ⟨hplain, ⟨_, _, hshuffled, rfl, horder _ _ _ _ hshuffled rfl hl'.isWaitLine ?_⟩, rfl, ?_⟩
  · intro i hc hv
    cases i <;> first | rfl | exact absurd rfl hv
  · intro connect network h
    exact absurd (((hnothing {} connect network).1 h).2 .log (by decide)) (by decide)

end Readiness.Command
