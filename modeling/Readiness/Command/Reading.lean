import Readiness.Command.Grammar
import Readiness.Text.Numeral

/-!
# Reading a level of the command line

A level is read word by word. A word that begins with two dashes is a long option, with its value
behind an equals sign or in the next word. One that begins with one dash is a run of letters, in
which the first that takes a value has the rest of the word as its value, less an equals sign in
front, or the next word. Any other word is the value that an option waits for, a command, or an
operand. Behind a word of two dashes alone all words are operands.

What is read takes effect only when the next item comes or the level ends (`settle`): then it is
seen whether a value is missing, wrong, or given again. A word that is refused is refused first.
-/

namespace Readiness.Command

/-- An item that has been read and has not taken effect. -/
structure Pending where
  item : Item
  /-- Its value, if that has been read. -/
  value : Option String
  deriving DecidableEq, Repr

structure Reading where
  /-- What has taken effect, in order. A switch has an empty value. -/
  given : List (Item × String) := []
  pending : Option Pending := none
  /-- How many operands were read. -/
  operands : Nat := 0
  /-- Whether all words that follow are operands. -/
  trailing : Bool := false
  deriving DecidableEq, Repr

/-- What a word leads to. -/
inductive Next
  | more (r : Reading)
  /-- The word begins a command. -/
  | command (name : String)
  deriving DecidableEq, Repr

namespace Reading

/-- Whether an item was given. -/
def has (r : Reading) (i : Item) : Bool := r.given.any (·.1 == i)

/-- The values an item was given, in order. -/
def values (r : Reading) (i : Item) : List String := (r.given.filter (·.1 == i)).map (·.2)

/-- The value of an item that is given at most once. -/
def value? (r : Reading) (i : Item) : Option String := (r.values i).head?

/-- Whether an option waits for its value. -/
def awaits (r : Reading) : Bool :=
  match r.pending with
  | some p => p.value.isNone
  | none => false

/-- Whether a value is one that the item may have. -/
def checkValue (i : Item) (value : String) : Except Refusal Unit :=
  match i with
  | .timeout =>
    match Numeral.parse Numeral.max64 value with
    | .ok _ => .ok ()
    | .error _ => .error .invalidValue
  | .config => if value.isEmpty then .error .missingValue else .ok ()
  | _ => .ok ()

/-- An item takes effect. -/
def take (r : Reading) (i : Item) (value : String) : Except Refusal Reading :=
  match i with
  | .help => .error .helpWanted
  | .version => .error .versionWanted
  | i =>
    if !i.repeatable && r.has i then .error .repeated
    else do
      checkValue i value
      return { r with given := r.given ++ [(i, value)] }

/-- What is pending takes effect. -/
def settle (r : Reading) : Except Refusal Reading :=
  match r.pending with
  | none => .ok r
  | some ⟨_, none⟩ => .error .missingValue
  | some ⟨i, some value⟩ => take { r with pending := none } i value

/-- An item with a value that was read together with it, or a switch. -/
def takeNow (r : Reading) (i : Item) (value : String) : Except Refusal Reading := do
  (← r.settle).take i value

/-- An item whose value comes later or takes effect later. -/
def takeLater (r : Reading) (i : Item) (value : Option String) : Except Refusal Reading := do
  return { (← r.settle) with pending := some ⟨i, value⟩ }

/-- A long option with what stands behind its equals sign. -/
def long (l : Level) (r : Reading) (name : String) (attached : Option String) :
    Except Refusal Reading :=
  match l.ofLong? name with
  | none => .error .unknownArgument
  | some i =>
    match i.takesValue, attached with
    | true, some value => r.takeNow i value
    | true, none => r.takeLater i none
    | false, some _ => .error .needlessValue
    | false, none => r.takeNow i ""

/-- A run of letters. -/
def letters (l : Level) (r : Reading) : List Char → Except Refusal Reading
  | [] => .ok r
  | c :: cs =>
    match l.ofLetter? c with
    | none => .error .unknownArgument
    | some i =>
      if i.takesValue then
        match cs with
        | [] => r.takeLater i none
        | '=' :: value => r.takeNow i (String.ofList value)
        | value => r.takeNow i (String.ofList value)
      else do letters l (← r.takeNow i "") cs

/-- A word that is no option: an operand if there is still one to come. -/
def operand (l : Level) (r : Reading) (word : String) : Except Refusal Reading :=
  if r.operands < l.operands then do
    let r ← r.takeLater .container (some word)
    return { r with operands := r.operands + 1 }
  else if l.commands.isEmpty || (r.trailing && l.commands.contains word) then
    .error .unknownArgument
  else .error .unknownCommand

/-- A long option's name and what stands behind the equals sign, if there is one. -/
def splitLong (cs : List Char) : String × Option String :=
  match cs.span (· != '=') with
  | (name, '=' :: value) => (String.ofList name, some (String.ofList value))
  | (name, _) => (String.ofList name, none)

/-- A word that is no command. -/
def argument (l : Level) (r : Reading) (word : String) : Except Refusal Reading :=
  match word.toList with
  | ['-', '-'] => .ok { r with trailing := true }
  | '-' :: '-' :: cs => let (name, attached) := splitLong cs; r.long l name attached
  | '-' :: c :: cs => r.letters l (c :: cs)
  | _ =>
    match r.pending with
    | some ⟨i, none⟩ => .ok { r with pending := some ⟨i, some word⟩ }
    | _ => r.operand l word

/-- One word. -/
def step (l : Level) (r : Reading) (word : String) : Except Refusal Next :=
  if r.trailing then (r.operand l word).map .more
  else if !r.awaits && l.commands.contains word then .ok (.command word)
  else (r.argument l word).map .more

/-- The words of a level up to a command: what was read, and the command with the words behind it. -/
def run (l : Level) (r : Reading) :
    List String → Except Refusal (Reading × Option (String × List String))
  | [] => .ok (r, none)
  | word :: words =>
    match r.step l word with
    | .error refusal => .error refusal
    | .ok (.command name) => .ok (r, some (name, words))
    | .ok (.more r) => run l r words

/-- All words of a command. -/
def all (l : Level) (words : List String) : Except Refusal Reading := do
  let (r, _) ← run l {} words
  r.settle

end Reading

end Readiness.Command
