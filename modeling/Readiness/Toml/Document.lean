import Readiness.Toml.Number
import Readiness.Toml.Tree

/-!
# Documents

A document of TOML 1.0 is a list of statements: keys with values, and headers that say where the
keys behind them belong. `parse` reads one and gives its fields in the order of the document; `none`
is a malformed document. Values may stand in one another down to `maxDepth`.
-/

namespace Readiness.Toml

/-- How many arrays and inline tables may stand in one another. -/
def maxDepth : Nat := 79

/-- How many parts a key may have. -/
def maxKeyParts : Nat := 79

/-- A key with not too many parts. -/
def keyPath (cs : List Char) : Option (List String × List Char) := do
  let (names, rest) ← key cs
  if names.length ≤ maxKeyParts then some (names, rest) else none

/-- The items of an array behind its bracket, with commas between them and maybe behind the last. -/
def items (item : Reader Datum) (cs : List Char) : Option (List Datum × List Char) :=
  match skipLines cs with
  | ']' :: rest => some ([], rest)
  | cs' => do
    let (x, rest) ← item cs'
    match skipLines rest with
    | ']' :: rest => return ([x], rest)
    | ',' :: rest =>
      if rest.length < cs.length then
        let (xs, rest) ← items item rest
        return (x :: xs, rest)
      else none
    | _ => none
termination_by cs.length

/-- A key and its value, with spaces on both sides. -/
def pair? (item : Reader Datum) (cs : List Char) :
    Option ((List String × Datum) × List Char) := do
  let (name, rest) ← keyPath cs
  let rest ← expect '=' rest
  let (x, rest) ← item (skipSpaces rest)
  return ((name, x), skipSpaces rest)

/-- The fields of an inline table from a key on, with commas between them. -/
def inlineFields (item : Reader Datum) (fields : Fields) (cs : List Char) :
    Option (Fields × List Char) := do
  let ((name, x), rest) ← pair? item cs
  let fields ← fields.define .header name x
  match rest with
  | '\x7d' :: rest => return (fields, rest)
  | ',' :: rest => if rest.length < cs.length then inlineFields item fields rest else none
  | _ => none
termination_by cs.length

/-- What is left behind a word. -/
def word (w : String) (cs : List Char) : Option (List Char) :=
  if w.toList.isPrefixOf cs then some (cs.drop w.length) else none

/-- A value with at most `depth` arrays and inline tables in one another. -/
def datum (depth : Nat) (cs : List Char) : Option (Datum × List Char) :=
  match cs, depth with
  | '"' :: _, _ | '\'' :: _, _ => (quoted cs).map fun (s, rest) => (.string (String.ofList s), rest)
  | '[' :: rest, depth + 1 => (items (datum depth) rest).map fun (xs, rest) => (.list xs, rest)
  | '\x7b' :: rest, depth + 1 =>
    match skipSpaces rest with
    | '\x7d' :: rest => some (.table [], rest)
    | _ => (inlineFields (datum depth) [] rest).map fun (fields, rest) =>
      (.table (Node.fieldData fields), rest)
  | 't' :: _, _ => (word "true" cs).map (.boolean true, ·)
  | 'f' :: _, _ => (word "false" cs).map (.boolean false, ·)
  | cs, _ => scalar cs

/-- One statement of a document. -/
inductive Statement
  | define (key : List String) (datum : Datum)
  | header (path : List String)
  | arrayHeader (path : List String)

/-- A statement up to the end of its line. -/
def statement (cs : List Char) : Option (Statement × List Char) := do
  let (s, rest) ← match cs with
    | '[' :: '[' :: rest => do
      let (path, rest) ← keyPath rest
      let rest ← expect ']' rest
      let rest ← expect ']' rest
      some (Statement.arrayHeader path, rest)
    | '[' :: rest => do
      let (path, rest) ← keyPath rest
      let rest ← expect ']' rest
      some (.header path, rest)
    | cs => do
      let ((name, x), rest) ← pair? (datum maxDepth) cs
      some (.define name x, rest)
  let rest ← endOfLine? rest
  return (s, rest)

/-- All statements. Lines that hold at most a comment are none. -/
def statements (cs : List Char) : Option (List Statement) :=
  match skipSpaces cs with
  | [] => some []
  | c :: cs' =>
    if c == '#' || c == '\n' || c == '\r' then
      match endOfLine? (c :: cs') with
      | some rest => if rest.length < cs.length then statements rest else none
      | none => none
    else match statement (c :: cs') with
      | some (s, rest) =>
        if rest.length < cs.length then (statements rest).map (s :: ·) else none
      | none => none
termination_by cs.length

/-- Puts the statements into effect, one after the other, behind the header `path`. -/
def build (path : List String) (root : Fields) : List Statement → Option Fields
  | [] => some root
  | .define key x :: rest => do
    let root ← root.updateAt .implied (fun own fields => fields.define own key x) .header path
    build path root rest
  | .header p :: rest => do
    let root ← root.updateAt .implied (Fields.openTable (p.getLast?.getD "")) .header p.dropLast
    build p root rest
  | .arrayHeader p :: rest => do
    let root ← root.updateAt .implied (Fields.appendTable (p.getLast?.getD "")) .header p.dropLast
    build p root rest

/-- The fields of a document. A mark of the byte order at its beginning does not count. -/
def parse (s : String) : Option (List (String × Datum)) := do
  let cs := match s.toList with
    | '\uFEFF' :: cs => cs
    | cs => cs
  let ss ← statements cs
  let root ← build [] [] ss
  return Node.fieldData root

end Readiness.Toml
