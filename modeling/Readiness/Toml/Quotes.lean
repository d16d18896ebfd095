import Readiness.Toml.Layout

/-!
# Strings of a document

A string stands between double quotes, where a backslash escapes, or between single quotes, where
nothing does; and it stands in one line between single delimiters, or in any number of lines between
threefold ones. In a string of many lines an end of line directly behind the opening delimiter does
not count, one or two quotes may stand anywhere, also directly before the closing delimiter, every
end of line is LF, and, with escapes, a backslash at the end of a line removes all blanks up to the
next character.
-/

namespace Readiness.Toml

/-- The value of a hexadecimal digit. -/
def hexDigit? (c : Char) : Option Nat :=
  if '0' ≤ c ∧ c ≤ '9' then some (c.toNat - '0'.toNat)
  else if 'a' ≤ c ∧ c ≤ 'f' then some (c.toNat - 'a'.toNat + 10)
  else if 'A' ≤ c ∧ c ≤ 'F' then some (c.toNat - 'A'.toNat + 10)
  else none

/-- The character whose code point is written in hexadecimal digits. -/
def named? (ds : List Char) : Option Char := do
  let n ← ds.foldlM (fun n d => (hexDigit? d).map (n * 16 + ·)) 0
  if n.isValidChar then some (Char.ofNat n) else none

/-- The character an escape of one letter stands for. -/
def escaped? : Char → Option Char
  | 'b' => some '\x08'
  | 't' => some '\t'
  | 'n' => some '\n'
  | 'f' => some '\x0c'
  | 'r' => some '\r'
  | '"' => some '"'
  | '\\' => some '\\'
  | _ => none

/-- A string of one line up to its closing double quote. -/
def basic : Reader (List Char)
  | [] => none
  | '"' :: cs => some ([], cs)
  | '\\' :: 'u' :: a :: b :: c :: d :: cs => do
    let x ← named? [a, b, c, d]
    let (s, rest) ← basic cs
    return (x :: s, rest)
  | '\\' :: 'U' :: a :: b :: c :: d :: e :: f :: g :: h :: cs => do
    let x ← named? [a, b, c, d, e, f, g, h]
    let (s, rest) ← basic cs
    return (x :: s, rest)
  | '\\' :: e :: cs => do
    let x ← escaped? e
    let (s, rest) ← basic cs
    return (x :: s, rest)
  | c :: cs => do
    if isPlain c && c != '\\' then
      let (s, rest) ← basic cs
      return (c :: s, rest)
    else none

/-- A string of one line up to its closing single quote. -/
def literal : Reader (List Char)
  | [] => none
  | '\'' :: cs => some ([], cs)
  | c :: cs => do
    if isPlain c then
      let (s, rest) ← literal cs
      return (c :: s, rest)
    else none

/-- A string of many lines up to its closing double quotes. While `trimming`, blanks and ends of
    lines do not count. -/
def basicLines : (trimming : Bool) → Reader (List Char)
  | true, ' ' :: cs => basicLines true cs
  | true, '\t' :: cs => basicLines true cs
  | true, '\n' :: cs => basicLines true cs
  | true, '\r' :: '\n' :: cs => basicLines true cs
  | _, [] => none
  | _, '"' :: '"' :: '"' :: '"' :: '"' :: cs => some (['"', '"'], cs)
  | _, '"' :: '"' :: '"' :: '"' :: cs => some (['"'], cs)
  | _, '"' :: '"' :: '"' :: cs => some ([], cs)
  | _, '\r' :: '\n' :: cs => do
    let (s, rest) ← basicLines false cs
    return ('\n' :: s, rest)
  | _, '\\' :: 'u' :: a :: b :: c :: d :: cs => do
    let x ← named? [a, b, c, d]
    let (s, rest) ← basicLines false cs
    return (x :: s, rest)
  | _, '\\' :: 'U' :: a :: b :: c :: d :: e :: f :: g :: h :: cs => do
    let x ← named? [a, b, c, d, e, f, g, h]
    let (s, rest) ← basicLines false cs
    return (x :: s, rest)
  | _, '\\' :: e :: cs => do
    if (newline? (skipSpaces (e :: cs))).isSome then basicLines true (e :: cs)
    else
      let x ← escaped? e
      let (s, rest) ← basicLines false cs
      return (x :: s, rest)
  | _, c :: cs => do
    if (isPlain c && c != '\\') || c == '\n' then
      let (s, rest) ← basicLines false cs
      return (c :: s, rest)
    else none

/-- A string of many lines up to its closing single quotes. -/
def literalLines : Reader (List Char)
  | [] => none
  | '\'' :: '\'' :: '\'' :: '\'' :: '\'' :: cs => some (['\'', '\''], cs)
  | '\'' :: '\'' :: '\'' :: '\'' :: cs => some (['\''], cs)
  | '\'' :: '\'' :: '\'' :: cs => some ([], cs)
  | '\r' :: '\n' :: cs => do
    let (s, rest) ← literalLines cs
    return ('\n' :: s, rest)
  | c :: cs => do
    if isPlain c || c == '\n' then
      let (s, rest) ← literalLines cs
      return (c :: s, rest)
    else none

/-- What is left behind an end of line, if there is one. -/
def skipNewline (cs : List Char) : List Char := (newline? cs).getD cs

/-- A string with its delimiters. -/
def quoted : Reader (List Char)
  | '"' :: '"' :: '"' :: cs => basicLines false (skipNewline cs)
  | '"' :: cs => basic cs
  | '\'' :: '\'' :: '\'' :: cs => literalLines (skipNewline cs)
  | '\'' :: cs => literal cs
  | _ => none

/-! ## Keys -/

def isBare (c : Char) : Bool :=
  ('a' ≤ c && c ≤ 'z') || ('A' ≤ c && c ≤ 'Z') || ('0' ≤ c && c ≤ '9') || c == '_' || c == '-'

/-- One part of a key: a string of one line, or letters, digits, underscores and dashes. -/
def simpleKey (cs : List Char) : Option (String × List Char) :=
  match cs with
  | '"' :: cs => (basic cs).map fun (s, rest) => (String.ofList s, rest)
  | '\'' :: cs => (literal cs).map fun (s, rest) => (String.ofList s, rest)
  | cs =>
    let (name, rest) := cs.span isBare
    if name.isEmpty then none else some (String.ofList name, rest)

/-- A key of parts with dots between them, and spaces around it and them. -/
def key (cs : List Char) : Option (List String × List Char) := do
  let (name, rest) ← simpleKey (skipSpaces cs)
  match skipSpaces rest with
  | '.' :: rest =>
    if rest.length < cs.length then
      let (names, rest) ← key rest
      return (name :: names, rest)
    else none
  | rest => return ([name], rest)
termination_by cs.length

end Readiness.Toml
