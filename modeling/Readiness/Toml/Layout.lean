/-!
# Layout of a document

What stands between the parts of a document: spaces and tabs, comments, ends of lines. Each reader
takes the characters that are left and gives those that are left behind what it reads; `none` is a
malformed document.
-/

namespace Readiness.Toml

/-- A reader of one part of a document. -/
abbrev Reader (α : Type) := List Char → Option (α × List Char)

def isSpace (c : Char) : Bool := c == ' ' || c == '\t'

def skipSpaces (cs : List Char) : List Char := cs.dropWhile isSpace

/-- The characters behind an end of line. -/
def newline? : List Char → Option (List Char)
  | '\n' :: cs => some cs
  | '\r' :: '\n' :: cs => some cs
  | _ => none

/-- The characters that may stand in a line as they are. -/
def isPlain (c : Char) : Bool := c == '\t' || (' ' ≤ c && c ≤ '~') || '\x80' ≤ c

/-- What is left behind a comment, if there is one. -/
def skipComment : List Char → List Char
  | '#' :: cs => cs.dropWhile isPlain
  | cs => cs

/-- What is left behind the end of a statement: spaces, a comment, and an end of line or of the
    document. -/
def endOfLine? (cs : List Char) : Option (List Char) :=
  match skipComment (skipSpaces cs) with
  | [] => some []
  | cs => newline? cs

theorem length_dropWhile_le {α : Type} (p : α → Bool) (cs : List α) :
    (cs.dropWhile p).length ≤ cs.length := (cs.dropWhile_suffix p).length_le

theorem length_newline? {cs rest : List Char} (h : newline? cs = some rest) :
    rest.length < cs.length := by
  unfold newline? at h
  split at h <;> cases h <;> simp only [List.length_cons] <;> omega

/-- What is left behind spaces, comments that end with their line, and ends of lines. -/
def skipLines : List Char → List Char
  | [] => []
  | c :: cs =>
    if isSpace c then skipLines cs
    else if c == '#' then
      match _h : newline? (cs.dropWhile isPlain) with
      | some rest => skipLines rest
      | none => c :: cs
    else match _h : newline? (c :: cs) with
      | some rest => skipLines rest
      | none => c :: cs
termination_by cs => cs.length
decreasing_by
  · simp
  · have := length_newline? _h
    have := length_dropWhile_le isPlain cs
    simp; omega
  · exact length_newline? _h

end Readiness.Toml
