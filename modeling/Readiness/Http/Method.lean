import Readiness.Text.Blank

/-!
# Request methods

The method of a request is a non-empty token of HTTP. It is given in any case and with blanks around
it, which count for nothing.
-/

namespace Readiness

/-- A request method, in upper case where it was a word. -/
structure Method where
  name : String
  deriving DecidableEq, Repr

namespace Method

/-- The method that asks for no body. -/
def head : Method := ⟨"HEAD"⟩

/-- The characters of a token. -/
def isTokenChar (c : Char) : Bool :=
  ('a' ≤ c && c ≤ 'z') || ('A' ≤ c && c ≤ 'Z') || ('0' ≤ c && c ≤ '9') ||
    "!#$%&'*+-.^_\x60|~".toList.contains c

/-- The upper case of a character, as far as it can be part of a token. Besides the ASCII letters
    it is the dotless i, the long s, the sharp s and the ligatures of f and of st that become ASCII
    letters; every other character outside ASCII stays outside. -/
def upper (c : Char) : List Char :=
  match c with
  | 'ı' => ['I']
  | 'ſ' => ['S']
  | 'ß' => ['S', 'S']
  | 'ﬀ' => ['F', 'F']
  | 'ﬁ' => ['F', 'I']
  | 'ﬂ' => ['F', 'L']
  | 'ﬃ' => ['F', 'F', 'I']
  | 'ﬄ' => ['F', 'F', 'L']
  | 'ﬅ' => ['S', 'T']
  | 'ﬆ' => ['S', 'T']
  | c => [c.toUpper]

/-- The method a text stands for. -/
def parse? (raw : String) : Option Method :=
  let cs := (trimChars raw.toList).flatMap upper
  if !cs.isEmpty && cs.all isTokenChar then some ⟨String.ofList cs⟩ else none

end Method

end Readiness
