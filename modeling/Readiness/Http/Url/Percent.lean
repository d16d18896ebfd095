import Readiness.Text.Utf8

/-!
# Percent encoding

A character that may not stand for itself is written as its bytes in UTF-8, each as a percent sign
and two hexadecimal digits. What may stand for itself depends on the part of the URL; a character
beyond ASCII never does.
-/

namespace Readiness.Percent

/-- The characters of ASCII that stand for themselves nowhere. -/
def isControl (c : Char) : Bool := c < ' ' || c == '\x7F'

/-- What is encoded in a fragment. -/
def inFragment (c : Char) : Bool := isControl c || " \"<>`".toList.contains c

/-- What is encoded in a query. -/
def inQuery (c : Char) : Bool := isControl c || " \"#<>".toList.contains c

/-- What is encoded in the query of a URL whose scheme the standard knows. -/
def inSpecialQuery (c : Char) : Bool := inQuery c || c == '\''

/-- What is encoded in a path. -/
def inPath (c : Char) : Bool := inFragment c || "#?\x7b\x7d".toList.contains c

/-- What is encoded in a user name or a password. -/
def inCredentials (c : Char) : Bool := inPath c || "/:;=@[\\]^|".toList.contains c

def hexDigit (n : Nat) : Char :=
  if n < 10 then Char.ofNat ('0'.toNat + n) else Char.ofNat ('A'.toNat + (n - 10))

def encodeByte (b : UInt8) : List Char := ['%', hexDigit (b.toNat / 16), hexDigit (b.toNat % 16)]

/-- The characters as they are written where `reserved` ones are encoded. -/
def encode (reserved : Char → Bool) (cs : List Char) : String :=
  String.ofList (cs.flatMap fun c =>
    if c.toNat < 0x80 && !reserved c then [c] else (String.utf8EncodeChar c).flatMap encodeByte)

def hexValue? (c : Char) : Option Nat :=
  if '0' ≤ c ∧ c ≤ '9' then some (c.toNat - '0'.toNat)
  else if 'a' ≤ c ∧ c ≤ 'f' then some (c.toNat - 'a'.toNat + 10)
  else if 'A' ≤ c ∧ c ≤ 'F' then some (c.toNat - 'A'.toNat + 10)
  else none

/-- The bytes that the characters stand for. A percent sign without two hexadecimal digits behind it
    stands for itself. -/
def decode : List Char → Bytes
  | [] => []
  | '%' :: a :: b :: cs =>
    match hexValue? a, hexValue? b with
    | some m, some n => UInt8.ofNat (m * 16 + n) :: decode cs
    | _, _ => String.utf8EncodeChar '%' ++ decode (a :: b :: cs)
  | c :: cs => String.utf8EncodeChar c ++ decode cs

end Readiness.Percent
