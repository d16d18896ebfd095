import Readiness.Text.Quoted.Hidden

/-!
# Quoted text

A text between double quotes, in which nothing hides: a quote and a backslash stand behind a
backslash, and characters without a shape of their own are named, by a letter or by code point.
-/

namespace Readiness.Quoted

/-- A code point as it is named, in lower-case hexadecimal digits between braces. -/
def codePoint (c : Char) : List Char :=
  '\\' :: 'u' :: '\x7b' :: (Nat.toDigits 16 c.toNat ++ ['\x7d'])

/-- A character as it stands between the quotes. -/
def encodeChar (c : Char) : List Char :=
  if c == '\x00' then ['\\', '0']
  else if c == '\t' then ['\\', 't']
  else if c == '\n' then ['\\', 'n']
  else if c == '\r' then ['\\', 'r']
  else if c == '"' || c == '\\' then ['\\', c]
  else if isHidden c then codePoint c
  else [c]

/-- The text in quotes. -/
def text (s : String) : String := String.ofList ('"' :: (s.toList.flatMap encodeChar ++ ['"']))

end Readiness.Quoted
