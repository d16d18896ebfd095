import Readiness.Http.Url.Address
import Readiness.Text.Punycode
import Readiness.Text.Utf8

/-!
# Domain names

A domain name is folded, so that names that differ in case or in compatible forms of a character are
one, and each label with characters beyond ASCII is written in Punycode behind `xn--`. `fold?` covers
the letters of the Latin, Greek, Cyrillic and Armenian scripts, full-width forms, and the characters
that a name may not have or that count for nothing in it; every other character is left as it is.
-/

namespace Readiness.Domain

/-- Whether a number lies in one of some ranges. -/
def inRanges (rs : List (Nat × Nat)) (n : Nat) : Bool := rs.any fun (a, b) => a ≤ n && n ≤ b

/-- The characters of ASCII that no name may have. -/
def isForbidden (c : Char) : Bool := c ≤ ' ' || c == '\x7F' || "%#/:<>?@[\\]^|".toList.contains c

/-- Characters that count for nothing. -/
def ignored : List (Nat × Nat) :=
  [(0xAD, 0xAD), (0x34F, 0x34F), (0x180B, 0x180D), (0x180F, 0x180F), (0x200B, 0x200B),
    (0x2060, 0x2060), (0x2064, 0x2064), (0xFE00, 0xFE0F), (0xFEFF, 0xFEFF)]

/-- Characters beyond ASCII that no name may have. -/
def disallowed : List (Nat × Nat) :=
  [(0x80, 0xA0), (0x1680, 0x1680), (0x2000, 0x200A), (0x200E, 0x200F), (0x2028, 0x202F),
    (0x205F, 0x205F), (0x2061, 0x2063), (0x2065, 0x206F), (0x3000, 0x3000), (0xD800, 0xF8FF),
    (0xFDD0, 0xFDEF), (0xFFF0, 0xFFFF), (0xE0000, 0x10FFFF)]

/-- Capital letters that lie a fixed distance before their small ones. -/
def shifted : List (Nat × Nat × Nat) :=
  [(0xC0, 0xD6, 32), (0xD8, 0xDE, 32), (0x388, 0x38A, 37), (0x391, 0x3A1, 32), (0x3A3, 0x3AB, 32),
    (0x400, 0x40F, 80), (0x410, 0x42F, 32), (0x531, 0x556, 48)]

/-- Ranges in which a capital letter with an even number lies just before its small one. -/
def evenCapitals : List (Nat × Nat) :=
  [(0x100, 0x12F), (0x134, 0x137), (0x14A, 0x177), (0x370, 0x373), (0x3D8, 0x3EF), (0x460, 0x481),
    (0x48A, 0x4BF), (0x4D0, 0x52F), (0x1E00, 0x1E95), (0x1EA0, 0x1EFF)]

/-- Ranges in which a capital letter with an odd number lies just before its small one. -/
def oddCapitals : List (Nat × Nat) :=
  [(0x139, 0x13E), (0x141, 0x148), (0x179, 0x17E), (0x4C1, 0x4CE)]

/-- Single characters with a folded form of their own. -/
def singles : List (Nat × String) :=
  [(0xAA, "a"), (0xB2, "2"), (0xB3, "3"), (0xB5, "μ"), (0xB9, "1"), (0xBA, "o"), (0x130, "i̇"),
    (0x132, "ij"), (0x133, "ij"), (0x13F, "l·"), (0x140, "l·"), (0x149, "ʼn"), (0x178, "ÿ"),
    (0x17F, "s"), (0x386, "ά"), (0x38C, "ό"), (0x38E, "ύ"), (0x38F, "ώ"), (0x4C0, "ӏ"),
    (0x1E9E, "ß"), (0x2122, "tm"), (0x212A, "k"), (0x212B, "å"), (0x3002, "."), (0xFB00, "ff"),
    (0xFB01, "fi"), (0xFB02, "fl"), (0xFB03, "ffi"), (0xFB04, "ffl"), (0xFB05, "st"),
    (0xFB06, "st"), (0xFF61, ".")]

/-- A character of ASCII in a name. -/
def foldAscii? (c : Char) : Option (List Char) :=
  if isForbidden c then none else some [c.toLower]

/-- The folded form of a character; `none` if no name may have it. -/
def fold? (c : Char) : Option (List Char) :=
  let n := c.toNat
  if n < 0x80 then foldAscii? c
  else if 0xFF01 ≤ n ∧ n ≤ 0xFF5E then foldAscii? (Char.ofNat (n - 0xFEE0))
  else if inRanges ignored n then some []
  else if inRanges disallowed n then none
  else match singles.lookup n with
    | some s => some s.toList
    | none =>
      if inRanges evenCapitals n && n % 2 == 0 then some [Char.ofNat (n + 1)]
      else if inRanges oddCapitals n && n % 2 == 1 then some [Char.ofNat (n + 1)]
      else match shifted.find? fun (a, b, _) => a ≤ n && n ≤ b with
        | some (_, _, d) => some [Char.ofNat (n + d)]
        | none => some [c]

/-- The folded form of a name. -/
def foldAll? (cs : List Char) : Option (List Char) := (cs.mapM fold?).map List.flatten

/-- Whether a label may stand in a name once it is folded and read: it does not begin with a mark
    that combines with what stands before it. -/
def isLabel (cs : List Char) : Bool :=
  match cs with
  | c :: _ => !(0x300 ≤ c.toNat && c.toNat ≤ 0x36F)
  | [] => true

/-- A folded label in ASCII. A label that claims to be in Punycode must stand for one that is not
    ASCII and is folded itself. -/
def label? (cs : List Char) : Option (List Char) :=
  let marker := "xn--".toList
  if cs.all (·.toNat < 0x80) then
    if marker.isPrefixOf cs then
      match Punycode.decode? (cs.drop marker.length) with
      | none => none
      | some read =>
        if read.any (0x80 ≤ ·.toNat) && foldAll? read == some read && isLabel read then some cs
        else none
    else some cs
  else if isLabel cs && !marker.isPrefixOf cs then some (marker ++ Punycode.encode cs)
  else none

/-- The name in ASCII that some bytes stand for. -/
def toAscii? (bs : Bytes) : Option (List Char) :=
  let s := Utf8.decode bs
  if Utf8.encode s = bs then
    match foldAll? s.toList with
    | none => none
    | some cs => ((splitAt '.' cs).mapM label?).map fun labels => ['.'].intercalate labels
  else none

end Readiness.Domain
