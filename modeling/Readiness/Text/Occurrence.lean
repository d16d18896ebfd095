/-!
# Occurrence of one text in another

A message is found in a line if the line has it as a contiguous piece. The empty message is found
everywhere.
-/

namespace Readiness

/-- Whether `needle` is a contiguous piece of the characters. -/
def occursIn (needle : List Char) : List Char → Bool
  | [] => needle.isEmpty
  | c :: cs => needle.isPrefixOf (c :: cs) || occursIn needle cs

/-- Whether `message` is a contiguous piece of `text`. -/
def mentions (text message : String) : Bool := occursIn message.toList text.toList

/-- `occursIn` decides the order of contiguous pieces. -/
theorem occursIn_iff (needle cs : List Char) : occursIn needle cs = true ↔ needle <:+: cs := by
  induction cs with
  | nil => simp [occursIn]
  | cons c cs ih => simp [occursIn, ih, List.infix_cons_iff]

/-- A message is mentioned where its characters are found. -/
theorem mentions_iff (text message : String) :
    mentions text message = true ↔ message.toList <:+: text.toList := occursIn_iff _ _

end Readiness
