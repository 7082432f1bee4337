import SwimSets.Scan.Search
import SwimSets.Session.Line

/-!
# Repeats

A line with the word "repeat" stands for the set just above it: the nearest run of parsed lines,
at most two of them. A layout line ends the search. A line of content that was not understood is
passed over while no line has been found, and ends the run after that.
-/

namespace SwimSets.Repeat

/-- The most lines that one repeat stands for. -/
def window : Nat := 2

/-- The line asks for a repeat. -/
def isAsked (normalized : Text) : Bool := (Scanner.word "repeat").occursIn normalized

variable {D : Type}

/-- The lines to repeat, in order, looking upwards from those already `found`; the lines above
are given nearest first. -/
def collect (found : List (ParsedLine D)) : List (ParsedLine D) → List (ParsedLine D)
  | [] => found
  | l :: above =>
    if l.isLayout then found
    else if l.parsed then
      if found.length + 1 = window then l :: found else collect (l :: found) above
    else if found.isEmpty then collect found above
    else found

/-- The contributions to repeat, and the number of lines they come from. -/
def resolve (previous : List (ParsedLine D)) : Option (List (Contribution D) × Nat) :=
  let found := collect [] previous.reverse
  if found.isEmpty then none else some (found.flatMap (·.contributions), found.length)

end SwimSets.Repeat
