import SwimSets.Text.Basic

/-!
# Writing a text in ASCII

`toAscii` spells a text with ASCII characters only, so that one set of words serves every keyboard.

**What is kept.** A text of plain characters (codes below 127) is its own spelling. In any other
text the part before the first character that is not plain is kept as it is, and each character
from there on is spelled on its own.

**Ways of spelling** (`Speller`). How a character is spelled is a matter of a large table that all
else takes as given. What is asked of it: spellings are plain, and a letter spells itself. A
character without a spelling is written `[?]`.

**Words that end in a space.** A spelling such as `heart ` would double a space that follows it,
or leave one at the end of the text, so its last space may be left out (`Speller.close`).

**Spelling ASCII** (`Speller.KeepsAscii`). What comes after the first character that is not plain is
spelled too. Printable ASCII then stands for itself, and control characters are silent.
-/

namespace SwimSets

/-- A character that is kept as it is before the first one that is not plain. -/
def isPlain (c : Char) : Bool := c.toNat < 127

/-- A way of spelling characters in ASCII. -/
class Speller where
  /-- How a character is spelled, where that is known. -/
  spelling : Char → Option Text
  /-- What is written of a spelling, given whether a space or the end of the text follows. -/
  close : Bool → Text → Text
  spelling_plain : ∀ {c : Char} {s : Text}, spelling c = some s → ∀ d ∈ s, isPlain d = true
  spelling_letter : ∀ {c : Char}, isAsciiLetter c = true → spelling c = some [c]
  /-- A space at the end of a spelling may be left out. -/
  close_eq : ∀ (b : Bool) (s : Text), close b s = s ∨ s = close b s ++ [' ']

/-- ASCII is spelled as it stands, but for its control characters, which are not spelled at all. -/
class Speller.KeepsAscii [Speller] : Prop where
  spelling_printable : ∀ {c : Char}, 32 ≤ c.toNat → c.toNat < 127 →
    Speller.spelling c = some [c]
  spelling_control : ∀ {c : Char}, c.toNat < 32 ∨ c.toNat = 127 → Speller.spelling c = some []
  /-- A spelling of one character is written in full. -/
  close_singleton : ∀ (b : Bool) (c : Char), Speller.close b [c] = [c]

/-- A space or the end of the text comes next. -/
def endsHere [Speller] (next : Option Char) : Bool :=
  next.all fun d => (Speller.spelling d).any fun u => u.head? == some ' '

/-- Each character spelled on its own. -/
def spell [Speller] : Text → Text
  | [] => []
  | c :: r =>
    match Speller.spelling c with
    | none => "[?]".toList ++ spell r
    | some s => Speller.close (endsHere r.head?) s ++ spell r

/-- The text written in ASCII. -/
def toAscii [Speller] (t : Text) : Text := t.takeWhile isPlain ++ spell (t.dropWhile isPlain)

end SwimSets
