import SwimSets.Text.Basic

/-!
# Display width

How many columns a text takes on a screen, and texts cut or filled up to so many.

**Two measures** (`Ruler`). A text is measured as a whole, and a character on its own. The two need
not agree: what a character takes can depend on what stands around it. The tables behind this are
taken as given. What is asked of them concerns the two kinds of characters that bear on nothing
around them: printable ASCII takes one column each, and so does a control character (`\r\n` one
together), though a control character on its own has no width.

**Cutting** (`truncate`) asks the text as a whole whether it fits. What is kept of one that does not
is found by adding up its characters.
-/

namespace SwimSets

/-- A way of measuring texts in columns. -/
class Ruler where
  /-- The columns of a text as a whole. -/
  width : Text → Nat
  /-- The columns of a character on its own, if it has a width. -/
  charWidth : Char → Option Nat
  width_nil : width [] = 0
  width_printable : ∀ (u : Text) {c : Char}, 32 ≤ c.toNat → c.toNat < 127 →
    width (u ++ [c]) = width u + 1
  /-- A control character takes one column, unless it is one half of a line end. -/
  width_control : ∀ (u v : Text) {c : Char}, isControl c = true →
    (c = '\r' → v.head? ≠ some '\n') → (c = '\n' → u.getLast? ≠ some '\r') →
    width (u ++ c :: v) = width u + 1 + width v
  /-- A line end of two characters takes one column. -/
  width_lineEnd : ∀ u v : Text, width (u ++ '\r' :: '\n' :: v) = width u + 1 + width v
  charWidth_control : ∀ {c : Char}, isControl c = true → charWidth c = none

variable [Ruler]

/-- The columns of a character on its own; none if it has no width. -/
def charColumns (c : Char) : Nat := (Ruler.charWidth c).getD 0

/-- The longest start of the text whose characters, each taken on its own, need at most `room`
columns. -/
def takeWidth (room : Nat) : Text → Text
  | [] => []
  | c :: r => if charColumns c ≤ room then c :: takeWidth (room - charColumns c) r else []

/-- The text cut to `limit` columns, with three dots at the cut where there is room for them. -/
def truncate (t : Text) (limit : Nat) : Text :=
  if Ruler.width t ≤ limit then t
  else if limit ≤ 3 then takeWidth limit t
  else takeWidth (limit - 3) t ++ "...".toList

/-- The text with spaces after it up to `columns` columns. -/
def padTo (t : Text) (columns : Nat) : Text :=
  t ++ List.replicate (columns - Ruler.width t) ' '

end SwimSets
