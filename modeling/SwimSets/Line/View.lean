import SwimSets.Text.Ascii
import SwimSets.Line.Aside

/-!
# Lines and their two views

**Kinds of line** (`LineKind`). A line of blanks only, a separator drawn with dashes, underscores
and equals signs, or content.

**Two views of a content line** (`LineView`).

- `normalized`: the line in lower-case ASCII, with single spaces. Words are looked for here.
- `measurable`: the same without its asides (rest, clock times, lanes, notes). Numbers are
  read here, so "@1:30" and "lanes 1-3" are never distances.
-/

namespace SwimSets

/-- What a line is before anything is read from it. -/
inductive LineKind where
  | blank
  /-- Only dashes, underscores and equals signs. -/
  | separator
  | content
  deriving DecidableEq, Repr

/-- A character that separators are drawn with. -/
def isRule (c : Char) : Bool := c == '-' || c == '_' || c == '='

/-- The kind of a line as written. -/
def LineKind.of (raw : Text) : LineKind :=
  let t := Text.trim raw
  if t.isEmpty then .blank else if t.all isRule then .separator else .content

/-- The line with each multiplication sign made an x that stands alone. Coaches write the sign
between repetitions and distance. -/
def spaceTimes (raw : Text) : Text :=
  raw.flatMap fun c => if c = '×' then [' ', 'x', ' '] else [c]

/-- The line in lower-case ASCII with single spaces. -/
def normalize [Speller] (raw : Text) : Text := Text.collapse ((toAscii (spaceTimes raw)).map lower)

/-- The two views of a content line. -/
structure LineView where
  normalized : Text
  measurable : Text
  deriving DecidableEq, Repr

/-- The views of a line as written. -/
def LineView.of [Speller] (raw : Text) : LineView :=
  let n := normalize raw
  ⟨n, stripAsides n⟩

end SwimSets
