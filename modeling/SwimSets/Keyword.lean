import SwimSets.Scan.Search
import SwimSets.Vocabulary.Keywords

/-!
# Keywords in a text

**A keyword stands in a text** where its characters do and neither edge runs on: an edge that is
a letter does not touch a letter outside, and an edge that is a digit does not touch a letter or
digit outside. So "im" is not in "swim", while "fc" is in "4fc".

Occurrences of the characters are listed from left to right without overlaps, and only then are
the edges looked at (`find`).

**Mentions** (`mentions`). The strokes that a text names, each with its place. The words are tried
in order of precedence and a word is passed over where a stronger one already stands, so "not fc"
is one mention of the swimmer's choice and none of front crawl.
-/

namespace SwimSets

namespace Keyword

/-- A character at the edge of a keyword does not run on into the one outside. -/
def edgeClear (edge : Char) (outside : Option Char) : Bool :=
  match outside with
  | none => true
  | some c =>
    if isAsciiLetter edge then !isAsciiLetter c
    else if isAsciiDigit edge then !(isAsciiLetter c || isAsciiDigit c)
    else true

/-- Reads the characters of a keyword, and tells whether both of its edges are clear. -/
def occurrence (first last : Char) (keyword : Text) : Scanner Bool := fun c =>
  match Scanner.word keyword c with
  | none => none
  | some (_, d) => some (edgeClear first c.prev && edgeClear last d.rest.head?, d)

/-- Where the keyword stands in the text with both edges clear. The empty keyword stands
nowhere. -/
def find (keyword t : Text) : List Span :=
  match keyword.head?, keyword.getLast? with
  | some first, some last =>
    ((occurrence first last keyword).hits t).filterMap fun h =>
      if h.value then some h.span else none
  | _, _ => []

/-- The keyword stands somewhere in the text. -/
def isIn (keyword t : Text) : Bool := !(find keyword t).isEmpty

/-- The meaning of the first word of the table that stands in the text. -/
def lookUp {α : Type} (table : List (Text × α)) (t : Text) : Option α :=
  (table.find? fun entry => isIn entry.1 t).map (·.2)

end Keyword

/-- The stroke that the text names, by precedence. -/
def strokeOf (t : Text) : Option Stroke := Keyword.lookUp strokeWords t

/-- The activity that the text names: a drill by its name, else by the word for the activity. -/
def activityOf (t : Text) : Option Activity :=
  if drillWords.any fun w => Keyword.isIn w t then some .drill
  else Keyword.lookUp activityWords t

/-! ## Mentions -/

/-- A stroke named in a text, and where. -/
structure Mention where
  stroke : Stroke
  span : Span
  deriving DecidableEq, Repr

namespace Mention

/-- The mention put among others that are in order of place. -/
def insert (m : Mention) : List Mention → List Mention
  | [] => [m]
  | n :: ns => if n.span.start ≤ m.span.start then n :: insert m ns else m :: n :: ns

/-- The mention added, unless its place is already taken. -/
def addTo (taken : List Mention) (m : Mention) : List Mention :=
  if taken.all fun n => !n.span.overlaps m.span then insert m taken else taken

end Mention

/-- Every word for a stroke in the text, the words in order of precedence. -/
def candidates (t : Text) : List Mention :=
  strokeWords.flatMap fun entry => (Keyword.find entry.1 t).map fun span => ⟨entry.2, span⟩

/-- The strokes that the text names, in order of place, the stronger word taking its
place first. -/
def mentions (t : Text) : List Mention := (candidates t).foldl Mention.addTo []

/-- The strokes that the text names, each once, in order of first mention. -/
def strokesOf (t : Text) : List Stroke :=
  (mentions t).foldl (fun seen m => if seen.contains m.stroke then seen else seen ++ [m.stroke]) []

end SwimSets
