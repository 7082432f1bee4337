import SwimSets.Rule.Context

/-!
# Splits of one distance among strokes

Four ways in which a line shares its distance out among several strokes. Each either takes the
line, by giving its contributions, or leaves it; the first in order that takes it has it
(`Split.choose`).

- `alternating`: "alt lengths" and at least two strokes. All get the same share.
- `medley`: an individual medley "per stroke". A quarter for each stroke of the medley.
- `halves`: "2 x 50m pull as 1 bk 1 fc". An activity, then strokes with weights; a stroke without
  a number weighs one.
- `counted`: "8 x 50m 4 no1 4fc". Strokes with numbers that add up to the repetitions; a stroke
  without a number is passed over.

**Counts.** The count of a stroke is the number written just before it. Counts of a stroke named
twice are added. When the counts come to more than a number can hold, the line is left.
-/

namespace SwimSets

/-- The ways to split a distance. -/
inductive Split where
  | alternating
  | medley
  | halves
  | counted
  deriving DecidableEq, Repr

namespace Split

open Scanner

/-- The splits in the order in which they are tried. -/
def all : List Split := [alternating, medley, halves, counted]

/-- The name of the split. -/
def name : Split → Text
  | alternating => "alternating-stroke"
  | medley => "im-per-stroke"
  | halves => "halves-split"
  | counted => "rep-distributed"

/-! ## Weights -/

/-- The digits at the end of a text, before blanks, that count what comes next. Where a letter runs
into them the count starts behind the first digit of another script. -/
def trailingDigits (t : Text) : Option Text :=
  let back := t.reverse.dropWhile isBlank
  let run := (back.takeWhile isDecimal).reverse
  let lettered := (back.dropWhile isDecimal).head?.any fun c => 'a' ≤ c && c ≤ 'z'
  let digits := if lettered then (run.dropWhile isAsciiDigit).tail else run
  if digits.isEmpty then none else some digits

/-- The count at the end of a text, if it can be held. -/
def trailingCount (t : Text) : Option Nat := (trailingDigits t).bind readNumber

/-- The sum, if it can be held. -/
def checkedAdd (a b : Nat) : Option Nat := if a + b < numberBound then some (a + b) else none

/-- The weight added to that of the stroke, which comes last if it is new. -/
def addWeight (stroke : Stroke) (n : Nat) : List (Stroke × Nat) → Option (List (Stroke × Nat))
  | [] => some [(stroke, n)]
  | (s, m) :: ws =>
    if s = stroke then (checkedAdd m n).map fun k => (s, k) :: ws
    else (addWeight stroke n ws).map ((s, m) :: ·)

/-- The weights of the strokes that the text mentions, in order of first mention. A mention
without a count has the default one, or none. -/
def weights (t : Text) (default : Option Nat) : Option (List (Stroke × Nat)) :=
  (mentions t).foldlM (fun ws m =>
    match (trailingCount (t.take m.span.start)).or default with
    | none => some ws
    | some n => addWeight m.stroke n ws) []

/-- The sum of the weights, if it can be held. -/
def weightSum (ws : List (Stroke × Nat)) : Option Nat :=
  ws.foldlM (fun sum w => checkedAdd sum w.2) 0

/-! ## What the splits look for -/

/-- The words for alternating lengths. -/
def altLengths : Scanner Unit := do
  wordEdge
  word "alt"
  maybe (anyWord [".", "ernate", "ernating"])
  blanks
  wholeWord ["lengths", "length", "lens", "len"]

/-- An activity and the word "as", with something after it. -/
def activityAs : Scanner Activity := do
  wordEdge
  let a ← oneOf ([(Activity.drill, "drill"), (.kick, "kick"), (.pull, "pull"),
    (.swim, "swim")].map fun w => do word w.2.toList; return w.1)
  maybe (one (· == 's'))
  blanks1
  word "as"
  blanks1
  notHere atEnd
  return a

/-- The line asks for each stroke of a medley. -/
def saysPerStroke (t : Text) : Bool :=
  Keyword.isIn "per stroke" t || Keyword.isIn "per-stroke" t

/-! ## The splits -/

variable {D : Type} [Metres D]

/-- Every stroke of the line has the same share. -/
def splitAlternating (ctx : LineContext) : Option (List (Contribution D)) :=
  let strokes := strokesOf ctx.normalized
  if altLengths.occursIn ctx.normalized && 2 ≤ strokes.length then
    let share : D := ctx.total / (strokes.length : D)
    some (strokes.map fun s => ⟨s, ctx.activityOrAssumed, share⟩)
  else none

/-- Each stroke of the medley has a quarter. -/
def splitMedley (ctx : LineContext) : Option (List (Contribution D)) :=
  if ctx.stroke = some .individualMedley && saysPerStroke ctx.normalized then
    let quarter : D := ctx.total / ((4 : Nat) : D)
    some (Stroke.medley.map fun s => ⟨s, ctx.activityOrAssumed, quarter⟩)
  else none

/-- The strokes share the distance by their weights. -/
def splitHalves (ctx : LineContext) : Option (List (Contribution D)) := do
  let h ← activityAs.firstHit ctx.measurable
  let ws ← weights (ctx.measurable.drop h.span.stop) (some 1)
  guard (2 ≤ ws.length)
  let sum ← weightSum ws
  guard (sum ≠ 0)
  return ws.map fun w => ⟨w.1, h.value, ctx.total * (w.2 : D) / (sum : D)⟩

/-- Each stroke has as many repetitions as its count. -/
def splitCounted (ctx : LineContext) : Option (List (Contribution D)) := do
  guard ctx.distance.explicitReps
  let ws ← weights (ctx.distance.span.blank ctx.measurable) none
  guard (2 ≤ ws.length)
  let sum ← weightSum ws
  guard (sum = ctx.distance.reps)
  return ws.map fun w => ⟨w.1, ctx.activityOrAssumed, (w.2 : D) * ctx.perRep⟩

/-- The contributions of a line that the split takes. -/
def apply (ctx : LineContext) : Split → Option (List (Contribution D))
  | alternating => splitAlternating ctx
  | medley => splitMedley ctx
  | halves => splitHalves ctx
  | counted => splitCounted ctx

/-- The first split that takes the line, with the contributions. -/
def choose (ctx : LineContext) : Option (Split × List (Contribution D)) :=
  all.findSome? fun s => (s.apply ctx).map fun cs => (s, cs)

end Split

end SwimSets
