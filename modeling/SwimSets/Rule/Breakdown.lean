import SwimSets.Rule.Context

/-!
# Breakdowns

"4 x 100m FC as 25m Kick / 25m Drill / 50m Swim": the clause after "as" says what one repetition
is made of. Each part has a distance of its own, which is swum in every repetition.

**Parts.** The clause is cut at slashes and commas, and each piece again before each distance
after its first, since "25 fly 25 free" is two parts. A clause with neither a digit nor a slash
("as fast as possible") is no breakdown.

**Strokes.** A part without a stroke takes the one named before "as", and failing that the assumed
one, with a warning. Activities are not taken over.
-/

namespace SwimSets

/-- What a line says about the parts of its distance. -/
inductive Breakdown (D : Type) where
  /-- There is no breakdown on the line. -/
  | notApplicable
  /-- There is one, but none of its parts has a distance. -/
  | noDistances
  /-- The parts that have a distance. -/
  | parts (contributions : List (Contribution D)) (warnings : List Warning)
  deriving DecidableEq, Repr

namespace Breakdown

open Scanner

/-- The word "as" and the blanks after it. -/
def asWord : Scanner Unit := do
  wordEdge
  word "as"
  wordEdge
  blanks

/-- The pieces of a text from position `start` on, cut at the given positions. -/
def pieces (t : Text) (start : Nat) : List Nat → List Text
  | [] => [t.drop start]
  | cut :: cuts => t.slice start cut :: pieces t cut cuts

/-- The text cut before each of its distances but the first. -/
def cutAtDistances (t : Text) : List Text := pieces t 0 (Distance.starts t).tail

/-- The parts of a clause, trimmed, without the empty ones. -/
def clauseParts (clause : Text) : List Text :=
  (((clause.splitAt fun c => c == '/' || c == ',').flatMap cutAtDistances).map Text.trim).filter
    fun p => !p.isEmpty

/-- The text before the word "as", and the parts of the clause after it. -/
def splitClause (measurable : Text) : Option (Text × List Text) :=
  match asWord.firstHit measurable with
  | none => none
  | some h =>
    let clause := measurable.drop h.span.stop
    if clause.any fun c => isAsciiDigit c || c == '/' then
      some (measurable.take h.span.start, clauseParts clause)
    else none

/-- A part that has a distance, with the stroke that holds for it if one is named. -/
structure Part where
  metres : Nat
  stroke : Option Stroke
  activity : Activity
  deriving DecidableEq, Repr

/-- What a part says, given the stroke named before the clause; nothing without a distance. -/
def Part.read (headStroke : Option Stroke) (t : Text) : Option Part :=
  (Distance.readBare t).map fun d =>
    ⟨d.1, (strokeOf t).or headStroke, (activityOf t).getD assumedActivity⟩

/-- The metres of all parts together. -/
def metresOf : List Part → Nat
  | [] => 0
  | p :: ps => p.metres + metresOf ps

/-- What is worth a look about the parts of a line. -/
def warningsFor (parts : List Part) (ignored perRep : Nat) : List Warning :=
  let sum := metresOf parts
  (if parts.any fun p => p.stroke.isNone then [.strokeAssumed] else []) ++
    (if 0 < ignored then [.partsIgnored ignored] else []) ++
    (if sum ≠ perRep then [.partsDisagree sum perRep] else [])

variable {D : Type} [Metres D]

/-- What a part contributes, swum in every repetition. -/
def Part.contribution (reps : Nat) (p : Part) : Contribution D :=
  ⟨p.stroke.getD assumedStroke, p.activity, (p.metres : D) * (reps : D)⟩

/-- The breakdown on a line. -/
def read (ctx : LineContext) : Breakdown D :=
  match splitClause ctx.measurable with
  | none => .notApplicable
  | some (head, texts) =>
    let parts := texts.filterMap (Part.read (strokeOf head))
    if parts.isEmpty then .noDistances
    else
      .parts (parts.map (Part.contribution ctx.distance.reps))
        (warningsFor parts (texts.length - parts.length) ctx.distance.perRep)

end Breakdown

end SwimSets
