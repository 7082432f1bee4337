import SwimSets.Distance
import SwimSets.Keyword
import SwimSets.Line.View
import SwimSets.Session.Line

/-!
# A line with a distance

What the rules know of a line: its two views, the distance that was read from it, and the stroke
and activity that it names anywhere.
-/

namespace SwimSets

/-- A content line with a distance, ready for the rules. -/
structure LineContext where
  normalized : Text
  measurable : Text
  distance : Distance
  stroke : Option Stroke
  activity : Option Activity
  deriving DecidableEq, Repr

namespace LineContext

/-- The context of a line with the given views and distance. -/
def of (view : LineView) (distance : Distance) : LineContext :=
  ⟨view.normalized, view.measurable, distance, strokeOf view.normalized,
    activityOf view.normalized⟩

variable {D : Type} [Metres D]

/-- The distance of one repetition. -/
def perRep (ctx : LineContext) : D := (ctx.distance.perRep : D)

/-- The distance of all repetitions. -/
def total (ctx : LineContext) : D := (ctx.distance.reps : D) * ctx.perRep

/-- The activity that the line names, or the one that goes without saying. -/
def activityOrAssumed (ctx : LineContext) : Activity := ctx.activity.getD assumedActivity

end LineContext

end SwimSets
