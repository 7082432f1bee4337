import SwimSets.Text.Basic

/-!
# Strokes and activities

What a distance is swum as: one of six strokes and one of four activities. Each has a place in
the canonical order, a name for machines, and a label for people.
-/

namespace SwimSets

/-- The strokes that a session is tallied by. -/
inductive Stroke where
  | frontCrawl
  | backstroke
  | breaststroke
  | butterfly
  | individualMedley
  /-- The swimmer's own choice, "anything but front crawl" included. -/
  | swimmersChoice
  deriving DecidableEq, Repr

/-- How a distance is swum. -/
inductive Activity where
  | swim
  | drill
  | kick
  | pull
  deriving DecidableEq, Repr

namespace Stroke

/-- The strokes in canonical order. -/
def all : List Stroke :=
  [frontCrawl, backstroke, breaststroke, butterfly, individualMedley, swimmersChoice]

/-- The strokes of a medley, in the order in which they are swum. -/
def medley : List Stroke := [butterfly, backstroke, breaststroke, frontCrawl]

/-- The place of the stroke in canonical order. -/
def index : Stroke → Nat
  | frontCrawl => 0
  | backstroke => 1
  | breaststroke => 2
  | butterfly => 3
  | individualMedley => 4
  | swimmersChoice => 5

/-- The name of the stroke in machine-readable output. -/
def name : Stroke → Text
  | frontCrawl => "front-crawl"
  | backstroke => "backstroke"
  | breaststroke => "breaststroke"
  | butterfly => "butterfly"
  | individualMedley => "individual-medley"
  | swimmersChoice => "swimmers-choice"

/-- The name of the stroke in a report. -/
def label : Stroke → Text
  | frontCrawl => "Front Crawl"
  | backstroke => "Backstroke"
  | breaststroke => "Breaststroke"
  | butterfly => "Butterfly"
  | individualMedley => "Individual Medley"
  | swimmersChoice => "No.1"

/-- The short form that coaches write. -/
def abbreviation : Stroke → Text
  | frontCrawl => "FC"
  | backstroke => "BK"
  | breaststroke => "BR"
  | butterfly => "FLY"
  | individualMedley => "IM"
  | swimmersChoice => "No.1"

/-- Every stroke stands at its place in the canonical order. -/
theorem all_index (s : Stroke) : all[s.index]? = some s := by cases s <;> rfl

theorem mem_all (s : Stroke) : s ∈ all := List.mem_of_getElem? (all_index s)

end Stroke

namespace Activity

/-- The activities in canonical order. -/
def all : List Activity := [swim, drill, kick, pull]

/-- The place of the activity in canonical order. -/
def index : Activity → Nat
  | swim => 0
  | drill => 1
  | kick => 2
  | pull => 3

/-- The name of the activity in machine-readable output. -/
def name : Activity → Text
  | swim => "swim"
  | drill => "drill"
  | kick => "kick"
  | pull => "pull"

/-- The name of the activity in a report. -/
def label : Activity → Text
  | swim => "Swim"
  | drill => "Drill"
  | kick => "Kick"
  | pull => "Pull"

/-- Every activity stands at its place in the canonical order. -/
theorem all_index (a : Activity) : all[a.index]? = some a := by cases a <;> rfl

theorem mem_all (a : Activity) : a ∈ all := List.mem_of_getElem? (all_index a)

end Activity

end SwimSets
