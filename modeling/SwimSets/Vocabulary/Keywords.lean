import SwimSets.Vocabulary.Stroke

/-!
# The words of a session

The tables that say which words name which stroke and activity. All words are lower-case ASCII.

**Order is precedence.** A table is read from the top, and the first word found decides. So a
negation or a compound stands above the words that it contains: "not fc" above "fc".
-/

namespace SwimSets

/-- The words for strokes, in order of precedence. -/
def strokeWords : List (Text × Stroke) := [
  -- A negation contains the word that it negates.
  ("not freestyle", .swimmersChoice),
  ("not free", .swimmersChoice),
  ("not fc", .swimmersChoice),
  ("non fc", .swimmersChoice),
  ("non-fc", .swimmersChoice),
  ("number 1", .swimmersChoice),
  ("no. 1", .swimmersChoice),
  ("no.1", .swimmersChoice),
  ("no 1", .swimmersChoice),
  ("no1", .swimmersChoice),
  ("choice", .swimmersChoice),
  ("i.m.", .individualMedley),
  ("medley", .individualMedley),
  ("im", .individualMedley),
  ("butterfly", .butterfly),
  ("fly", .butterfly),
  ("backstroke", .backstroke),
  ("bk", .backstroke),
  ("breaststroke", .breaststroke),
  ("breast", .breaststroke),
  ("brs", .breaststroke),
  ("br", .breaststroke),
  ("front crawl", .frontCrawl),
  ("freestyle", .frontCrawl),
  ("free", .frontCrawl),
  ("crawl", .frontCrawl),
  ("fc", .frontCrawl),
  ("fs", .frontCrawl),
  -- "back half fast" speaks of pace, so any stroke that is named goes before it.
  ("back", .backstroke)]

/-- The names of drills. One of these makes a distance a drill, whatever else is said of it. -/
def drillWords : List Text := [
  "catch up", "catch-up", "catchup", "single arm", "one arm", "6 kick", "doggy paddle",
  "fingertip drag", "finger drag", "fist", "fists", "zipper", "sculling", "scull", "evf",
  "tarzan", "head up", "torpedo", "3-3-3", "superman"]

/-- The words for activities, in order of precedence, after the names of drills. -/
def activityWords : List (Text × Activity) := [
  ("drills", .drill),
  ("drill", .drill),
  ("kicks", .kick),
  ("kick", .kick),
  ("pulls", .pull),
  ("pull", .pull),
  ("swims", .swim),
  ("swim", .swim)]

/-! ## What is assumed when nothing is said -/

/-- The stroke of a distance with no stroke named. The reader of a report is told so. -/
def assumedStroke : Stroke := .frontCrawl

/-- The activity of a distance with no activity named. This is the ordinary case and goes
without saying. -/
def assumedActivity : Activity := .swim

end SwimSets
