import SwimSets.Rule.Breakdown
import SwimSets.Rule.Repeat
import SwimSets.Rule.Split
import SwimSets.Session.Tally
import SwimSets.Text.Utf8

/-!
# Reading a session

**A line** (`parseLine`) goes through the rules in this order.

1. Blank lines and separators are layout.
2. A repeat takes the contributions of the lines above it.
3. Text for odd or even lanes, and sets within sets, are not understood.
4. Without a distance nothing is understood.
5. A breakdown whose parts have distances decides the line.
6. A split decides it.
7. A breakdown without distances is not understood.
8. What is left is one distance in one stroke and one activity. An activity that is not named goes
   without saying; a stroke that is not named is assumed, with a warning.

**A session** (`parse`) is read line by line, each line with those above it at hand. No line stops
the reading.
-/

namespace SwimSets

open Scanner

/-- Text that holds for odd or even lanes only. -/
def laneConditional : Scanner Unit := do
  wordEdge
  anyWord ["odds", "odd", "evens", "even"]
  blanks
  oneOf [wholeWord ["lanes", "lane"],
    one fun c => c == ':' || c == '/' || c == '-' || c == '=']

variable {D : Type} [Metres D]

/-- The one contribution of a line that says nothing more. -/
def plainLine (number : Nat) (raw : Text) (ctx : LineContext) : ParsedLine D :=
  ParsedLine.accepted number raw
    [⟨ctx.stroke.getD assumedStroke, ctx.activityOrAssumed, ctx.total⟩]
    (if ctx.stroke.isNone then [.strokeAssumed] else [])

/-- A line with a distance. -/
def parseMeasured (number : Nat) (raw : Text) (ctx : LineContext) : ParsedLine D :=
  match Breakdown.read ctx with
  | .parts contributions warnings => ParsedLine.accepted number raw contributions warnings
  | .noDistances =>
    match Split.choose ctx with
    | some (_, contributions) => ParsedLine.accepted number raw contributions []
    | none => ParsedLine.refused number raw .breakdownWithoutDistances
  | .notApplicable =>
    match Split.choose ctx with
    | some (_, contributions) => ParsedLine.accepted number raw contributions []
    | none => plainLine number raw ctx

/-- A line of content with the given views. -/
def parseContent (number : Nat) (raw : Text) (view : LineView) (previous : List (ParsedLine D)) :
    ParsedLine D :=
  if Repeat.isAsked view.normalized then
    match Repeat.resolve previous with
    | some (contributions, count) =>
      ParsedLine.accepted number raw contributions [.repeated count]
    | none => ParsedLine.refused number raw .noRepeatSource
  else if laneConditional.occursIn view.normalized then
    ParsedLine.refused number raw .laneConditional
  else if 1 < Distance.countMultipliers view.measurable then
    ParsedLine.refused number raw .nestedMultiplier
  else
    match Distance.read view.measurable with
    | none => ParsedLine.refused number raw .noDistance
    | some distance => parseMeasured number raw (LineContext.of view distance)

/-- What becomes of a line, given the lines above it. -/
def parseLine [Speller] (number : Nat) (raw : Text) (previous : List (ParsedLine D)) :
    ParsedLine D :=
  match LineKind.of raw with
  | .blank => ParsedLine.refused number raw .blank
  | .separator => ParsedLine.refused number raw .separator
  | .content => parseContent number raw (LineView.of raw) previous

/-- The tally with one more line of the session. -/
def Tally.read [Speller] (t : Tally D) (raw : Text) : Tally D :=
  t.push (parseLine (t.lines.length + 1) raw t.lines)

/-- The tally of a session. -/
def parse [Speller] (text : Text) : Tally D := text.lines.foldl Tally.read Tally.empty

/-- The tally of a session in bytes, if they are text. -/
def parseBytes [Speller] (bytes : List UInt8) : Except NotText (Tally D) :=
  (Text.ofUtf8 bytes).map parse

end SwimSets
