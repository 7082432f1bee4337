import SwimSets.Report.Amount
import SwimSets.Report.Options
import SwimSets.Session.Tally
import SwimSets.Text.Width

/-!
# The report for people

**The table.** A row for each stroke that was swum, with a column for each activity and the total,
and a last row for all strokes. The label stands to the left in 18 columns and each number to the
right in 9.

**Below it.** How many lines were read and how; a note if the total is no whole number of lengths
of the pool; each warning with its line; and, if asked for, the audit: every line of content with a
sign for what became of it, its number, its text cut to 36 columns, and what was read.
-/

namespace SwimSets.Report

/-- The columns of a label. -/
def labelWidth : Nat := 18

/-- The columns of a number. -/
def columnWidth : Nat := 9

/-- The columns of the text of a line in the audit. -/
def auditWidth : Nat := 36

/-- The text with spaces after it up to a number of characters. -/
def padRight (n : Nat) (t : Text) : Text := t ++ List.replicate (n - t.length) ' '

/-- The text with spaces before it up to a number of characters. -/
def padLeft (n : Nat) (t : Text) : Text := List.replicate (n - t.length) ' ' ++ t

/-- A row of the table. -/
def tableRow (label : Text) (cells : List Text) : Text :=
  padRight labelWidth label ++ cells.flatMap (padLeft columnWidth)

/-- The numbers of a row. -/
def amounts (decimals : Nat) (ds : List Float) : List Text := ds.map fun d => amount d decimals

/-- The strokes that were swum. -/
def strokesSwum (t : Totals Float) : List Stroke :=
  Stroke.all.filter fun s => !Metres.isZero (t.strokeTotal s)

/-- The row of a stroke. -/
def strokeRow (t : Totals Float) (decimals : Nat) (s : Stroke) : Text :=
  tableRow s.label (amounts decimals (Activity.all.map (t.get s) ++ [t.strokeTotal s]))

/-- The row for all strokes. -/
def totalRow (t : Totals Float) (decimals : Nat) : Text :=
  tableRow "Total" (amounts decimals (Activity.all.map t.activityTotal ++ [t.total]))

/-- The row above the numbers. -/
def headRow : Text := tableRow "Stroke" (Activity.all.map Activity.label ++ ["Total".toList])

/-- The lines of the table. -/
def table (t : Totals Float) (decimals : Nat) : List Text :=
  let strokes := strokesSwum t
  if strokes.isEmpty then ["No distance found."]
  else
    headRow :: strokes.map (strokeRow t decimals) ++
      [List.replicate (labelWidth + columnWidth * 5) '-', totalRow t decimals]

/-- How many lines were read and how. -/
def countsLine (t : Tally Float) : Text :=
  "Lines: ".toList ++ Text.ofNat t.parsedCount ++ " parsed, ".toList ++
    Text.ofNat t.warningCount ++ " with warnings, ".toList ++ Text.ofNat t.unparsedCount ++
    " unparsed".toList

/-- The note that the total does not fit the pool, if it does not. -/
def poolNote (t : Tally Float) (o : ReportOptions) : Option Text :=
  if t.isMultipleOf o.poolLength then none
  else
    some ("Note: total ".toList ++ amount t.total o.decimals ++ "m is not a multiple of the ".toList
      ++ Text.ofNat o.poolLength ++ "m pool".toList)

/-- The warning of a line, if it has one. -/
def warningLine (l : ParsedLine Float) : Option Text :=
  l.warningText.map fun w =>
    "Warning (line ".toList ++ Text.ofNat l.number ++ "): ".toList ++ w

/-! ## The audit -/

/-- A contribution in short. -/
def contributionText (decimals : Nat) (c : Contribution Float) : Text :=
  c.stroke.abbreviation ++ ' ' :: (c.activity.label ++ ' ' :: (amount c.distance decimals ++ ['m']))

/-- What was read of a line, or why nothing was. -/
def detail (l : ParsedLine Float) (decimals : Nat) : Text :=
  match l.reason with
  | some r => r.message
  | none =>
    Text.join ", ".toList (l.contributions.map (contributionText decimals)) ++
      match l.warningText with
      | some w => " (".toList ++ w ++ [')']
      | none => []

/-- The sign for what became of a line. -/
def glyph (l : ParsedLine Float) : Char :=
  if l.parsed then (if l.hasWarning then '!' else '+') else '-'

/-- The line of the audit for a line of the session. -/
def auditLine [Ruler] (decimals : Nat) (l : ParsedLine Float) : Text :=
  Text.trimEnd (glyph l :: ' ' :: (padLeft 4 (Text.ofNat l.number) ++ ' ' :: ' ' ::
    (padTo (truncate (Text.trim l.text) auditWidth) auditWidth ++ ' ' :: ' ' ::
      detail l decimals)))

/-- The lines of the audit. -/
def audit [Ruler] (t : Tally Float) (decimals : Nat) : List Text :=
  [] :: "Line audit:".toList :: (t.lines.filter (!·.isLayout)).map (auditLine decimals)

/-! ## The report -/

/-- The lines of the report. -/
def textLines [Ruler] (t : Tally Float) (o : ReportOptions) : List Text :=
  table t.totals o.decimals ++ [[], countsLine t] ++ (poolNote t o).toList ++
    t.warned.filterMap warningLine ++ (if o.showLines then audit t o.decimals else [])

/-- The report for people. -/
def renderText [Ruler] (t : Tally Float) (o : ReportOptions) : Text :=
  (textLines t o).flatMap fun l => l ++ ['\n']

end SwimSets.Report
