import SwimSets.Json
import SwimSets.Report.Options
import SwimSets.Session.Tally

/-!
# The report for programs

Everything that was read, as JSON: the whole distance and how it fits the pool, the totals, the
lines with what they contribute, and the counts. Several sessions make an array.
-/

namespace SwimSets.Report

/-- A contribution as JSON. -/
def contributionJson (c : Contribution Float) : Json :=
  .object [("stroke", .text c.stroke.name), ("activity", .text c.activity.name),
    ("distance", .double c.distance)]

/-- A line as JSON. -/
def lineJson (l : ParsedLine Float) : Json :=
  .object [("line_number", .whole l.number), ("text", .text l.text), ("parsed", .bool l.parsed),
    ("contributions", .array (l.contributions.map contributionJson)),
    ("warning", .optional l.warningText), ("error", .optional l.error),
    ("unparsed_reason", .optional (l.reason.map UnparsedReason.name))]

/-- The totals of a stroke as JSON. -/
def rowJson (t : Totals Float) (s : Stroke) : Json :=
  .object (Activity.all.map fun a => (a.name, .double (t.get s a)))

/-- The totals as JSON. -/
def totalsJson (t : Totals Float) : Json :=
  .object (Stroke.all.map fun s => (s.name, rowJson t s))

/-- The members of a tally. -/
def tallyMembers (t : Tally Float) : List (Text × Json) :=
  [("totals", totalsJson t.totals), ("lines", .array (t.lines.map lineJson)),
    ("parsed_count", .whole t.parsedCount), ("warning_count", .whole t.warningCount),
    ("error_count", .whole t.errorCount), ("unparsed_count", .whole t.unparsedCount)]

/-- The report of a session, with the name of its source if it has one. -/
def sessionJson (t : Tally Float) (o : ReportOptions) (source : Option Text) : Json :=
  .object ((source.toList.map fun s => ("source".toList, Json.text s)) ++
    [("total_distance".toList, .double t.total), ("pool_length", .whole o.poolLength),
      ("multiple_of_pool", .bool (t.isMultipleOf o.poolLength))] ++ tallyMembers t)

/-- The report for programs. -/
def renderJson (t : Tally Float) (o : ReportOptions) (source : Option Text) : Text :=
  (sessionJson t o source).pretty

/-- The report of several sessions for programs. -/
def renderJsonAll (sessions : List (Text × Tally Float)) (o : ReportOptions) : Text :=
  (Json.array (sessions.map fun s => sessionJson s.2 o (some s.1))).pretty

end SwimSets.Report
