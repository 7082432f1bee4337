import SwimSets.Text.Basic

/-!
# What a report looks like

The form of a report and the settings that it is written with.
-/

namespace SwimSets

/-- The form of a report. -/
inductive OutputFormat where
  | text
  | json
  deriving DecidableEq, Repr

namespace OutputFormat

/-- All forms. -/
def all : List OutputFormat := [text, json]

/-- The name of the form in settings and on the command line. -/
def name : OutputFormat → Text
  | text => "text"
  | json => "json"

/-- The form with the given name. -/
def ofName (t : Text) : Option OutputFormat := all.find? fun f => f.name == t

end OutputFormat

/-- The settings of a report. -/
structure ReportOptions where
  /-- Decimal places of distances. -/
  decimals : Nat
  /-- The length of the pool in metres. -/
  poolLength : Nat
  /-- Every line of content is listed. -/
  showLines : Bool
  deriving DecidableEq, Repr

end SwimSets
