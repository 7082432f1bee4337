import SwimSets.Report.Json
import SwimSets.Report.Text
import SwimSets.Session.Parse

/-!
# Reports of several sessions

Sessions are read from sources, each with a label. One session is reported on its own. Several are
reported one after another, each below a line with its label, or as one array for programs.
-/

namespace SwimSets

/-- What a session is read from. -/
structure Source where
  /-- The name that the session is reported under. -/
  label : Text
  bytes : List UInt8
  deriving DecidableEq, Repr

/-- A source that is no text. -/
structure BadSource where
  label : Text
  fault : NotText
  deriving DecidableEq, Repr

namespace BadSource

/-- Which source it is, in words. Why it is no text stands in `fault`. -/
def message (b : BadSource) : Text := "Cannot parse ".toList ++ b.label

end BadSource

/-- A session and its label. -/
abbrev Labelled := Text × Tally Float

namespace Source

/-- The session of a source. -/
def read [Speller] (s : Source) : Except BadSource Labelled :=
  match parseBytes s.bytes with
  | .ok t => .ok (s.label, t)
  | .error e => .error ⟨s.label, e⟩

/-- The sessions of the sources, in order, or the first source that is no text. -/
def readAll [Speller] : List Source → Except BadSource (List Labelled)
  | [] => .ok []
  | s :: ss => do
    let first ← s.read
    let rest ← readAll ss
    return first :: rest

end Source

/-- How many lines of the sessions were not read. -/
def unparsedLines : List Labelled → Nat
  | [] => 0
  | s :: ss => s.2.unparsedCount + unparsedLines ss

namespace Report

/-- The report of a session below its label. -/
def headed [Ruler] (o : ReportOptions) (s : Labelled) : Text :=
  "== ".toList ++ s.1 ++ " ==\n".toList ++ renderText s.2 o

/-- The report of the sessions. -/
def render [Ruler] (format : OutputFormat) (o : ReportOptions) (sessions : List Labelled) : Text :=
  match format, sessions with
  | .json, [s] => renderJson s.2 o (some s.1) ++ ['\n']
  | .json, ss => renderJsonAll ss o ++ ['\n']
  | .text, [s] => renderText s.2 o
  | .text, ss => Text.join ['\n'] (ss.map (headed o))

end Report

end SwimSets
