import SwimSets.Metres
import SwimSets.Vocabulary.Stroke

/-!
# What becomes of a line

**Contributions.** A line that is understood contributes distances, each swum in one stroke and
one activity.

**Parsed and unparsed.** A line that is not understood contributes nothing and has a reason. Blank
lines and separators are layout: they have a reason too, but nobody expected a distance of them.

**Warnings.** What was assumed about a line that is worth a look. The wording stands in
`Warning.message`, and that of the reasons in `UnparsedReason.message`.
-/

namespace SwimSets

/-- A distance swum in one stroke and one activity. -/
structure Contribution (D : Type) where
  stroke : Stroke
  activity : Activity
  /-- In metres. Not rounded: a fraction comes from an uneven share. -/
  distance : D
  deriving DecidableEq, Repr

/-- Why a line contributes nothing. -/
inductive UnparsedReason where
  | blank
  | separator
  | noDistance
  | nestedMultiplier
  | laneConditional
  | breakdownWithoutDistances
  | noRepeatSource
  deriving DecidableEq, Repr

namespace UnparsedReason

/-- All reasons. -/
def all : List UnparsedReason :=
  [blank, separator, noDistance, nestedMultiplier, laneConditional, breakdownWithoutDistances,
    noRepeatSource]

/-- The reason is that the line is layout. -/
def isLayout : UnparsedReason → Bool
  | blank | separator => true
  | _ => false

/-- The name of the reason in machine-readable output. -/
def name : UnparsedReason → Text
  | blank => "blank"
  | separator => "separator"
  | noDistance => "no-distance"
  | nestedMultiplier => "nested-multiplier"
  | laneConditional => "lane-conditional"
  | breakdownWithoutDistances => "breakdown-without-distances"
  | noRepeatSource => "no-repeat-source"

/-- The reason in words. -/
def message : UnparsedReason → Text
  | blank => "blank line"
  | separator => "separator line"
  | noDistance => "no distance found"
  | nestedMultiplier => "nested multipliers are not supported"
  | laneConditional => "odd/even lane assignments are not supported"
  | breakdownWithoutDistances => "breakdown parts have no explicit distances"
  | noRepeatSource => "nothing above to repeat"

end UnparsedReason

/-- What was assumed about a line. -/
inductive Warning where
  /-- No stroke was named. -/
  | strokeAssumed
  /-- Parts of a breakdown had no distance. -/
  | partsIgnored (count : Nat)
  /-- The parts of a breakdown add up to another distance than the one written. -/
  | partsDisagree (sum written : Nat)
  /-- The line stands for lines above it. -/
  | repeated (count : Nat)
  /-- A remark that came with a line read from elsewhere. -/
  | remark (text : Text)
  deriving DecidableEq, Repr

/-- The warning in words. -/
def Warning.message : Warning → Text
  | strokeAssumed => "No stroke specified, defaulted to Front Crawl"
  | partsIgnored n =>
    "Ignored ".toList ++ Text.ofNat n ++ " breakdown part(s) without a distance".toList
  | partsDisagree s w =>
    "Breakdown parts add up to ".toList ++ Text.ofNat s ++ "m per rep, written ".toList ++
      Text.ofNat w ++ "m".toList
  | repeated n => "Repeated previous ".toList ++ Text.ofNat n ++ " line(s)".toList
  | remark t => t

/-- A line of a session and what was made of it. -/
structure ParsedLine (D : Type) where
  /-- Counted from one. -/
  number : Nat
  /-- The line as written. -/
  text : Text
  parsed : Bool
  contributions : List (Contribution D)
  warnings : List Warning
  /-- Kept for lines that fail outright; reading a line never does. -/
  error : Option Text
  reason : Option UnparsedReason
  deriving DecidableEq, Repr

namespace ParsedLine

variable {D : Type}

/-- A line that was understood. -/
def accepted (number : Nat) (text : Text) (contributions : List (Contribution D))
    (warnings : List Warning) : ParsedLine D :=
  ⟨number, text, true, contributions, warnings, none, none⟩

/-- A line that was not understood. -/
def refused (number : Nat) (text : Text) (reason : UnparsedReason) : ParsedLine D :=
  ⟨number, text, false, [], [], none, some reason⟩

/-- A blank line or a separator. -/
def isLayout (l : ParsedLine D) : Bool := l.reason.any UnparsedReason.isLayout

/-- The line has a warning. -/
def hasWarning (l : ParsedLine D) : Bool := !l.warnings.isEmpty

/-- The warnings in words, if there are any. -/
def warningText (l : ParsedLine D) : Option Text :=
  if l.hasWarning then some (Text.join "; ".toList (l.warnings.map Warning.message)) else none

/-- A line of content that was not understood. -/
def isUnparsed (l : ParsedLine D) : Bool := !l.parsed && !l.isLayout

/-- The whole distance of the line. -/
def distance [Metres D] (l : ParsedLine D) : D := Metres.sum (l.contributions.map (·.distance))

end ParsedLine

end SwimSets
