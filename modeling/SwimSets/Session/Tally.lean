import SwimSets.Session.Totals

/-!
# The tally of a session

The lines of a session so far, their totals, and how many lines went which way. Each content line
is counted once: as failed, as parsed with a warning, as parsed, or as unparsed. Layout lines are
not counted.
-/

namespace SwimSets

/-- A session read so far. -/
structure Tally (D : Type) where
  totals : Totals D
  lines : List (ParsedLine D)
  /-- Lines parsed without a warning. -/
  parsedCount : Nat
  /-- Lines parsed with a warning. -/
  warningCount : Nat
  /-- Lines that failed outright. -/
  errorCount : Nat
  /-- Lines of content that were not understood. -/
  unparsedCount : Nat
  deriving DecidableEq, Repr

namespace Tally

variable {D : Type} [Metres D]

/-- The tally of no lines. -/
def empty : Tally D := ⟨Totals.zero, [], 0, 0, 0, 0⟩

/-- The counts with a line counted. -/
def count (t : Tally D) (l : ParsedLine D) : Tally D :=
  if l.error.isSome then { t with errorCount := t.errorCount + 1 }
  else if l.parsed then
    if l.hasWarning then { t with warningCount := t.warningCount + 1 }
    else { t with parsedCount := t.parsedCount + 1 }
  else if l.isLayout then t
  else { t with unparsedCount := t.unparsedCount + 1 }

/-- The tally with a line added at its end. -/
def push (t : Tally D) (l : ParsedLine D) : Tally D :=
  { t.count l with totals := t.totals.addAll l.contributions, lines := t.lines ++ [l] }

theorem lines_push (t : Tally D) (l : ParsedLine D) : (t.push l).lines = t.lines ++ [l] := rfl

theorem totals_push (t : Tally D) (l : ParsedLine D) :
    (t.push l).totals = t.totals.addAll l.contributions := rfl

/-- The whole distance of the session. -/
def total (t : Tally D) : D := t.totals.total

/-- The session is a whole number of lengths of the pool. A pool without length has none. -/
def isMultipleOf (t : Tally D) (pool : Nat) : Bool :=
  pool != 0 && Metres.isWhole (t.total / (pool : D))

/-- The lines that have a warning. -/
def warned (t : Tally D) : List (ParsedLine D) := t.lines.filter (·.hasWarning)

/-- The lines of content that were not understood. -/
def unparsed (t : Tally D) : List (ParsedLine D) := t.lines.filter (·.isUnparsed)

end Tally

end SwimSets
