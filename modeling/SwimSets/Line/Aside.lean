import SwimSets.Scan.Search

/-!
# Asides

Pieces of a line that hold numbers and are never distances: rest and send-off times, durations,
clock times, the lanes that a set is for, and notes in parentheses.

Each kind is a scanner. `stripAsides` blanks out one kind after another, in a fixed order,
and collapses what is left.

**Lanes.** A lane list is a word "lane" with a number and whatever numbers are joined to it. A
number that carries a measure or a multiplier is the set and ends the list before it.

**Plain "s".** Seconds may be written "s" after a rest, but a bare "50s" is a set of fifties and
no duration.
-/

namespace SwimSets

open Scanner

namespace Aside

/-- The units of time, the longer spelling before the shorter. -/
def timeUnits : List Text :=
  ["seconds", "second", "secs", "sec", "s", "minutes", "minute", "mins", "min"]

/-- The units that make a number a duration where no rest is spoken of. -/
def durationUnits : List Text :=
  ["seconds", "second", "secs", "sec", "minutes", "minute", "mins", "min"]

/-- A colon and two digits, as in the seconds of a clock time. -/
def colonPair : Scanner Unit := do
  one (· == ':')
  one isDecimal
  one isDecimal

/-- A number with an optional pair of digits after a colon. -/
def time : Scanner Unit := do
  let _ ← digits
  maybe colonPair

/-- A unit of time as a word of its own, if one follows. -/
def timeUnit : Scanner Unit := do
  maybe (do blanks; wholeWord timeUnits)

/-- A send-off or rest after an at sign: "@1:30", "@ +10 secs". -/
def restAt : Scanner Unit := do
  one (· == '@')
  blanks
  maybe (one (· == '+'))
  blanks
  time
  timeUnit

/-- The word "rest" and a time after it. -/
def restThenTime : Scanner Unit := do
  wordEdge
  word "rest"
  blanks
  maybe (one (· == ':'))
  blanks
  time
  timeUnit

/-- A time with its unit and the word "rest" after it. -/
def timeThenRest : Scanner Unit := do
  wordEdge
  time
  blanks
  anyWord timeUnits
  blanks1
  word "rest"
  wordEdge

/-- A rest in words, in either order. -/
def restWorded : Scanner Unit := oneOf [restThenTime, timeThenRest]

/-- A number of seconds or minutes. -/
def duration : Scanner Unit := do
  wordEdge
  let _ ← digits
  blanks
  wholeWord durationUnits

/-- A clock time: one or two digits, a colon and two digits. -/
def clock : Scanner Unit := do
  wordEdge
  let d ← digits
  guard (d.length ≤ 2)
  colonPair
  wordEdge

/-- What follows a number that is a distance or a count of repetitions. -/
def measureFollows : Scanner Unit := do
  blanks
  oneOf [wholeWord ["metres", "meters", "mtrs", "m", "x"], one (· == '*')]

/-- The word "lane" and its first number. -/
def laneHead : Scanner Unit := do
  wordEdge
  word "lane"
  maybe (one (· == 's'))
  blanks
  let _ ← digits
  wordEdge

/-- A further number of a lane list with the sign or word that joins it. -/
def laneMore : Scanner Unit := do
  blanks
  oneOf [one fun c => c == '-' || c == '/' || c == '&', wholeWord ["and", "to"]]
  blanks
  let _ ← digits
  wordEdge

/-- A list of lanes, up to the first number that is a distance or a count. -/
def lanes : Scanner Unit := do
  laneHead
  notHere measureFollows
  many do
    laneMore
    notHere measureFollows

/-- A note in parentheses that holds no digit. -/
def note : Scanner Unit := do
  one (· == '(')
  skip fun c => !(c == '(' || c == ')' || isAsciiDigit c)
  one (· == ')')

/-- The kinds of aside in the order in which they are removed. -/
def kinds : List (Scanner Unit) := [restAt, restWorded, duration, clock, lanes, note]

end Aside

/-- The text without its asides, collapsed. -/
def stripAsides (t : Text) : Text :=
  Text.collapse (Aside.kinds.foldl (fun u kind => kind.blankOut u) t)

end SwimSets
