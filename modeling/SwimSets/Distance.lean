import SwimSets.Scan.Search

/-!
# Distances in a line

How far a line is swum, read from its measurable view.

**What counts as a distance.** In order of preference: repetitions times a distance ("4 x 100m"),
a number with a measure of metres ("400m"), and a number without one that is a whole number of
25 m lengths ("200 bk"). The leftmost occurrence of the first kind that occurs is taken
(`Distance.read`).

**Numbers.** A number that is too large to hold is no number. A leftmost occurrence of the first
or second kind whose number cannot be held is not replaced by another one: the line has no
distance. A number of the third kind that cannot be held is passed over.

**Other readings.** `Distance.starts` lists where the distances of a text start, for cutting a
text that holds several; `Distance.countMultipliers` counts the multiplication signs after a
number, since more than one means sets within sets.
-/

namespace SwimSets

/-- One more than the largest number that a line can hold. -/
def numberBound : Nat := 4294967296

/-- The number that the digits write, if it can be held. Digits of other scripts write no
number. -/
def readNumber (digits : Text) : Option Nat :=
  if digits.all isAsciiDigit && Text.value digits < numberBound then some (Text.value digits)
  else none

/-- A distance read from a line: a number of repetitions of a distance in metres. -/
structure Distance where
  /-- One, where none are written. -/
  reps : Nat
  perRep : Nat
  /-- The repetitions are written. -/
  explicitReps : Bool
  /-- Where the distance stands. -/
  span : Span
  deriving DecidableEq, Repr

namespace Distance

open Scanner

/-- The words for metres. -/
def metreWords : List Text := ["metres", "meters", "mtrs", "m"]

/-- A multiplication sign: an x or an asterisk. -/
def times : Scanner Unit := one fun c => c == 'x' || c == '*'

/-- Repetitions times a distance, with an optional measure or plural s. -/
def repsTimes : Scanner (Text × Text) := do
  wordEdge
  let reps ← digits
  blanks
  times
  blanks
  let perRep ← digits
  maybe (oneOf [do blanks; wholeWord metreWords, do one (· == 's'); wordEdge])
  return (reps, perRep)

/-- A number with a measure of metres. -/
def measured : Scanner Text := do
  wordEdge
  let n ← digits
  blanks
  wholeWord metreWords
  return n

/-- A number that is a word of its own, with an optional plural s. -/
def bareNumber : Scanner Text := do
  wordEdge
  let n ← digits
  oneOf [do one (· == 's'); wordEdge, wordEdge]
  return n

/-- A number and a multiplication sign that is not the first letter of a word. -/
def multiplier : Scanner Unit := do
  wordEdge
  let _ ← digits
  blanks
  times
  oneOf [one fun c => !('a' ≤ c && c ≤ 'z'), atEnd]

/-- The shortest length of a pool in metres. -/
def lengthQuantum : Nat := 25

/-- A positive whole number of pool lengths. -/
def isWholeLengths (n : Nat) : Bool := lengthQuantum ≤ n && n % lengthQuantum == 0

/-- The numbers without a measure that are a whole number of lengths, in order. -/
def wholeLengths (t : Text) : List (Nat × Span) :=
  (bareNumber.hits t).filterMap fun h =>
    match readNumber h.value with
    | some n => if isWholeLengths n then some (n, h.span) else none
    | none => none

/-- A distance without repetitions: the leftmost number with a measure, else the leftmost whole
number of lengths. -/
def readBare (t : Text) : Option (Nat × Span) :=
  match measured.firstHit t with
  | some h => (readNumber h.value).map fun n => (n, h.span)
  | none => (wholeLengths t).head?

/-- The distance of a text. -/
def read (t : Text) : Option Distance :=
  match repsTimes.firstHit t with
  | some h =>
    match readNumber h.value.1, readNumber h.value.2 with
    | some reps, some perRep => some ⟨reps, perRep, true, h.span⟩
    | _, _ => none
  | none => (readBare t).map fun d => ⟨1, d.1, false, d.2⟩

/-- A number put among others in increasing order, unless it is there. -/
def insertStart (n : Nat) : List Nat → List Nat
  | [] => [n]
  | m :: ms => if n < m then n :: m :: ms else if n = m then m :: ms else m :: insertStart n ms

/-- Where the distances of a text start, in increasing order: every number with a measure and
every whole number of lengths. -/
def starts (t : Text) : List Nat :=
  ((measured.hits t).map (·.span.start) ++ (wholeLengths t).map (·.2.start)).foldr insertStart []

/-- The number of multiplications in a text. -/
def countMultipliers (t : Text) : Nat := (multiplier.hits t).length

end Distance

end SwimSets
