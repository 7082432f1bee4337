import SwimSets.Number.Fixed

/-!
# Distances in a report

A distance is written with a fixed number of decimal places and a comma between each two groups of
three digits before the point: `1,375` or `1,000.50`.
-/

namespace SwimSets

/-- The text with a comma before each group of three characters counted from its end. -/
def groupThousands : Text → Text
  | [] => []
  | c :: r =>
    if r.length % 3 = 0 && !r.isEmpty then c :: ',' :: groupThousands r
    else c :: groupThousands r

/-- The fixed-point text with its digits before the point grouped. A sign is no digit. -/
def groupFixed (t : Text) : Text :=
  let isPoint := fun c => c == '.'
  match t with
  | '-' :: r =>
    '-' :: (groupThousands (r.takeWhile (!isPoint ·)) ++ r.dropWhile (!isPoint ·))
  | r => groupThousands (r.takeWhile (!isPoint ·)) ++ r.dropWhile (!isPoint ·)

/-- A distance in metres as a report shows it. -/
def amount (distance : Float) (decimals : Nat) : Text :=
  groupFixed ((Double.ofFloat distance).fixed decimals)

end SwimSets
