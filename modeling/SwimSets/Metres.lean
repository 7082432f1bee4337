/-!
# Arithmetic of distances

Distances are reckoned in metres, in whatever numbers have the operations of `Metres`. A session
is tallied in double precision (`Float`). Read with rational numbers (`Rat`) the same rules give
the exact distances, of which the tallied ones are the roundings.
-/

namespace SwimSets

/-- The numbers that distances are reckoned in. -/
class Metres (D : Type) extends NatCast D, Add D, Sub D, Mul D, Div D where
  /-- The first number is less than the second. -/
  below : D → D → Bool
  /-- The whole number nearest to a number, a half going away from zero. -/
  nearest : D → D
  /-- The number is zero. -/
  isZero : D → Bool

instance : Metres Float where
  natCast n := Float.ofNat n
  below a b := a < b
  nearest := Float.round
  isZero a := a == 0

instance : Metres Rat where
  below a b := a < b
  nearest a := if a < 0 then -((-a + 1 / 2).floor : Rat) else ((a + 1 / 2).floor : Rat)
  isZero a := a == 0

namespace Metres

variable {D : Type} [Metres D]

/-- The sum of the numbers from the left. -/
def sum : List D → D
  | [] => ((0 : Nat) : D)
  | d :: ds => ds.foldl (· + ·) d

/-- How far a number is from the nearest whole number. -/
def offWhole (d : D) : D :=
  let gap := d - nearest d
  if below gap ((0 : Nat) : D) then ((0 : Nat) : D) - gap else gap

/-- The distance from a whole number that is put down to rounding: a billionth. -/
def tolerance : D := ((1 : Nat) : D) / ((1000000000 : Nat) : D)

/-- The number is whole, as far as rounding lets one tell. -/
def isWhole (d : D) : Bool := below (offWhole d) tolerance

end Metres

end SwimSets
