import SwimSets.Number.Binary

/-!
# The shortest decimal of a double

The decimal with the fewest digits that reads back as the double, and of those the nearest to it.

**The interval.** The numbers that read back as `m * 2 ^ q` lie between the midpoints to its
neighbours. The midpoint below is only half as far away where `m` is a power of two, except at the
bottom of the range. The ends belong to it when `m` is even. All of this is counted in quarters of
`2 ^ q` (`lowQuarter`, `highQuarter`).

**The search** (`search`). The grids of the multiples of `10 ^ k` are tried from coarse to fine.
On each, only the two neighbours of the double can be the nearest point, so the first grid on which
one of them lies in the interval has the fewest digits.

**The text** (`positional`). The digits are written out with a point while the exponent of the
first digit is between -5 and 15, with at least one decimal; outside of that with an exponent.
-/

namespace SwimSets

/-- A positive decimal: `digits * 10 ^ exponent`. -/
structure Decimal where
  digits : Nat
  exponent : Int
  deriving DecidableEq, Repr

namespace Shortest

/-- The lower end of the interval, in quarters of the unit. -/
def lowQuarter (m : Nat) (q : Int) : Nat :=
  if m = Nat.pow 2 52 ∧ q ≠ -1074 then 4 * m - 1 else 4 * m - 2

/-- The upper end of the interval, in quarters of the unit. -/
def highQuarter (m : Nat) : Nat := 4 * m + 2

/-- How `a * 2 ^ (q - 2)` compares with `d * 10 ^ k`. -/
def compareScaled (a : Nat) (q : Int) (d : Nat) (k : Int) : Ordering :=
  let (num, den) := scaleTwo a (q - 2)
  match k with
  | .ofNat j => compare num (d * Nat.pow 10 j * den)
  | .negSucc j => compare (num * Nat.pow 10 (j + 1)) (d * den)

/-- The point `d * 10 ^ k` reads back as `m * 2 ^ q`. -/
def readsBack (m : Nat) (q : Int) (d : Nat) (k : Int) : Bool :=
  let even := m % 2 == 0
  let low := compareScaled (lowQuarter m q) q d k
  let high := compareScaled (highQuarter m) q d k
  (low == .lt || (even && low == .eq)) && (high == .gt || (even && high == .eq))

/-- The number of whole steps of `10 ^ k` in `m * 2 ^ q`. -/
def stepsBelow (m : Nat) (q k : Int) : Nat :=
  let (num, den) := scaleTwo m q
  match k with
  | .ofNat j => num / (den * Nat.pow 10 j)
  | .negSucc j => num * Nat.pow 10 (j + 1) / den

/-- The point of the grid of `10 ^ k` nearest to `m * 2 ^ q`, given the one below it; of two that
are equally near, the even one. The midpoint `(2 d + 1) / 2` is compared in quarters. -/
def nearer (m : Nat) (q : Int) (d : Nat) (k : Int) : Nat :=
  match compareScaled (8 * m) q (2 * d + 1) k with
  | .lt => d
  | .gt => d + 1
  | .eq => d + d % 2

/-- The nearest point of the grid of `10 ^ k` that reads back, if there is one. -/
def onGrid (m : Nat) (q k : Int) : Option Nat :=
  let d := stepsBelow m q k
  match 0 < d && readsBack m q d k, readsBack m q (d + 1) k with
  | true, true => some (nearer m q d k)
  | true, false => some d
  | false, true => some (d + 1)
  | false, false => none

/-- The first of `fuel` grids, from that of `10 ^ k` to finer ones, that has a point which reads
back. -/
def search (m : Nat) (q : Int) : Nat → Int → Option Decimal
  | 0, _ => none
  | fuel + 1, k =>
    match onGrid m q k with
    | some d => some ⟨d, k⟩
    | none => search m q fuel (k - 1)

/-- The exponent of the first digit of `m * 2 ^ q`, for `0 < m`. -/
def leadExponent (m : Nat) (q : Int) : Int :=
  let (num, den) := scaleTwo m q
  if den ≤ num then ((Nat.toDigits 10 (num / den)).length : Int) - 1
  else
    let j := (Nat.toDigits 10 (den / num)).length
    if den ≤ num * Nat.pow 10 (j - 1) then 1 - (j : Int) else -(j : Int)

/-- The shortest decimal of `m * 2 ^ q`, for `0 < m`. Seventeen digits always read back, so a grid
is found within twenty steps from the one above the first digit. -/
def decimal (m : Nat) (q : Int) : Decimal :=
  (search m q 20 (leadExponent m q + 1)).getD ⟨0, 0⟩

end Shortest

namespace Decimal

/-- The digits with a point before the place of exponent `e`, for `e` at least zero. -/
def pointAfter (digits : Text) (e : Nat) : Text :=
  let whole := digits.take (e + 1)
  let part := digits.drop (e + 1)
  whole ++ List.replicate (e + 1 - whole.length) '0' ++
    '.' :: (if part.isEmpty then ['0'] else part)

/-- The digits with an exponent, and a point after the first digit if there are more. -/
def scientific (digits : Text) (e : Int) : Text :=
  let mantissa :=
    match digits with
    | [] => []
    | [d] => [d]
    | d :: r => d :: '.' :: r
  mantissa ++ 'e' :: (if e < 0 then '-' else '+') :: Text.ofNat e.natAbs

/-- The text of a decimal. -/
def render (d : Decimal) : Text :=
  let digits := Text.ofNat d.digits
  let e : Int := d.exponent + digits.length - 1
  if 0 ≤ e ∧ e ≤ 15 then pointAfter digits e.toNat
  else if -5 ≤ e ∧ e < 0 then
    "0.".toList ++ List.replicate (-e - 1).toNat '0' ++ digits
  else scientific digits e

end Decimal

/-- The shortest text of a double; none for what is not a finite number. -/
def Double.shortest : Double → Option Text
  | .nan => none
  | .infinite _ => none
  | .finite negative m q =>
    some (signed negative (if m = 0 then "0.0".toList else (Shortest.decimal m q).render))

end SwimSets
