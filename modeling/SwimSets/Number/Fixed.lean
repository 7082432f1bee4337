import SwimSets.Number.Binary

/-!
# Fixed-point text

A double with a fixed number of decimal places. The exact binary value is rounded to that many
places, a tie going to the even neighbour; the sign of a negative number stays when it is rounded
to zero. What is not a finite number has a word.
-/

namespace SwimSets

/-- The whole number nearest to `num / den`, the even one of two that are equally near. -/
def divEven (num den : Nat) : Nat :=
  let d := num / den
  let r := num % den
  if 2 * r < den then d
  else if den < 2 * r then d + 1
  else d + d % 2

/-- The nearest whole number is at most half of one away. -/
theorem divEven_bounds (num : Nat) {den : Nat} (h : 0 < den) :
    2 * num ≤ 2 * divEven num den * den + den ∧ 2 * divEven num den * den ≤ 2 * num + den := by
  have e := Nat.div_add_mod num den
  have l := Nat.mod_lt num h
  unfold divEven
  dsimp only
  generalize num / den = d at *
  generalize num % den = r at *
  subst e
  split
  · constructor <;> grind
  · split
    · constructor <;> grind
    · rcases Nat.mod_two_eq_zero_or_one d with h | h <;> rw [h] <;> constructor <;> grind

/-- The digits of `n / 10 ^ places`, with a point before the last `places` digits. -/
def pointed (n places : Nat) : Text :=
  let whole := Text.ofNat (n / Nat.pow 10 places)
  if places = 0 then whole
  else
    let part := Text.ofNat (n % Nat.pow 10 places)
    whole ++ '.' :: (List.replicate (places - part.length) '0' ++ part)

/-- The parts of a double written with a fixed number of decimal places. -/
def Double.fixed (places : Nat) : Double → Text
  | .nan => "NaN"
  | .infinite negative => signed negative "inf"
  | .finite negative m q =>
    let (num, den) := scaleTwo m q
    signed negative (pointed (divEven (num * Nat.pow 10 places) den) places)

end SwimSets
