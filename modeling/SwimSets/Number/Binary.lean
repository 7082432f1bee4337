import SwimSets.Text.Basic

/-!
# Double-precision numbers in parts

A double is not a number, an infinity, or a sign with a whole number `m` of units `2 ^ q`. The
parts are read off its bits, so what is written of a double rests on exact whole numbers only.
-/

namespace SwimSets

/-- A double in parts. -/
inductive Double where
  | nan
  | infinite (negative : Bool)
  /-- The number `m * 2 ^ q`, with its sign. -/
  | finite (negative : Bool) (m : Nat) (q : Int)
  deriving DecidableEq, Repr

namespace Double

/-- The parts of the double with the given bits. -/
def ofBits (bits : Nat) : Double :=
  let negative := bits / Nat.pow 2 63 % 2 == 1
  let e : Nat := bits / Nat.pow 2 52 % 2048
  let f : Nat := bits % Nat.pow 2 52
  if e = 2047 then (if f = 0 then .infinite negative else .nan)
  else if e = 0 then .finite negative f (-1074)
  else .finite negative (Nat.pow 2 52 + f) ((e : Int) - 1075)

/-- The parts of a double. -/
def ofFloat (x : Float) : Double := ofBits x.toBits.toNat

end Double

/-- The numerator and denominator of `m * 2 ^ q`. -/
def scaleTwo (m : Nat) (q : Int) : Nat × Nat :=
  match q with
  | .ofNat k => (m * Nat.pow 2 k, 1)
  | .negSucc k => (m, Nat.pow 2 (k + 1))

/-- A sign before a text. -/
def signed (negative : Bool) (t : Text) : Text := if negative then '-' :: t else t

end SwimSets
