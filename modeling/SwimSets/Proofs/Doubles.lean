import SwimSets.Number.Binary
import SwimSets.Proofs.Reckoning

/-!
# Doubles without a minus sign

**Result (`closed_noMinus`).** Whole numbers as doubles, and sums, products and quotients of
doubles without a minus sign, have none. A distance reckoned with these operations is zero or more,
infinite, or no number, and in no case is a sign written.

The sign is one bit of the word that a double is. Arithmetic takes the word apart, works on the
parts and packs them again; taking apart and packing carry the bit over (`unsigned_unpack`,
`unpackSign_pack`), and each operation is looked at on the parts.
-/

namespace SwimSets

open Float.Model Float.Model.UnpackedFloat

/-! ## The sign of the parts -/

/-- No minus sign: the number is zero or more, infinite, or none. -/
def Unsigned : UnpackedFloat → Prop
  | .infinity s | .zero s | .finite s .. => s = .positive
  | .notANumber => True

theorem unsigned_dite {p : Prop} [Decidable p] {x : p → UnpackedFloat} {y : ¬ p → UnpackedFloat}
    (hx : ∀ h, Unsigned (x h)) (hy : ∀ h, Unsigned (y h)) :
    Unsigned (if h : p then x h else y h) := by
  by_cases h : p
  · rw [dif_pos h]
    exact hx h
  · rw [dif_neg h]
    exact hy h

theorem unsigned_ite {p : Prop} [Decidable p] {x y : UnpackedFloat} (hx : Unsigned x)
    (hy : Unsigned y) : Unsigned (if p then x else y) :=
  unsigned_dite (fun _ => hx) fun _ => hy

theorem unsigned_roundWithAccuracy (spec : Format) (m : Nat) (e : Int) (a : Accuracy) :
    Unsigned (roundWithAccuracy spec .positive m e a) := by
  unfold roundWithAccuracy
  exact unsigned_dite (fun _ => rfl) fun _ => rfl

theorem unsigned_normalize (spec : Format) {m : Int} (hm : 0 ≤ m) (e : Int) :
    Unsigned (UnpackedFloat.normalize spec m e .positive) := by
  unfold UnpackedFloat.normalize
  split
  · rename_i h
    rw [Int.compare_eq_lt] at h
    omega
  · rfl
  · exact unsigned_roundWithAccuracy spec _ _ _

theorem unsigned_add (spec : Format) {x y : UnpackedFloat} (hx : Unsigned x) (hy : Unsigned y) :
    Unsigned (add spec x y) := by
  cases x with
  | notANumber => exact trivial
  | infinity s =>
    cases hx
    cases y with
    | infinity t => cases hy; rfl
    | notANumber => exact trivial
    | zero t | finite t => rfl
  | zero s =>
    cases hx
    cases y with
    | zero t => cases hy; rfl
    | notANumber => exact trivial
    | infinity t | finite t => exact hy
  | finite s m e =>
    cases hx
    cases y with
    | notANumber => exact trivial
    | infinity t => exact hy
    | zero t => rfl
    | finite t n f =>
      cases hy
      exact unsigned_normalize spec (Int.add_nonneg (Int.natCast_nonneg _) (Int.natCast_nonneg _)) _

theorem unsigned_mul (spec : Format) {x y : UnpackedFloat} (hx : Unsigned x) (hy : Unsigned y) :
    Unsigned (mul spec x y) := by
  cases x with
  | notANumber => exact trivial
  | infinity s | zero s =>
    cases hx
    cases y with
    | notANumber => exact trivial
    | infinity t | zero t | finite t => cases hy; trivial
  | finite s m e =>
    cases hx
    cases y with
    | notANumber => exact trivial
    | infinity t | zero t => cases hy; rfl
    | finite t n f =>
      cases hy
      exact unsigned_roundWithAccuracy spec _ _ _

theorem unsigned_div (spec : Format) {x y : UnpackedFloat} (hx : Unsigned x) (hy : Unsigned y) :
    Unsigned (div spec x y) := by
  cases x with
  | notANumber => exact trivial
  | infinity s | zero s =>
    cases hx
    cases y with
    | notANumber => exact trivial
    | infinity t | zero t | finite t => cases hy; trivial
  | finite s m e =>
    cases hx
    cases y with
    | notANumber => exact trivial
    | infinity t | zero t => cases hy; rfl
    | finite t n f =>
      cases hy
      exact unsigned_roundWithAccuracy spec _ _ _

theorem unsigned_ofScientific (spec : Format) (m : Nat) (e : Int) :
    Unsigned (UnpackedFloat.ofScientific spec m e) := by
  unfold UnpackedFloat.ofScientific
  refine unsigned_dite (fun _ => rfl) fun _ => unsigned_ite rfl (unsigned_ite rfl ?_)
  exact unsigned_ite (unsigned_mul spec rfl rfl) (unsigned_div spec rfl rfl)

/-! ## The sign of the word -/

/-- The sign is the highest bit. -/
theorem toNat_unpackSign {spec : Format} (b : BitVec spec.numBits) :
    (unpackSign b).toNat =
      b.toNat / 2 ^ (spec.mantissaBitsWithoutImplicit + spec.exponentBits) % 2 := by
  show (BitVec.cast _ (BitVec.extractLsb _ _ b)).toNat = _
  simp [BitVec.extractLsb_toNat, Nat.shiftRight_eq_div_pow]

theorem unpackSign_packComponents {spec : Format} (s : Sign) (e : BitVec spec.exponentBits)
    (m : BitVec spec.mantissaBitsWithoutImplicit) :
    unpackSign (packComponents spec s e m) = s.toBitVec := by
  ext i hi
  obtain rfl : i = 0 := by omega
  delta unpackSign
  simp [packComponents, BitVec.getLsbD_append, BitVec.getLsbD_eq_getElem, BitVec.getElem_append]

/-- Packing carries the sign over. -/
theorem unpackSign_pack {spec : Format} {x : UnpackedFloat} (h : Unsigned x) :
    unpackSign (UnpackedFloat.pack spec x) = 0#1 := by
  cases x with
  | notANumber => exact unpackSign_packComponents _ _ _
  | infinity s | zero s =>
    cases h
    exact unpackSign_packComponents _ _ _
  | finite s m e =>
    cases h
    unfold UnpackedFloat.pack
    dsimp only
    split_ifs <;> exact unpackSign_packComponents _ _ _

/-- Taking apart carries the sign over. -/
theorem unsigned_unpack {spec : Format} {b : BitVec spec.numBits} (h : unpackSign b = 0#1) :
    Unsigned (UnpackedFloat.unpack spec b) := by
  unfold UnpackedFloat.unpack
  rw [h]
  dsimp only
  exact unsigned_ite (unsigned_ite rfl trivial)
    (unsigned_ite (unsigned_dite (fun _ => rfl) fun _ => rfl) rfl)

/-! ## Doubles -/

namespace Double

/-- The double has no minus sign. -/
def NoMinus (x : Float) : Prop := @unpackSign Format.binary64 x.toModel.toBits.toBitVec = 0#1

theorem noMinus_pack {u : UnpackedFloat} (h : Unsigned u) : NoMinus (.ofModel (.pack u)) :=
  unpackSign_pack h

theorem NoMinus.unsigned {x : Float} (h : NoMinus x) : Unsigned x.toModel.unpack :=
  unsigned_unpack h

theorem noMinus_add {x y : Float} (hx : NoMinus x) (hy : NoMinus y) : NoMinus (x + y) :=
  noMinus_pack (unsigned_add _ hx.unsigned hy.unsigned)

theorem noMinus_mul {x y : Float} (hx : NoMinus x) (hy : NoMinus y) : NoMinus (x * y) :=
  noMinus_pack (unsigned_mul _ hx.unsigned hy.unsigned)

theorem noMinus_div {x y : Float} (hx : NoMinus x) (hy : NoMinus y) : NoMinus (x / y) :=
  noMinus_pack (unsigned_div _ hx.unsigned hy.unsigned)

theorem noMinus_toFloat (n : UInt64) : NoMinus n.toFloat :=
  noMinus_pack (unsigned_normalize _ (Int.natCast_nonneg n.toNat) 0)

theorem noMinus_one : NoMinus (Float.ofBits 0x3FF0000000000000) :=
  noMinus_pack (unsigned_unpack (by decide))

theorem noMinus_ofNat (n : Nat) : NoMinus (Float.ofNat n) := by
  change NoMinus (Float.ofScientific n false 0)
  unfold Float.ofScientific
  simp only [Bool.false_eq_true, if_false]
  split_ifs with h
  · refine noMinus_mul (noMinus_toFloat _) ?_
    exact noMinus_one
  · exact noMinus_pack (unsigned_ofScientific _ _ _)

/-- The double is written with a minus sign. -/
def isNegative : Double → Bool
  | .nan => false
  | .infinite negative | .finite negative _ _ => negative

theorem isNegative_ofBits {bits : Nat} (h : bits / Nat.pow 2 63 % 2 = 0) :
    (ofBits bits).isNegative = false := by
  unfold ofBits
  rw [h]
  dsimp only
  split_ifs <;> rfl

/-- What has no minus sign is written without one. -/
theorem isNegative_ofFloat {x : Float} (h : NoMinus x) : (ofFloat x).isNegative = false := by
  refine isNegative_ofBits ?_
  have hbit := congrArg BitVec.toNat h
  rw [toNat_unpackSign] at hbit
  exact hbit

end Double

/-- **Arithmetic brings in no minus sign.** -/
theorem closed_noMinus : Closed Double.NoMinus where
  natCast := Double.noMinus_ofNat
  add := Double.noMinus_add
  mul := Double.noMinus_mul
  div := Double.noMinus_div

end SwimSets
