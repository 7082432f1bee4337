import Mathlib.Algebra.Group.Nat.Defs
import SwimSets.Proofs.Doubles

/-!
# When a sum of doubles is zero

**Theorem (`isZero_add`).** A sum of two doubles without a minus sign is zero only if both are. So
the total of a stroke is zero only if nothing but zeros was contributed to it
(`isZero_strokeTotal_parse`): nothing that was swum is lost by rounding.

**Why.** No double is nearer to zero than one unit of the lowest exponent, and a sum is a whole
number of units of an exponent that is not below it. Rounding such a number leaves at least one unit
and a mantissa that fits (`exists_round`), and a number that fits is not packed as zero
(`isZero_unpack_pack`).
-/

namespace SwimSets

open Float.Model Float.Model.UnpackedFloat

/-! ## Rounding -/

theorem mantissa_shiftRight (em : ExtendedMantissa) (k : Nat) :
    (em >>> k).mantissa = em.mantissa / 2 ^ k := by
  induction k with
  | zero => exact (Nat.div_one _).symm
  | succ k ih =>
    show (em >>> k).mantissa / 2 = _
    rw [ih, Nat.div_div_eq_div_mul, ← Nat.pow_succ]

theorem mantissa_ofMantissaAndAccuracy (m : Nat) (a : Accuracy) :
    (ExtendedMantissa.ofMantissaAndAccuracy m a).mantissa = m := by
  cases a with
  | exact => rfl
  | inexact o => cases o <;> rfl

theorem le_roundToNearestEven (m : Nat) (a : Accuracy) : m ≤ a.roundToNearestEven m := by
  cases a with
  | exact => exact Nat.le_refl m
  | inexact o =>
    cases o with
    | lt => exact Nat.le_refl m
    | eq => exact Nat.le_add_right m _
    | gt => exact Nat.le_succ m

/-- From the lowest exponent up a mantissa is shifted by the digits that it has too many. -/
theorem shift_eq {m : Nat} {e : Int} (he : -1074 ≤ e) :
    (Format.binary64.targetExponent (totalExponent m e) - e).toNat = m.log2 - 52 := by
  show (max ((m.log2 : Int) + 1 + e - 53) (-1074) - e).toNat = m.log2 - 52
  omega

/-- Shifted by the digits that it has too many, a mantissa fits and is not zero. -/
theorem shifted_bounds {m : Nat} (hm : 0 < m) :
    0 < m / 2 ^ (m.log2 - 52) ∧ m / 2 ^ (m.log2 - 52) < 2 ^ 53 := by
  constructor
  · have hle : 2 ^ (m.log2 - 52) ≤ 2 ^ m.log2 :=
      Nat.pow_le_pow_right Nat.two_pos (Nat.sub_le _ _)
    exact Nat.div_pos (Nat.le_trans hle (Nat.log2_self_le (Nat.ne_of_gt hm))) (Nat.two_pow_pos _)
  · refine Nat.div_lt_of_lt_mul ?_
    rw [← Nat.pow_add]
    exact Nat.lt_of_lt_of_le Nat.lt_log2_self (Nat.pow_le_pow_right Nat.two_pos (by omega))

theorem shiftToTargetExponent_bounds {m : Nat} (hm : 0 < m) {e : Int} (he : -1074 ≤ e)
    (a : Accuracy) :
    let shifted := shiftToTargetExponent Format.binary64 m e a
    (0 < shifted.1.mantissa ∧ shifted.1.mantissa < 2 ^ 53) ∧ -1074 ≤ shifted.2 := by
  intro shifted
  have hmantissa : shifted.1.mantissa = m / 2 ^ (m.log2 - 52) := by
    show (ExtendedMantissa.ofMantissaAndAccuracy m a >>>
      (Format.binary64.targetExponent (totalExponent m e) - e).toNat).mantissa = _
    rw [shift_eq he, mantissa_shiftRight, mantissa_ofMantissaAndAccuracy]
  rw [hmantissa]
  refine ⟨shifted_bounds hm, ?_⟩
  show -1074 ≤ e + ((Format.binary64.targetExponent (totalExponent m e) - e).toNat : Int)
  omega

/-- A number that is not zero is rounded to one that is not zero and fits. -/
theorem exists_roundWithAccuracy (s : Sign) {m : Nat} (hm : 0 < m) {e : Int} (he : -1074 ≤ e)
    (a : Accuracy) : ∃ n f, ∃ hn : 0 < n,
      roundWithAccuracy Format.binary64 s m e a = .finite s n f hn ∧ n < 2 ^ 53 ∧ -1074 ≤ f := by
  obtain ⟨⟨hpos, -⟩, hf⟩ := shiftToTargetExponent_bounds hm he a
  have hrounded := Nat.lt_of_lt_of_le hpos (le_roundToNearestEven _
    (shiftToTargetExponent Format.binary64 m e a).1.accuracy)
  -- Rounding may have made the mantissa too long, so it is shifted once more.
  obtain ⟨⟨hn, hlt⟩, hg⟩ := shiftToTargetExponent_bounds hrounded hf .exact
  exact ⟨_, _, hn, dif_neg (Nat.ne_of_gt hn), hlt, hg⟩

theorem exists_round (s : Sign) {m : Nat} (hm : 0 < m) {e : Int} (he : -1074 ≤ e) :
    ∃ n f, ∃ hn : 0 < n,
      UnpackedFloat.round Format.binary64 s m e = .finite s n f hn ∧ n < 2 ^ 53 ∧ -1074 ≤ f := by
  unfold UnpackedFloat.round decreaseExponent
  refine exists_roundWithAccuracy s ?_ ?_ .exact
  · rw [Nat.shiftLeft_eq]
    exact Nat.mul_pos hm (Nat.two_pow_pos _)
  · have htarget : -1074 ≤ Format.binary64.targetExponent (totalExponent m e) :=
      Int.le_max_right _ _
    omega

/-! ## Packing -/

/-- The parts of a double: a finite number has a mantissa that fits, and no exponent below the
lowest. -/
def Fits : UnpackedFloat → Prop
  | .finite _ m e _ => m < 2 ^ 53 ∧ -1074 ≤ e
  | _ => True

/-- The number is zero. -/
def IsZero : UnpackedFloat → Prop
  | .zero _ => True
  | _ => False

/-- The parts of a word fit, as a lowest exponent stands for one higher and a higher one adds a
digit to the mantissa. They are zero if its exponent and its mantissa are. -/
theorem unpack_spec (b : BitVec Format.binary64.numBits) :
    Fits (UnpackedFloat.unpack Format.binary64 b) ∧
      (IsZero (UnpackedFloat.unpack Format.binary64 b) ↔
        @unpackExponent Format.binary64 b = 0#11 ∧ @unpackMantissa Format.binary64 b = 0#52) := by
  by_cases hones : @unpackExponent Format.binary64 b = -1#11
  · have hne : @unpackExponent Format.binary64 b ≠ 0#11 := by
      rw [hones]
      decide
    by_cases hmantissa : @unpackMantissa Format.binary64 b = 0#52
    · have hx : UnpackedFloat.unpack Format.binary64 b = .infinity _ :=
        (if_pos hones).trans (if_pos hmantissa)
      rw [hx]
      exact ⟨trivial, False.elim, fun h => hne h.1⟩
    · have hx : UnpackedFloat.unpack Format.binary64 b = .notANumber :=
        (if_pos hones).trans (if_neg hmantissa)
      rw [hx]
      exact ⟨trivial, False.elim, fun h => hne h.1⟩
  by_cases hlowest : @unpackExponent Format.binary64 b = 0#11
  · by_cases hmantissa : @unpackMantissa Format.binary64 b = 0#52
    · have hx : UnpackedFloat.unpack Format.binary64 b = .zero _ :=
        (if_neg hones).trans ((if_pos hlowest).trans (dif_pos hmantissa))
      rw [hx]
      exact ⟨trivial, fun _ => ⟨hlowest, hmantissa⟩, fun _ => trivial⟩
    · have hx : UnpackedFloat.unpack Format.binary64 b = .finite _ _ _ _ :=
        (if_neg hones).trans ((if_pos hlowest).trans (dif_neg hmantissa))
      have hlt : (@unpackMantissa Format.binary64 b).toNat < 2 ^ 52 := BitVec.isLt _
      rw [hx]
      refine ⟨⟨Nat.lt_trans hlt (by decide), ?_⟩, False.elim, fun h => hmantissa h.2⟩
      show -1074 ≤ ((@unpackExponent Format.binary64 b).toNat : Int) - (1023 + 52) + 1
      omega
  · have hx : UnpackedFloat.unpack Format.binary64 b = .finite _ _ _ _ :=
      (if_neg hones).trans (if_neg hlowest)
    have hlt : (1#1 ++ @unpackMantissa Format.binary64 b).toNat < 2 ^ 53 := BitVec.isLt _
    have hpos : 0 < (@unpackExponent Format.binary64 b).toNat :=
      Nat.pos_of_ne_zero fun h => hlowest (BitVec.eq_of_toNat_eq h)
    rw [hx]
    refine ⟨⟨hlt, ?_⟩, False.elim, fun h => hlowest h.1⟩
    show -1074 ≤ ((@unpackExponent Format.binary64 b).toNat : Int) - (1023 + 52)
    omega

theorem unpackMantissa_packComponents {spec : Format} (s : Sign) (e : BitVec spec.exponentBits)
    (m : BitVec spec.mantissaBitsWithoutImplicit) :
    unpackMantissa (packComponents spec s e m) = m := by
  ext i hi
  delta unpackMantissa
  simp [packComponents, BitVec.getLsbD_append, BitVec.getLsbD_eq_getElem, hi]

theorem unpackExponent_packComponents {spec : Format} (s : Sign) (e : BitVec spec.exponentBits)
    (m : BitVec spec.mantissaBitsWithoutImplicit) :
    unpackExponent (packComponents spec s e m) = e := by
  ext i hi
  delta unpackExponent
  simp [packComponents, BitVec.getLsbD_append, BitVec.getLsbD_eq_getElem, hi]

theorem isZero_packComponents (s : Sign) (e : BitVec 11) (m : BitVec 52) :
    IsZero (UnpackedFloat.unpack Format.binary64 (packComponents Format.binary64 s e m)) ↔
      e = 0#11 ∧ m = 0#52 := by
  rw [(unpack_spec _).2, unpackExponent_packComponents, unpackMantissa_packComponents]

/-- A number whose mantissa fits is packed as zero only if it is zero. -/
theorem isZero_unpack_pack {x : UnpackedFloat} (h : Fits x) :
    IsZero (UnpackedFloat.unpack Format.binary64 (UnpackedFloat.pack Format.binary64 x)) ↔
      IsZero x := by
  have hinfinity (s : Sign) : ¬ IsZero (UnpackedFloat.unpack Format.binary64
      (UnpackedFloat.packedInfinity Format.binary64 s)) := by
    refine fun hz => absurd ((isZero_packComponents s _ _).mp hz).1 ?_
    decide
  cases x with
  | notANumber =>
    refine ⟨fun hz => absurd ((isZero_packComponents _ _ _).mp hz).1 ?_, False.elim⟩
    decide
  | infinity s => exact ⟨fun hz => hinfinity s hz, False.elim⟩
  | zero s => exact ⟨fun _ => trivial, fun _ => (isZero_packComponents s _ _).mpr ⟨rfl, rfl⟩⟩
  | finite s m e hm =>
    obtain ⟨hlt, hle⟩ := h
    refine ⟨fun hz => ?_, False.elim⟩
    unfold UnpackedFloat.pack at hz
    dsimp only at hz
    split_ifs at hz with hlarge hlong
    · exact hinfinity s hz
    · -- All the digits are used: the exponent in the word is one or more.
      have hzero : (e + (1023 : Nat) + (52 : Nat)).toNat % 2 ^ 11 = 0 :=
        congrArg BitVec.toNat ((isZero_packComponents s _ _).mp hz).1
      have hlarge : ¬ 2 ^ 11 ≤ (e + (1023 : Nat) + (52 : Nat)).toNat + 1 := hlarge
      omega
    · have hzero : m % 2 ^ 52 = 0 :=
        congrArg BitVec.toNat ((isZero_packComponents s _ _).mp hz).2
      have hlog : m.log2 ≠ 52 := fun h => hlong (congrArg (· + 1) h)
      have hshort : m < 2 ^ 52 := by
        have hlog53 := (Nat.log2_lt (Nat.ne_of_gt hm)).mpr hlt
        exact (Nat.log2_lt (Nat.ne_of_gt hm)).mp (by omega)
      rw [Nat.mod_eq_of_lt hshort] at hzero
      exact Nat.ne_of_gt hm hzero

/-! ## Sums -/

theorem shiftLeft_pos {m : Nat} (hm : 0 < m) (k : Nat) : 0 < m <<< k := by
  rw [Nat.shiftLeft_eq]
  exact Nat.mul_pos hm (Nat.two_pow_pos k)

theorem normalize_of_pos {m : Int} (hm : 0 < m) (e : Int) (s : Sign) :
    UnpackedFloat.normalize Format.binary64 m e s =
      UnpackedFloat.round Format.binary64 .positive m.toNat e := by
  unfold UnpackedFloat.normalize
  rw [Int.compare_eq_gt.mpr hm]

/-- The sum of two numbers above zero is rounded to a number above zero. -/
theorem exists_add_finite {m n : Nat} (hm : 0 < m) (hn : 0 < n) {e f : Int} (he : -1074 ≤ e)
    (hf : -1074 ≤ f) : ∃ k g, ∃ hk : 0 < k,
      add Format.binary64 (.finite .positive m e hm) (.finite .positive n f hn) =
        .finite .positive k g hk ∧ k < 2 ^ 53 ∧ -1074 ≤ g := by
  let sum : Nat := m <<< (e - min e f).toNat + n <<< (f - min e f).toNat
  have hsum : 0 < sum := Nat.add_pos_left (shiftLeft_pos hm _) _
  have hadd : add Format.binary64 (.finite .positive m e hm) (.finite .positive n f hn) =
      UnpackedFloat.round Format.binary64 .positive sum (min e f) :=
    normalize_of_pos (m := (sum : Int)) (Int.natCast_pos.mpr hsum) (min e f) .positive
  rw [hadd]
  exact exists_round .positive hsum (by omega)

/-- A sum without a minus sign fits, and it is zero only if both terms are. -/
theorem add_fits {x y : UnpackedFloat} (hx : Unsigned x) (hy : Unsigned y) (hfx : Fits x)
    (hfy : Fits y) :
    Fits (add Format.binary64 x y) ∧
      (IsZero (add Format.binary64 x y) ↔ IsZero x ∧ IsZero y) := by
  cases x with
  | notANumber => exact ⟨trivial, False.elim, fun h => h.1⟩
  | infinity s =>
    cases hx
    cases y with
    | infinity t => cases hy; exact ⟨trivial, False.elim, fun h => h.1⟩
    | notANumber | zero t | finite t => exact ⟨trivial, False.elim, fun h => h.1⟩
  | zero s =>
    cases hx
    cases y with
    | zero t => cases hy; exact ⟨trivial, fun _ => ⟨trivial, trivial⟩, fun _ => trivial⟩
    | notANumber | infinity t | finite t => exact ⟨hfy, False.elim, fun h => h.2⟩
  | finite s m e hm =>
    cases hx
    cases y with
    | notANumber | infinity t => exact ⟨trivial, False.elim, fun h => h.1⟩
    | zero t => exact ⟨hfx, False.elim, fun h => h.1⟩
    | finite t n f hn =>
      cases hy
      obtain ⟨k, g, hk, heq, hfits⟩ := exists_add_finite hm hn hfx.2 hfy.2
      rw [heq]
      exact ⟨hfits, False.elim, fun h => h.1⟩

/-! ## Doubles -/

theorem isZero_eq_true_iff (x : Float) :
    Metres.isZero x = true ↔ IsZero x.toModel.unpack := by
  show x.toModel.unpack.beq (.zero .positive) = true ↔ _
  cases x.toModel.unpack with
  | notANumber => exact ⟨fun h => absurd h (by decide), False.elim⟩
  | zero s => exact ⟨fun _ => trivial, fun _ => rfl⟩
  | infinity s | finite s =>
    cases s <;> exact ⟨fun h => absurd h Bool.false_ne_true, False.elim⟩

/-- **A sum without a minus sign is zero only if both terms are.** -/
theorem isZero_add {x y : Float} (hx : Double.NoMinus x) (hy : Double.NoMinus y) :
    Metres.isZero (x + y) = (Metres.isZero x && Metres.isZero y) := by
  rw [Bool.eq_iff_iff, Bool.and_eq_true]
  iterate 3 rw [isZero_eq_true_iff]
  obtain ⟨hfits, hiff⟩ := add_fits hx.unsigned hy.unsigned (unpack_spec _).1 (unpack_spec _).1
  exact (isZero_unpack_pack hfits).trans hiff

theorem isZero_foldl_add {α : Type} (f : α → Float) (xs : List α) {d : Float}
    (hd : Double.NoMinus d) (hxs : ∀ x ∈ xs, Double.NoMinus (f x)) :
    Metres.isZero (xs.foldl (fun d x => d + f x) d) =
      (Metres.isZero d && xs.all fun x => Metres.isZero (f x)) := by
  induction xs generalizing d with
  | nil => exact (Bool.and_true _).symm
  | cons x xs ih =>
    rw [List.forall_mem_cons] at hxs
    rw [List.foldl_cons, ih (Double.noMinus_add hd hxs.1) hxs.2, isZero_add hd hxs.1,
      List.all_cons, Bool.and_assoc]

theorem isZero_zero : Metres.isZero ((0 : Nat) : Float) = true := by decide +kernel

theorem isZero_sum {ds : List Float} (h : ∀ d ∈ ds, Double.NoMinus d) :
    Metres.isZero (Metres.sum ds) = ds.all Metres.isZero := by
  cases ds with
  | nil => exact isZero_zero
  | cons d ds =>
    rw [List.forall_mem_cons] at h
    exact isZero_foldl_add id ds h.1 h.2

/-! ## Totals -/

/-- A line of the session contributes a distance that is not zero to the stroke. -/
def Tally.Contributes (t : Tally Float) (s : Stroke) : Prop :=
  ∃ l ∈ t.lines, ∃ c ∈ l.contributions, c.stroke = s ∧ Metres.isZero c.distance = false

instance (t : Tally Float) (s : Stroke) : Decidable (t.Contributes s) :=
  inferInstanceAs (Decidable
    (∃ l ∈ t.lines, ∃ c ∈ l.contributions, c.stroke = s ∧ Metres.isZero c.distance = false))

theorem isZero_cell_parse [Speller] (text : Text) (s : Stroke) (a : Activity) :
    Metres.isZero ((parse text : Tally Float).totals.get s a) =
      (((parse text : Tally Float).lines.flatMap (·.contributions)).filter fun c =>
        c.stroke = s ∧ c.activity = a).all fun c => Metres.isZero c.distance := by
  rw [(Tally.accounts_parse text).totals, Totals.ofLines_eq_addAll, Totals.get_addAll,
    Totals.get_zero, isZero_foldl_add _ _ (closed_noMinus.natCast 0), isZero_zero, Bool.true_and]
  intro c hc
  obtain ⟨l, hl, hc⟩ := List.mem_flatMap.mp (List.mem_filter.mp hc).1
  exact closed_noMinus.throughout_parse text l hl c hc

/-- **The total of a stroke is zero exactly when nothing but zeros was contributed to it.** -/
theorem isZero_strokeTotal_parse [Speller] (text : Text) (s : Stroke) :
    Metres.isZero ((parse text : Tally Float).totals.strokeTotal s) = false ↔
      (parse text : Tally Float).Contributes s := by
  have hcells : ∀ d ∈ Activity.all.map ((parse text : Tally Float).totals.get s),
      Double.NoMinus d := by
    intro d hd
    obtain ⟨a, -, rfl⟩ := List.mem_map.mp hd
    exact closed_noMinus.cell_parse text s a
  rw [Totals.strokeTotal, isZero_sum hcells, List.all_map, List.all_eq_false]
  constructor
  · rintro ⟨a, -, ha⟩
    rw [Function.comp_apply, isZero_cell_parse, Bool.not_eq_true, List.all_eq_false] at ha
    obtain ⟨c, hc, hzero⟩ := ha
    obtain ⟨hmem, hc⟩ := List.mem_filter.mp hc
    obtain ⟨l, hl, hcl⟩ := List.mem_flatMap.mp hmem
    exact ⟨l, hl, c, hcl, (of_decide_eq_true hc).1, eq_false_of_ne_true hzero⟩
  · rintro ⟨l, hl, c, hc, hs, hzero⟩
    refine ⟨c.activity, Activity.mem_all _, ?_⟩
    rw [Function.comp_apply, isZero_cell_parse, Bool.not_eq_true, List.all_eq_false]
    exact ⟨c, List.mem_filter.mpr ⟨List.mem_flatMap.mpr ⟨l, hl, hc⟩, decide_eq_true ⟨hs, rfl⟩⟩,
      ne_true_of_eq_false hzero⟩

end SwimSets
