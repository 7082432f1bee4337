import Mathlib.Data.Rat.Floor
import Mathlib.Tactic.FieldSimp
import Mathlib.Tactic.Linarith
import SwimSets.Config
import SwimSets.Proofs.Characters
import SwimSets.Session.Parse
import SwimSets.Text.Spellings
import SwimSets.Toml.Document

/-!
# Whole lengths of a pool

A session counts as a whole number of lengths if its total, divided by the length of the pool, is
closer to a whole number than the tolerance.

**Metres off** (`offLengths`). A total in whole metres is some whole number of metres away from the
nearest multiple of the pool. Divided by the pool, that is the distance which the check compares
with the tolerance (`offWhole_lengths`). So the least that a total can be off is one metre in the
length of the pool, and the tolerance, a billionth, is no more than that unless the pool is longer
than a billion metres.

**Theorem (`whole_lengths_iff`).** The check accepts a total exactly if the metres off are less than
a billionth of the pool. Among the pools that have a length it decides divisibility, of the totals
of all sessions, exactly for those of at most a billion metres.
-/

namespace SwimSets

/-! ## Exact numbers -/

namespace Metres

variable {x : Rat} (h0 : 0 ≤ x) (h1 : x < 1)
include h0 h1

/-- A half goes up. -/
theorem nearest_add (n : Nat) :
    nearest ((n : Rat) + x) = if x < 1 / 2 then (n : Rat) else (n : Rat) + 1 := by
  have hn : (0 : Rat) ≤ n := n.cast_nonneg
  have hfloor (m : Int) (h : (m : Rat) ≤ n + x + 1 / 2) (h' : (n : Rat) + x + 1 / 2 < m + 1) :
      nearest ((n : Rat) + x) = m := by
    have hm : ⌊(n : Rat) + x + 1 / 2⌋ = m := Int.floor_eq_iff.2 ⟨h, h'⟩
    exact (if_neg (not_lt.2 (by linarith))).trans (congrArg _ hm)
  split_ifs with hhalf
  · exact_mod_cast hfloor n (by push_cast; linarith) (by push_cast; linarith)
  · have hm := hfloor (n + 1) (by push_cast; linarith) (by push_cast; linarith)
    exact_mod_cast hm

/-- How far a number is from the nearest whole one. -/
theorem offWhole_add (n : Nat) : offWhole ((n : Rat) + x) = min x (1 - x) := by
  have habs (a : Rat) : (if below a ((0 : Nat) : Rat) then ((0 : Nat) : Rat) - a else a) = |a| := by
    show (if decide (a < ((0 : Nat) : Rat)) = true then ((0 : Nat) : Rat) - a else a) = |a|
    rw [Nat.cast_zero, zero_sub]
    split_ifs with ha
    · exact (abs_of_neg (of_decide_eq_true ha)).symm
    · exact (abs_of_nonneg (not_lt.1 (by simpa using ha))).symm
  rw [offWhole, habs, nearest_add h0 h1]
  split_ifs with hhalf
  · rw [add_sub_cancel_left, abs_of_nonneg h0, min_eq_left (by linarith)]
  · rw [add_sub_add_left_eq_sub, abs_of_nonpos (by linarith), neg_sub, min_eq_right (by linarith)]

end Metres

/-! ## Lengths -/

/-- How many metres the total is off the nearest whole number of lengths. -/
def offLengths (total pool : Nat) : Nat := min (total % pool) (pool - total % pool)

section Lengths

variable {total pool : Nat} (hp : 0 < pool)
include hp

theorem offLengths_eq_zero_iff : offLengths total pool = 0 ↔ pool ∣ total := by
  have hlt := Nat.mod_lt total hp
  rw [Nat.dvd_iff_mod_eq_zero, offLengths]
  omega

/-- **What the check compares with the tolerance.** -/
theorem offWhole_lengths :
    Metres.offWhole ((total : Rat) / (pool : Rat)) = (offLengths total pool : Rat) / pool := by
  have hpos : (0 : Rat) < pool := by exact_mod_cast hp
  have hlt := Nat.mod_lt total hp
  have hsplit : (total : Rat) / pool =
      (total / pool : Nat) + ((total % pool : Nat) : Rat) / pool := by
    have : (total : Rat) = pool * (total / pool : Nat) + (total % pool : Nat) := by
      exact_mod_cast (Nat.div_add_mod total pool).symm
    rw [this]
    field_simp
  have hless : ((total % pool : Nat) : Rat) / pool < 1 :=
    (div_lt_one hpos).2 (by exact_mod_cast hlt)
  rw [hsplit, Metres.offWhole_add (by positivity) hless, offLengths, Nat.cast_min,
    Nat.cast_sub hlt.le, ← min_div_div_right hpos.le, sub_div, div_self hpos.ne']

/-- The check accepts what is off by less than a billionth of the pool. -/
theorem isWhole_lengths_iff : Metres.isWhole ((total : Rat) / (pool : Rat)) = true ↔
    offLengths total pool * 1000000000 < pool := by
  have hpos : (0 : Rat) < pool := by exact_mod_cast hp
  rw [Metres.isWhole, offWhole_lengths hp]
  show decide (_ < _) = true ↔ _
  rw [decide_eq_true_iff, Metres.tolerance, div_lt_div_iff₀ hpos (by norm_num)]
  norm_cast
  rw [Nat.one_mul]

end Lengths

/-- A session of one metre, however characters are spelled. -/
theorem total_metre [Speller] : (parse "1m fc".toList : Tally Rat).total = ((1 : Nat) : Rat) := by
  have hlines : Text.lines "1m fc" = ["1m fc".toList] := by decide
  have hkind : LineKind.of "1m fc" = .content := by decide
  have hview : LineView.of "1m fc" = ⟨"1m fc", "1m fc"⟩ := by
    rw [LineView.of, normalize_of_plain (by decide)]
    decide +kernel
  rw [parse, hlines, List.foldl_cons, List.foldl_nil, Tally.read, parseLine, hkind, hview]
  decide +kernel

/-- **When a session is said to be a whole number of lengths.** A total in whole metres is accepted
exactly if what it is off is less than a billionth of the pool. So the check decides whether the
pool divides the totals of all sessions exactly if the pool is not longer than a billion metres. -/
theorem whole_lengths_iff [Speller] {pool : Nat} (hp : 0 < pool) :
    (∀ (t : Tally Rat) (total : Nat), t.total = (total : Rat) →
      (t.isMultipleOf pool = true ↔ offLengths total pool * 1000000000 < pool)) ∧
    ((∀ (session : Text) (total : Nat), (parse session : Tally Rat).total = (total : Rat) →
      ((parse session : Tally Rat).isMultipleOf pool = true ↔ pool ∣ total)) ↔
        pool ≤ 1000000000) := by
  have hcheck (t : Tally Rat) (total : Nat) (h : t.total = (total : Rat)) :
      t.isMultipleOf pool = true ↔ offLengths total pool * 1000000000 < pool := by
    rw [Tally.isMultipleOf, h, Bool.and_eq_true, bne_iff_ne, isWhole_lengths_iff hp]
    exact and_iff_right hp.ne'
  refine ⟨hcheck, fun h => ?_, fun hle session total htotal => ?_⟩
  · -- A session of one metre is off by that metre, which a longer pool does not notice.
    have hiff := (hcheck _ 1 total_metre).symm.trans (h _ 1 total_metre)
    by_contra hgt
    have hmod : 1 % pool = 1 := Nat.mod_eq_of_lt (by omega)
    have hdvd := Nat.le_of_dvd one_pos (hiff.1 (by rw [offLengths, hmod]; omega))
    omega
  · rw [hcheck _ total htotal, ← offLengths_eq_zero_iff hp]
    omega

/-- A session of 375 metres is a whole number of lengths of a pool of 25 metres, and none of one of
50 metres. -/
theorem whole_lengths_fifteen :
    let t : Tally Rat := parse "15 x 25m fc".toList
    (0 < 25 ∧ t.total = (375 : Nat) ∧ t.isMultipleOf 25 = true ∧ 25 ∣ 375) ∧
      0 < 50 ∧ t.isMultipleOf 50 = false ∧ ¬ 50 ∣ 375 := by
  intro t
  have htotal : t.total = (375 : Nat) := by decide +kernel
  have short : 0 < 25 := by decide
  have long : 0 < 50 := by decide
  refine ⟨⟨short, htotal, ?_, by decide⟩, long, ?_, by decide⟩
  · exact ((whole_lengths_iff short).1 t 375 htotal).2 (by decide)
  · refine Bool.eq_false_iff.2 fun h => ?_
    exact absurd (((whole_lengths_iff long).1 t 375 htotal).1 h) (by decide)

/-- A pool of two billion metres can be set in the file and on the command line, and a session of
one metre is then said to be a whole number of its lengths. -/
theorem metre_in_endless_pool :
    let pool := 2000000000
    let t : Tally Rat := parse "1m fc".toList
    (Config.load "[report]\npool_length = 2000000000\n".toList).map (·.poolLength) = .ok pool ∧
      (Overrides.resolve ⟨none, false, some pool, none⟩ Config.initial).map (·.2.poolLength) =
        .ok pool ∧
      t.total = (1 : Nat) ∧ ¬ pool ∣ 1 ∧ t.isMultipleOf pool = true := by
  decide +kernel

end SwimSets
