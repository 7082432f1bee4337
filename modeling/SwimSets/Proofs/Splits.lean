import Mathlib.Algebra.Ring.Nat
import Mathlib.Data.Option.Basic
import Mathlib.Tactic.SplitIfs
import SwimSets.Rule.Split

/-!
# What a split makes of a line

Each of the four splits takes a line under conditions of its own and then gives contributions of
its own. Here both are said at once (`splitAlternating_eq_some` and its siblings), so that what is
proved of splits elsewhere need not open them again.

A sum of weights is exact, and given just where it can be held (`weightSum_eq_some_iff`).
-/

namespace SwimSets.Split

variable {D : Type} [Metres D] {ctx : LineContext} {cs : List (Contribution D)}

theorem splitAlternating_eq_some :
    splitAlternating ctx = some cs ↔
      altLengths.occursIn ctx.normalized = true ∧ 2 ≤ (strokesOf ctx.normalized).length ∧
        cs = (strokesOf ctx.normalized).map fun s =>
          ⟨s, ctx.activityOrAssumed, ctx.total / ((strokesOf ctx.normalized).length : D)⟩ := by
  simp only [splitAlternating, Option.ite_none_right_eq_some, Option.some.injEq, Bool.and_eq_true,
    decide_eq_true_eq, and_assoc]
  exact and_congr_right fun _ => and_congr_right fun _ => eq_comm

theorem splitMedley_eq_some :
    splitMedley ctx = some cs ↔
      ctx.stroke = some .individualMedley ∧ saysPerStroke ctx.normalized = true ∧
        cs = Stroke.medley.map fun s =>
          ⟨s, ctx.activityOrAssumed, ctx.total / ((4 : Nat) : D)⟩ := by
  simp only [splitMedley, Option.ite_none_right_eq_some, Option.some.injEq, Bool.and_eq_true,
    decide_eq_true_eq, and_assoc]
  exact and_congr_right fun _ => and_congr_right fun _ => eq_comm

theorem splitHalves_eq_some :
    splitHalves ctx = some cs ↔
      ∃ h ws sum, activityAs.firstHit ctx.measurable = some h ∧
        weights (ctx.measurable.drop h.span.stop) (some 1) = some ws ∧ 2 ≤ ws.length ∧
        weightSum ws = some sum ∧ sum ≠ 0 ∧
        cs = ws.map fun w => ⟨w.1, h.value, ctx.total * (w.2 : D) / (sum : D)⟩ := by
  simp only [splitHalves, Option.bind_eq_bind, Option.bind_eq_some_iff, Option.guard_eq_some',
    Option.pure_def, Option.some.injEq]
  constructor
  · rintro ⟨h, hh, ws, hw, _, hn, sum, hs, _, h0, rfl⟩
    exact ⟨h, ws, sum, hh, hw, hn, hs, h0, rfl⟩
  · rintro ⟨h, ws, sum, hh, hw, hn, hs, h0, rfl⟩
    exact ⟨h, hh, ws, hw, (), hn, sum, hs, (), h0, rfl⟩

theorem splitCounted_eq_some :
    splitCounted ctx = some cs ↔
      ∃ ws, ctx.distance.explicitReps = true ∧
        weights (ctx.distance.span.blank ctx.measurable) none = some ws ∧ 2 ≤ ws.length ∧
        weightSum ws = some ctx.distance.reps ∧
        cs = ws.map fun w => ⟨w.1, ctx.activityOrAssumed, (w.2 : D) * ctx.perRep⟩ := by
  simp only [splitCounted, Option.bind_eq_bind, Option.bind_eq_some_iff, Option.guard_eq_some',
    Option.pure_def, Option.some.injEq]
  constructor
  · rintro ⟨_, he, ws, hw, _, hn, sum, hs, _, rfl, rfl⟩
    exact ⟨ws, he, hw, hn, hs, rfl⟩
  · rintro ⟨ws, he, hw, hn, hs, rfl⟩
    exact ⟨(), he, ws, hw, (), hn, _, hs, (), rfl, rfl⟩

/-- **The sum of weights is exact,** where it can be held. -/
theorem weightSum_eq_some_iff {ws : List (Stroke × Nat)} {sum : Nat} :
    weightSum ws = some sum ↔ (ws.map (·.2)).sum = sum ∧ sum < numberBound := by
  -- The sum so far is carried along.
  have fold : ∀ (ws : List (Stroke × Nat)) (a : Nat), a < numberBound →
      (ws.foldlM (fun sum w => checkedAdd sum w.2) a = some sum ↔
        a + (ws.map (·.2)).sum = sum ∧ sum < numberBound) := by
    intro ws
    induction ws with
    | nil =>
      intro a ha
      rw [List.foldlM_nil, List.map_nil, List.sum_nil, Nat.add_zero]
      exact ⟨fun h => Option.some.inj h ▸ ⟨rfl, ha⟩, fun h => congrArg some h.1⟩
    | cons w ws ih =>
      intro a ha
      rw [List.foldlM_cons, checkedAdd, List.map_cons, List.sum_cons, ← Nat.add_assoc]
      split_ifs with hlt
      · exact ih _ hlt
      · simp only [Option.bind_eq_bind, Option.bind_none, reduceCtorEq, false_iff, not_and]
        omega
  rw [weightSum, fold ws 0 (by decide), Nat.zero_add]

theorem weightSum_eq_some {ws : List (Stroke × Nat)} {sum : Nat} (h : weightSum ws = some sum) :
    (ws.map (·.2)).sum = sum := (weightSum_eq_some_iff.mp h).1

/-- The split that is chosen takes the line. -/
theorem apply_of_choose {s : Split} (h : choose ctx = some (s, cs)) : s.apply ctx = some cs := by
  obtain ⟨s', -, h⟩ := List.exists_of_findSome?_eq_some h
  simp only [Option.map_eq_some_iff, Prod.mk.injEq] at h
  obtain ⟨_, hs, rfl, rfl⟩ := h
  exact hs

/-- A split gives at least one contribution. -/
theorem ne_nil_of_apply {s : Split} (h : s.apply ctx = some cs) : cs ≠ [] := by
  have two : ∀ {α : Type} {xs : List α} (f : α → Contribution D), 2 ≤ xs.length →
      xs.map f ≠ [] := by
    intro α xs f hn h0
    simp [List.map_eq_nil_iff.1 h0] at hn
  cases s with
  | alternating =>
    obtain ⟨-, hn, rfl⟩ := splitAlternating_eq_some.1 h
    exact two _ hn
  | medley =>
    obtain ⟨-, -, rfl⟩ := splitMedley_eq_some.1 h
    exact two _ (by decide)
  | halves =>
    obtain ⟨_, ws, _, -, -, hn, -, -, rfl⟩ := splitHalves_eq_some.1 h
    exact two _ hn
  | counted =>
    obtain ⟨ws, -, -, hn, -, rfl⟩ := splitCounted_eq_some.1 h
    exact two _ hn

end SwimSets.Split
