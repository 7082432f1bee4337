import Mathlib.Data.List.Nodup
import SwimSets.Proofs.Splits

/-!
# Weights are added up exactly

**Theorem (`Split.weights_exact`).** The weights of a text give each stroke the sum of all counts
that are written before it (`Split.counts`), and each of them can be held. There are no weights only
where the counts of some stroke add up to more than can be held (`Split.weights_eq_none`). So no
addition runs over.

The list of weights is exact for the counts that were added so far (`Split.Exact`): an addition
keeps that or gives nothing (`Split.Exact.addWeight`, `Split.Exact.addWeight_eq_none`), and so does
a run of additions.
-/

namespace SwimSets

theorem readNumber_lt {digits : Text} {n : Nat} (h : readNumber digits = some n) :
    n < numberBound := by
  simp only [readNumber, Option.ite_none_right_eq_some, Bool.and_eq_true, decide_eq_true_eq,
    Option.some.injEq] at h
  obtain ⟨⟨-, hlt⟩, rfl⟩ := h
  exact hlt

theorem isAsciiDigit_of_readNumber {digits : Text} {n : Nat} (h : readNumber digits = some n) :
    ∀ c ∈ digits, isAsciiDigit c = true := by
  simp only [readNumber, Option.ite_none_right_eq_some, Bool.and_eq_true] at h
  exact List.all_eq_true.1 h.1.1

namespace Split

/-! ## Counts -/

/-- The counts that the mentions of the text have, each with its stroke. -/
def counts (t : Text) (default : Option Nat) : List (Stroke × Nat) :=
  (mentions t).filterMap fun m =>
    ((trailingCount (t.take m.span.start)).or default).map fun n => (m.stroke, n)

/-- The counts added one after another. -/
def addAll (ws cs : List (Stroke × Nat)) : Option (List (Stroke × Nat)) :=
  cs.foldlM (fun ws c => addWeight c.1 c.2 ws) ws

theorem weights_eq (t : Text) (default : Option Nat) :
    weights t default = addAll [] (counts t default) := by
  rw [addAll, counts, List.foldlM_filterMap, weights]
  refine congrArg (List.foldlM · [] _) (funext fun ws => funext fun m => ?_)
  cases (trailingCount (t.take m.span.start)).or default <;> rfl

theorem trailingCount_lt {t : Text} {n : Nat} (h : trailingCount t = some n) :
    n < numberBound := by
  obtain ⟨w, -, hn⟩ := Option.bind_eq_some_iff.1 h
  exact readNumber_lt hn

theorem lt_of_mem_counts {t : Text} {default : Option Nat} (hd : ∀ n ∈ default, n < numberBound)
    {c : Stroke × Nat} (h : c ∈ counts t default) : c.2 < numberBound := by
  obtain ⟨m, -, hm⟩ := List.mem_filterMap.mp h
  obtain ⟨n, hn, rfl⟩ := Option.map_eq_some_iff.mp hm
  rcases Option.or_eq_some_iff.mp hn with hn | ⟨-, hn⟩
  · exact trailingCount_lt hn
  · exact hd n hn

/-! ## Sums -/

/-- The sum of what the list has for a stroke. -/
def totalOf (s : Stroke) (cs : List (Stroke × Nat)) : Nat :=
  (cs.map fun c => if c.1 = s then c.2 else 0).sum

theorem totalOf_nil (s : Stroke) : totalOf s [] = 0 := rfl

theorem totalOf_cons (s : Stroke) (c : Stroke × Nat) (cs : List (Stroke × Nat)) :
    totalOf s (c :: cs) = (if c.1 = s then c.2 else 0) + totalOf s cs := rfl

theorem totalOf_append (s : Stroke) (cs ds : List (Stroke × Nat)) :
    totalOf s (cs ++ ds) = totalOf s cs + totalOf s ds := by
  rw [totalOf, List.map_append, List.sum_append]
  rfl

/-- A new stroke is put last, and the weight of one that is there is raised. -/
theorem addWeight_eq_some {s : Stroke} {n : Nat} {ws us : List (Stroke × Nat)}
    (h : addWeight s n ws = some us) :
    (s ∉ ws.map (·.1) ∧ us = ws ++ [(s, n)]) ∨
      ∃ a m b, ws = a ++ (s, m) :: b ∧ m + n < numberBound ∧ us = a ++ (s, m + n) :: b := by
  induction ws generalizing us with
  | nil => exact .inl ⟨List.not_mem_nil, (Option.some.inj h).symm⟩
  | cons w ws ih =>
    rw [addWeight] at h
    split_ifs at h with hs
    · obtain ⟨k, hk, rfl⟩ := Option.map_eq_some_iff.mp h
      simp only [checkedAdd, Option.ite_none_right_eq_some, Option.some.injEq] at hk
      obtain ⟨hlt, rfl⟩ := hk
      exact .inr ⟨[], w.2, ws, by rw [← hs]; rfl, hlt, by rw [← hs]; rfl⟩
    · obtain ⟨vs, hv, rfl⟩ := Option.map_eq_some_iff.mp h
      rcases ih hv with ⟨hnew, rfl⟩ | ⟨a, m, b, rfl, hlt, rfl⟩
      · refine .inl ⟨?_, rfl⟩
        rw [List.map_cons, List.mem_cons, not_or]
        exact ⟨Ne.symm hs, hnew⟩
      · exact .inr ⟨w :: a, m, b, rfl, hlt, rfl⟩

/-- The addition gives nothing only where the weight cannot be raised. -/
theorem addWeight_eq_none {s : Stroke} {n : Nat} {ws : List (Stroke × Nat)}
    (h : addWeight s n ws = none) :
    ∃ a m b, ws = a ++ (s, m) :: b ∧ numberBound ≤ m + n := by
  induction ws with
  | nil => cases h
  | cons w ws ih =>
    rw [addWeight] at h
    split_ifs at h with hs
    · simp only [Option.map_eq_none_iff, checkedAdd, ite_eq_right_iff, reduceCtorEq, imp_false,
        Nat.not_lt] at h
      exact ⟨[], w.2, ws, by rw [← hs]; rfl, h⟩
    · obtain ⟨a, m, b, rfl, hle⟩ := ih (Option.map_eq_none_iff.mp h)
      exact ⟨w :: a, m, b, rfl, hle⟩

/-! ## Exact weights -/

/-- The weights give each stroke once, with the sum of its counts, and can be held. -/
structure Exact (cs ws : List (Stroke × Nat)) : Prop where
  nodup : (ws.map (·.1)).Nodup
  total : ∀ s, totalOf s ws = totalOf s cs
  lt : ∀ w ∈ ws, w.2 < numberBound

theorem Exact.nil : Exact [] [] := ⟨List.nodup_nil, fun _ => rfl, List.forall_mem_nil _⟩

variable {cs ds ws us : List (Stroke × Nat)} {c : Stroke × Nat}

theorem Exact.addWeight (h : Exact cs ws) (hc : c.2 < numberBound)
    (hadd : addWeight c.1 c.2 ws = some us) : Exact (cs ++ [c]) us := by
  rcases addWeight_eq_some hadd with ⟨hnew, rfl⟩ | ⟨a, m, b, rfl, hlt, rfl⟩
  · refine ⟨?_, fun s => ?_, ?_⟩
    · simpa using h.nodup.concat hnew
    · rw [totalOf_append, h.total, totalOf_append]
    · exact List.forall_mem_append.mpr ⟨h.lt, List.forall_mem_singleton.mpr hc⟩
  · obtain ⟨hnodup, htotal, hall⟩ := h
    refine ⟨by simpa using hnodup, fun s => ?_, ?_⟩
    · have ht := htotal s
      simp only [totalOf_append, totalOf_cons, totalOf_nil] at ht ⊢
      split_ifs at ht ⊢ <;> omega
    · simp only [List.forall_mem_append, List.forall_mem_cons] at hall ⊢
      exact ⟨hall.1, hlt, hall.2.2⟩

theorem Exact.addWeight_eq_none (h : Exact cs ws) (hadd : Split.addWeight c.1 c.2 ws = none) :
    numberBound ≤ totalOf c.1 (cs ++ [c]) := by
  obtain ⟨a, m, b, rfl, hle⟩ := Split.addWeight_eq_none hadd
  have ht := h.total c.1
  simp only [totalOf_append, totalOf_cons, totalOf_nil, if_true] at ht ⊢
  omega

theorem Exact.addAll (h : Exact cs ws) (hds : ∀ d ∈ ds, d.2 < numberBound)
    (hadd : addAll ws ds = some us) : Exact (cs ++ ds) us := by
  induction ds generalizing cs ws with
  | nil =>
    obtain rfl := Option.some.inj hadd
    rwa [List.append_nil]
  | cons d ds ih =>
    obtain ⟨hd, hds⟩ := List.forall_mem_cons.mp hds
    rw [Split.addAll, List.foldlM_cons] at hadd
    obtain ⟨vs, hv, hadd⟩ := Option.bind_eq_some_iff.mp hadd
    rw [List.append_cons]
    exact ih (h.addWeight hd hv) hds hadd

theorem Exact.addAll_eq_none (h : Exact cs ws) (hds : ∀ d ∈ ds, d.2 < numberBound)
    (hadd : Split.addAll ws ds = none) : ∃ s, numberBound ≤ totalOf s (cs ++ ds) := by
  induction ds generalizing cs ws with
  | nil => cases hadd
  | cons d ds ih =>
    obtain ⟨hd, hds⟩ := List.forall_mem_cons.mp hds
    rw [Split.addAll, List.foldlM_cons] at hadd
    rw [List.append_cons]
    cases hv : Split.addWeight d.1 d.2 ws with
    | none =>
      have hle := h.addWeight_eq_none hv
      refine ⟨d.1, ?_⟩
      rw [totalOf_append]
      omega
    | some vs =>
      rw [hv] at hadd
      exact ih (h.addWeight hd hv) hds hadd

/-- **No weight runs over.** -/
theorem weights_exact {t : Text} {default : Option Nat} (hd : ∀ n ∈ default, n < numberBound)
    (h : weights t default = some ws) : Exact (counts t default) ws :=
  Exact.nil.addAll (fun _ hc => lt_of_mem_counts hd hc) (weights_eq t default ▸ h)

/-- There are no weights only where counts come to more than can be held. -/
theorem weights_eq_none {t : Text} {default : Option Nat} (hd : ∀ n ∈ default, n < numberBound)
    (h : weights t default = none) : ∃ s, numberBound ≤ totalOf s (counts t default) :=
  Exact.nil.addAll_eq_none (fun _ hc => lt_of_mem_counts hd hc) (weights_eq t default ▸ h)

end Split

end SwimSets
