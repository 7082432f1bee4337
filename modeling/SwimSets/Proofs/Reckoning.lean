import SwimSets.Proofs.Accounting

/-!
# What holds of all distances of a session

**Theorem (`Closed.cell_parse`).** A property that whole numbers have and that sums, products and
quotients keep (`Closed`) holds of every distance that a session contributes, of every cell of its
totals and of the sums over a row, a column or all cells.

Distances are whole numbers, or made of them by multiplying and dividing; this is seen verdict by
verdict (`Closed.parseLine`). A repeat takes distances of the lines above it, so the property goes
from line to line, and the totals add what the lines contribute.
-/

namespace SwimSets

variable {D : Type} [Metres D]

/-- The property holds of whole numbers and is kept by arithmetic. -/
structure Closed (P : D → Prop) : Prop where
  natCast : ∀ n : Nat, P (n : D)
  add : ∀ {x y : D}, P x → P y → P (x + y)
  mul : ∀ {x y : D}, P x → P y → P (x * y)
  div : ∀ {x y : D}, P x → P y → P (x / y)

/-- The property holds of each distance that is contributed. -/
def Throughout (P : D → Prop) (cs : List (Contribution D)) : Prop := ∀ c ∈ cs, P c.distance

namespace Closed

variable {P : D → Prop} (hP : Closed P)

include hP

/-! ## Lines -/

theorem perRep (ctx : LineContext) : P ctx.perRep := hP.natCast _

theorem total (ctx : LineContext) : P ctx.total := hP.mul (hP.natCast _) (hP.perRep ctx)

theorem throughout_split {ctx : LineContext} {s : Split} {cs : List (Contribution D)}
    (h : s.apply ctx = some cs) : Throughout P cs := by
  intro c hc
  cases s with
  | alternating =>
    obtain ⟨-, -, rfl⟩ := Split.splitAlternating_eq_some.mp h
    obtain ⟨s, -, rfl⟩ := List.mem_map.mp hc
    exact hP.div (hP.total ctx) (hP.natCast _)
  | medley =>
    obtain ⟨-, -, rfl⟩ := Split.splitMedley_eq_some.mp h
    obtain ⟨s, -, rfl⟩ := List.mem_map.mp hc
    exact hP.div (hP.total ctx) (hP.natCast _)
  | halves =>
    obtain ⟨_, ws, _, -, -, -, -, -, rfl⟩ := Split.splitHalves_eq_some.mp h
    obtain ⟨w, -, rfl⟩ := List.mem_map.mp hc
    exact hP.div (hP.mul (hP.total ctx) (hP.natCast _)) (hP.natCast _)
  | counted =>
    obtain ⟨ws, -, -, -, -, rfl⟩ := Split.splitCounted_eq_some.mp h
    obtain ⟨w, -, rfl⟩ := List.mem_map.mp hc
    exact hP.mul (hP.natCast _) (hP.perRep ctx)

theorem throughout_parts {ctx : LineContext} {cs : List (Contribution D)} {ws : List Warning}
    (h : Breakdown.read ctx = .parts cs ws) : Throughout P cs := by
  unfold Breakdown.read at h
  split at h
  · cases h
  · dsimp only at h
    split_ifs at h
    cases h
    intro c hc
    obtain ⟨p, -, rfl⟩ := List.mem_map.mp hc
    exact hP.mul (hP.natCast _) (hP.natCast _)

omit [Metres D] hP in
theorem throughout_repeat {previous : List (ParsedLine D)} {cs : List (Contribution D)} {n : Nat}
    (h : Repeat.resolve previous = some (cs, n))
    (hprev : ∀ l ∈ previous, Throughout P l.contributions) : Throughout P cs := by
  simp only [Repeat.resolve] at h
  split_ifs at h
  cases h
  intro c hc
  obtain ⟨l, hl, hc⟩ := List.mem_flatMap.mp hc
  rcases Repeat.mem_collect hl with hnil | ⟨habove, -⟩
  · cases hnil
  · exact hprev l (List.mem_reverse.mp habove) c hc

theorem throughout_parseLine [Speller] (number : Nat) (raw : Text) {previous : List (ParsedLine D)}
    (hprev : ∀ l ∈ previous, Throughout P l.contributions) :
    Throughout P (parseLine number raw previous).contributions := by
  have verdict := parseLine_verdict number raw previous
  generalize parseLine number raw previous = l at verdict ⊢
  cases verdict with
  | layout | refused => exact List.forall_mem_nil _
  | repeated _ _ _ _ found => exact throughout_repeat found hprev
  | parts _ _ _ _ found => exact hP.throughout_parts found
  | split _ _ _ _ _ found => exact hP.throughout_split (Split.apply_of_choose found)
  | plain =>
    intro c hc
    obtain rfl := List.mem_singleton.mp hc
    exact hP.total _

/-! ## Sessions -/

theorem throughout_parse [Speller] (text : Text) :
    ∀ l ∈ (parse text : Tally D).lines, Throughout P l.contributions :=
  Tally.forall_mem_parse (fun number raw _ => hP.throughout_parseLine number raw) text

theorem foldl_add {α : Type} (f : α → D) (xs : List α) {d : D} (hd : P d)
    (hxs : ∀ x ∈ xs, P (f x)) : P (xs.foldl (fun d x => d + f x) d) := by
  induction xs generalizing d with
  | nil => exact hd
  | cons x xs ih =>
    rw [List.forall_mem_cons] at hxs
    exact ih (hP.add hd hxs.1) hxs.2

theorem sum {ds : List D} (h : ∀ d ∈ ds, P d) : P (Metres.sum ds) := by
  cases ds with
  | nil => exact hP.natCast 0
  | cons d ds =>
    rw [List.forall_mem_cons] at h
    exact hP.foldl_add id ds h.1 h.2

/-- **What arithmetic keeps holds of every cell.** -/
theorem cell_parse [Speller] (text : Text) (s : Stroke) (a : Activity) :
    P ((parse text : Tally D).totals.get s a) := by
  rw [(Tally.accounts_parse text).totals, Totals.ofLines_eq_addAll, Totals.get_addAll,
    Totals.get_zero]
  refine hP.foldl_add _ _ (hP.natCast 0) fun c hc => ?_
  obtain ⟨l, hl, hc⟩ := List.mem_flatMap.mp (List.mem_filter.mp hc).1
  exact hP.throughout_parse text l hl c hc

theorem strokeTotal_parse [Speller] (text : Text) (s : Stroke) :
    P ((parse text : Tally D).totals.strokeTotal s) := by
  refine hP.sum fun d hd => ?_
  obtain ⟨a, -, rfl⟩ := List.mem_map.mp hd
  exact hP.cell_parse text s a

theorem activityTotal_parse [Speller] (text : Text) (a : Activity) :
    P ((parse text : Tally D).totals.activityTotal a) := by
  refine hP.sum fun d hd => ?_
  obtain ⟨s, -, rfl⟩ := List.mem_map.mp hd
  exact hP.cell_parse text s a

theorem total_parse [Speller] (text : Text) : P (parse text : Tally D).totals.total := by
  refine hP.sum fun d hd => ?_
  obtain ⟨c, hc, rfl⟩ := List.mem_map.mp hd
  obtain ⟨s, -, hc⟩ := List.mem_flatMap.mp hc
  obtain ⟨a, -, rfl⟩ := List.mem_map.mp hc
  exact hP.cell_parse text s a

end Closed

end SwimSets
