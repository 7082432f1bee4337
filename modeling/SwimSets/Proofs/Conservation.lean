import Mathlib.Algebra.BigOperators.Ring.Finset
import Mathlib.Algebra.Field.Rat
import Mathlib.Tactic.FieldSimp
import SwimSets.Proofs.Splits
import SwimSets.Proofs.Verdict
import SwimSets.Text.Spellings

/-!
# No distance is lost

**Theorem (`distance_conserved`).** A line that is understood and asks for no repeat contributes
exactly the distance that is written on it, repetitions times the distance of one. There is one
exception, a breakdown whose parts add up to something else: it contributes what the parts say,
and a warning tells so. No other line has that warning.

Distances are read as exact numbers. Each split is shown to share out the whole (`apply_total`):
equal shares, quarters, and shares by weight because the weights add up to the divisor, counts
because they add up to the repetitions. A breakdown contributes the parts times the repetitions
(`parts_total`).

The wording of the warning is looked for in the text of all warnings of the line together. It
starts with a letter that no other warning has.
-/

namespace SwimSets

/-! ## Exact sums -/

theorem Metres.sum_eq_sum (ds : List Rat) : Metres.sum ds = ds.sum := by
  have fold : ∀ (es : List Rat) (e : Rat), es.foldl (· + ·) e = e + es.sum := by
    intro es
    induction es with
    | nil => simp
    | cons x xs ih => intro e; rw [List.foldl_cons, ih, List.sum_cons, add_assoc]
  cases ds with
  | nil => rfl
  | cons d ds => exact fold ds d

/-- The exact distance of contributions. -/
def exactSum (cs : List (Contribution Rat)) : Rat := (cs.map (·.distance)).sum

theorem exactSum_map {α : Type} (xs : List α) (stroke : α → Stroke) (activity : α → Activity)
    (f : α → Rat) :
    exactSum (xs.map fun x => ⟨stroke x, activity x, f x⟩) = (xs.map f).sum := by
  simp [exactSum, Function.comp_def]

theorem ParsedLine.distance_eq_exactSum (l : ParsedLine Rat) :
    l.distance = exactSum l.contributions := Metres.sum_eq_sum _

/-! ## Splits -/

namespace Split

/-- Equal shares, as many as there are, make up the whole. -/
theorem sum_equal_shares {α : Type} (xs : List α) (total : Rat) (h : xs ≠ []) :
    (xs.map fun _ => total / (xs.length : Rat)).sum = total := by
  have hn : (xs.length : Rat) ≠ 0 := by simpa using h
  rw [List.map_const', List.sum_replicate, nsmul_eq_mul, mul_div_cancel₀ total hn]

/-- Shares by weight make up the whole. -/
theorem sum_weighted_shares (ws : List (Stroke × Nat)) (total : Rat) {sum : Nat}
    (h : (ws.map (·.2)).sum = sum) (h0 : sum ≠ 0) :
    (ws.map fun w => total * (w.2 : Rat) / (sum : Rat)).sum = total := by
  have hs : (sum : Rat) ≠ 0 := by exact_mod_cast h0
  have hw : (ws.map fun w => (w.2 : Rat)).sum = (sum : Rat) := by
    rw [← h, Nat.cast_list_sum, List.map_map, Function.comp_def]
  calc (ws.map fun w => total * (w.2 : Rat) / (sum : Rat)).sum
      = (ws.map fun w => total / (sum : Rat) * (w.2 : Rat)).sum := by
        simp only [mul_div_right_comm]
    _ = total / (sum : Rat) * (sum : Rat) := by rw [List.sum_map_mul_left, hw]
    _ = total := div_mul_cancel₀ total hs

/-- Counts of a distance make up their sum times the distance. -/
theorem sum_counted_shares (ws : List (Stroke × Nat)) (each : Rat) {sum : Nat}
    (h : (ws.map (·.2)).sum = sum) :
    (ws.map fun w => (w.2 : Rat) * each).sum = (sum : Rat) * each := by
  rw [List.sum_map_mul_right, ← h, Nat.cast_list_sum, List.map_map, Function.comp_def]

variable {ctx : LineContext} {cs : List (Contribution Rat)}

/-- **A split shares out the whole distance**, whichever takes the line. -/
theorem apply_total {s : Split} (h : s.apply ctx = some cs) : exactSum cs = ctx.total := by
  cases s with
  | alternating =>
    obtain ⟨-, hn, rfl⟩ := splitAlternating_eq_some.1 h
    have hne : strokesOf ctx.normalized ≠ [] := by
      intro h0
      simp [h0] at hn
    exact (exactSum_map ..).trans (sum_equal_shares _ ctx.total hne)
  | medley =>
    obtain ⟨-, -, rfl⟩ := splitMedley_eq_some.1 h
    exact (exactSum_map ..).trans (sum_equal_shares Stroke.medley ctx.total (by decide))
  | halves =>
    obtain ⟨_, ws, sum, -, -, -, hs, h0, rfl⟩ := splitHalves_eq_some.1 h
    exact (exactSum_map ..).trans (sum_weighted_shares ws ctx.total (weightSum_eq_some hs) h0)
  | counted =>
    obtain ⟨ws, -, -, -, hs, rfl⟩ := splitCounted_eq_some.1 h
    exact (exactSum_map ..).trans (sum_counted_shares ws ctx.perRep (weightSum_eq_some hs))

end Split

/-! ## Breakdowns -/

namespace Breakdown

/-- The distances written in the parts of the breakdown on a line, in order; none where there is
no breakdown. -/
def written (measurable : Text) : List Nat :=
  match splitClause measurable with
  | none => []
  | some (_, texts) => (texts.filterMap Distance.readBare).map (·.1)

theorem metresOf_eq_sum (ps : List Part) : metresOf ps = (ps.map (·.metres)).sum := by
  induction ps with
  | nil => rfl
  | cons p ps ih => rw [metresOf, ih, List.map_cons, List.sum_cons]

/-- Reading the parts keeps their distances. -/
theorem metres_filterMap_read (stroke : Option Stroke) (texts : List Text) :
    (texts.filterMap (Part.read stroke)).map (·.metres) =
      (texts.filterMap Distance.readBare).map (·.1) := by
  rw [List.map_filterMap, List.map_filterMap]
  congr 1
  funext t
  simp [Part.read, Function.comp_def]

/-- The parts contribute the sum of their distances in each repetition. -/
theorem parts_total (reps : Nat) (ps : List Part) :
    exactSum (ps.map (Part.contribution reps)) =
      (reps : Rat) * ((ps.map (·.metres)).sum : Nat) := by
  have h : exactSum (ps.map (Part.contribution reps)) =
      (ps.map fun p => (p.metres : Rat) * (reps : Rat)).sum :=
    exactSum_map ps (fun p => p.stroke.getD assumedStroke) (·.activity) _
  rw [h, List.sum_map_mul_right, Nat.cast_list_sum, List.map_map, mul_comm]
  rfl

theorem remark_not_mem (ps : List Part) (ignored perRep : Nat) (t : Text) :
    Warning.remark t ∉ warningsFor ps ignored perRep := by
  simp only [warningsFor]
  split_ifs <;> simp

/-- A disagreement is warned of exactly when there is one. -/
theorem disagree_mem_iff (ps : List Part) (ignored perRep : Nat) :
    (∃ s p, Warning.partsDisagree s p ∈ warningsFor ps ignored perRep) ↔ metresOf ps ≠ perRep := by
  simp only [warningsFor]
  split_ifs <;> simp_all

/-- What a breakdown with parts says, in terms of the distances written in it. -/
theorem read_eq_parts {ctx : LineContext} {cs : List (Contribution Rat)} {ws : List Warning}
    (h : read ctx = .parts cs ws) :
    written ctx.measurable ≠ [] ∧
      exactSum cs = (ctx.distance.reps : Rat) * ((written ctx.measurable).sum : Nat) ∧
      (∀ t, Warning.remark t ∉ ws) ∧
      ((∃ s p, Warning.partsDisagree s p ∈ ws) ↔
        (written ctx.measurable).sum ≠ ctx.distance.perRep) := by
  unfold read at h
  split at h
  · cases h
  · rename_i head texts hc
    have hw : written ctx.measurable =
        (texts.filterMap (Part.read (strokeOf head))).map (·.metres) := by
      rw [metres_filterMap_read, written, hc]
    dsimp only at h
    split_ifs at h with he
    cases h
    rw [hw, ← metresOf_eq_sum]
    refine ⟨by simpa using he, ?_, remark_not_mem _ _ _, disagree_mem_iff _ _ _⟩
    rw [metresOf_eq_sum, parts_total]

/-- A line whose breakdown gives no parts has no distance written in parts. -/
theorem written_eq_nil (ctx : LineContext)
    (h : ∀ cs ws, read (D := Rat) ctx ≠ .parts cs ws) : written ctx.measurable = [] := by
  unfold read at h
  unfold written
  split
  · rfl
  · rename_i head texts hc
    rw [← metres_filterMap_read (strokeOf head) texts]
    by_contra hne
    simp only [hc] at h
    rw [if_neg (by simpa using hne)] at h
    exact h _ _ rfl

end Breakdown

/-! ## The warning of a breakdown that disagrees -/

theorem Text.mem_join {c : Char} {sep : Text} {ts : List Text} (h : c ∈ Text.join sep ts) :
    c ∈ sep ∨ ∃ t ∈ ts, c ∈ t := by
  induction ts using Text.join.induct with
  | case1 => simp [Text.join] at h
  | case2 t => exact .inr ⟨t, by simp, by simpa [Text.join] using h⟩
  | case3 t ts hne ih =>
    rw [Text.join] at h
    · rcases List.mem_append.1 h with h | h
      · rcases List.mem_append.1 h with h | h
        · exact .inr ⟨t, by simp, h⟩
        · exact .inl h
      · rcases ih h with h | ⟨u, hu, h⟩
        · exact .inl h
        · exact .inr ⟨u, List.mem_cons_of_mem _ hu, h⟩
    · exact hne

theorem Text.infix_join {sep t : Text} {ts : List Text} (h : t ∈ ts) :
    t <:+: Text.join sep ts := by
  induction ts using Text.join.induct with
  | case1 => simp at h
  | case2 u =>
    rw [List.mem_singleton.1 h, Text.join]
  | case3 u ts hne ih =>
    rw [Text.join]
    · rcases List.mem_cons.1 h with rfl | h
      · exact List.infix_append_of_infix_left (List.prefix_append _ _).isInfix
      · exact List.infix_append_of_infix_right (ih h)
    · exact hne

namespace Warning

/-- The words by which a breakdown that disagrees with its line is known. -/
def disagreement : Text := "Breakdown parts add up to"

theorem disagreement_isPrefix (sum perRep : Nat) :
    disagreement <+: (partsDisagree sum perRep).message := by
  have h : "Breakdown parts add up to ".toList = disagreement ++ [' '] := by decide +kernel
  unfold message
  rw [h]
  simp only [List.append_assoc]
  exact List.prefix_append _ _

theorem disagreement_infix (sum perRep : Nat) :
    disagreement <:+: (partsDisagree sum perRep).message :=
  (disagreement_isPrefix sum perRep).isInfix

/-- No other warning that a rule gives has a capital B. -/
theorem not_mem_message {w : Warning} (remark : ∀ t, w ≠ .remark t)
    (agrees : ∀ s p, w ≠ .partsDisagree s p) : 'B' ∉ w.message := by
  have digits : ∀ n, 'B' ∉ Text.ofNat n := fun n h =>
    absurd (Nat.isDigit_of_mem_toDigits (by decide) (by decide) h) (by decide)
  cases w with
  | strokeAssumed => exact (by decide +kernel : 'B' ∉ strokeAssumed.message)
  | partsIgnored n =>
    unfold message
    simp only [List.mem_append, not_or]
    exact ⟨⟨by decide +kernel, digits n⟩, by decide +kernel⟩
  | repeated n =>
    unfold message
    simp only [List.mem_append, not_or]
    exact ⟨⟨by decide +kernel, digits n⟩, by decide +kernel⟩
  | partsDisagree s p => exact (agrees s p rfl).elim
  | remark t => exact (remark t rfl).elim

end Warning

namespace ParsedLine

variable {D : Type}

/-- The warnings of the line contain the phrase. -/
def warns (l : ParsedLine D) (phrase : Text) : Prop :=
  ∃ t, l.warningText = some t ∧ phrase <:+: t

/-- A line warns of what it has a warning for. -/
theorem warns_of_mem {l : ParsedLine D} {w : Warning} (h : w ∈ l.warnings) :
    l.warns w.message := by
  have hsome : l.hasWarning = true := by
    simp only [hasWarning, Bool.not_eq_true', List.isEmpty_eq_false_iff]
    exact List.ne_nil_of_mem h
  exact ⟨_, if_pos hsome, Text.infix_join (List.mem_map_of_mem h)⟩

theorem warns_disagreement_iff (l : ParsedLine D) (own : ∀ t, Warning.remark t ∉ l.warnings) :
    l.warns Warning.disagreement ↔ ∃ s p, Warning.partsDisagree s p ∈ l.warnings := by
  constructor
  · rintro ⟨t, ht, hp⟩
    by_contra hno
    simp only [warningText, Option.ite_none_right_eq_some, Option.some.injEq] at ht
    obtain ⟨-, rfl⟩ := ht
    have hB : 'B' ∈ Text.join "; ".toList (l.warnings.map Warning.message) :=
      hp.subset (by decide +kernel)
    rcases Text.mem_join hB with h | ⟨m, hm, h⟩
    · exact absurd h (by decide +kernel)
    · obtain ⟨w, hw, rfl⟩ := List.mem_map.1 hm
      refine Warning.not_mem_message ?_ ?_ h
      · rintro t rfl
        exact own t hw
      · rintro s p rfl
        exact hno ⟨s, p, hw⟩
  · rintro ⟨s, p, hw⟩
    obtain ⟨t, ht, hp⟩ := warns_of_mem hw
    exact ⟨t, ht, (Warning.disagreement_infix s p).trans hp⟩

/-- A line with no other warning than that of an assumed stroke does not warn of a disagreement. -/
theorem not_warns_disagreement {l : ParsedLine D} (h : ∀ w ∈ l.warnings, w = .strokeAssumed) :
    ¬ l.warns Warning.disagreement := by
  rw [warns_disagreement_iff l fun t ht => by cases h _ ht]
  rintro ⟨s, p, hw⟩
  cases h _ hw

end ParsedLine

theorem plainLine_total (number : Nat) (raw : Text) (ctx : LineContext) :
    exactSum (plainLine number raw ctx).contributions = ctx.total := by
  simp [plainLine, ParsedLine.accepted, exactSum]

theorem plainLine_warnings {D : Type} [Metres D] (number : Nat) (raw : Text) (ctx : LineContext) :
    ∀ w ∈ (plainLine (D := D) number raw ctx).warnings, w = .strokeAssumed := by
  simp only [plainLine, ParsedLine.accepted]
  split_ifs <;> simp

/-! ## Conservation -/

section

variable {l : ParsedLine Rat} {d : Distance} {parts : List Nat}

/-- A line that contributes its parts, and warns where they disagree with it. -/
theorem conserved_of_parts (hne : parts ≠ [])
    (total : exactSum l.contributions = (d.reps : Rat) * (parts.sum : Nat))
    (warns : l.warns Warning.disagreement ↔ parts.sum ≠ d.perRep) :
    if parts ≠ [] ∧ parts.sum ≠ d.perRep then
      exactSum l.contributions = (d.reps : Rat) * (parts.sum : Nat) ∧
        l.warns Warning.disagreement
    else
      exactSum l.contributions = (d.reps : Rat) * (d.perRep : Nat) ∧
        ¬ l.warns Warning.disagreement := by
  by_cases h : parts.sum = d.perRep
  · rw [if_neg fun hd => hd.2 h, ← h]
    exact ⟨total, fun hw => warns.1 hw h⟩
  · rw [if_pos ⟨hne, h⟩]
    exact ⟨total, warns.2 h⟩

/-- A line without parts that contributes what is written, and does not warn. -/
theorem conserved_of_nil (hnil : parts = [])
    (total : exactSum l.contributions = (d.reps : Rat) * (d.perRep : Nat))
    (quiet : ¬ l.warns Warning.disagreement) :
    if parts ≠ [] ∧ parts.sum ≠ d.perRep then
      exactSum l.contributions = (d.reps : Rat) * (parts.sum : Nat) ∧
        l.warns Warning.disagreement
    else
      exactSum l.contributions = (d.reps : Rat) * (d.perRep : Nat) ∧
        ¬ l.warns Warning.disagreement := by
  rw [if_neg fun hd => hd.1 hnil]
  exact ⟨total, quiet⟩

end

/-- **No distance is lost.** A line that is understood and asks for no repeat contributes the
repetitions times the distance written for one, and does not warn of a disagreement; unless its
breakdown has parts that add up to another distance, which it then contributes in each repetition,
with the warning. -/
theorem distance_conserved [Speller] (number : Nat) (raw : Text) (previous : List (ParsedLine Rat))
    (noRepeat : Repeat.isAsked (normalize raw) = false)
    (parsed : (parseLine number raw previous).parsed = true) :
    ∃ d, Distance.read (LineView.of raw).measurable = some d ∧
      let l := parseLine number raw previous
      let parts := Breakdown.written (LineView.of raw).measurable
      if parts ≠ [] ∧ parts.sum ≠ d.perRep then
        l.distance = (d.reps : Rat) * (parts.sum : Nat) ∧ l.warns Warning.disagreement
      else
        l.distance = (d.reps : Rat) * (d.perRep : Nat) ∧ ¬ l.warns Warning.disagreement := by
  simp only [ParsedLine.distance_eq_exactSum]
  have hv := parseLine_verdict number raw previous
  revert parsed hv
  generalize parseLine number raw previous = l
  intro parsed hv
  cases hv with
  | layout | refused => cases parsed
  | repeated cs n content asked => simp [asked] at noRepeat
  | parts d cs ws measured found =>
    obtain ⟨hne, htotal, own, hw⟩ := Breakdown.read_eq_parts found
    rw [contextOf_measurable] at hne htotal hw
    have hw := (ParsedLine.warns_disagreement_iff (.accepted number raw cs ws) own).trans hw
    refine ⟨d, measured.read, ?_⟩
    generalize Breakdown.written (LineView.of raw).measurable = parts at hne htotal hw ⊢
    exact conserved_of_parts hne htotal hw
  | split d way cs measured noParts found =>
    have hnil := Breakdown.written_eq_nil (contextOf raw d) noParts
    rw [contextOf_measurable] at hnil
    refine ⟨d, measured.read, ?_⟩
    generalize Breakdown.written (LineView.of raw).measurable = parts at hnil ⊢
    exact conserved_of_nil hnil (Split.apply_total (Split.apply_of_choose found))
      (ParsedLine.not_warns_disagreement (by simp [ParsedLine.accepted]))
  | plain d measured noParts =>
    have hnil := Breakdown.written_eq_nil (contextOf raw d) noParts
    rw [contextOf_measurable] at hnil
    refine ⟨d, measured.read, ?_⟩
    generalize Breakdown.written (LineView.of raw).measurable = parts at hnil ⊢
    exact conserved_of_nil hnil (plainLine_total number raw (contextOf raw d))
      (ParsedLine.not_warns_disagreement (plainLine_warnings number raw (contextOf raw d)))

/-- The parts of this line are 25 m short in each of its four repetitions. They are what counts, and
the line warns. -/
theorem distance_conserved_short_parts :
    let raw : Text := "4 x 100m bk as 25m kick / 50m swim"
    let l := parseLine (D := Rat) 1 raw []
    Repeat.isAsked (normalize raw) = false ∧ l.parsed = true ∧
      Breakdown.written (LineView.of raw).measurable = [25, 50] ∧
      l.distance = 300 ∧ l.warns Warning.disagreement := by
  intro raw l
  have noRepeat : Repeat.isAsked (normalize raw) = false := by decide +kernel
  have parsed : (parseLine (D := Rat) 1 raw []).parsed = true := by decide +kernel
  have hparts : Breakdown.written (LineView.of raw).measurable = [25, 50] := by decide +kernel
  have hread : (Distance.read (LineView.of raw).measurable).map (fun d => (d.reps, d.perRep)) =
      some (4, 100) := by decide +kernel
  have hsum : ((4 : Nat) : Rat) * (([25, 50] : List Nat).sum : Nat) = 300 := by decide +kernel
  have hconserved := distance_conserved 1 raw [] noRepeat parsed
  refine ⟨noRepeat, parsed, hparts, ?_⟩
  -- With the line and its distance as variables no step below computes them again.
  revert hconserved
  subst l
  generalize parseLine (D := Rat) 1 raw [] = l
  rw [hparts]
  generalize Distance.read (LineView.of raw).measurable = read at hread
  rintro ⟨d, rfl, hshort⟩
  obtain ⟨hreps, hper⟩ := Prod.mk.inj (Option.some.inj hread)
  dsimp only at hreps hper hshort
  rw [hreps, hper, if_pos ⟨by decide, by decide⟩, hsum] at hshort
  exact hshort

end SwimSets
