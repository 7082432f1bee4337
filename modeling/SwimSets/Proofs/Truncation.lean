import Mathlib.Algebra.Ring.Nat
import Mathlib.Data.List.Infix
import Mathlib.Tactic.SplitIfs
import SwimSets.Proofs.Words
import SwimSets.Report.Text
import SwimSets.Text.Widths

/-!
# Texts cut to a width

A text is cut if it is too wide as a whole, and where it is cut is found by adding up its
characters, each taken on its own (`columns`). The two measures differ.

**Two measures** (`width_eq`, `columns_eq`). A control character takes a column of the text and has
none on its own. So both measures come apart at the control characters: the columns of a text are
those of the stretches between them, and its width is that of the stretches with one column for each
control character. Within a stretch the measures are left as they are.

**The cut** (`takeWidth_append`). What is kept is the longest start whose columns fit the room. It
is followed by three dots, or, in at most three columns, by nothing; neither bears on the width of
what stands before (`width_append_printable`).

**Theorem (`truncation_fits_iff`).** So a text that is cut fits as long as what is kept is no wider
than its characters together. Each control character in it is a column too much, once the room is
used up. Main results: that theorem, and `truncation_runs_over_tab`.
-/

namespace SwimSets

/-! ## Stretches between control characters -/

/-- The stretches of a text between its control characters. -/
def stretches (t : Text) : List Text := t.splitAt isControl

/-- The number of control characters, a line end of two characters counted once. -/
def controls : Text → Nat
  | [] => 0
  | c :: r => (if isControl c && !(c == '\r' && r.head? == some '\n') then 1 else 0) + controls r

section

variable {u : Text} (hu : ∀ c ∈ u, isControl c = false)
include hu

theorem stretches_self : stretches u = [u] := by
  have := Text.splitAt_append hu []
  rwa [List.append_nil, Text.splitAt, List.headD_cons, List.append_nil, List.tail_cons] at this

/-- A text is cut at its first control character. -/
theorem stretches_append_cons {c : Char} (hc : isControl c = true) (r : Text) :
    stretches (u ++ c :: r) = u :: stretches r := by
  rw [stretches, Text.splitAt_append hu, Text.splitAt, if_pos hc, List.headD_cons, List.append_nil,
    List.tail_cons]
  rfl

theorem controls_append (t : Text) : controls (u ++ t) = controls t := by
  induction u with
  | nil => rfl
  | cons c u ih =>
    obtain ⟨hc, hu⟩ := List.forall_mem_cons.1 hu
    rw [List.cons_append, controls, ih hu, if_neg (by simp [hc]), Nat.zero_add]

end

/-- What holds of all texts without control characters, and of one before a control character if of
the text behind that, holds of all texts. -/
theorem stretchInduction {P : Text → Prop}
    (last : ∀ u, (∀ c ∈ u, isControl c = false) → P u)
    (cut : ∀ u c r, (∀ d ∈ u, isControl d = false) → isControl c = true → P r → P (u ++ c :: r))
    (t : Text) : P t := by
  have behind : ∀ (t u : Text), (∀ c ∈ u, isControl c = false) → P (u ++ t) := by
    intro t
    induction t with
    | nil => exact fun u hu => by rw [List.append_nil]; exact last u hu
    | cons c r ih =>
      intro u hu
      cases hc : isControl c with
      | true => exact cut u c r hu hc (ih [] (List.forall_mem_nil _))
      | false =>
        have := ih (u ++ [c]) (List.forall_mem_append.2 ⟨hu, List.forall_mem_singleton.2 hc⟩)
        rwa [List.append_assoc, List.singleton_append] at this
  exact behind t [] (List.forall_mem_nil _)

/-! ## What stands at a cut -/

/-- What stands at the cut of a text. -/
def dots (limit : Nat) : Text := if limit ≤ 3 then [] else "..."

theorem length_dots_le (limit : Nat) : (dots limit).length ≤ limit := by
  unfold dots
  split_ifs
  · exact Nat.zero_le _
  · show 3 ≤ limit
    omega

/-! ## Two measures of a text -/

section

variable [Ruler]

/-- The columns of the characters of a text, each taken on its own. -/
def columns : Text → Nat
  | [] => 0
  | c :: r => charColumns c + columns r

theorem columns_append (u v : Text) : columns (u ++ v) = columns u + columns v := by
  induction u with
  | nil => exact (Nat.zero_add _).symm
  | cons c u ih => rw [List.cons_append, columns, columns, ih, Nat.add_assoc]

/-- **Control characters have no columns of their own.** -/
theorem columns_eq (t : Text) : columns t = ((stretches t).map columns).sum := by
  induction t using stretchInduction with
  | last u hu => rw [stretches_self hu, List.map_singleton, List.sum_singleton]
  | cut u c r hu hc ih =>
    have hzero : charColumns c = 0 := by
      rw [charColumns, Ruler.charWidth_control hc]
      rfl
    rw [columns_append, columns, hzero, stretches_append_cons hu hc, List.map_cons, List.sum_cons,
      ih, Nat.zero_add]

/-- The first half of a line end adds nothing to what stands behind it. -/
theorem width_return {r : Text} (h : r.head? = some '\n') (u : Text) :
    Ruler.width (u ++ '\r' :: r) = Ruler.width u + Ruler.width r := by
  obtain ⟨v, rfl⟩ := List.head?_eq_some_iff.1 h
  have hfeed := Ruler.width_control [] v (c := '\n') rfl nofun fun _ => nofun
  rw [List.nil_append, Ruler.width_nil] at hfeed
  rw [Ruler.width_lineEnd, hfeed, Nat.zero_add, Nat.add_assoc]

/-- **In a text each control character takes a column.** -/
theorem width_eq (t : Text) :
    Ruler.width t = ((stretches t).map Ruler.width).sum + controls t := by
  induction t using stretchInduction with
  | last u hu =>
    have hnone : controls u = 0 := by
      have := controls_append hu []
      rwa [List.append_nil] at this
    rw [stretches_self hu, List.map_singleton, List.sum_singleton, hnone, Nat.add_zero]
  | cut u c r hu hc ih =>
    have hfeed : u.getLast? ≠ some '\r' := fun hlast => by
      have := hu _ (List.mem_of_getLast? hlast)
      cases this
    rw [stretches_append_cons hu hc, List.map_cons, List.sum_cons, controls_append hu, controls]
    by_cases hend : c = '\r' ∧ r.head? = some '\n'
    · obtain ⟨rfl, hr⟩ := hend
      rw [width_return hr, ih, if_neg (by simp [hr])]
      omega
    · have hone : (isControl c && !(c == '\r' && r.head? == some '\n')) = true := by
        rw [hc, Bool.true_and, Bool.not_eq_true', Bool.and_eq_false_iff, beq_eq_false_iff_ne,
          beq_eq_false_iff_ne, ← not_and_or]
        exact hend
      rw [Ruler.width_control u r hc (fun hc hr => hend ⟨hc, hr⟩) fun _ => hfeed, ih, if_pos hone]
      omega

/-! ## Cutting and filling up -/

/-- **The longest start that fits.** -/
theorem takeWidth_append (room : Nat) (t : Text) : ∃ rest, t = takeWidth room t ++ rest ∧
    columns (takeWidth room t) ≤ room ∧
    ∀ c ∈ rest.head?, room < columns (takeWidth room t) + charColumns c := by
  induction t generalizing room with
  | nil => exact ⟨[], rfl, Nat.zero_le _, by simp⟩
  | cons c r ih =>
    rw [takeWidth]
    split_ifs with h
    · obtain ⟨rest, hr, hle, hlt⟩ := ih (room - charColumns c)
      refine ⟨rest, ?_, ?_, fun d hd => ?_⟩
      · rw [List.cons_append, ← hr]
      · rw [columns]
        omega
      · have := hlt d hd
        rw [columns]
        omega
    · refine ⟨c :: r, rfl, Nat.zero_le _, ?_⟩
      rintro d ⟨⟩
      rw [columns]
      omega

/-- Behind a text printable ASCII takes one column each. -/
theorem width_append_printable (u : Text) {v : Text}
    (h : ∀ c ∈ v, 32 ≤ c.toNat ∧ c.toNat < 127) :
    Ruler.width (u ++ v) = Ruler.width u + v.length := by
  induction v generalizing u with
  | nil => rw [List.append_nil, List.length_nil, Nat.add_zero]
  | cons c v ih =>
    obtain ⟨hc, hv⟩ := List.forall_mem_cons.1 h
    have hsplit : u ++ c :: v = (u ++ [c]) ++ v := by simp
    rw [hsplit, ih _ hv, Ruler.width_printable u hc.1 hc.2, List.length_cons]
    omega

/-- **A text is filled up to the columns**, and a wider one stays as it is. -/
theorem width_padTo (t : Text) (n : Nat) : Ruler.width (padTo t n) = max n (Ruler.width t) := by
  rw [padTo, width_append_printable t, List.length_replicate]
  · omega
  · intro c hc
    rw [List.eq_of_mem_replicate hc]
    decide

/-- A text that is too wide is cut to a start of it and the dots. -/
theorem truncate_of_lt {t : Text} {limit : Nat} (h : limit < Ruler.width t) :
    truncate t limit = takeWidth (limit - (dots limit).length) t ++ dots limit := by
  rw [truncate, if_neg (Nat.not_le.2 h), dots]
  split_ifs
  · rw [List.length_nil, Nat.sub_zero, List.append_nil]
  · rfl

theorem width_append_dots (u : Text) (limit : Nat) :
    Ruler.width (u ++ dots limit) = Ruler.width u + (dots limit).length := by
  refine width_append_printable u ?_
  unfold dots
  split_ifs <;> decide

/-- **Which texts fit when cut.** A text that fits is kept. Of any other the longest start is kept
whose characters, each taken on its own, fit in front of the dots. The result takes the columns of
the stretches of that start, one for each of its control characters, and the dots. So if the
stretches are as wide as their characters together, it fits exactly if there is room left for the
control characters; and it fits if no start of the text is wider than its characters together.
Filled up it takes exactly the columns of the limit where it fits. -/
theorem truncation_fits_iff (t : Text) (limit : Nat) :
    (Ruler.width t ≤ limit → truncate t limit = t) ∧
    (limit < Ruler.width t → ∃ kept rest, t = kept ++ rest ∧
      truncate t limit = kept ++ dots limit ∧
      ((stretches kept).map columns).sum + (dots limit).length ≤ limit ∧
      (∀ c ∈ rest.head?, limit < columns (kept ++ [c]) + (dots limit).length) ∧
      Ruler.width (truncate t limit) =
        ((stretches kept).map Ruler.width).sum + controls kept + (dots limit).length ∧
      ((∀ p ∈ stretches kept, Ruler.width p = columns p) →
        (Ruler.width (truncate t limit) ≤ limit ↔
          columns kept + controls kept + (dots limit).length ≤ limit))) ∧
    ((∀ u, u <+: t → Ruler.width u ≤ columns u) → Ruler.width (truncate t limit) ≤ limit) ∧
    (Ruler.width (padTo (truncate t limit) limit) = limit ↔
      Ruler.width (truncate t limit) ≤ limit) := by
  have hdots := length_dots_le limit
  have hkept : Ruler.width t ≤ limit → truncate t limit = t := fun h => if_pos h
  obtain ⟨rest, ht, hle, hlt⟩ := takeWidth_append (limit - (dots limit).length) t
  refine ⟨hkept, fun h => ?_, fun hstarts => ?_, ?_⟩
  · have hcut := truncate_of_lt h
    generalize takeWidth (limit - (dots limit).length) t = kept at ht hle hlt hcut
    have hwidth : Ruler.width (truncate t limit) =
        ((stretches kept).map Ruler.width).sum + controls kept + (dots limit).length := by
      rw [hcut, width_append_dots, width_eq kept]
    refine ⟨kept, rest, ht, hcut, ?_, fun c hc => ?_, hwidth, fun halike => ?_⟩
    · rw [← columns_eq]
      omega
    · have := hlt c hc
      rw [columns_append, columns, columns]
      omega
    · rw [hwidth, List.map_congr_left halike, ← columns_eq]
  · by_cases h : Ruler.width t ≤ limit
    · rwa [hkept h]
    · have := hstarts _ ⟨rest, ht.symm⟩
      rw [truncate_of_lt (Nat.lt_of_not_le h), width_append_dots]
      omega
  · rw [width_padTo]
    omega

end

/-- A text of wide characters is cut to its width, and one with a tab runs over. -/
theorem truncation_fits_wide :
    let wide : Text := "100m fc 日日日日日日日日日日日日日日日"
    let tabbed : Text := "8 x 50m bk\tkick with fins, build each one"
    (∀ u, u <+: wide → Ruler.width u ≤ columns u) ∧
      36 < Ruler.width wide ∧ Ruler.width (truncate wide 36) ≤ 36 ∧
      Ruler.width (padTo (truncate wide 36) 36) = 36 ∧
      36 < Ruler.width tabbed ∧ ∃ kept rest, tabbed = kept ++ rest ∧
        truncate tabbed 36 = kept ++ dots 36 ∧
        ((stretches kept).map columns).sum + (dots 36).length ≤ 36 ∧
        (∀ c ∈ rest.head?, 36 < columns (kept ++ [c]) + (dots 36).length) ∧
        Ruler.width (truncate tabbed 36) =
          ((stretches kept).map Ruler.width).sum + controls kept + (dots 36).length ∧
        ((∀ p ∈ stretches kept, Ruler.width p = columns p) →
          (Ruler.width (truncate tabbed 36) ≤ 36 ↔
            columns kept + controls kept + (dots 36).length ≤ 36)) := by
  intro wide tabbed
  have starts : ∀ u, u <+: wide → Ruler.width u ≤ columns u := by
    have hall : ∀ u ∈ wide.inits, Ruler.width u ≤ columns u := by decide +kernel
    exact fun u hu => hall u ((List.mem_inits u wide).2 hu)
  have fits : Ruler.width (truncate wide 36) ≤ 36 := (truncation_fits_iff wide 36).2.2.1 starts
  have wider : 36 < Ruler.width tabbed := by decide +kernel
  exact ⟨starts, by decide +kernel, fits, (truncation_fits_iff wide 36).2.2.2.2 fits, wider,
    (truncation_fits_iff tabbed 36).2.1 wider⟩

/-- A tab takes no column where the text is cut and one in what is kept, so the column of the audit
is one too wide. -/
theorem truncation_runs_over_tab :
    let t : Text := "8 x 50m bk\tkick with fins, build each one"
    truncate t Report.auditWidth = "8 x 50m bk\tkick with fins, build e...".toList ∧
      Ruler.width (truncate t Report.auditWidth) = Report.auditWidth + 1 ∧
      Ruler.width (padTo (truncate (Text.trim t) Report.auditWidth) Report.auditWidth) =
        Report.auditWidth + 1 :=
  ⟨by decide +kernel, by decide +kernel, by decide +kernel⟩

end SwimSets
