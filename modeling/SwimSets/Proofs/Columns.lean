import SwimSets.Config
import SwimSets.Proofs.Characters
import SwimSets.Proofs.Doubles
import SwimSets.Proofs.Grouping
import SwimSets.Proofs.Words
import SwimSets.Report.Text
import SwimSets.Text.Spellings

/-!
# When the numbers of a row can be told apart

**Theorem (`columns_apart_iff`).** In each row of the table the label is followed by a blank. The
numbers behind it are the words of the rest of the row exactly when every number but the first is
shown in fewer than a million units of its last place; from a million units on a number fills its
column and runs into the one before it.

**Words and columns.** A number stands to the right of its column behind as many blanks as there is
room for, so it starts a new word exactly when it is narrower than the column
(`words_cells_iff`).

**Widths.** Up to three places the commas, the point and the places add up so that the bound is the
same million of units (`length_amount_lt_iff`). That no distance has a minus sign, which would take
a place more, is what doubles are followed for through the whole reading of a session
(`closed_noMinus`).
-/

namespace SwimSets

open Text

/-! ## Columns -/

namespace Report

theorem padLeft_of_lt {n : Nat} {t : Text} (h : t.length < n) :
    padLeft n t = ' ' :: (List.replicate (n - t.length - 1) ' ' ++ t) := by
  obtain ⟨k, hk⟩ := Nat.exists_eq_succ_of_ne_zero (Nat.sub_ne_zero_of_lt h)
  rw [padLeft, hk, List.replicate_succ, List.cons_append, Nat.succ_sub_one]

theorem padLeft_of_le {n : Nat} {t : Text} (h : n ≤ t.length) : padLeft n t = t := by
  rw [padLeft, Nat.sub_eq_zero_of_le h, List.replicate_zero, List.nil_append]

/-- Cells behind a word: one that is narrower than its column starts a new word, and any other goes
on with the word before it. -/
theorem words_cells_cons {w c : Text} (hw : IsWord w) (cs : List Text) :
    words (w ++ (c :: cs).flatMap (padLeft columnWidth)) =
      if c.length < columnWidth then w :: words (c ++ cs.flatMap (padLeft columnWidth))
      else words ((w ++ c) ++ cs.flatMap (padLeft columnWidth)) := by
  rw [List.flatMap_cons]
  by_cases hc : c.length < columnWidth
  · rw [if_pos hc, padLeft_of_lt hc, List.cons_append, hw.words_append (by decide),
      List.append_assoc, words_replicate_append]
  · rw [if_neg hc, padLeft_of_le (Nat.le_of_not_lt hc), List.append_assoc]

theorem length_words_cells {w : Text} (hw : IsWord w) {cs : List Text} (hcs : ∀ c ∈ cs, IsWord c) :
    (words (w ++ cs.flatMap (padLeft columnWidth))).length =
      1 + cs.countP fun c => c.length < columnWidth := by
  induction cs generalizing w with
  | nil => simp [hw.words_eq]
  | cons c cs ih =>
    rw [List.forall_mem_cons] at hcs
    rw [words_cells_cons hw, List.countP_cons]
    by_cases hc : c.length < columnWidth
    · simp only [hc, if_true, List.length_cons, ih hcs.1 hcs.2, decide_true]
      omega
    · simp only [hc, if_false, ih (hw.append hcs.1) hcs.2, decide_false, Bool.false_eq_true,
        Nat.add_zero]

/-- The cells are words of their own when each is narrower than its column. -/
theorem words_cells_iff {w : Text} (hw : IsWord w) {cs : List Text} (hcs : ∀ c ∈ cs, IsWord c) :
    words (w ++ cs.flatMap (padLeft columnWidth)) = w :: cs ↔
      ∀ c ∈ cs, c.length < columnWidth := by
  constructor
  · intro h
    have hlen := length_words_cells hw hcs
    rw [h, List.length_cons, Nat.add_comm, Nat.add_left_cancel_iff] at hlen
    simpa using List.countP_eq_length.mp hlen.symm
  · intro h
    induction cs generalizing w with
    | nil => simp [hw.words_eq]
    | cons c cs ih =>
      rw [List.forall_mem_cons] at hcs h
      rw [words_cells_cons hw, if_pos h.1, ih hcs.1 hcs.2 h.2]

/-- The numbers of a row stand apart: they are the words behind the columns of the label. -/
def CellsApart (row : Text) (cells : List Text) : Prop := words (row.drop labelWidth) = cells

theorem cellsApart_tableRow_iff {label : Text} (hl : label.length ≤ labelWidth) {c : Text}
    {cs : List Text} (hc : IsWord c) (hcs : ∀ c ∈ cs, IsWord c) :
    CellsApart (tableRow label (c :: cs)) (c :: cs) ↔ ∀ c ∈ cs, c.length < columnWidth := by
  have hpad : (padRight labelWidth label).length = labelWidth := by simp [padRight, hl]
  rw [CellsApart, tableRow, List.drop_left' hpad, List.flatMap_cons, padLeft, List.append_assoc,
    words_replicate_append, words_cells_iff hc hcs]

/-- A label that is narrower than its columns is followed by a blank. -/
theorem exists_blank_behind_label {label : Text} (hl : label.length < labelWidth)
    (cells : List Text) : ∃ r, tableRow label cells = label ++ ' ' :: r := by
  obtain ⟨k, hk⟩ := Nat.exists_eq_succ_of_ne_zero (Nat.sub_ne_zero_of_lt hl)
  refine ⟨List.replicate k ' ' ++ cells.flatMap (padLeft columnWidth), ?_⟩
  rw [tableRow, padRight, hk, List.replicate_succ, List.append_assoc, List.cons_append]

end Report

/-! ## The width of a number -/

theorem isBlank_of_isDigit {c : Char} (h : c.isDigit = true) : isBlank c = false := by
  have hd : isAsciiDigit c = true := by
    simpa [Char.isDigit, isAsciiDigit, Char.le_def, and_comm] using h
  simpa using forall_digit (p := fun c => !isBlank c) (by decide) hd

/-- One comma for each three digits behind the first. -/
theorem length_groupThousands (t : Text) :
    (groupThousands t).length = t.length + (t.length - 1) / 3 := by
  induction t with
  | nil => rfl
  | cons c r ih =>
    unfold groupThousands
    by_cases hr : r = []
    · simp [hr, groupThousands]
    have hpos : 0 < r.length := List.length_pos_iff.mpr hr
    by_cases h3 : r.length % 3 = 0
    · simp [h3, hr, ih]
      omega
    · simp [h3, ih]
      omega

theorem mem_groupThousands {c : Char} {t : Text} (h : c ∈ groupThousands t) : c = ',' ∨ c ∈ t := by
  induction t with
  | nil => cases h
  | cons d r ih =>
    unfold groupThousands at h
    have hcases : c = d ∨ c = ',' ∨ c ∈ groupThousands r := by
      split_ifs at h
      · simpa using h
      · exact (List.mem_cons.mp h).imp_right .inr
    rcases hcases with rfl | rfl | hr
    · exact .inr List.mem_cons_self
    · exact .inl rfl
    · exact (ih hr).imp_right (List.mem_cons_of_mem d)

namespace Double

/-- The units of the last place that a finite double is rounded to. -/
def rounded (places : Nat) : Double → Option Nat
  | .finite _ m q => some (divEven ((scaleTwo m q).1 * Nat.pow 10 places) (scaleTwo m q).2)
  | .nan | .infinite _ => none

end Double

/-- A whole number of units as a report shows it: the grouped digits before the point, and as many
digits behind it as there are places. -/
theorem groupFixed_pointed (n places : Nat) :
    ∃ r, groupFixed (pointed n places) =
        groupThousands (Text.ofNat (n / Nat.pow 10 places)) ++ r ∧
      r.length = (if places = 0 then 0 else places + 1) ∧ ∀ c ∈ r, c = '.' ∨ c.isDigit = true := by
  obtain ⟨part, hpart, heq⟩ := exists_decimalPlaces n places
  refine ⟨part, ?_, hpart.length_eq, fun c => hpart.mem⟩
  rw [heq]
  exact groupFixed_signed false (List.ne_nil_of_length_pos (length_ofNat_pos _))
    (fun c => isDigit_of_mem_ofNat) hpart.cases

/-- What is shown of a double without a minus sign: a word, or its units. -/
theorem amount_of_noMinus {d : Float} (h : Double.NoMinus d) (places : Nat) :
    ((Double.ofFloat d).rounded places = none ∧
        (amount d places = "NaN".toList ∨ amount d places = "inf".toList)) ∨
      ∃ n, (Double.ofFloat d).rounded places = some n ∧
        amount d places = groupFixed (pointed n places) := by
  have hneg := Double.isNegative_ofFloat h
  unfold amount
  cases hd : Double.ofFloat d with
  | nan => exact .inl ⟨rfl, .inl rfl⟩
  | infinite negative =>
    rw [hd] at hneg
    cases hneg
    exact .inl ⟨rfl, .inr rfl⟩
  | finite negative m q =>
    rw [hd] at hneg
    cases hneg
    exact .inr ⟨_, rfl, rfl⟩

theorem isWord_amount {d : Float} (h : Double.NoMinus d) (places : Nat) :
    Text.IsWord (amount d places) := by
  rcases amount_of_noMinus h places with ⟨-, hw | hw⟩ | ⟨n, -, hw⟩
  · rw [hw]
    exact ⟨by decide, by decide⟩
  · rw [hw]
    exact ⟨by decide, by decide⟩
  · obtain ⟨r, hr, -, hmem⟩ := groupFixed_pointed n places
    rw [hw, hr]
    constructor
    · intro hnil
      have hlen := congrArg List.length hnil
      rw [List.length_append, length_groupThousands, List.length_nil] at hlen
      have := length_ofNat_pos (n / Nat.pow 10 places)
      omega
    · intro c hc
      rcases List.mem_append.mp hc with hc | hc
      · rcases mem_groupThousands hc with rfl | hc
        · decide
        · exact isBlank_of_isDigit (isDigit_of_mem_ofNat hc)
      · rcases hmem c hc with rfl | hd
        · decide
        · exact isBlank_of_isDigit hd

/-- A number is narrower than its column when it is shown in fewer than a million units of the last
place, or is no finite number. -/
theorem length_amount_lt_iff {d : Float} (h : Double.NoMinus d) {places : Nat}
    (hp : places ≤ maxDecimals) :
    (amount d places).length < Report.columnWidth ↔
      ∀ n, (Double.ofFloat d).rounded places = some n → n < 1000000 := by
  rcases amount_of_noMinus h places with ⟨hr, hw | hw⟩ | ⟨n, hr, hw⟩
  · simp [hw, hr, Report.columnWidth]
  · simp [hw, hr, Report.columnWidth]
  · obtain ⟨r, hg, hlen, -⟩ := groupFixed_pointed n places
    have hpos := length_ofNat_pos (n / Nat.pow 10 places)
    have hp' : places ≤ 3 := hp
    have hdigits : (Text.ofNat (n / Nat.pow 10 places)).length ≤ 6 - places ↔ n < 1000000 := by
      rw [length_ofNat_le_iff (by omega), Nat.pow_eq,
        Nat.div_lt_iff_lt_mul (Nat.pow_pos (by decide)), ← Nat.pow_add,
        Nat.sub_add_cancel (by omega)]
    simp only [hr, Option.some.injEq, forall_eq', ← hdigits]
    rw [hw, hg, List.length_append, length_groupThousands, hlen, Report.columnWidth]
    split_ifs <;> omega

/-! ## The rows of a session -/

namespace Report

/-- The distances in the row of a stroke: its activities, and the whole. -/
def strokeDistances (t : Totals Float) (s : Stroke) : List Float :=
  Activity.all.map (t.get s) ++ [t.strokeTotal s]

/-- The distances in the last row. -/
def totalDistances (t : Totals Float) : List Float :=
  Activity.all.map t.activityTotal ++ [t.total]

/-- The distance is shown in fewer than a million units of its last place, or is not finite. -/
def Narrow (decimals : Nat) (d : Float) : Prop :=
  ∀ n, (Double.ofFloat d).rounded decimals = some n → n < 1000000

instance (decimals : Nat) (d : Float) : Decidable (Narrow decimals d) :=
  decidable_of_iff (((Double.ofFloat d).rounded decimals).all (· < 1000000))
    (by simp [Narrow, Option.all_eq_true])

theorem cellsApart_amounts_iff {label : Text} (hl : label.length ≤ labelWidth) {decimals : Nat}
    (hd : decimals ≤ maxDecimals) {d : Float} {ds : List Float}
    (h : ∀ x ∈ d :: ds, Double.NoMinus x) :
    CellsApart (tableRow label (amounts decimals (d :: ds))) (amounts decimals (d :: ds)) ↔
      ∀ x ∈ ds, Narrow decimals x := by
  rw [List.forall_mem_cons] at h
  have hwords : ∀ c ∈ ds.map fun x => amount x decimals, Text.IsWord c := by
    intro c hc
    obtain ⟨x, hx, rfl⟩ := List.mem_map.mp hc
    exact isWord_amount (h.2 x hx) decimals
  rw [amounts, List.map_cons, cellsApart_tableRow_iff hl (isWord_amount h.1 decimals) hwords,
    List.forall_mem_map]
  exact forall₂_congr fun x hx => length_amount_lt_iff (h.2 x hx) hd

theorem noMinus_strokeDistances [Speller] (text : Text) (s : Stroke) :
    ∀ d ∈ strokeDistances (parse text : Tally Float).totals s, Double.NoMinus d := by
  intro d hd
  rcases List.mem_append.mp hd with hd | hd
  · obtain ⟨a, -, rfl⟩ := List.mem_map.mp hd
    exact closed_noMinus.cell_parse text s a
  · rw [List.mem_singleton.mp hd]
    exact closed_noMinus.strokeTotal_parse text s

theorem noMinus_totalDistances [Speller] (text : Text) :
    ∀ d ∈ totalDistances (parse text : Tally Float).totals, Double.NoMinus d := by
  intro d hd
  rcases List.mem_append.mp hd with hd | hd
  · obtain ⟨a, -, rfl⟩ := List.mem_map.mp hd
    exact closed_noMinus.activityTotal_parse text a
  · rw [List.mem_singleton.mp hd]
    exact closed_noMinus.total_parse text

theorem length_strokeLabel (s : Stroke) : s.label.length < labelWidth := by
  cases s <;> decide

end Report

open Report

/-- **When the numbers of a row can be told apart.** In each row of the table of a session, the
label is followed by a blank. Behind the columns of the label the words of the row are the numbers
for the activities and for the whole exactly when each of them but the first is narrow. -/
theorem columns_apart_iff [Speller] (text : Text) (decimals : Nat) (h : decimals ≤ maxDecimals) :
    let t := (parse text : Tally Float).totals
    (∀ s, (∃ r, strokeRow t decimals s = s.label ++ ' ' :: r) ∧
      (CellsApart (strokeRow t decimals s) (amounts decimals (strokeDistances t s)) ↔
        ∀ d ∈ (strokeDistances t s).tail, Narrow decimals d)) ∧
    (∃ r, totalRow t decimals = "Total".toList ++ ' ' :: r) ∧
    (CellsApart (totalRow t decimals) (amounts decimals (totalDistances t)) ↔
      ∀ d ∈ (totalDistances t).tail, Narrow decimals d) := by
  intro t
  refine ⟨fun s => ⟨exists_blank_behind_label (length_strokeLabel s) _, ?_⟩,
    exists_blank_behind_label (by decide) _, ?_⟩
  · exact cellsApart_amounts_iff (Nat.le_of_lt (length_strokeLabel s)) h
      (noMinus_strokeDistances text s)
  · exact cellsApart_amounts_iff (by decide) h (noMinus_totalDistances text)

theorem columns_apart_hundreds :
    0 ≤ maxDecimals ∧
      CellsApart (totalRow (parse "4 x 100m fc\n200m bk kick".toList : Tally Float).totals 0)
        ["400".toList, "0".toList, "200".toList, "0".toList, "600".toList] := by
  have hrow := (columns_apart_iff "4 x 100m fc\n200m bk kick".toList 0 (by decide)).2.2
  refine ⟨by decide, ?_⟩
  have hcells : amounts 0
      (totalDistances (parse "4 x 100m fc\n200m bk kick".toList : Tally Float).totals) =
        ["400".toList, "0".toList, "200".toList, "0".toList, "600".toList] := by
    decide +kernel
  rw [← hcells]
  exact hrow.mpr (by decide +kernel)

/-- With three places a kilometre fills its column, and runs into the number before it. -/
theorem columns_run_together :
    3 ≤ maxDecimals ∧
      Metres.isZero (parse "1000m fc".toList : Tally Float).totals.total = false ∧
      Stroke.frontCrawl ∈ strokesSwum (parse "1000m fc".toList : Tally Float).totals ∧
      strokeRow (parse "1000m fc".toList : Tally Float).totals 3 .frontCrawl =
        "Front Crawl       1,000.000    0.000    0.000    0.0001,000.000".toList ∧
      ¬ CellsApart (strokeRow (parse "1000m fc".toList : Tally Float).totals 3 .frontCrawl)
        (amounts 3 (strokeDistances (parse "1000m fc".toList : Tally Float).totals
          .frontCrawl)) := by
  refine ⟨by decide, by decide +kernel, by decide +kernel, by decide +kernel, ?_⟩
  unfold CellsApart
  decide +kernel

end SwimSets
