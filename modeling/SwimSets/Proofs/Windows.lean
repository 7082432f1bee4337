import SwimSets.Proofs.Grammar
import SwimSets.Proofs.Layout
import SwimSets.Proofs.Offsets

/-!
# Windows

A text is cut into pieces, and each piece is read on its own. Cutting can change what is read: a
word that ran into the piece is gone, and so is the measure behind it.

**Windows** (`Window`). A piece with no word running into it or out of it, and no measure behind
it. Its figures are those of the text that start in it (`Window.widen`, `Window.exists_narrow`),
and what stands behind them says the same in the piece as in the text
(`Window.isDistance_widen`). So the distances of a window are those of the text that start in it
(`Window.map_starts`), with the same numbers (`Window.numbers_eq`).

**Trimming.** A text without the blanks at its ends is a window that leaves out no distance
(`numbers_trim`).

**One distance.** From a text with one distance its number is read, and from a text with none
nothing (`Distance.readBare_numbers`).
-/

namespace SwimSets

open Scanner

/-! ## Words and measures before another text -/

/-- No word runs from the one text on into the other. -/
def Closes (u v : Text) : Prop :=
  v.head?.any isWordChar = false ∨ ∃ c, u.getLast? = some c ∧ isWordChar c = false

section Append

variable {u v w : Text}

theorem Closes.nil (u : Text) : Closes u [] := .inl rfl

/-- What a text ends with keeps apart what the text does, if it is not empty or stands behind a
word. -/
theorem Closes.behind {s : Text} (h : Closes s v) (hs : s = w ++ u)
    (hw : u = [] → w.getLast?.any isWordChar = true) : Closes u v := by
  refine h.imp_right ?_
  rintro ⟨c, hc, hword⟩
  refine ⟨c, ?_, hword⟩
  rw [hs, List.getLast?_append] at hc
  cases hu : u.getLast? with
  | none =>
    rw [hu, Option.none_or] at hc
    have hany := hw (List.getLast?_eq_none_iff.1 hu)
    rw [hc, Option.any_some, hword] at hany
    cases hany
  | some x => rwa [hu, Option.some_or] at hc

theorem any_getLast?_append {p : Char → Bool} (hu : u.getLast?.any p = false)
    (hv : v.getLast?.any p = false) : (u ++ v).getLast?.any p = false := by
  rw [List.getLast?_append]
  cases h : v.getLast? with
  | none => exact hu
  | some x => rwa [h] at hv

theorem firstWord_append (h : Closes u v) : (u ++ v).firstWord = u.firstWord := by
  rcases h with h | ⟨c, hc, hword⟩
  · exact takeWhile_append_of_stop h u
  · have hstop : ¬ (u.takeWhile isWordChar).length = u.length := fun hlen => by
      have hall := List.takeWhile_eq_self_iff.1 ((List.takeWhile_prefix _).eq_of_length hlen)
      rw [hall c (List.mem_of_getLast? hc)] at hword
      cases hword
    rw [Text.firstWord, List.takeWhile_append, if_neg hstop]
    rfl

theorem isWhole_append (h : Closes u v) : IsWhole (u ++ v) ↔ IsWhole u := by
  rw [IsWhole, firstWord_append h]
  rfl

theorem not_hasMeasure_of_trimStart (h : u.trimStart = []) : ¬ HasMeasure u := by
  rw [HasMeasure, Text.nextWord, h]
  decide

/-- A measure behind blanks is seen whether or not another text comes later. -/
theorem hasMeasure_append (h : Closes u v) (free : ¬ HasMeasure v) :
    HasMeasure (u ++ v) ↔ HasMeasure u := by
  by_cases hu : u.trimStart = []
  · have htrim : (u ++ v).trimStart = v.trimStart := by
      rw [Text.trimStart, List.dropWhile_append, if_pos]
      · rfl
      · simpa [Text.trimStart] using hu
    rw [iff_false_right (not_hasMeasure_of_trimStart hu)]
    rwa [HasMeasure, Text.nextWord, htrim]
  · have htrim : (u ++ v).trimStart = u.trimStart ++ v := by
      rw [Text.trimStart, List.dropWhile_append, if_neg]
      · rfl
      · simpa [Text.trimStart] using hu
    have hclose : Closes u.trimStart v :=
      h.behind List.takeWhile_append_dropWhile.symm fun hnil => absurd hnil hu
    rw [HasMeasure, Text.nextWord, htrim, firstWord_append hclose]
    rfl

end Append

/-! ## Windows -/

/-- A piece of a text with no word running into it or out of it, and no measure behind it. -/
structure Window (t u : Text) where
  before : Text
  after : Text
  text : t = before ++ (u ++ after)
  opens : before.getLast?.any isWordChar = false
  closes : Closes u after
  free : ¬ HasMeasure after

namespace Window

variable {t u : Text} (w : Window t u)

/-- Where the window starts. -/
def start : Nat := w.before.length

/-- What stands behind a number of the window keeps words apart as the window does. -/
theorem closes_after (r : DigitRun u) : Closes r.after w.after := by
  refine w.closes.behind (r.text.trans (List.append_assoc ..).symm) fun _ => ?_
  have hlast := isWordChar_of_isDecimal (r.allDigits _ (List.getLast_mem r.nonempty))
  rw [List.getLast?_append, List.getLast?_eq_some_getLast r.nonempty]
  exact hlast

/-- A run of digits in the window is one of the text. -/
def widenRun (r : DigitRun u) : DigitRun t where
  before := w.before ++ r.before
  digits := r.digits
  after := r.after ++ w.after
  text := w.text.trans ((congrArg (fun x => w.before ++ (x ++ w.after)) r.text).trans (by simp))
  nonempty := r.nonempty
  allDigits := r.allDigits
  edgeBefore := any_getLast?_append (not_any_isDecimal w.opens) r.edgeBefore
  edgeAfter := by
    have hedge := r.edgeAfter
    rw [List.head?_append]
    cases h : r.after.head? with
    | none =>
      have hclose := w.closes_after r
      rw [List.head?_eq_none_iff.1 h] at hclose
      exact not_any_isDecimal (hclose.resolve_right (by simp))
    | some x => rwa [h] at hedge

/-- A figure in the window is one of the text. -/
def widen (f : Figure u) : Figure t where
  toDigitRun := w.widenRun f.toDigitRun
  opens := any_getLast?_append w.opens f.opens

theorem start_widen (f : Figure u) : (w.widen f).start = w.start + f.start :=
  List.length_append

/-- **Each figure of the text that starts in the window is one of the window.** -/
theorem exists_narrow (g : Figure t) {j : Nat} (hstart : g.start = w.start + j)
    (hj : j < u.length) : ∃ f : Figure u, f.start = j ∧ w.widen f = g := by
  have hdrop : t.drop g.start = u.drop j ++ w.after := by
    have htext := congrArg (List.drop g.start) w.text
    rwa [hstart, start, List.drop_length_add_append, List.drop_append_of_le_length hj.le,
      ← start, ← hstart] at htext
  have htake : t.take g.start = w.before ++ u.take j := by
    have htext := congrArg (List.take g.start) w.text
    rwa [hstart, start, List.take_length_add_append, List.take_append_of_le_length hj.le,
      ← start, ← hstart] at htext
  have hplace := g.place_start
  rw [Cursor.place, hdrop, htake, Cursor.mk.injEq] at hplace
  obtain ⟨x, r, hx⟩ : ∃ x r, u.drop j = x :: r := List.exists_cons_of_ne_nil (by simpa using hj)
  have hdigit : isDecimal x = true := by
    obtain ⟨y, hy, hhead⟩ := Shape.Number.first ⟨g.nonempty, g.allDigits⟩ g.after
    rw [← hplace.2, hx] at hhead
    rwa [Option.some.inj hhead]
  have hprev : (u.take j).getLast?.any isWordChar = false := by
    have hopens := g.opens
    rw [← hplace.1, List.getLast?_append] at hopens
    cases h : (u.take j).getLast? with
    | none => rfl
    | some x => rwa [h] at hopens
  have hedge : (Cursor.place u j).atWordEdge = true := by
    rw [Cursor.place, hx]
    exact (atWordEdge_before (isWordChar_of_isDecimal hdigit)).2 hprev
  obtain ⟨n, d, hn⟩ := run_succeeds (c := .place u j) (p := isDecimal) (by simpa [Cursor.place, hx])
  obtain ⟨f, hf, -, -⟩ := exists_figure hedge hn
  exact ⟨f, hf, Figure.eq_of_start (by rw [w.start_widen, hf, hstart])⟩

/-- **What stands behind a figure says the same in the window and in the text.** -/
theorem isDistance_widen (f : Figure u) : (w.widen f).IsDistance ↔ f.IsDistance := by
  have hclose := w.closes_after f.toDigitRun
  exact or_congr (hasMeasure_append hclose w.free) (and_congr_left' (isWhole_append hclose))

theorem mem_starts_iff {j : Nat} :
    j ∈ Distance.starts u ↔ j < u.length ∧ w.start + j ∈ Distance.starts t := by
  rw [Distance.mem_starts_iff, Distance.mem_starts_iff]
  constructor
  · rintro ⟨f, hf, rfl⟩
    exact ⟨f.start_lt_length, w.widen f, (w.isDistance_widen f).2 hf, w.start_widen f⟩
  · rintro ⟨hj, g, hg, hstart⟩
    obtain ⟨f, hf, rfl⟩ := w.exists_narrow g hstart hj
    exact ⟨f, (w.isDistance_widen f).1 hg, hf⟩

/-- **The distances of a window are those of the text that start in it.** -/
theorem map_starts : (Distance.starts u).map (w.start + ·) =
    (Distance.starts t).filter fun i => w.start ≤ i && i < w.start + u.length := by
  have hsorted : ((Distance.starts u).map (w.start + ·)).Pairwise (· < ·) :=
    (Distance.starts_sorted u).map _ fun _ _ h => Nat.add_lt_add_left h _
  refine hsorted.eq_of_mem_iff ((Distance.starts_sorted t).filter _) fun i => ?_
  simp only [List.mem_map, List.mem_filter, Bool.and_eq_true, decide_eq_true_eq, w.mem_starts_iff]
  constructor
  · rintro ⟨j, ⟨hj, hmem⟩, rfl⟩
    exact ⟨hmem, Nat.le_add_right .., Nat.add_lt_add_left hj _⟩
  · rintro ⟨hmem, hle, hlt⟩
    obtain ⟨j, rfl⟩ := Nat.exists_eq_add_of_le hle
    exact ⟨j, ⟨Nat.lt_of_add_lt_add_left hlt, hmem⟩, rfl⟩

theorem mem (w : Window t u) {c : Char} (h : c ∈ u) : c ∈ t := by
  rw [w.text]
  exact List.mem_append_right _ (List.mem_append_left _ h)

/-- The numbers of a window can be held if those of the text can. -/
theorem numbersFit (w : Window t u) (fits : NumbersFit t) : NumbersFit u :=
  fun r => fits (w.widenRun r)

end Window

/-- The numbers of the distances in a text, from left to right. -/
def Distance.numbers (t : Text) : List Nat := (starts t).map t.numberAt

/-- **A window writes the same numbers as the text at the same places.** -/
theorem Window.numbers_eq {t u : Text} (w : Window t u) : Distance.numbers u =
    ((Distance.starts u).map (w.start + ·)).map t.numberAt := by
  rw [Distance.numbers, List.map_map]
  refine List.map_congr_left fun j hj => ?_
  obtain ⟨f, -, rfl⟩ := Distance.mem_starts_iff.1 hj
  have hnumber : t.numberAt (w.widen f).start = Text.value f.digits := (w.widen f).numberAt_start
  rw [f.numberAt_start, ← hnumber, w.start_widen]
  rfl

/-! ## Trimming -/

/-- A text without the blanks at its ends is a window with all distances of the text. -/
theorem exists_window_trim (t : Text) : ∃ w : Window t t.trim,
    (Distance.starts t.trim).map (w.start + ·) = Distance.starts t := by
  obtain ⟨b, b', hb, hb', ht⟩ := Text.exists_trim t
  have hfree : ¬ HasMeasure b' := not_hasMeasure_of_trimStart (by simpa [Text.trimStart] using hb')
  have hcloses : b'.head?.any isWordChar = false :=
    (Option.any_eq_false _ _).2 fun x hx =>
      not_isWordChar_of_isBlank (hb' x (List.mem_of_mem_head? hx))
  let w : Window t t.trim := ⟨b, b', ht, last_of_blank hb, .inl hcloses, hfree⟩
  refine ⟨w, ?_⟩
  rw [w.map_starts, List.filter_eq_self]
  intro i hi
  obtain ⟨f, -, rfl⟩ := Distance.mem_starts_iff.1 hi
  obtain ⟨c, hc, hget⟩ := f.exists_digit le_rfl f.start_lt_stop
  replace hget : (b ++ (t.trim ++ b'))[f.start]? = some c :=
    (congrArg (·[f.start]?) ht).symm.trans hget
  have hdigit : ∀ {b : Text}, (∀ x ∈ b, isBlank x = true) → c ∉ b := fun hb hmem => by
    have := not_isDecimal_of_isBlank (hb c hmem)
    rw [f.allDigits c hc] at this
    cases this
  have hstart : w.start = b.length := rfl
  simp only [Bool.and_eq_true, decide_eq_true_eq, hstart]
  constructor
  · by_contra hlt
    rw [List.getElem?_append_left (Nat.lt_of_not_le hlt)] at hget
    exact hdigit hb (List.mem_of_getElem? hget)
  · by_contra hle
    rw [← List.append_assoc, List.getElem?_append_right (by simpa using hle)] at hget
    exact hdigit hb' (List.mem_of_getElem? hget)

/-- **Trimming leaves out no distance.** -/
theorem Distance.numbers_trim (t : Text) : numbers t.trim = numbers t := by
  obtain ⟨w, hw⟩ := exists_window_trim t
  rw [w.numbers_eq, hw]
  rfl

/-! ## Texts with at most one distance -/

/-- **Of a text with one distance its number is read, and of a text with none nothing.** -/
theorem Distance.readBare_numbers {t : Text}
    (ascii : ∀ c ∈ t, isDecimal c = true → isAsciiDigit c = true) (fits : NumbersFit t)
    (hone : (starts t).length ≤ 1) : ((readBare t).map (·.1)).toList = numbers t := by
  cases hbare : readBare t with
  | none =>
    rcases readBare_eq_none_iff.1 hbare with ⟨f, -, hnone⟩ | hnone
    · rw [f.readNumber_digits ascii fits] at hnone
      cases hnone
    · have hnil : starts t = [] := by
        by_contra hne
        obtain ⟨f, hf⟩ := starts_ne_nil_iff.1 hne
        exact hnone f hf
      rw [numbers, hnil]
      rfl
  | some d =>
    obtain ⟨f, hf, -, hn⟩ := exists_of_readBare hbare
    have hstart : starts t = [f.start] := by
      have hmem : f.start ∈ starts t := mem_starts_iff.2 ⟨f, hf, rfl⟩
      obtain ⟨i, hi⟩ := List.length_eq_one_iff.1
        (Nat.le_antisymm hone (List.length_pos_of_mem hmem))
      rw [hi] at hmem ⊢
      rw [List.mem_singleton.1 hmem]
    have hvalue := Option.some.inj (hn.symm.trans (f.readNumber_digits ascii fits))
    rw [numbers, hstart, List.map_singleton, f.numberAt_start, ← hvalue]
    rfl

end SwimSets
