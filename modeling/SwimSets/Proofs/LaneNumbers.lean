import SwimSets.Proofs.Asides
import SwimSets.Proofs.LaneLoop
import SwimSets.Proofs.Numbers

/-!
# Numbers in lane lists

A lane list ends before the first number that is a distance or a count of repetitions. What tells
is not the search for distances but a look at what comes behind the number
(`Aside.measureFollows`), and the two do not see the same multipliers.

**Glued multipliers** (`Glued`). To the look, the x of a multiplication is a word. So it is not seen
where the distance starts right behind it. Where the number of lanes is a word too, a blank is
before the x, as in "lane 4 x100m".

**Numbers of a list** (`Unmeasured`). Behind each number of a list the look sees nothing
(`unmeasured_laneHead`, `unmeasured_laneMore`), and so through the list, however often it goes on
(`unmeasured_upTo`).

**Theorem (`lane_number_measured_iff`).** No number of a lane list has a measure of metres, and
those that are repetitions of a distance are exactly those with a glued multiplier. A list is cut
out whenever its first number has one.
-/

namespace SwimSets

open Scanner Aside

variable {t : Text} {i j k : Nat} {c d : Cursor}

/-! ## What the look behind a number sees -/

theorem Scanner.oneOf_eq_none {α : Type} {ss : List (Scanner α)} :
    oneOf ss c = none ↔ ∀ s ∈ ss, s c = none := by
  induction ss with
  | nil => simp [oneOf]
  | cons s ss ih =>
    rw [List.forall_mem_cons]
    cases h : s c with
    | none => simp only [oneOf, h, ih, true_and]
    | some r => simp only [oneOf, h, reduceCtorEq, false_and]

theorem Scanner.wholeWord_eq_none {ws : List Text} :
    wholeWord ws c = none ↔ ∀ w ∈ ws, ∀ d, c.Reads w d → d.atWordEdge = false := by
  rw [wholeWord, oneOf_eq_none, List.forall_mem_map]
  refine forall₂_congr fun w _ => ?_
  constructor
  · intro h d hr
    refine Bool.eq_false_iff.2 fun hedge => ?_
    have hsome : (do word w; wordEdge : Scanner Unit) c = some ((), d) :=
      bind_eq_some.2 ⟨(), d, word_eq_some.2 hr, wordEdge_eq_some.2 ⟨hedge, rfl⟩⟩
    rw [h] at hsome
    cases hsome
  · intro h
    refine Option.eq_none_iff_forall_ne_some.2 ?_
    rintro ⟨⟨⟩, e⟩ hsome
    obtain ⟨⟨⟩, d, hword, hedge⟩ := bind_eq_some.1 hsome
    obtain ⟨hedge, rfl⟩ := wordEdge_eq_some.1 hedge
    rw [h _ (word_eq_some.1 hword)] at hedge
    cases hedge

/-- The look sees nothing where neither a word for a measure nor an asterisk comes behind the
blanks. -/
theorem measureFollows_eq_none (hb : blanks c = some ((), d)) :
    measureFollows c = none ↔
      (∀ w ∈ Distance.metreWords ++ ["x".toList], ∀ e, d.Reads w e → e.atWordEdge = false) ∧
        one (· == '*') d = none := by
  rw [measureFollows, bind_of_some hb, oneOf_eq_none, List.forall_mem_cons,
    List.forall_mem_singleton, wholeWord_eq_none]
  rfl

/-- Blanks, at least one, then an x, and a digit right behind it. -/
def Glued (t : Text) : Prop :=
  ∃ (b : Text) (c : Char) (v : Text), b ≠ [] ∧ (∀ x ∈ b, isBlank x = true) ∧
    isDecimal c = true ∧ t = b ++ 'x' :: c :: v

/-- **A glued multiplier is not seen,** since no word ends between an x and a digit. -/
theorem measureFollows_of_glued (h : Glued c.rest) : measureFollows c = none := by
  obtain ⟨q, r⟩ := c
  obtain ⟨b, x, v, -, hb, hx, rfl⟩ := h
  refine (measureFollows_eq_none (skip_append hb rfl q)).2 ⟨fun w hw e hr => ?_, rfl⟩
  have hfirst : w = ['x'] ∨ w.head? = some 'm' :=
    (by decide : ∀ w ∈ Distance.metreWords ++ ["x".toList], w = ['x'] ∨ w.head? = some 'm') w hw
  rcases hfirst with rfl | hm
  · obtain ⟨e, f⟩ := e
    obtain rfl : x :: v = f := (List.cons.inj hr.rest).2
    obtain rfl : e = some 'x' := hr.prev
    simp [Cursor.atWordEdge, isWordChar_of_isDecimal hx, show isWordChar 'x' = true by decide]
  · obtain ⟨w, rfl⟩ := List.head?_eq_some_iff.1 hm
    cases (List.cons.inj hr.rest).1

/-! ## Numbers of a list -/

theorem Scanner.upTo_succeeds (s : Scanner Unit) (n : Nat) (c : Cursor) :
    ∃ d, upTo s n c = some ((), d) := by
  induction n generalizing c with
  | zero => exact ⟨c, rfl⟩
  | succ n ih =>
    cases h : s c with
    | none => exact ⟨c, by simp only [upTo, h]⟩
    | some found =>
      obtain ⟨d, hd⟩ := ih found.2
      exact ⟨d, by simp only [upTo, h, hd]⟩

/-- The numbers from one place of the text to another are followed by nothing that the look
sees. Each of them ends a word. -/
def Unmeasured (t : Text) (i j : Nat) : Prop :=
  ∀ r : DigitRun t, i ≤ r.start → r.start < j →
    (Cursor.place t r.span.stop).atWordEdge = true ∧
      measureFollows (.place t r.span.stop) = none

theorem Unmeasured.refl (t : Text) (i : Nat) : Unmeasured t i i :=
  fun _ hi hj => absurd hj (Nat.not_lt.2 hi)

theorem Unmeasured.trans (h : Unmeasured t i j) (h' : Unmeasured t j k) : Unmeasured t i k := by
  intro r hi hk
  by_cases hj : r.start < j
  · exact h r hi hj
  · exact h' r (Nat.le_of_not_lt hj) hk

theorem Cursor.Reads.getElem? {w : Text} (h : (Cursor.place t i).Reads w d) (hj : j < w.length) :
    t[i + j]? = w[j]? := by
  have hrest : t.drop i = w ++ d.rest := h.rest
  rw [← List.getElem?_drop, hrest, List.getElem?_append_left hj]

/-- **A number behind a text without digits is the only one,** so nothing is seen behind any. -/
theorem unmeasured_of_digits {w n : Text} (hw : ∀ x ∈ w, isDecimal x = false)
    (hr : (Cursor.place t i).Reads w c) (hn : digits c = some (n, d)) (hedge : d.atWordEdge = true)
    (hfree : measureFollows d = none) : Unmeasured t i (i + (w ++ n).length) := by
  obtain rfl := hr.eq_place
  have hread := (run_eq_some.1 hn).2.2.1
  intro r hi hj
  obtain ⟨x, hx, hget⟩ := r.exists_digit le_rfl r.start_lt_stop
  have hdigit := r.allDigits x hx
  rw [List.length_append] at hj
  rcases Nat.lt_trichotomy r.start (i + w.length) with hlt | heq | hgt
  · -- No digit stands before the number.
    obtain ⟨k, hk⟩ := Nat.exists_eq_add_of_le hi
    have hw' := hr.getElem? (j := k) (by omega)
    rw [← hk] at hw'
    have hmem := List.mem_of_getElem? (hw'.symm.trans hget)
    rw [hw x hmem] at hdigit
    cases hdigit
  · have hsame := r.digits_place_start
    rw [heq, hn] at hsame
    obtain ⟨-, rfl⟩ := Prod.mk.inj (Option.some.inj hsame)
    exact ⟨hedge, hfree⟩
  · -- Inside the number a digit stands before every digit.
    obtain ⟨k, hk⟩ := Nat.exists_eq_add_of_lt hgt
    have hbefore := r.getElem?_before (p := i + w.length + k) hk.symm
    rw [hread.getElem? (by omega)] at hbefore
    have hlt : k < n.length := by omega
    have hedge := r.edgeBefore
    rw [← hbefore, List.getElem?_eq_getElem hlt, Option.any_some,
      (run_eq_some.1 hn).2.1 _ (List.getElem_mem hlt)] at hedge
    cases hedge

theorem no_digit_of_blanks {w : Text} (h : ∀ x ∈ w, isBlank x = true) :
    ∀ x ∈ w, isDecimal x = false := fun x hx => not_isDecimal_of_isBlank (h x hx)

/-- The word "lane" and its number, of which the look sees nothing. -/
theorem unmeasured_laneHead {u : Unit} (h : laneHead (.place t i) = some (u, d))
    (hfree : measureFollows d = none) :
    ∃ w, (Cursor.place t i).Reads w d ∧ w ≠ [] ∧ Unmeasured t i (i + w.length) := by
  simp only [laneHead, blanks, bind_eq_some, skip_eq_some, word_eq_some, wordEdge_eq_some] at h
  obtain ⟨_, c₁, ⟨-, rfl⟩, _, c₂, hr₁, _, c₃, hs, _, c₄, ⟨w₃, hw₃, hr₃, -⟩, n, c₅, hn, hedge,
    rfl⟩ := h
  obtain ⟨w₂, hr₂, hw₂⟩ : ∃ w₂, c₂.Reads w₂ c₃ ∧ ∀ x ∈ w₂, isDecimal x = false := by
    rcases maybe_eq_some hs with ⟨_, hone⟩ | ⟨-, rfl⟩
    · obtain ⟨x, hx, hr⟩ := one_eq_some.1 hone
      obtain rfl : x = 's' := by simpa using hx
      exact ⟨['s'], hr, by decide⟩
    · exact ⟨[], .refl _, List.forall_mem_nil _⟩
  have hlane : ∀ x ∈ "lane".toList, isDecimal x = false := by decide
  have hw := List.forall_mem_append.2
    ⟨List.forall_mem_append.2 ⟨hlane, hw₂⟩, no_digit_of_blanks hw₃⟩
  have hr := (hr₁.trans hr₂).trans hr₃
  exact ⟨_, hr.trans (run_eq_some.1 hn).2.2.1, by simp, unmeasured_of_digits hw hr hn hedge hfree⟩

/-- A further number of a list, of which the look sees nothing. -/
theorem unmeasured_laneMore {u : Unit} (h : laneMore (.place t i) = some (u, d))
    (hfree : measureFollows d = none) :
    ∃ w, (Cursor.place t i).Reads w d ∧ Unmeasured t i (i + w.length) := by
  simp only [laneMore, blanks, bind_eq_some, skip_eq_some, wordEdge_eq_some] at h
  obtain ⟨_, c₁, ⟨w₁, hw₁, hr₁, -⟩, _, c₂, hjoin, _, c₃, ⟨w₃, hw₃, hr₃, -⟩, n, c₄, hn, hedge,
    rfl⟩ := h
  obtain ⟨w₂, hr₂, hw₂⟩ : ∃ w₂, c₁.Reads w₂ c₂ ∧ ∀ x ∈ w₂, isDecimal x = false := by
    obtain ⟨s, hs, hjoin⟩ := oneOf_eq_some hjoin
    rcases List.mem_pair.1 hs with rfl | rfl
    · obtain ⟨x, hx, hr⟩ := one_eq_some.1 hjoin
      refine ⟨[x], hr, List.forall_mem_singleton.2 ?_⟩
      obtain rfl | rfl | rfl : x = '-' ∨ x = '/' ∨ x = '&' := by simpa [or_assoc] using hx
      all_goals decide
    · obtain ⟨w, hw, hr, -⟩ := wholeWord_eq_some hjoin
      exact ⟨w, hr, (by decide : ∀ w ∈ ["and".toList, "to".toList], ∀ x ∈ w,
        isDecimal x = false) w hw⟩
  have hw := List.forall_mem_append.2
    ⟨List.forall_mem_append.2 ⟨no_digit_of_blanks hw₁, hw₂⟩, no_digit_of_blanks hw₃⟩
  have hr := (hr₁.trans hr₂).trans hr₃
  exact ⟨_, hr.trans (run_eq_some.1 hn).2.2.1, unmeasured_of_digits hw hr hn hedge hfree⟩

/-- However often the list goes on, nothing is seen behind any of its numbers. -/
theorem unmeasured_upTo {n : Nat} (h : upTo laneTurn n (.place t i) = some ((), d)) :
    ∃ w, (Cursor.place t i).Reads w d ∧ Unmeasured t i (i + w.length) := by
  induction n generalizing i with
  | zero =>
    obtain ⟨-, rfl⟩ := pure_eq_some.1 h
    exact ⟨[], .refl _, .refl t i⟩
  | succ n ih =>
    rw [upTo] at h
    cases hturn : laneTurn (.place t i) with
    | none =>
      simp only [hturn, Option.some.injEq, Prod.mk.injEq, true_and] at h
      obtain rfl := h
      exact ⟨[], .refl _, .refl t i⟩
    | some found =>
      obtain ⟨⟨⟩, e⟩ := found
      simp only [hturn] at h
      obtain ⟨⟨⟩, c, hmore, hfree⟩ := bind_eq_some.1 hturn
      obtain ⟨hfree, rfl⟩ := notHere_eq_some.1 hfree
      obtain ⟨v, hv, hun⟩ := unmeasured_laneMore hmore hfree
      obtain rfl := hv.eq_place
      obtain ⟨w, hw, hun'⟩ := ih h
      rw [Nat.add_assoc, ← List.length_append] at hun'
      exact ⟨v ++ w, hv.trans hw, hun.trans hun'⟩

/-- **Nothing is seen behind any number of a list that is cut out.** -/
theorem unmeasured_of_mem_hits {h : Hit Unit} (hh : h ∈ lanes.hits t) :
    Unmeasured t h.span.start h.span.stop := by
  obtain ⟨d, hd, hstop⟩ := eq_some_of_mem_hits hh
  obtain ⟨⟨⟩, c, hhead, hd⟩ := bind_eq_some.1 hd
  obtain ⟨⟨⟩, e, hfree, hmore⟩ := bind_eq_some.1 hd
  obtain ⟨hfree, rfl⟩ := notHere_eq_some.1 hfree
  obtain ⟨v, hv, hne, hun⟩ := unmeasured_laneHead hhead hfree
  obtain rfl := hv.eq_place
  obtain ⟨w, hw, hun'⟩ := unmeasured_upTo hmore
  rw [Nat.add_assoc, ← List.length_append] at hun'
  rw [hstop (v ++ w) (by simp [hne]) (hv.trans hw)]
  exact hun.trans hun'

/-! ## Distances in a list -/

/-- A number that no word for metres is seen behind has no measure. -/
theorem measured_eq_none (r : DigitRun t) (hfree : measureFollows (.place t r.span.stop) = none) :
    Distance.measured (.place t r.start) = none := by
  refine Option.eq_none_iff_forall_ne_some.2 ?_
  rintro ⟨n, e⟩ h
  simp only [Distance.measured, bind_eq_some, wordEdge_eq_some] at h
  obtain ⟨-, _, ⟨-, rfl⟩, n, c, hn, ⟨⟩, d, hb, _, e, hword, -⟩ := h
  obtain ⟨-, rfl⟩ := Prod.mk.inj (Option.some.inj (r.digits_place_start.symm.trans hn))
  obtain ⟨w, hw, hr, hedge⟩ := wholeWord_eq_some hword
  have hnone := ((measureFollows_eq_none hb).1 hfree).1 w (List.mem_append_left _ hw) e hr
  rw [hedge] at hnone
  cases hnone

/-- The number of a factor is a run of digits. -/
def Factor.run (s : Factor t) : DigitRun t where
  before := s.before
  digits := s.number
  after := s.gap ++ s.sign :: s.after
  text := s.text
  nonempty := s.nonempty
  allDigits := s.allDigits
  edgeBefore := not_any_isDecimal s.edge
  edgeAfter := by
    cases hgap : s.gap with
    | nil => exact s.isDecimal_sign
    | cons x b => exact not_isDecimal_of_isBlank (s.allBlank x (by simp [hgap]))

/-- **A multiplier that is not seen is glued,** if its number ends a word. -/
theorem Factor.glued (s : Factor t) (hedge : (Cursor.place t s.run.span.stop).atWordEdge = true)
    (hfree : measureFollows (.place t s.run.span.stop) = none) (hnumber : s.numberFollows = true) :
    Glued s.run.after := by
  obtain ⟨q, hq, hplace⟩ := s.run.exists_place_stop
  have hafter : s.run.after = s.gap ++ s.sign :: s.after := rfl
  rw [hplace, hafter] at hedge hfree
  have hbehind : (s.sign :: s.after).head?.any isBlank = false := s.isBlank_sign
  obtain ⟨hwords, hstar⟩ :=
    (measureFollows_eq_none (skip_append s.allBlank hbehind (some q))).1 hfree
  have hsign : s.sign = 'x' := by
    refine s.sign_eq.resolve_right fun h => ?_
    rw [h, one_cons rfl] at hstar
    cases hstar
  rw [hsign] at hedge hwords
  -- The x is no word of its own, so the number follows it without a blank.
  have hjoined := hwords ['x'] (by simp) ⟨some 'x', s.after⟩ ⟨rfl, by simp⟩
  obtain ⟨y, v, hv⟩ : ∃ y v, s.after = y :: v := by
    refine List.exists_cons_of_ne_nil fun hnil => ?_
    simp [hnil, Cursor.atWordEdge, show isWordChar 'x' = true by decide] at hjoined
  have hword : isWordChar y = true := by
    simpa [hv, Cursor.atWordEdge, show isWordChar 'x' = true by decide] using hjoined
  have hblank : isBlank y = false := Bool.eq_false_iff.2 fun h => by
    simp [not_isWordChar_of_isBlank h] at hword
  refine ⟨s.gap, y, v, fun hnil => ?_, s.allBlank, ?_, by rw [hafter, hsign, hv]⟩
  · simp [hnil, Cursor.atWordEdge, isWordChar_of_isDecimal hq,
      show isWordChar 'x' = true by decide] at hedge
  · simpa [Factor.numberFollows, hv, hblank] using hnumber

/-- Repetitions are read at a number with a glued multiplier that is a word of its own. -/
theorem repsTimes_of_glued {r : DigitRun t} (hedge : (Cursor.place t r.start).atWordEdge = true)
    (h : Glued r.after) : (Distance.repsTimes (.place t r.start)).isSome = true := by
  obtain ⟨b, y, v, -, hb, hy, hafter⟩ := h
  obtain ⟨x, w, hx⟩ := List.exists_cons_of_ne_nil r.nonempty
  have hdigit := r.allDigits x (by simp [hx])
  have hword : r.before.getLast?.any isWordChar = false := by
    rw [r.place_start, hx] at hedge
    simpa [Cursor.atWordEdge, isWordChar_of_isDecimal hdigit] using hedge
  let s : Factor t := ⟨r.before, r.digits, b, 'x', y :: v, by rw [← hafter]; exact r.text, hword,
    r.nonempty, r.allDigits, hb, rfl⟩
  have hblank : isBlank y = false := Bool.eq_false_iff.2 fun h => by
    simp [not_isDecimal_of_isBlank h] at hy
  have hnumber : s.numberFollows = true := by simpa [Factor.numberFollows, s, hblank] using hy
  exact Option.isSome_iff_exists.2 (s.repsTimes_succeeds hnumber)

/-- **Theorem (numbers of lane lists).** A number of a list that is cut out has no measure of
metres. It is the repetitions of a distance exactly if it is a word of its own with a glued
multiplier behind it. And where a glued multiplier stands behind the first number of a list, that is
cut out. -/
theorem lane_number_measured_iff (t : Text) :
    (∀ h ∈ lanes.hits t, ∀ r : DigitRun t, h.span.start ≤ r.start → r.start < h.span.stop →
      Distance.measured (.place t r.start) = none ∧
      ((Distance.repsTimes (.place t r.start)).isSome = true ↔
        (Cursor.place t r.start).atWordEdge = true ∧ Glued r.after)) ∧
    ∀ i < t.length, ∀ d, laneHead (.place t i) = some ((), d) → Glued d.rest →
      ∃ h ∈ lanes.hits t, h.span.start ≤ i ∧ i < h.span.stop := by
  constructor
  · intro h hh r hstart hstop
    obtain ⟨hedge, hfree⟩ := unmeasured_of_mem_hits hh r hstart hstop
    refine ⟨measured_eq_none r hfree, fun hsome => ?_, fun h => repsTimes_of_glued h.1 h.2⟩
    obtain ⟨⟨v, e⟩, hread⟩ := Option.isSome_iff_exists.1 hsome
    obtain ⟨s, hs, hnumber, -⟩ := repsTimes_eq_some hread
    obtain rfl : s.run = r := DigitRun.eq_of_start hs
    exact ⟨s.atWordEdge_start, s.glued hedge hfree hnumber⟩
  · intro i hi d hhead hglued
    have hfree := measureFollows_of_glued hglued
    have hlanes : lanes (.place t i) = many laneTurn d :=
      (bind_of_some hhead).trans (notHere_bind hfree _)
    obtain ⟨e, he⟩ := upTo_succeeds laneTurn d.rest.length d
    exact mem_hits_of_reads hi (hlanes.trans he)

/-- The one 4 is the repetitions of a distance and is cut out as a lane, the other one is kept. -/
theorem lane_number_glued :
    let glued : Text := "lane 4 x100m fc"
    let spaced : Text := "lane 4 x 100m fc"
    ((lanes.hits glued).map (·.span) = [⟨0, 6⟩] ∧
      (Distance.repsTimes (.place glued 5)).isSome = true ∧ stripAsides glued = "x100m fc".toList ∧
      parseLine (D := Rat) 1 glued [] = .refused 1 glued .noDistance) ∧
    (lanes.hits spaced).map (·.span) = [] ∧
      parseLine (D := Rat) 1 spaced [] = .accepted 1 spaced [⟨.frontCrawl, .swim, 400⟩] [] := by
  decide +kernel

end SwimSets
