import SwimSets.Proofs.Counts
import SwimSets.Proofs.Precedence

/-!
# Counts that are part of a word

The count of a mention is looked for in all that comes before it, and that may be another mention.
Some of the words for a stroke end in a digit, as "no 1" does.

**Lending** (`Lends`). Of these words, those in which no letter stands right before the digit can
lend it: a mention with nothing but blanks between the word and it is counted once.

**Theorem (`digits_read_twice`).** The digits of a count lie inside another mention exactly where
that mention lends them. So a split by counts is among the strokes that have counts of their own, or
borrowed ones.
-/

namespace SwimSets

open Keyword Split

variable {t w : Text} {s : Span} {i j p : Nat}

/-! ## Places in a text -/

theorem Keyword.OccursAt.getElem? (h : OccursAt w t s) (hj : j < w.length) :
    t[s.start + j]? = w[j]? := by
  obtain ⟨v, hv⟩ := h.reads
  rw [← List.getElem?_drop, ← hv, List.getElem?_append_left hj]

theorem Keyword.OccursAt.take_stop (h : OccursAt w t s) : t.take s.stop = t.take s.start ++ w := by
  obtain ⟨v, hv⟩ := h.reads
  rw [h.stop, List.take_add, ← hv, List.take_left]

/-- Spans that overlap share a place. -/
theorem Span.exists_shared {a b : Span} (ha : a.start < a.stop) (hb : b.start < b.stop)
    (h : a.overlaps b = true) : ∃ p, a.start ≤ p ∧ p < a.stop ∧ b.start ≤ p ∧ p < b.stop := by
  simp only [Span.overlaps, Bool.and_eq_true, decide_eq_true_eq] at h
  exact ⟨max a.start b.start, le_max_left .., max_lt ha h.2, le_max_right .., max_lt h.1 hb⟩

/-! ## Words that end in a digit -/

/-- The words for a stroke that end in a digit with no letter before it. -/
def numberWords : List Text := ["number 1", "no. 1", "no.1", "no 1"]

/-- Of the words for strokes only those have a digit, and one with a letter before it. It is the
last character. -/
theorem digit_in_strokeWords : ∀ e ∈ strokeWords, ∀ j ∈ List.range e.1.length,
    e.1[j]?.any isDecimal = true → 0 < j ∧ j + 1 = e.1.length ∧ e.1.getLast? = some '1' ∧
      (e.1 ∈ numberWords ∨ (e.1[j - 1]?.any fun c => 'a' ≤ c && c ≤ 'z') = true) := by
  decide +kernel

theorem numberWords_eq : ∀ w ∈ numberWords, w = w.dropLast ++ ['1'] ∧
    (w.dropLast.getLast?.any fun c => isDecimal c || ('a' ≤ c && c ≤ 'z')) = false ∧
    w.dropLast ≠ [] := by
  decide +kernel

/-- The digit at a place that a word shares with a run of digits is the last character of the
word. -/
theorem digit_of_shared_place {entry : Text × Stroke} (he : entry ∈ strokeWords)
    (hw : OccursAt entry.1 t s) {r : DigitRun (t.take i)} (hs : s.stop ≤ i)
    (h₁ : s.start ≤ p) (h₂ : p < s.stop) (h₃ : r.span.start ≤ p) (h₄ : p < r.span.stop) :
    s.start < p ∧ p + 1 = s.stop ∧ entry.1.getLast? = some '1' ∧
      (entry.1 ∈ numberWords ∨ (t[p - 1]?.any fun c => 'a' ≤ c && c ≤ 'z') = true) := by
  have hstop := hw.stop
  obtain ⟨c, hc, hget⟩ := r.exists_digit h₃ h₄
  rw [List.getElem?_take_of_lt (by omega)] at hget
  have hchar {j : Nat} (hj : j < entry.1.length) := hw.getElem? hj
  have hdigit := hchar (j := p - s.start) (by omega)
  rw [Nat.add_sub_cancel' h₁, hget] at hdigit
  obtain ⟨hpos, hlast, hone, hword⟩ := digit_in_strokeWords entry he (p - s.start)
    (List.mem_range.2 (by omega)) (by rw [← hdigit]; exact r.allDigits c hc)
  refine ⟨by omega, by omega, hone, hword.imp_right fun hletter => ?_⟩
  rw [← hchar (by omega)] at hletter
  rwa [show s.start + (p - s.start - 1) = p - 1 by omega] at hletter

/-- It is also the first digit of the run. -/
theorem start_eq_of_shared_place {entry : Text × Stroke} (he : entry ∈ strokeWords)
    (hw : OccursAt entry.1 t s) {r : DigitRun (t.take i)} (hs : s.stop ≤ i)
    (h₁ : s.start ≤ p) (h₂ : p < s.stop) (h₃ : r.span.start ≤ p) (h₄ : p < r.span.stop) :
    r.start = p := by
  obtain ⟨hlt, hend, -⟩ := digit_of_shared_place he hw hs h₁ h₂ h₃ h₄
  by_contra hne
  have hle : r.span.start ≤ p - 1 := by
    simp only [DigitRun.span] at h₃ ⊢
    omega
  have hlast := (digit_of_shared_place (p := p - 1) he hw hs (by omega) (by omega) hle
    (by omega)).2.1
  omega

namespace Split.Count

/-- Where nothing is skipped, no letter runs into the digits. -/
theorem edge (r : Count t) (h : r.skipped = []) :
    (r.run.before.getLast?.any fun c => 'a' ≤ c && c ≤ 'z') = false := by
  refine Bool.eq_false_iff.2 fun hletter => ?_
  obtain ⟨u, c, hskipped, -⟩ := r.behindLetter hletter
  simp [h] at hskipped

theorem start_lt_stop (r : Count t) : r.span.start < r.span.stop := by
  have hlen := congrArg List.length r.text
  have hpos := List.length_pos_iff.2 r.nonempty
  rw [List.length_append] at hlen
  show r.run.start + r.skipped.length < r.run.start + r.run.digits.length
  omega

/-- A one that no digit and no letter runs into is a count, if only blanks follow it. -/
theorem exists_one {u v : Text} (htext : t = u ++ (['1'] ++ v))
    (hu : (u.getLast?.any fun c => isDecimal c || ('a' ≤ c && c ≤ 'z')) = false)
    (hv : ∀ c ∈ v, isBlank c = true) :
    ∃ r : Count t, r.digits = ['1'] ∧ r.span = ⟨u.length, u.length + 1⟩ := by
  obtain ⟨hdec, hletter⟩ : u.getLast?.any isDecimal = false ∧
      (u.getLast?.any fun c => 'a' ≤ c && c ≤ 'z') = false := by
    simp only [Option.any_eq_false, Bool.or_eq_false_iff] at hu ⊢
    exact ⟨fun c hc => (hu c hc).1, fun c hc => (hu c hc).2⟩
  have hafter : v.head?.any isDecimal = false := (Option.any_eq_false _ _).2 fun c hc =>
    not_isDecimal_of_isBlank (hv c (List.mem_of_mem_head? hc))
  let run : DigitRun t := ⟨u, ['1'], v, htext, by simp, by decide, hdec, hafter⟩
  exact ⟨⟨run, [], ['1'], rfl, by simp, hv, fun _ => rfl,
    fun h => absurd h (Bool.eq_false_iff.1 hletter)⟩, rfl, rfl⟩

end Split.Count

/-- **A word that shares a place with a count ends with it.** -/
theorem stop_eq_of_overlaps {entry : Text × Stroke} (he : entry ∈ strokeWords)
    (hw : StandsAt entry.1 t s) {r : Count (t.take i)}
    (hread : (readNumber r.digits).isSome = true) (hs : s.stop ≤ i)
    (h : s.overlaps r.span = true) : s.stop = r.run.span.stop ∧ entry.1 ∈ numberWords := by
  have hi := r.run.stop_le
  rw [List.length_take] at hi
  have hword : s.start < s.stop := by
    have := List.length_pos_iff.2 (unbordered_strokeWords entry he).1
    have := hw.stop
    omega
  obtain ⟨p, h₁, h₂, h₃, h₄⟩ := Span.exists_shared hword r.start_lt_stop h
  have hskip : r.run.start + r.skipped.length ≤ p := h₃
  have hrun : r.run.span.start ≤ p := Nat.le_of_add_right_le hskip
  have hstart := start_eq_of_shared_place he hw.toOccursAt hs h₁ h₂ hrun h₄
  obtain ⟨hpos, hend, hone, hletter⟩ := digit_of_shared_place he hw.toOccursAt hs h₁ h₂ hrun h₄
  have hskipped : r.skipped = [] := List.length_eq_zero_iff.1 (by omega)
  have hdigits : r.run.digits = r.digits := by rw [r.text, hskipped, List.nil_append]
  have hstop : s.stop = r.run.span.stop := by
    by_contra hne
    -- A further digit behind the word would run on from its last character.
    have hlt : p < r.run.span.stop := h₄
    obtain ⟨c, hc, hget⟩ := r.run.exists_digit (p := s.stop) (Nat.le_trans hrun (Nat.le_of_lt h₂))
      (by omega)
    rw [List.getElem?_take_of_lt (by omega)] at hget
    have hedge := hw.after '1' hone
    have hascii : isAsciiDigit c = true := by
      obtain ⟨k, hk⟩ := Option.isSome_iff_exists.1 hread
      exact isAsciiDigit_of_readNumber hk c (hdigits ▸ hc)
    rw [List.head?_drop, hget, edgeClear, if_neg (by decide), if_pos (by decide), hascii] at hedge
    simp at hedge
  refine ⟨hstop, hletter.resolve_right fun hletter => ?_⟩
  have hbefore := r.run.getElem?_before (p := p - 1) (by omega)
  rw [List.getElem?_take_of_lt (by omega)] at hbefore
  rw [hbefore, r.edge hskipped] at hletter
  cases hletter

/-! ## Lending -/

/-- The mention `n` stands right before the mention `m`, and its last digit can be read as the count
of that. -/
def Lends (t : Text) (n m : Mention) : Prop :=
  n.span.of t ∈ numberWords ∧ n.span.stop ≤ m.span.start ∧
    ∀ c ∈ t.slice n.span.stop m.span.start, isBlank c = true

/-- The count of the mention is read from the digits. -/
def CountedBy (t : Text) (m : Mention) (r : Count (t.take m.span.start)) : Prop :=
  (readNumber r.digits).isSome = true

/-- A mention stands as one word of the table. -/
theorem exists_standsAt {n : Mention} (hn : n ∈ mentions t) :
    ∃ entry ∈ strokeWords, StandsAt entry.1 t n.span ∧ entry.1 = n.span.of t := by
  obtain ⟨i, entry, hi, hmem⟩ := exists_isOf_of_mem_mentions hn
  have he := List.mem_of_getElem? hi
  have hne := (unbordered_strokeWords entry he).1
  obtain ⟨s, hs, rfl⟩ := List.mem_map.1 hmem
  exact ⟨entry, he, ((mem_find_iff hne).1 hs).2, eq_slice_of_mem_find hne hs⟩

/-- Of two mentions one ends before the other starts. -/
theorem mentions_apart {m n : Mention} (hm : m ∈ mentions t) (hn : n ∈ mentions t) (hne : m ≠ n) :
    n.span.stop ≤ m.span.start ∨ m.span.stop ≤ n.span.start := by
  have hp : (mentions t).Pairwise fun a b => a.span.overlaps b.span = false :=
    (mentions_pairwise t).imp fun h => Span.overlaps_eq_false_iff.2 (.inl h)
  have : Std.Symm fun a b : Mention => a.span.overlaps b.span = false :=
    ⟨fun a b h => (Span.overlaps_comm ..).trans h⟩
  exact Span.overlaps_eq_false_iff.1 (hp.forall hn hm hne.symm)

/-- **Digits that are also part of another mention are lent by it.** -/
theorem lends_of_overlaps {m n : Mention} (hm : m ∈ mentions t) (hn : n ∈ mentions t)
    {r : Count (t.take m.span.start)} (hr : CountedBy t m r)
    (h : n.span.overlaps r.span = true) : Lends t n m := by
  obtain ⟨entry, he, hstands, hword⟩ := exists_standsAt hn
  have hstop : r.span.stop ≤ m.span.start := by
    have hle : r.span.stop ≤ (t.take m.span.start).length := r.run.stop_le
    rw [List.length_take] at hle
    omega
  have hbefore : n.span.stop ≤ m.span.start := by
    simp only [Span.overlaps, Bool.and_eq_true, decide_eq_true_eq] at h
    have hlt := (mentions_within hm).1
    by_cases hne : m = n
    · subst hne
      omega
    · rcases mentions_apart hm hn hne with hle | hle
      · exact hle
      · omega
  obtain ⟨heq, hmem⟩ := stop_eq_of_overlaps he hstands hr hbefore h
  refine ⟨hword ▸ hmem, hbefore, ?_⟩
  rw [Text.slice, heq, r.run.drop_stop]
  exact r.blanks

/-- **A mention that is lent a digit is counted once,** by the end of the other one. -/
theorem exists_of_lends {m n : Mention} (hn : n ∈ mentions t) (h : Lends t n m) :
    ∃ r, CountedBy t m r ∧ n.span.start < r.span.start ∧ r.span.stop = n.span.stop ∧
      trailingCount (t.take m.span.start) = some 1 := by
  obtain ⟨entry, he, hstands, hword⟩ := exists_standsAt hn
  obtain ⟨hmem, hle, hblank⟩ := h
  rw [← hword] at hmem
  obtain ⟨hsplit, hedge, hne⟩ := numberWords_eq entry.1 hmem
  have htext : t.take m.span.start = (t.take n.span.start ++ entry.1.dropLast) ++
      (['1'] ++ t.slice n.span.stop m.span.start) := by
    rw [Text.take_eq_append_slice t hle, hstands.take_stop]
    nth_rewrite 1 [hsplit]
    simp only [List.append_assoc]
  have hlast : (t.take n.span.start ++ entry.1.dropLast).getLast? =
      entry.1.dropLast.getLast? := by
    rw [List.getLast?_append, List.getLast?_eq_some_getLast hne, Option.some_or]
  obtain ⟨r, hone, hspan⟩ := Count.exists_one htext (hlast ▸ hedge) hblank
  have hlen : (t.take n.span.start ++ entry.1.dropLast).length + 1 = n.span.stop := by
    have hfits := (mentions_within hn).inside
    have hpos := List.length_pos_iff.2 hne
    have hstop := hstands.stop
    rw [List.length_dropLast] at hpos
    rw [List.length_append, List.length_take, List.length_dropLast]
    omega
  refine ⟨r, by rw [CountedBy, hone]; rfl, ?_, by rw [hspan]; exact hlen, ?_⟩
  · have hpos := List.length_pos_iff.2 hne
    have hstop := hstands.stop
    rw [List.length_dropLast] at hpos
    rw [hspan]
    show n.span.start < (t.take n.span.start ++ entry.1.dropLast).length
    omega
  · rw [trailingCount, trailingDigits_eq_some_iff.2 ⟨r, hone⟩]
    rfl

/-- A count is read exactly from the digits that are one. -/
theorem isSome_trailingCount_iff {m : Mention} :
    (trailingCount (t.take m.span.start)).isSome = true ↔ ∃ r, CountedBy t m r := by
  rw [trailingCount, Option.isSome_iff_exists]
  constructor
  · rintro ⟨k, hk⟩
    obtain ⟨w, hw, hread⟩ := Option.bind_eq_some_iff.1 hk
    obtain ⟨r, rfl⟩ := trailingDigits_eq_some_iff.1 hw
    exact ⟨r, Option.isSome_of_mem hread⟩
  · rintro ⟨r, hread⟩
    obtain ⟨k, hk⟩ := Option.isSome_iff_exists.1 hread
    exact ⟨k, Option.bind_eq_some_iff.2 ⟨r.digits, trailingDigits_eq_some_iff.2 ⟨r, rfl⟩, hk⟩⟩

/-- A count is written before the mention, outside of all mentions. -/
def HasOwnCount (t : Text) (m : Mention) : Prop :=
  ∃ r, CountedBy t m r ∧ ∀ n ∈ mentions t, n.span.overlaps r.span = false

/-- **The count of a mention is its own or a borrowed one.** -/
theorem hasOwnCount_or_lends_iff {m : Mention} (hm : m ∈ mentions t) :
    (trailingCount (t.take m.span.start)).isSome = true ↔
      HasOwnCount t m ∨ ∃ n ∈ mentions t, Lends t n m := by
  rw [isSome_trailingCount_iff]
  constructor
  · rintro ⟨r, hr⟩
    by_cases hown : ∀ n ∈ mentions t, n.span.overlaps r.span = false
    · exact .inl ⟨r, hr, hown⟩
    · push Not at hown
      obtain ⟨n, hn, h⟩ := hown
      exact .inr ⟨n, hn, lends_of_overlaps hm hn hr (Bool.of_not_eq_false h)⟩
  · rintro (⟨r, hr, -⟩ | ⟨n, hn, h⟩)
    · exact ⟨r, hr⟩
    · obtain ⟨r, hr, -⟩ := exists_of_lends hn h
      exact ⟨r, hr⟩

theorem mem_strokes_counts {stroke : Stroke} :
    stroke ∈ (counts t none).map (·.1) ↔
      ∃ m ∈ mentions t, m.stroke = stroke ∧
        (trailingCount (t.take m.span.start)).isSome = true := by
  simp only [counts, List.mem_map, List.mem_filterMap, Option.or_none, Option.map_eq_some_iff]
  constructor
  · rintro ⟨c, ⟨m, hm, n, hn, rfl⟩, rfl⟩
    exact ⟨m, hm, rfl, Option.isSome_of_mem hn⟩
  · rintro ⟨m, hm, rfl, hsome⟩
    obtain ⟨n, hn⟩ := Option.isSome_iff_exists.1 hsome
    exact ⟨_, ⟨m, hm, n, hn, rfl⟩, rfl⟩

/-- **Theorem (digits read twice).** The digits that are read as the count of one mention stand in
another exactly if that lends them, and then the count is one. A split by counts is among the
strokes of the mentions with counts of their own, and of those to which one is lent. -/
theorem digits_read_twice (t : Text) :
    (∀ m ∈ mentions t, ∀ n ∈ mentions t,
      ((∃ r, CountedBy t m r ∧ n.span.overlaps r.span = true) ↔ Lends t n m) ∧
      (Lends t n m → trailingCount (t.take m.span.start) = some 1)) ∧
    ∀ {D : Type} [Metres D] (ctx : LineContext) (cs : List (Contribution D)),
      ctx.distance.span.blank ctx.measurable = t → counted.apply ctx = some cs → ∀ stroke,
        stroke ∈ cs.map (·.stroke) ↔ ∃ m ∈ mentions t, m.stroke = stroke ∧
          (HasOwnCount t m ∨ ∃ n ∈ mentions t, Lends t n m) := by
  refine ⟨fun m hm n hn => ⟨⟨?_, fun h => ?_⟩, fun h => ?_⟩, ?_⟩
  · rintro ⟨r, hr, hoverlaps⟩
    exact lends_of_overlaps hm hn hr hoverlaps
  · obtain ⟨r, hr, hstart, hstop, -⟩ := exists_of_lends hn h
    have hlt := r.start_lt_stop
    have hoverlaps : n.span.start < r.span.stop ∧ r.span.start < n.span.stop := by omega
    exact ⟨r, hr, by simpa [Span.overlaps] using hoverlaps⟩
  · obtain ⟨r, -, -, -, hone⟩ := exists_of_lends hn h
    exact hone
  · rintro D _ ctx cs rfl h stroke
    obtain ⟨ws, -, hws, -, -, rfl⟩ := splitCounted_eq_some.1 h
    have hstrokes := (adds_counts (by simp) hws).strokes stroke
    rw [mem_strokes_counts] at hstrokes
    rw [List.map_map]
    refine hstrokes.trans (exists_congr fun m => and_congr_right fun hm => ?_)
    refine and_congr_right fun _ => ?_
    exact hasOwnCount_or_lends_iff hm

/-- The digit of a word for the swimmer's choice also counts the backstroke behind it. -/
theorem digit_of_word_counted :
    let t : Text := "8 x 50m 7 no 1 bk"
    let rest : Text := "  7 no 1 bk"
    let choice : Mention := ⟨.swimmersChoice, ⟨4, 8⟩⟩
    let backstroke : Mention := ⟨.backstroke, ⟨9, 11⟩⟩
    mentions rest = [choice, backstroke] ∧
      (∃ r : Count (rest.take backstroke.span.start), CountedBy rest backstroke r ∧
        r.digits = ['1'] ∧ choice.span.overlaps r.span = true) ∧
      counted.apply (LineContext.of (LineView.of t) ⟨8, 50, true, ⟨0, 7⟩⟩) =
        some [⟨.swimmersChoice, .swim, (350 : Rat)⟩, ⟨.backstroke, .swim, 50⟩] ∧
      parseLine (D := Rat) 1 t [] = .accepted 1 t
        [⟨.swimmersChoice, .swim, 350⟩, ⟨.backstroke, .swim, 50⟩] [] := by
  intro t rest choice backstroke
  have hcount : ∃ r : Count (rest.take backstroke.span.start), CountedBy rest backstroke r ∧
      r.digits = ['1'] ∧ choice.span.overlaps r.span = true := by
    obtain ⟨r, hone, hspan⟩ := Count.exists_one
      (t := rest.take backstroke.span.start) (u := "  7 no ") (v := [' '])
      (by decide) (by decide +kernel) (by decide +kernel)
    exact ⟨r, by rw [CountedBy, hone]; rfl, hone, by rw [hspan]; decide⟩
  exact ⟨by decide +kernel, hcount, by decide +kernel, by decide +kernel⟩

end SwimSets
