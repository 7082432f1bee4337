import Mathlib.Tactic.SplitIfs
import SwimSets.Proofs.Accounting
import SwimSets.Proofs.Conservation
import SwimSets.Proofs.Keywords
import SwimSets.Proofs.Multipliers
import SwimSets.Proofs.Splits
import SwimSets.Proofs.Verdict

/-!
# No stroke is guessed silently

**Theorem (`stroke_not_guessed`).** A line that names no stroke is swum in front crawl, and a
warning says that this was assumed. Without that warning every stroke that the line contributes
has a word on the line, or the line is a medley taken apart into its strokes.

**Named strokes** (`Named`). The rules look for words in five kinds of text: the whole line, the
head of a breakdown, its parts, the clause of a split, and the line with its distance blanked out.
The first four are stretches of a view of the line, cut out where no word runs on, so the line names
what they name (`Named.of_stands`). Breakdowns are cut before digits and at signs
(`Breakdown.stands_of_splitClause`), the clause of a split starts behind a blank
(`Split.activityAs_reads`).

**Blanking out** a distance puts one space for it. A word for a stroke that reached across that
space would have a letter before it or a digit behind it, but a distance starts at a word edge and
takes all its digits (`Split.named_of_blank`).

**Sources** (`StrokeSource`). Where a stroke comes from, for each end of the rules
(`Verdict.strokeSource`).
-/

namespace SwimSets

open Scanner Keyword

/-! ## Strokes that a text names -/

theorem unbordered_strokeWords : ∀ e ∈ strokeWords, Unbordered e.1 := by decide +kernel

/-- One of the words for the stroke is in the text. -/
def Named (s : Stroke) (t : Text) : Prop := ∃ w, (w, s) ∈ strokeWords ∧ isIn w t = true

/-- What a stretch of a text names, the text names. -/
theorem Named.of_stands {s : Stroke} {u t : Text} (h : Named s u) (hu : Stands u t) :
    Named s t := by
  obtain ⟨w, hw, hin⟩ := h
  have hb := unbordered_strokeWords _ hw
  exact ⟨w, hw, (isIn_iff hb).2 (((isIn_iff hb).1 hin).trans hu)⟩

theorem named_of_strokeOf {s : Stroke} {t : Text} (h : strokeOf t = some s) : Named s t :=
  exists_of_lookUp h

theorem mem_candidates_of_mem_mentions {m : Mention} {t : Text} (h : m ∈ mentions t) :
    m ∈ candidates t := by
  refine List.foldlRecOn (motive := fun taken => ∀ m ∈ taken, m ∈ candidates t) (candidates t)
    Mention.addTo (fun m hm => absurd hm List.not_mem_nil) (fun taken ih n hn m hm => ?_) m h
  rcases Mention.mem_of_mem_addTo hm with hm | rfl
  · exact ih m hm
  · exact hn

/-- The stroke of a mention is named. -/
theorem named_of_mem_mentions {m : Mention} {t : Text} (h : m ∈ mentions t) :
    Named m.stroke t := by
  obtain ⟨e, he, hm⟩ := List.mem_flatMap.1 (mem_candidates_of_mem_mentions h)
  obtain ⟨span, hs, rfl⟩ := List.mem_map.1 hm
  refine ⟨e.1, he, ?_⟩
  simp only [isIn, Bool.not_eq_true', List.isEmpty_eq_false_iff]
  exact List.ne_nil_of_mem hs

theorem named_of_mem_strokesOf {s : Stroke} {t : Text} (h : s ∈ strokesOf t) : Named s t := by
  refine List.foldlRecOn (motive := fun seen => ∀ s ∈ seen, Named s t) (mentions t) _
    (fun s hs => absurd hs List.not_mem_nil) (fun seen ih m hm s hs => ?_) s h
  split_ifs at hs
  · exact ih s hs
  · rcases List.mem_append.1 hs with hs | hs
    · exact ih s hs
    · rw [List.mem_singleton.1 hs]
      exact named_of_mem_mentions hm

namespace Split

theorem mem_addWeight {s : Stroke} {n : Nat} {ws us : List (Stroke × Nat)}
    (h : addWeight s n ws = some us) {u : Stroke × Nat} (hu : u ∈ us) :
    u.1 = s ∨ ∃ w ∈ ws, w.1 = u.1 := by
  induction ws generalizing us with
  | nil =>
    obtain rfl := Option.some.inj h
    exact .inl (by rw [List.mem_singleton.1 hu])
  | cons w ws ih =>
    rw [addWeight] at h
    split_ifs at h with hs
    · obtain ⟨k, -, rfl⟩ := Option.map_eq_some_iff.1 h
      rcases List.mem_cons.1 hu with rfl | hu
      · exact .inl hs
      · exact .inr ⟨u, List.mem_cons_of_mem w hu, rfl⟩
    · obtain ⟨vs, hv, rfl⟩ := Option.map_eq_some_iff.1 h
      rcases List.mem_cons.1 hu with rfl | hu
      · exact .inr ⟨_, List.mem_cons_self, rfl⟩
      · exact (ih hv hu).imp_right fun ⟨x, hx, he⟩ => ⟨x, List.mem_cons_of_mem w hx, he⟩

/-- What each step preserves, a fold that does not fail preserves. -/
theorem foldlM_induction {α β : Type} {f : β → α → Option β} {motive : β → Prop} {l : List α}
    (step : ∀ a ∈ l, ∀ b c, motive b → f b a = some c → motive c) {b c : β} (hb : motive b)
    (h : l.foldlM f b = some c) : motive c := by
  induction l generalizing b with
  | nil =>
    obtain rfl := Option.some.inj h
    exact hb
  | cons a l ih =>
    obtain ⟨ha, hl⟩ := List.forall_mem_cons.1 step
    rw [List.foldlM_cons] at h
    obtain ⟨d, hd, h⟩ := Option.bind_eq_some_iff.1 h
    exact ih hl (ha b d hb hd) h

/-- The strokes that have a weight are named. -/
theorem named_of_mem_weights {t : Text} {default : Option Nat} {ws : List (Stroke × Nat)}
    (h : weights t default = some ws) {w : Stroke × Nat} (hw : w ∈ ws) : Named w.1 t := by
  refine foldlM_induction (motive := fun us => ∀ u ∈ us, Named u.1 t) (fun m hm us vs hus hv => ?_)
    (fun u hu => absurd hu List.not_mem_nil) h w hw
  intro v hvs
  split at hv
  · obtain rfl := Option.some.inj hv
    exact hus v hvs
  · rcases mem_addWeight hv hvs with he | ⟨u, hu, he⟩
    · rw [he]
      exact named_of_mem_mentions hm
    · rw [← he]
      exact hus u hu

end Split

/-! ## Parts of a breakdown -/

namespace Distance

theorem mem_insertStart {n m : Nat} {ms : List Nat} : n ∈ insertStart m ms ↔ n = m ∨ n ∈ ms := by
  induction ms with
  | nil => simp [insertStart]
  | cons x ms ih =>
    rw [insertStart]
    split_ifs with hlt heq
    · exact List.mem_cons
    · simp [heq]
    · simp only [List.mem_cons, ih]
      exact or_left_comm

/-- Where a distance starts, a number with a measure or one without was found. -/
theorem exists_hit_of_mem_starts {t : Text} {i : Nat} (h : i ∈ starts t) :
    ∃ s ∈ [measured, bareNumber], ∃ g ∈ s.hits t, g.span.start = i := by
  have mem : ∀ {ns : List Nat}, i ∈ ns.foldr insertStart [] → i ∈ ns := by
    intro ns
    induction ns with
    | nil => exact id
    | cons n ns ih => exact fun h => List.mem_cons.2 ((mem_insertStart.1 h).imp_right ih)
  rcases List.mem_append.1 (mem h) with h | h
  · obtain ⟨g, hg, rfl⟩ := List.mem_map.1 h
    exact ⟨measured, by simp, g, hg, rfl⟩
  · obtain ⟨_, hd, rfl⟩ := List.mem_map.1 h
    obtain ⟨g, hg, hd⟩ := List.mem_filterMap.1 hd
    split at hd
    · split_ifs at hd
      obtain rfl := Option.some.inj hd
      exact ⟨bareNumber, by simp, g, hg, rfl⟩
    · cases hd

/-- A distance starts at a word edge. -/
theorem atWordEdge_of_mem_starts {t : Text} {i : Nat} (h : i ∈ starts t) :
    (Cursor.place t i).atWordEdge = true := by
  obtain ⟨s, hs, g, hg, rfl⟩ := exists_hit_of_mem_starts h
  have edge : ∀ {s : Scanner Text}, g ∈ (do wordEdge; s : Scanner Text).hits t →
      (Cursor.place t g.span.start).atWordEdge = true := by
    intro s hg
    obtain ⟨d, hd, -⟩ := eq_some_of_mem_hits hg
    obtain ⟨_, _, hw, -⟩ := bind_eq_some.1 hd
    exact (wordEdge_eq_some.1 hw).1
  simp only [List.mem_cons, List.not_mem_nil, or_false] at hs
  rcases hs with rfl | rfl
  · exact edge hg
  · exact edge hg

end Distance

namespace Breakdown

theorem stands_of_mem_pieces {t : Text} {cuts : List Nat}
    (hc : ∀ i ∈ cuts, (Cursor.place t i).atWordEdge = true) {start : Nat}
    (hs : ClearBefore (.place t start)) {p : Text} (hp : p ∈ pieces t start cuts) :
    Stands p t := by
  induction cuts generalizing start with
  | nil =>
    rw [List.mem_singleton.1 hp]
    exact stands_drop hs
  | cons cut cuts ih =>
    have hcut := hc cut List.mem_cons_self
    rcases List.mem_cons.1 hp with rfl | hp
    · exact stands_slice hs (clearAfter_of_wordEdge hcut)
    · exact ih (fun i hi => hc i (List.mem_cons_of_mem cut hi)) (clearBefore_of_wordEdge hcut) hp

/-- **No word is cut apart between the parts of a clause.** -/
theorem stands_of_mem_clauseParts {clause p : Text} (hp : p ∈ clauseParts clause) :
    Stands p clause := by
  obtain ⟨hp, -⟩ := List.mem_filter.1 hp
  obtain ⟨q, hq, rfl⟩ := List.mem_map.1 hp
  obtain ⟨r, hr, hq⟩ := List.mem_flatMap.1 hq
  have sign : ∀ c : Char, (c == '/' || c == ',') = true → isWordChar c = false := by
    intro c hc
    rcases Bool.or_eq_true_iff.1 hc with hc | hc <;> rw [eq_of_beq hc] <;> decide
  have cuts : ∀ i ∈ (Distance.starts r).tail, (Cursor.place r i).atWordEdge = true :=
    fun i hi => Distance.atWordEdge_of_mem_starts (List.mem_of_mem_tail hi)
  have hqr : Stands q r := stands_of_mem_pieces cuts (clearBefore_of_prev rfl) hq
  exact ((stands_trim q).trans hqr).trans (stands_of_mem_splitAt sign hr)

/-- The word "as" is read from one word edge on, and stops no word short. -/
theorem asWord_reads {c d : Cursor} {u : Unit} (h : asWord c = some (u, d)) :
    c.atWordEdge = true ∧ (∃ w ≠ [], c.Reads w d) ∧ ClearBefore d := by
  simp only [asWord, bind_eq_some, wordEdge_eq_some, word_eq_some, blanks, skip_eq_some] at h
  obtain ⟨-, _, ⟨hc, rfl⟩, -, _, he, -, e, ⟨hedge, rfl⟩, b, hb, hr, -⟩ := h
  refine ⟨hc, ⟨"as".toList ++ b, by simp, he.trans hr⟩, ?_⟩
  rcases List.eq_nil_or_concat b with rfl | ⟨b, x, rfl⟩
  · obtain rfl : d = e := hr.eq_advance
    exact clearBefore_of_wordEdge hedge
  · refine clearBefore_of_prev ?_
    have hx := not_isWordChar_of_isBlank (hb x (by simp))
    simpa [hr.prev] using hx

/-- The head of a clause and its parts are stretches of the line. -/
theorem stands_of_splitClause {t head : Text} {parts : List Text}
    (h : splitClause t = some (head, parts)) : Stands head t ∧ ∀ p ∈ parts, Stands p t := by
  unfold splitClause at h
  split at h
  · cases h
  · rename_i hit hhit
    dsimp only at h
    split_ifs at h
    obtain ⟨rfl, rfl⟩ := Prod.mk.inj (Option.some.inj h)
    have hs := eq_some_place_of_mem_hits (mem_hits_of_firstHit hhit)
      fun i a d h => (asWord_reads h).2.1
    obtain ⟨hedge, -, hclear⟩ := asWord_reads hs
    exact ⟨stands_take (clearAfter_of_wordEdge hedge),
      fun p hp => (stands_of_mem_clauseParts hp).trans (stands_drop hclear)⟩

end Breakdown

/-! ## Weights -/

namespace Split

/-- An activity and the word "as" are read up to a blank. -/
theorem activityAs_reads {c d : Cursor} {a : Activity} (h : activityAs c = some (a, d)) :
    (∃ w ≠ [], c.Reads w d) ∧ ClearBefore d := by
  simp only [activityAs, bind_eq_some, wordEdge_eq_some, word_eq_some, notHere_eq_some,
    pure_eq_some] at h
  obtain ⟨-, _, ⟨-, rfl⟩, x, c₁, h₁, _, c₂, h₂, _, c₃, h₃, -, c₄, h₄, _, c₅, h₅, -, _, ⟨-, rfl⟩, -,
    rfl⟩ := h
  obtain ⟨s, hs, h₁⟩ := oneOf_eq_some h₁
  obtain ⟨e, -, rfl⟩ := List.mem_map.1 hs
  simp only [bind_eq_some, word_eq_some, pure_eq_some] at h₁
  obtain ⟨-, _, h₁, -, rfl⟩ := h₁
  obtain ⟨w₂, h₂⟩ : ∃ w, c₁.Reads w c₂ := by
    rcases maybe_eq_some h₂ with ⟨_, h₂⟩ | ⟨-, rfl⟩
    · obtain ⟨y, -, h₂⟩ := one_eq_some.1 h₂
      exact ⟨_, h₂⟩
    · exact ⟨[], .refl _⟩
  obtain ⟨w₃, -, -, h₃⟩ := blanks1_eq_some h₃
  obtain ⟨w₅, hne, hb, h₅⟩ := blanks1_eq_some h₅
  refine ⟨⟨_, ?_, h₁.trans (h₂.trans (h₃.trans (h₄.trans h₅)))⟩, clearBefore_of_prev ?_⟩
  · simp
  · rw [h₅.prev, List.getLast?_eq_some_getLast hne]
    exact not_isWordChar_of_isBlank (hb _ (List.getLast_mem hne))

/-- A blank stands in a word for a stroke behind a letter or before a digit. -/
theorem blank_strokeWords : ∀ e ∈ strokeWords, e.1.head?.any isAsciiLetter = true ∧
    ∀ k < e.1.length, e.1[k]? = some ' ' → (e.1.take k).getLast?.any isWordChar = true ∨
      (e.1.drop (k + 1)).head?.any isDecimal = true := by
  decide +kernel

/-- No digit follows where a word ends. -/
theorem no_digit_of_wordEdge {c d : Cursor} {w : Text} (hw : w.getLast?.any isWordChar = true)
    (hr : c.Reads w d) (hd : d.atWordEdge = true) : d.rest.head?.any isDecimal = false := by
  obtain ⟨x, hx, hword⟩ := (Option.any_eq_true _ _).1 hw
  simp only [Cursor.atWordEdge, hr.prev, hx, Option.some_or, Option.any_some, hword] at hd
  exact not_any_isDecimal (by simpa using hd)

/-- What is read as repetitions of a distance starts at a word edge, and no number or letter of it
runs on behind it. -/
theorem repsTimes_reads {t : Text} {i : Nat} {v : Text × Text} {e : Cursor}
    (h : Distance.repsTimes (.place t i) = some (v, e)) :
    (Cursor.place t i).prev.any isWordChar = false ∧ (Cursor.place t i).atWordEdge = true ∧
      (∃ w ≠ [], (Cursor.place t i).Reads w e) ∧ ClearBefore e ∧
      e.rest.head?.any isDecimal = false := by
  obtain ⟨s, rfl, hf⟩ := factor_eq_some.1 h
  simp only [bind_eq_some, pure_eq_some, blanks, skip_eq_some, digits, run_eq_some] at hf
  obtain ⟨-, d, ⟨space, -, h₁, -⟩, number, d', ⟨hn, hd, h₂, hrest⟩, _, _, h₃, -, rfl⟩ := hf
  refine ⟨by simpa [s.place_start] using s.edge, s.atWordEdge_start, ?_⟩
  have hin := s.reads.trans (h₁.trans h₂)
  -- A unit or a plural s ends at a word edge.
  have unit {w : Text} (hlast : w.getLast?.any isWordChar = true) (hr : d'.Reads w e)
      (he : e.atWordEdge = true) : (∃ w ≠ [], (Cursor.place t s.start).Reads w e) ∧
        ClearBefore e ∧ e.rest.head?.any isDecimal = false :=
    ⟨⟨_, by simp, hin.trans hr⟩, clearBefore_of_wordEdge he, no_digit_of_wordEdge hlast hr he⟩
  rcases maybe_eq_some h₃ with ⟨_, h₃⟩ | ⟨-, rfl⟩
  · obtain ⟨u, hu, h₃⟩ := oneOf_eq_some h₃
    simp only [List.mem_cons, List.not_mem_nil, or_false] at hu
    rcases hu with rfl | rfl
    · simp only [bind_eq_some, skip_eq_some] at h₃
      obtain ⟨-, c, ⟨b, -, hb, -⟩, h₃⟩ := h₃
      obtain ⟨w, hw, hr, he⟩ := wholeWord_eq_some h₃
      refine unit ?_ (hb.trans hr) he
      have metre : ∀ w ∈ Distance.metreWords, w.getLast?.any isWordChar = true := by
        decide +kernel
      obtain ⟨x, hx, hxw⟩ := (Option.any_eq_true _ _).1 (metre w hw)
      simp [List.getLast?_append, hx, hxw]
    · simp only [bind_eq_some, one_eq_some, wordEdge_eq_some] at h₃
      obtain ⟨-, c, ⟨x, hx, hr⟩, he, rfl⟩ := h₃
      exact unit (by rw [eq_of_beq hx]; decide) hr he
  · refine ⟨⟨_, by simp, hin⟩, fun x hx => ?_, hrest⟩
    have hlast := hd _ (List.getLast_mem hn)
    have hprev : e.prev = some (number.getLast hn) := by
      rw [h₂.prev, List.getLast?_eq_some_getLast hn]
      rfl
    rw [Option.mem_def.1 hx, Option.any_some] at hrest
    have hdigit : isAsciiDigit x = false := by
      by_contra hdigit
      simp [isDecimal_of_isAsciiDigit (Bool.of_not_eq_false hdigit)] at hrest
    simp [hprev, edgeClear, not_isAsciiLetter_of_isDecimal hlast, hdigit]

/-- A word for a stroke that stands where a piece was blanked out stands on one side of it. -/
theorem stands_of_blank {e : Text × Stroke} (he : e ∈ strokeWords) {a b : Text}
    (ha : a.getLast?.any isWordChar = false) (hb : b.head?.any isDecimal = false)
    (h : Stands e.1 (a ++ ' ' :: b)) : Stands e.1 a ∨ Stands e.1 b := by
  obtain ⟨hletter, hblank⟩ := blank_strokeWords e he
  obtain ⟨u, v, heq, hu, hv⟩ := h
  generalize e.1 = w at *
  rcases List.append_eq_append_iff.1 heq with ⟨x, rfl, hx⟩ | ⟨x, rfl, hx⟩
  · -- The word starts behind the gap.
    cases x with
    | nil =>
      cases w with
      | nil => simp at hletter
      | cons y w =>
        obtain ⟨rfl, -⟩ := List.cons.inj hx
        rw [List.head?_cons, Option.any_some] at hletter
        exact absurd hletter (by decide)
    | cons y x =>
      obtain ⟨rfl, rfl⟩ := List.cons.inj hx
      refine .inr ⟨x, v, rfl, ?_, hv⟩
      cases x with
      | nil => exact fun c _ => rfl
      | cons z x => simpa [List.getLast?_append, List.getLast?_cons] using hu
  · rcases List.append_eq_append_iff.1 hx with ⟨y, rfl, hy⟩ | ⟨y, rfl, hy⟩
    · -- The word ends before it.
      refine .inl ⟨u, y, rfl, hu, ?_⟩
      cases y with
      | nil => exact fun c _ => rfl
      | cons z y =>
        rw [hy] at hv
        exact hv
    · cases y with
      | nil =>
        refine .inl ⟨u, [], by simp, hu, fun c _ => rfl⟩
      | cons z y =>
        -- The gap is a blank of the word.
        obtain ⟨rfl, rfl⟩ := List.cons.inj hy
        rcases hblank x.length (by simp) (by simp) with hl | hr
        · rw [List.take_left] at hl
          cases hx : x.getLast? with
          | none => simp [hx] at hl
          | some c =>
            rw [hx, Option.any_some] at hl
            simp [List.getLast?_append, hx, hl] at ha
        · rw [← List.drop_drop, List.drop_left] at hr
          cases y with
          | nil => simp at hr
          | cons c y =>
            rw [List.drop_one, List.tail_cons, List.head?_cons, Option.any_some] at hr
            simp [hr] at hb

/-- **Blanking out a distance makes no word for a stroke.** -/
theorem named_of_blank {t : Text} {d : Distance} (h : Distance.read t = some d)
    (explicit : d.explicitReps = true) {s : Stroke} (named : Named s (d.span.blank t)) :
    Named s t := by
  obtain ⟨hex, -⟩ | ⟨-, hit, hhit, -, hspan⟩ := Distance.reps_of_read h
  · simp [hex] at explicit
  have hs := eq_some_place_of_mem_hits (mem_hits_of_firstHit hhit)
    fun i a e h => (repsTimes_reads h).2.2.1
  obtain ⟨hprev, hedge, -, hclear, hrest⟩ := repsTimes_reads hs
  rw [← hspan] at hprev hedge hclear hrest
  obtain ⟨w, hw, hin⟩ := named
  have hb := unbordered_strokeWords _ hw
  have hside := stands_of_blank hw hprev hrest ((isIn_iff hb).1 hin)
  refine ⟨w, hw, (isIn_iff hb).2 ?_⟩
  rcases hside with h | h
  · exact h.trans (stands_take (clearAfter_of_wordEdge hedge))
  · exact h.trans (stands_drop hclear)

end Split

/-! ## Where the stroke of a contribution comes from -/

variable {D : Type}

/-- The line contributes the strokes of a medley, one after the other, because it names the medley
and asks for each of its strokes. -/
def IsMedley [Speller] [Metres D] (raw : Text) (cs : List (Contribution D)) : Prop :=
  strokeOf (normalize raw) = some .individualMedley ∧ cs.map (·.stroke) = Stroke.medley ∧
    ∃ d, Distance.read (LineView.of raw).measurable = some d ∧
      Split.splitMedley (contextOf raw d) = some cs

/-- The ways in which a line comes by the stroke of a contribution. -/
inductive StrokeSource [Speller] [Metres D] (raw : Text) (l : ParsedLine D) (s : Stroke) : Prop
  | written (named : Named s (normalize raw)) : StrokeSource raw l s
  | measured (named : Named s (LineView.of raw).measurable) : StrokeSource raw l s
  | assumed (stroke : s = assumedStroke) (warned : Warning.strokeAssumed ∈ l.warnings) :
      StrokeSource raw l s
  | medley (isMedley : IsMedley raw l.contributions) : StrokeSource raw l s

variable [Metres D]

/-- The stroke of a part is named in the line, or assumed with a warning. -/
theorem Breakdown.stroke_of_parts {ctx : LineContext} {cs : List (Contribution D)}
    {ws : List Warning} (h : read ctx = .parts cs ws) {c : Contribution D} (hc : c ∈ cs) :
    Named c.stroke ctx.measurable ∨ c.stroke = assumedStroke ∧ Warning.strokeAssumed ∈ ws := by
  unfold read at h
  split at h
  · cases h
  · rename_i head texts hsplit
    obtain ⟨hhead, htexts⟩ := stands_of_splitClause hsplit
    dsimp only at h
    split_ifs at h
    obtain ⟨rfl, rfl⟩ := Breakdown.parts.inj h
    obtain ⟨p, hp, rfl⟩ := List.mem_map.1 hc
    show Named (p.stroke.getD assumedStroke) _ ∨ p.stroke.getD assumedStroke = _ ∧ _
    cases hs : p.stroke with
    | none =>
      refine .inr ⟨rfl, ?_⟩
      have hany : (texts.filterMap (Part.read (strokeOf head))).any (·.stroke.isNone) = true :=
        List.any_eq_true.2 ⟨p, hp, by simp [hs]⟩
      simp only [warningsFor, hany, if_true]
      simp
    | some s =>
      obtain ⟨t, ht, hread⟩ := List.mem_filterMap.1 hp
      obtain ⟨d, -, rfl⟩ := Option.map_eq_some_iff.1 hread
      rcases Option.or_eq_some_iff.1 hs with hs | ⟨-, hs⟩
      · exact .inl ((named_of_strokeOf hs).of_stands (htexts t ht))
      · exact .inl ((named_of_strokeOf hs).of_stands hhead)

/-- A split gives out strokes that are named, or those of a medley. -/
theorem Split.strokeSource_of_apply [Speller] {raw : Text} {d : Distance} {way : Split}
    {cs : List (Contribution D)} (hd : Distance.read (LineView.of raw).measurable = some d)
    (h : way.apply (contextOf raw d) = some cs) {l : ParsedLine D} (hl : l.contributions = cs)
    {c : Contribution D} (hc : c ∈ cs) : StrokeSource raw l c.stroke := by
  cases way with
  | alternating =>
    obtain ⟨-, -, rfl⟩ := splitAlternating_eq_some.1 h
    obtain ⟨s, hs, rfl⟩ := List.mem_map.1 hc
    exact .written (named_of_mem_strokesOf hs)
  | medley =>
    obtain ⟨him, -, hcs⟩ := splitMedley_eq_some.1 h
    refine .medley ⟨him, ?_, d, hd, hl ▸ h⟩
    rw [hl, hcs]
    rfl
  | halves =>
    obtain ⟨hit, ws, sum, hhit, hw, -, -, -, rfl⟩ := splitHalves_eq_some.1 h
    obtain ⟨w, hws, rfl⟩ := List.mem_map.1 hc
    have hs := eq_some_place_of_mem_hits (mem_hits_of_firstHit hhit)
      fun i a e h => (activityAs_reads h).1
    exact .measured ((named_of_mem_weights hw hws).of_stands
      (stands_drop (activityAs_reads hs).2))
  | counted =>
    obtain ⟨ws, explicit, hw, -, -, rfl⟩ := splitCounted_eq_some.1 h
    obtain ⟨w, hws, rfl⟩ := List.mem_map.1 hc
    exact .measured (named_of_blank hd explicit (named_of_mem_weights hw hws))

section

variable [Speller] {number : Nat} {raw : Text} {previous : List (ParsedLine D)} {l : ParsedLine D}
  (h : Verdict number raw previous l) (noRepeat : Repeat.isAsked (normalize raw) = false)

include h noRepeat

/-- **Each stroke that a line contributes has a source**, unless the line is a repeat. -/
theorem Verdict.strokeSource {c : Contribution D} (hc : c ∈ l.contributions) :
    StrokeSource raw l c.stroke := by
  cases h with
  | layout | refused => cases hc
  | repeated cs n content asked => simp [asked] at noRepeat
  | parts d cs ws measured found =>
    rcases Breakdown.stroke_of_parts found hc with named | ⟨hs, hw⟩
    · exact .measured named
    · exact .assumed hs hw
  | split d way cs measured noParts found =>
    exact Split.strokeSource_of_apply measured.read (Split.apply_of_choose found) rfl hc
  | plain d measured noParts =>
    obtain rfl := List.mem_singleton.1 hc
    cases hs : (contextOf raw d).stroke with
    | none => exact .assumed rfl (by simp [plainLine, ParsedLine.accepted, hs])
    | some s => exact .written (named_of_strokeOf hs)

/-- A line that is understood contributes something, unless it is a repeat. -/
theorem Verdict.contributions_ne_nil (parsed : l.parsed = true) : l.contributions ≠ [] := by
  cases h with
  | layout | refused => cases parsed
  | repeated cs n content asked => simp [asked] at noRepeat
  | parts d cs ws measured found => exact Breakdown.ne_nil_of_parts found
  | split d way cs measured noParts found =>
    exact Split.ne_nil_of_apply (Split.apply_of_choose found)
  | plain d measured noParts => exact List.cons_ne_nil _ _

end

/-- **No stroke is guessed silently.** Take a line that is understood and asks for no repeat. If no
word for a stroke stands in either of its views, all it contributes is front crawl, with the
warning that this was assumed. Without that warning, each stroke that it contributes has a word in
one of the views, or the line names a medley and contributes each of its strokes. -/
theorem stroke_not_guessed [Speller] (number : Nat) (raw : Text) (previous : List (ParsedLine D))
    (noRepeat : Repeat.isAsked (normalize raw) = false)
    (parsed : (parseLine number raw previous).parsed = true) :
    let l := parseLine number raw previous
    ((∀ s, ¬ Named s (normalize raw) ∧ ¬ Named s (LineView.of raw).measurable) →
        (∀ c ∈ l.contributions, c.stroke = .frontCrawl) ∧
          l.warns Warning.strokeAssumed.message) ∧
      (¬ l.warns Warning.strokeAssumed.message →
        (∀ c ∈ l.contributions,
            Named c.stroke (normalize raw) ∨ Named c.stroke (LineView.of raw).measurable) ∨
          IsMedley raw l.contributions) := by
  have hv := parseLine_verdict number raw previous
  have source := fun c hc => hv.strokeSource noRepeat (c := c) hc
  have hne := hv.contributions_ne_nil noRepeat parsed
  refine ⟨fun none => ?_, fun quiet => ?_⟩
  · have assumed : ∀ c ∈ (parseLine number raw previous).contributions,
        c.stroke = .frontCrawl ∧
          Warning.strokeAssumed ∈ (parseLine number raw previous).warnings := by
      intro c hc
      cases source c hc with
      | written named => exact absurd named (none c.stroke).1
      | measured named => exact absurd named (none c.stroke).2
      | assumed stroke warned => exact ⟨stroke, warned⟩
      | medley isMedley => exact absurd (named_of_strokeOf isMedley.1) (none _).1
    obtain ⟨c, hc⟩ := List.exists_mem_of_ne_nil _ hne
    exact ⟨fun c hc => (assumed c hc).1, ParsedLine.warns_of_mem (assumed c hc).2⟩
  · by_cases hm : IsMedley raw (parseLine number raw previous).contributions
    · exact .inr hm
    · refine .inl fun c hc => ?_
      cases source c hc with
      | written named => exact .inl named
      | measured named => exact .inr named
      | assumed stroke warned => exact absurd (ParsedLine.warns_of_mem warned) quiet
      | medley isMedley => exact absurd isMedley hm

/-- Nothing on this line is a stroke. -/
theorem stroke_not_guessed_kick :
    let raw : Text := "2 x 50m as 25m kick / 25m swim"
    let l : ParsedLine Rat := parseLine 1 raw []
    Repeat.isAsked (normalize raw) = false ∧ l.parsed = true ∧
      (∀ s, ¬ Named s (normalize raw) ∧ ¬ Named s (LineView.of raw).measurable) ∧
      (∀ c ∈ l.contributions, c.stroke = .frontCrawl) ∧
      l.warns Warning.strokeAssumed.message := by
  intro raw l
  have none : ∀ e ∈ strokeWords, isIn e.1 (normalize raw) = false ∧
      isIn e.1 (LineView.of raw).measurable = false := by decide +kernel
  have unnamed : ∀ s, ¬ Named s (normalize raw) ∧ ¬ Named s (LineView.of raw).measurable := by
    refine fun s => ⟨?_, ?_⟩
    · rintro ⟨w, hw, hin⟩
      simp [(none _ hw).1] at hin
    · rintro ⟨w, hw, hin⟩
      simp [(none _ hw).2] at hin
  have noRepeat : Repeat.isAsked (normalize raw) = false := by decide +kernel
  have parsed : (parseLine (D := Rat) 1 raw []).parsed = true := by decide +kernel
  exact ⟨noRepeat, parsed, unnamed, (stroke_not_guessed 1 raw [] noRepeat parsed).1 unnamed⟩

end SwimSets
