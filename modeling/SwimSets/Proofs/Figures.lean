import SwimSets.Proofs.Shapes
import SwimSets.Proofs.Strokes

/-!
# Numbers that start a word

Whatever reads a distance starts at a number that starts a word. What it makes of the number hangs
on the words behind it.

**Figures** (`Figure`). A run of digits with no word running into it. No figure starts inside of
another one, nor in a text behind it that has no digit (`Figure.stop_le_start`).

**What comes behind.** A measure of metres is the word behind the blanks (`HasMeasure`); a whole
number is followed by no word, or by a plural s (`IsWhole`).

**Readers of figures** (`ReadsFigures`). The scanners for numbers with a measure and for whole
numbers succeed exactly at the figures with the right words behind them. So the occurrences they
list are these figures, each of them, and the first occurrence is the leftmost
(`ReadsFigures.mem_hits_iff`, `ReadsFigures.firstHit_eq_some_iff`).

**Distances** (`Figure.IsDistance`). A figure is a distance if it has a measure, or is a whole
number of lengths. Their starts are those that are listed (`Distance.mem_starts_iff`).
-/

namespace SwimSets

open Scanner Shape

/-! ## Words behind a number -/

namespace Text

/-- The word that the text starts with; empty if it starts with none. -/
def firstWord (v : Text) : Text := v.takeWhile isWordChar

/-- The word behind the blanks that the text starts with. -/
def nextWord (v : Text) : Text := firstWord (trimStart v)

theorem firstWord_eq_nil_iff {v : Text} :
    v.firstWord = [] ↔ v.head?.any isWordChar = false := by
  cases v <;> simp [firstWord, List.takeWhile_cons]

theorem nextWord_cons {x : Char} (hx : isBlank x = false) (r : Text) :
    nextWord (x :: r) = firstWord (x :: r) := by
  simp [nextWord, trimStart, hx]

end Text

/-- Behind blanks, perhaps none, stands a word for metres. -/
def HasMeasure (v : Text) : Prop := v.nextWord ∈ Distance.metreWords

instance : DecidablePred HasMeasure := fun v =>
  inferInstanceAs (Decidable (v.nextWord ∈ Distance.metreWords))

/-- The blanks and the word behind them. -/
def measureOf (v : Text) : Text := v.takeWhile isBlank ++ v.nextWord

/-- No word runs on but for a plural s. -/
def IsWhole (v : Text) : Prop := v.firstWord = [] ∨ v.firstWord = ['s']

instance : DecidablePred IsWhole := fun v =>
  inferInstanceAs (Decidable (v.firstWord = [] ∨ v.firstWord = ['s']))

theorem not_isDecimal_of_mem_measureOf {v : Text} (h : HasMeasure v) :
    ∀ x ∈ measureOf v, isDecimal x = false := by
  refine List.forall_mem_append.2 ⟨fun x hx => ?_, ?_⟩
  · exact not_isDecimal_of_isBlank (List.mem_takeWhile_imp hx)
  · exact (by decide : ∀ w ∈ Distance.metreWords, ∀ x ∈ w, isDecimal x = false) _ h

theorem not_isDecimal_of_mem_firstWord {v : Text} (h : IsWhole v) :
    ∀ x ∈ v.firstWord, isDecimal x = false := by
  rcases h with h | h <;> rw [h] <;> decide

theorem not_hasMeasure_of_isDecimal {x : Char} (hx : isDecimal x = true) (r : Text) :
    ¬ HasMeasure (x :: r) := by
  intro h
  have hblank : isBlank x = false := Bool.eq_false_iff.2 fun hb => by
    simp [not_isDecimal_of_isBlank hb] at hx
  have hmem : x ∈ measureOf (x :: r) := by
    simp [measureOf, Text.nextWord_cons hblank, Text.firstWord, isWordChar_of_isDecimal hx]
  rw [not_isDecimal_of_mem_measureOf h x hmem] at hx
  cases hx

/-- Of whole words the one is read that stands there. -/
theorem Scanner.wholeWord_eq {ws : List Text}
    (hws : ∀ w ∈ ws, w ≠ [] ∧ ∀ x ∈ w, isWordChar x = true) (c : Cursor) :
    wholeWord ws c = if Text.firstWord c.rest ∈ ws
      then some ((), c.advance (Text.firstWord c.rest).length) else none := by
  obtain ⟨hr, hend⟩ := reads_takeWhile c isWordChar
  have last {w : Text} (hw : w ∈ ws) : ∃ x, isWordChar x = true ∧ w.getLast? = some x :=
    ⟨_, (hws w hw).2 _ (List.getLast_mem (hws w hw).1), List.getLast?_eq_some_getLast _⟩
  have found {u : Unit} {d : Cursor} (h : wholeWord ws c = some (u, d)) :
      Text.firstWord c.rest ∈ ws ∧ d = c.advance (Text.firstWord c.rest).length := by
    obtain ⟨w, hw, hr, hedge⟩ := wholeWord_eq_some h
    obtain ⟨x, hx, hlast⟩ := last hw
    have hfirst : Text.firstWord c.rest = w :=
      takeWhile_of_reads hr (hws w hw).2 ((atWordEdge_of_reads hr hx hlast).1 hedge)
    rw [hfirst]
    exact ⟨hw, hr.eq_advance⟩
  split_ifs with hmem
  · obtain ⟨x, hx, hlast⟩ := last hmem
    have hread : (do word (Text.firstWord c.rest); wordEdge : Scanner Unit) c = some ((), _) :=
      bind_eq_some.2 ⟨(), _, word_eq_some.2 hr,
        wordEdge_eq_some.2 ⟨(atWordEdge_of_reads hr hx hlast).2 hend, rfl⟩⟩
    have hlist : (do word (Text.firstWord c.rest); wordEdge : Scanner Unit) ∈
        ws.map fun w => (do word w; wordEdge : Scanner Unit) := List.mem_map_of_mem hmem
    obtain ⟨⟨⟨⟩, d⟩, hd⟩ := oneOf_succeeds hlist hread
    rw [wholeWord, hd, (found hd).2]
  · refine Option.eq_none_iff_forall_ne_some.2 ?_
    rintro ⟨⟨⟩, d⟩ hd
    exact hmem (found hd).1

theorem Cursor.advance_advance (c : Cursor) (n m : Nat) :
    (c.advance n).advance m = c.advance (n + m) := by
  simp only [Cursor.advance, List.drop_drop, List.take_add, List.getLast?_append, Option.or_assoc]

/-- What stands at a place is read from there. -/
theorem Cursor.reads_place {t u : Text} {i : Nat} (h : u <+: t.drop i) :
    (place t i).Reads u (.place t (i + u.length)) := by
  obtain ⟨v, hv⟩ := h
  rw [← place_advance]
  exact reads_advance hv.symm

/-! ## Figures -/

variable {t : Text}

/-- A number that starts a word. -/
structure Figure (t : Text) extends DigitRun t where
  opens : before.getLast?.any isWordChar = false

namespace Figure

theorem eq_of_start {f g : Figure t} (h : f.start = g.start) : f = g := by
  have := DigitRun.eq_of_start h
  cases f
  cases g
  congr

theorem start_lt_length (f : Figure t) : f.start < t.length :=
  Nat.lt_of_lt_of_le f.start_lt_stop f.stop_le

theorem atWordEdge_start (f : Figure t) : (Cursor.place t f.start).atWordEdge = true := by
  rw [f.place_start]
  exact (Number.front ⟨f.nonempty, f.allDigits⟩).2 f.opens

/-- The character before a figure belongs to no word. -/
theorem not_isWordChar_before (f : Figure t) {p : Nat} (h : p + 1 = f.start) {c : Char}
    (hc : t[p]? = some c) : isWordChar c = false := by
  have hopens := f.opens
  rw [← f.getElem?_before h, hc] at hopens
  exact hopens

/-- **Behind a figure the next one starts at the earliest where there are digits again.** -/
theorem stop_le_start {f g : Figure t} (h : f.start < g.start) {u : Text} (hu : u <+: f.after)
    (hdigit : ∀ x ∈ u, isDecimal x = false) : f.span.stop + u.length ≤ g.start := by
  by_contra hlt
  rcases Nat.lt_or_ge g.start (f.span.stop + 1) with hin | hbehind
  · -- The character before the later figure would be a digit of the earlier.
    obtain ⟨p, hp⟩ := Nat.exists_eq_add_of_lt h
    obtain ⟨c, hc, hget⟩ := f.exists_digit (p := f.start + p) (Nat.le_add_right ..) (by omega)
    have hword := g.not_isWordChar_before (p := f.start + p) hp.symm hget
    rw [isWordChar_of_isDecimal (f.allDigits c hc)] at hword
    cases hword
  · obtain ⟨j, hj⟩ := Nat.exists_eq_add_of_le (Nat.le_of_succ_le hbehind)
    obtain ⟨c, hc, hget⟩ := g.exists_digit le_rfl g.start_lt_stop
    obtain ⟨v, hv⟩ := hu
    have hjlt : j < u.length := by omega
    have hget' : t[g.start]? = u[j]? := by
      rw [hj, ← List.getElem?_drop, f.drop_stop, ← hv, List.getElem?_append_left hjlt]
    have hmem := List.mem_of_getElem? (hget'.symm.trans hget)
    exact absurd (g.allDigits c hc) (by simp [hdigit c hmem])

/-- The figure comes first of those with the property. -/
def Leftmost (P : Figure t → Prop) (f : Figure t) : Prop := P f ∧ ∀ g, P g → f.start ≤ g.start

theorem Leftmost.eq {P : Figure t → Prop} {f g : Figure t} (hf : Leftmost P f)
    (hg : Leftmost P g) : f = g :=
  eq_of_start (Nat.le_antisymm (hf.2 g hg.1) (hg.2 f hf.1))

/-- What is found where the figure and the piece `u` behind it are read. -/
def hit (f : Figure t) (u : Text) : Hit Text := ⟨f.digits, f.start, f.span.stop + u.length⟩

end Figure

/-- Digits that are read from a word edge on are a figure. -/
theorem exists_figure {i : Nat} {w : Text} {d : Cursor}
    (edge : (Cursor.place t i).atWordEdge = true) (h : digits (.place t i) = some (w, d)) :
    ∃ f : Figure t, f.start = i ∧ f.digits = w ∧ d = .place t f.span.stop := by
  obtain ⟨r, rfl, rfl⟩ := exists_digitRun edge h
  have hplace : d = .place t r.span.stop :=
    (Prod.mk.inj (Option.some.inj (h.symm.trans r.digits_place_start))).2
  rw [r.place_start, Number.front ⟨r.nonempty, r.allDigits⟩] at edge
  exact ⟨⟨r, edge⟩, rfl, rfl, hplace⟩

/-! ## Readers of figures -/

/-- The scanner reads the figures with the property `P` behind them, and then `tail` of what stands
there. -/
structure ReadsFigures (s : Scanner Text) (P : Text → Prop) (tail : Text → Text) : Prop where
  reads {t : Text} (f : Figure t) (h : P f.after) :
    s (.place t f.start) = some (f.digits, .place t (f.span.stop + (tail f.after).length))
  figure {t : Text} {i : Nat} {r : Text × Cursor} (h : s (.place t i) = some r) :
    ∃ f : Figure t, f.start = i ∧ P f.after
  starts (v : Text) : tail v <+: v
  noDigit {v : Text} (h : P v) : ∀ x ∈ tail v, isDecimal x = false

namespace ReadsFigures

variable {s : Scanner Text} {P : Text → Prop} {tail : Text → Text} (hs : ReadsFigures s P tail)

include hs

/-- The piece that is read at a figure. -/
theorem reads_place (f : Figure t) :
    (Cursor.place t f.start).Reads (f.digits ++ tail f.after)
      (.place t (f.span.stop + (tail f.after).length)) := by
  refine f.reads_digits.trans (Cursor.reads_place ?_)
  rw [f.drop_stop]
  exact hs.starts f.after

/-- **What is listed are the figures with the property behind them.** -/
theorem mem_hits_iff {h : Hit Text} :
    h ∈ s.hits t ↔ ∃ f : Figure t, P f.after ∧ h = f.hit (tail f.after) := by
  have sound {h : Hit Text} (m : h ∈ s.hits t) :
      ∃ f : Figure t, P f.after ∧ h = f.hit (tail f.after) := by
    obtain ⟨d, hd, hstop⟩ := eq_some_of_mem_hits m
    obtain ⟨f, hstart, hf⟩ := hs.figure hd
    rw [← hstart] at hd hstop
    obtain ⟨hvalue, rfl⟩ := Prod.mk.inj (Option.some.inj ((hs.reads f hf).symm.trans hd))
    have hlen := hstop _ (by simp [f.nonempty]) (hs.reads_place f)
    refine ⟨f, hf, ?_⟩
    obtain ⟨value, start, stop⟩ := h
    simp only [List.length_append] at hvalue hstart hlen
    simp only [Figure.hit, hvalue, hstart, hlen, DigitRun.span, Nat.add_assoc]
  refine ⟨sound, ?_⟩
  rintro ⟨f, hf, rfl⟩
  obtain ⟨h, m, hle, hlt⟩ := mem_hits_of_reads f.start_lt_length (hs.reads f hf)
  obtain ⟨g, hg, rfl⟩ := sound m
  rcases Nat.lt_or_eq_of_le hle with hbefore | hsame
  · have := Figure.stop_le_start hbefore (hs.starts g.after) (hs.noDigit hg)
    exact absurd hlt (Nat.not_lt.2 this)
  · rwa [← Figure.eq_of_start hsame]

/-- **The first that is listed is the leftmost figure with the property behind it.** -/
theorem firstHit_eq_some_iff {h : Hit Text} :
    s.firstHit t = some h ↔
      ∃ f : Figure t, f.Leftmost (fun f => P f.after) ∧ h = f.hit (tail f.after) := by
  have sound {h : Hit Text} (m : s.firstHit t = some h) :
      ∃ f : Figure t, f.Leftmost (fun f => P f.after) ∧ h = f.hit (tail f.after) := by
    obtain ⟨f, hf, rfl⟩ := hs.mem_hits_iff.1 (mem_hits_of_firstHit m)
    exact ⟨f, ⟨hf, fun g hg => firstHit_le m g.start_lt_length (hs.reads g hg)⟩, rfl⟩
  refine ⟨sound, ?_⟩
  rintro ⟨f, hf, rfl⟩
  obtain ⟨h, m⟩ := exists_firstHit f.start_lt_length (hs.reads f hf.1)
  obtain ⟨g, hg, rfl⟩ := sound m
  rw [m, hg.eq hf]

theorem firstHit_eq_none_iff : s.firstHit t = none ↔ ∀ f : Figure t, ¬ P f.after := by
  constructor
  · intro h f hf
    obtain ⟨g, hg⟩ := exists_firstHit f.start_lt_length (hs.reads f hf)
    rw [h] at hg
    cases hg
  · intro h
    refine Option.eq_none_iff_forall_ne_some.2 fun g hg => ?_
    obtain ⟨f, hf, -⟩ := hs.firstHit_eq_some_iff.1 hg
    exact h f hf.1

end ReadsFigures

namespace Distance

theorem metreWords_words : ∀ w ∈ metreWords, w ≠ [] ∧ ∀ x ∈ w, isWordChar x = true := by
  decide +kernel

/-- The word for metres behind blanks. -/
theorem metreWord_eq (c : Cursor) :
    wholeWord metreWords (c.advance (c.rest.takeWhile isBlank).length) =
      if HasMeasure c.rest then some ((), c.advance (measureOf c.rest).length) else none := by
  rw [wholeWord_eq metreWords_words, rest_advance_takeWhile, Cursor.advance_advance, measureOf,
    List.length_append]
  rfl

/-- A plural s. -/
theorem plural_eq (c : Cursor) :
    (do one (· == 's'); wordEdge : Scanner Unit) c =
      if Text.firstWord c.rest = ['s'] then some ((), c.advance 1) else none := by
  split_ifs with hfirst
  · obtain ⟨hr, hend⟩ := reads_takeWhile c isWordChar
    rw [show c.rest.takeWhile isWordChar = ['s'] from hfirst] at hr hend
    exact bind_eq_some.2 ⟨(), _, one_eq_some.2 ⟨'s', rfl, hr⟩,
      wordEdge_eq_some.2 ⟨(atWordEdge_of_reads hr (by decide) rfl).2 hend, rfl⟩⟩
  · refine Option.eq_none_iff_forall_ne_some.2 ?_
    rintro ⟨⟨⟩, d⟩ h
    obtain ⟨_, e, hone, hedge⟩ := bind_eq_some.1 h
    obtain ⟨x, hx, hr⟩ := one_eq_some.1 hone
    obtain rfl : x = 's' := beq_iff_eq.1 hx
    obtain ⟨hedge, rfl⟩ := wordEdge_eq_some.1 hedge
    exact hfirst
      (takeWhile_of_reads hr (by decide) ((atWordEdge_of_reads hr (by decide) rfl).1 hedge))

/-- The word edge behind a number, perhaps behind a plural s. -/
theorem wholeNumber_eq {c : Cursor} (hprev : c.prev.any isWordChar = true) :
    oneOf [do one (· == 's'); wordEdge, wordEdge] c =
      if IsWhole c.rest then some ((), c.advance (Text.firstWord c.rest).length) else none := by
  have hedge : wordEdge c = if Text.firstWord c.rest = [] then some ((), c) else none := by
    simp [wordEdge, Cursor.atWordEdge, hprev, Text.firstWord_eq_nil_iff]
  by_cases hs : Text.firstWord c.rest = ['s']
  · simp [oneOf, plural_eq, IsWhole, hs]
  · by_cases hnil : Text.firstWord c.rest = []
    · simp [oneOf, plural_eq, IsWhole, hnil, hedge, advance_zero]
    · simp [oneOf, plural_eq, IsWhole, hs, hnil, hedge]

/-- A number with a measure. -/
theorem measured_readsFigures : ReadsFigures measured HasMeasure measureOf where
  reads {t} f h := by
    have hrest : (Cursor.place t f.span.stop).rest = f.after := f.drop_stop
    have hblanks : blanks (.place t f.span.stop) =
        some ((), (Cursor.place t f.span.stop).advance (f.after.takeWhile isBlank).length) := by
      rw [← hrest]
      rfl
    have hword := metreWord_eq (.place t f.span.stop)
    rw [hrest, if_pos h, Cursor.place_advance _ _ (measureOf f.after).length] at hword
    refine (wordEdge_bind f.atWordEdge_start _).trans ((bind_of_some f.digits_place_start).trans ?_)
    exact (bind_of_some hblanks).trans (bind_of_some hword)
  figure {t i} := by
    rintro ⟨n, e⟩ h
    simp only [measured, bind_eq_some, wordEdge_eq_some] at h
    obtain ⟨-, _, ⟨edge, rfl⟩, w, c, hw, ⟨⟩, d, hb, ⟨⟩, e', hword, -⟩ := h
    obtain ⟨f, rfl, -, rfl⟩ := exists_figure edge hw
    obtain ⟨-, rfl⟩ := Prod.mk.inj (Option.some.inj hb)
    rw [metreWord_eq, Option.ite_none_right_eq_some] at hword
    refine ⟨f, rfl, ?_⟩
    rw [← f.drop_stop]
    exact hword.1
  starts v := by
    obtain ⟨r, hr⟩ := List.takeWhile_prefix (l := v.trimStart) isWordChar
    refine ⟨r, ?_⟩
    rw [measureOf, List.append_assoc, Text.nextWord, Text.firstWord, hr]
    exact List.takeWhile_append_dropWhile
  noDigit h := not_isDecimal_of_mem_measureOf h

/-- The word edge behind a figure is seen from its last digit. -/
theorem wholeNumber_place (f : Figure t) :
    oneOf [do one (· == 's'); wordEdge, wordEdge] (.place t f.span.stop) =
      if IsWhole f.after then some ((), .place t (f.span.stop + f.after.firstWord.length))
      else none := by
  obtain ⟨q, hq, hplace⟩ := f.exists_place_stop
  have hprev : (Cursor.place t f.span.stop).prev.any isWordChar = true := by
    rw [hplace]
    exact isWordChar_of_isDecimal hq
  have hrest : (Cursor.place t f.span.stop).rest = f.after := f.drop_stop
  rw [wholeNumber_eq hprev, hrest, Cursor.place_advance]

/-- A whole number. -/
theorem bareNumber_readsFigures : ReadsFigures bareNumber IsWhole Text.firstWord where
  reads {t} f h := by
    refine (wordEdge_bind f.atWordEdge_start _).trans ((bind_of_some f.digits_place_start).trans ?_)
    exact bind_of_some ((wholeNumber_place f).trans (if_pos h))
  figure {t i} := by
    rintro ⟨n, e⟩ h
    simp only [bareNumber, bind_eq_some, wordEdge_eq_some] at h
    obtain ⟨-, _, ⟨edge, rfl⟩, w, c, hw, ⟨⟩, d, hword, -⟩ := h
    obtain ⟨f, rfl, -, rfl⟩ := exists_figure edge hw
    rw [wholeNumber_place, Option.ite_none_right_eq_some] at hword
    exact ⟨f, rfl, hword.1⟩
  starts _ := List.takeWhile_prefix _
  noDigit h := not_isDecimal_of_mem_firstWord h

end Distance

/-! ## Distances without repetitions -/

/-- The text writes a positive whole number of lengths. -/
def WritesLengths (n : Text) : Prop := ∃ k, readNumber n = some k ∧ Distance.isWholeLengths k = true

namespace Figure

/-- A number with a measure. -/
def IsMeasured (f : Figure t) : Prop := HasMeasure f.after

/-- A number that is whole. -/
def IsLengths (f : Figure t) : Prop := IsWhole f.after ∧ WritesLengths f.digits

/-- A distance without repetitions starts at the figure. -/
def IsDistance (f : Figure t) : Prop := f.IsMeasured ∨ f.IsLengths

end Figure

namespace Distance

theorem mem_wholeLengths_iff {d : Nat × Span} :
    d ∈ wholeLengths t ↔ ∃ f : Figure t, IsWhole f.after ∧ readNumber f.digits = some d.1 ∧
      isWholeLengths d.1 = true ∧ d.2 = (f.hit f.after.firstWord).span := by
  simp only [wholeLengths, List.mem_filterMap, bareNumber_readsFigures.mem_hits_iff]
  constructor
  · rintro ⟨-, ⟨f, hf, rfl⟩, h⟩
    split at h
    · rename_i n hn
      split_ifs at h with hlengths
      obtain rfl := Option.some.inj h
      exact ⟨f, hf, hn, hlengths, rfl⟩
    · cases h
  · obtain ⟨n, s⟩ := d
    rintro ⟨f, hf, hn, hlengths, rfl⟩
    refine ⟨_, ⟨f, hf, rfl⟩, ?_⟩
    simp [Figure.hit, show readNumber f.digits = some n from hn,
      show isWholeLengths n = true from hlengths]

/-- The whole lengths are listed from left to right. -/
theorem wholeLengths_pairwise (t : Text) :
    (wholeLengths t).Pairwise fun a b => a.2.start ≤ b.2.start := by
  refine List.Pairwise.filterMap _ (fun h h' hle d hd d' hd' => ?_)
    ((hits_pairwise bareNumber t).imp_of_mem fun m _ hle =>
      Nat.le_of_lt (Nat.lt_of_lt_of_le (mem_hits m).1 hle))
  have hspan : d.2 = h.span := by
    split at hd
    · split_ifs at hd
      exact congrArg Prod.snd (Option.some.inj hd).symm
    · cases hd
  have hspan' : d'.2 = h'.span := by
    split at hd'
    · split_ifs at hd'
      exact congrArg Prod.snd (Option.some.inj hd').symm
    · cases hd'
  rwa [hspan, hspan']

/-- **The whole lengths that are read are those of the leftmost figure that writes some.** -/
theorem wholeLengths_head?_iff {d : Nat × Span} :
    (wholeLengths t).head? = some d ↔ ∃ f : Figure t, f.Leftmost Figure.IsLengths ∧
      readNumber f.digits = some d.1 ∧ d.2 = (f.hit f.after.firstWord).span := by
  have sound {d : Nat × Span} (m : (wholeLengths t).head? = some d) :
      ∃ f : Figure t, f.Leftmost Figure.IsLengths ∧
        readNumber f.digits = some d.1 ∧ d.2 = (f.hit f.after.firstWord).span := by
    obtain ⟨f, hf, hn, hlengths, hspan⟩ := mem_wholeLengths_iff.1 (List.mem_of_mem_head? m)
    refine ⟨f, ⟨⟨hf, d.1, hn, hlengths⟩, fun g ⟨hg, n, hgn, hglengths⟩ => ?_⟩, hn, hspan⟩
    have hp := wholeLengths_pairwise t
    have mem : (n, (g.hit g.after.firstWord).span) ∈ wholeLengths t :=
      mem_wholeLengths_iff.2 ⟨g, hg, hgn, hglengths, rfl⟩
    obtain ⟨rest, hrest⟩ := List.head?_eq_some_iff.1 m
    rw [hrest] at hp mem
    rcases List.mem_cons.1 mem with heq | mem
    · exact Nat.le_of_eq (by rw [← heq] at hspan; exact congrArg Span.start hspan.symm)
    · have := List.rel_of_pairwise_cons hp mem
      rwa [hspan] at this
  refine ⟨sound, ?_⟩
  rintro ⟨f, hf, hn, hspan⟩
  obtain ⟨hwhole, n, hn', hlengths⟩ := hf.1
  have mem : d ∈ wholeLengths t := by
    refine mem_wholeLengths_iff.2 ⟨f, hwhole, hn, ?_, hspan⟩
    rwa [← Option.some.inj (hn'.symm.trans hn)]
  obtain ⟨e, he⟩ : ∃ e, (wholeLengths t).head? = some e :=
    Option.ne_none_iff_exists'.1 fun hnone => by
      rw [List.head?_eq_none_iff.1 hnone] at mem
      cases mem
  obtain ⟨g, hg, hgn, hgspan⟩ := sound he
  obtain rfl := hg.eq hf
  rw [he]
  refine congrArg some (Prod.ext (Option.some.inj (hgn.symm.trans hn)) ?_)
  rw [hgspan, hspan]

theorem mem_foldr_insertStart {i : Nat} {ns : List Nat} : i ∈ ns.foldr insertStart [] ↔ i ∈ ns := by
  induction ns with
  | nil => rfl
  | cons n ns ih => rw [List.foldr_cons, mem_insertStart, ih, List.mem_cons]

/-- **The starts that are listed are those of the distances.** -/
theorem mem_starts_iff {i : Nat} :
    i ∈ starts t ↔ ∃ f : Figure t, f.IsDistance ∧ f.start = i := by
  rw [starts, mem_foldr_insertStart, List.mem_append, List.mem_map, List.mem_map]
  simp only [measured_readsFigures.mem_hits_iff, mem_wholeLengths_iff]
  constructor
  · rintro (⟨-, ⟨f, hf, rfl⟩, rfl⟩ | ⟨d, ⟨f, hf, hn, hlengths, hspan⟩, rfl⟩)
    · exact ⟨f, .inl hf, rfl⟩
    · exact ⟨f, .inr ⟨hf, _, hn, hlengths⟩, (congrArg Span.start hspan).symm⟩
  · rintro ⟨f, hf | ⟨hf, n, hn, hlengths⟩, rfl⟩
    · exact .inl ⟨_, ⟨f, hf, rfl⟩, rfl⟩
    · exact .inr ⟨(n, (f.hit f.after.firstWord).span), ⟨f, hf, hn, hlengths, rfl⟩, rfl⟩

end Distance

end SwimSets
