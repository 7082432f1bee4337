import SwimSets.Proofs.Normalizing
import SwimSets.Proofs.Views
import SwimSets.Text.Spellings

/-!
# How a line is spaced

**Theorem (`spacing_indifferent`).** A line without silent characters comes to the same however its
blanks are written: a run of tabs and spaces is as good as one space. In any other line the silent
characters count for nothing. A tab among them parts no words.

**Silent characters** (`withoutSilent`). A control character of ASCII is spelled by nothing, so what
is spelled drops it. Spelling starts at the first character that is not plain; the multiplication
sign is written out before that and does not count. Control characters further up are kept, and the
blanks among them part words as spaces do.

**Blanks** (`SpelledBlank`). The blanks of ASCII are spelled as they stand or are silent. Of any
other blank it has to be asked that it is spelled in blanks.

The proof gives the normalized line character by character, but for its spacing
(`normalize_eq`): each character that is not silent is written in one way wherever it stands
(`written`), and blanks in blanks. So it makes no difference if the blanks are made single spaces
before that (`Text.collapse_flatMap`).
-/

namespace SwimSets

/-! ## Squeezing -/

namespace Text

theorem gap_gap (t : Text) : gap (gap t) = gap t := by
  cases t with
  | nil => rfl
  | cons c r =>
    by_cases h : c = ' '
    · simp [gap, h]
    · simp [gap, h]

/-- Before any text a gap has a blank. -/
theorem eq_nil_of_gap {t : Text} (h : ∀ c ∈ gap t, isBlank c = false) : t = [] := by
  cases t with
  | nil => rfl
  | cons c r =>
    have hspace : ' ' ∈ gap (c :: r) := by
      by_cases hc : c = ' ' <;> simp [gap, hc]
    exact absurd (h ' ' hspace) (by decide)

theorem squeeze_space (t : Text) : squeeze (' ' :: t) = gap (squeeze t) := rfl

/-- Blanks before a text make a gap there. -/
theorem squeeze_blank_append {b : Text} (hne : b ≠ []) (hb : ∀ c ∈ b, isBlank c = true)
    (t : Text) : squeeze (b ++ t) = gap (squeeze t) := by
  induction b with
  | nil => exact absurd rfl hne
  | cons c b ih =>
    obtain ⟨hc, hb⟩ := List.forall_mem_cons.1 hb
    rw [List.cons_append, squeeze, if_pos hc]
    by_cases hnil : b = []
    · rw [hnil, List.nil_append]
    · rw [ih hnil hb, gap_gap]

theorem collapse_append_congr {v w : Text} (h : squeeze v = squeeze w) (u : Text) :
    collapse (u ++ v) = collapse (u ++ w) := by
  rw [collapse, collapse, squeeze_append_congr h]

section

variable {f : Char → Text} (space : f ' ' = [' '])
include space

/-- Blanks may be made single spaces before each character is written out, if blanks are written in
blanks. -/
theorem squeeze_flatMap {t : Text}
    (h : ∀ c ∈ t, isBlank c = true → f c ≠ [] ∧ ∀ d ∈ f c, isBlank d = true) :
    squeeze ((squeeze t).flatMap f) = squeeze (t.flatMap f) := by
  induction t with
  | nil => rfl
  | cons c t ih =>
    obtain ⟨hc, ht⟩ := List.forall_mem_cons.1 h
    have ih := ih ht
    rw [squeeze, List.flatMap_cons]
    by_cases hblank : isBlank c = true
    · obtain ⟨hne, hall⟩ := hc hblank
      rw [if_pos hblank, squeeze_blank_append hne hall, ← ih]
      cases squeeze t with
      | nil => rfl
      | cons d s =>
        by_cases hd : d = ' '
        · subst hd
          rw [gap, if_pos rfl, List.flatMap_cons, space, List.singleton_append, squeeze_space,
            gap_gap]
        · rw [gap, if_neg hd, List.flatMap_cons, space, List.singleton_append, squeeze_space]
    · rw [if_neg hblank, List.flatMap_cons]
      exact squeeze_append_congr ih (f c)

/-- The same for blanks at the ends. -/
theorem collapse_flatMap {t : Text}
    (h : ∀ c ∈ t, isBlank c = true → f c ≠ [] ∧ ∀ d ∈ f c, isBlank d = true) :
    collapse ((collapse t).flatMap f) = collapse (t.flatMap f) := by
  have hblank : ∀ c ∈ ((squeeze t).takeWhile isBlank).flatMap f, isBlank c = true := by
    intro c hc
    obtain ⟨d, hd, hc⟩ := List.mem_flatMap.1 hc
    have hdb := List.mem_takeWhile_imp hd
    rcases mem_squeeze ((List.takeWhile_prefix _).subset hd) with rfl | hdt
    · rw [space, List.mem_singleton] at hc
      rw [hc]
      rfl
    · exact (h d hdt hdb).2 c hc
  have hsplit : (squeeze t).flatMap f =
      ((squeeze t).takeWhile isBlank).flatMap f ++ (collapse t).flatMap f := by
    rw [← List.flatMap_append, collapse, trimStart, List.takeWhile_append_dropWhile]
  rw [← collapse_blank_append hblank, ← hsplit, collapse, squeeze_flatMap space h, collapse]

end

section

variable {f : Char → Char} (hspace : ∀ c, f c = ' ' ↔ c = ' ')
include hspace

theorem gap_map (t : Text) : gap (t.map f) = (gap t).map f := by
  cases t with
  | nil => rfl
  | cons c r =>
    have hkept : f ' ' = ' ' := (hspace ' ').2 rfl
    by_cases h : c = ' '
    · simp [gap, h, hkept]
    · simp [gap, h, hspace c, hkept]

/-- A change of characters that keeps the blanks and the space goes along with squeezing. -/
theorem squeeze_map (hblank : ∀ c, isBlank (f c) = isBlank c) (t : Text) :
    squeeze (t.map f) = (squeeze t).map f := by
  induction t with
  | nil => rfl
  | cons c t ih =>
    rw [List.map_cons, squeeze, squeeze, hblank, ih, gap_map hspace]
    split_ifs <;> rfl

end

end Text

/-! ## Silent characters -/

/-- A character that is kept as it is, or with spaces around it, while no other one has come. -/
def isPlainOrTimes (c : Char) : Bool := isPlain c || c == '×'

/-- A character that is spelled by nothing. The multiplication sign is written out before that. -/
def isSilent [Speller] (c : Char) : Bool := c != '×' && Speller.spelling c == some []

/-- The line without its silent characters. None of them is silent before the first one that is
neither plain nor a multiplication sign. -/
def withoutSilent [Speller] : Text → Text
  | [] => []
  | c :: r =>
    if isPlainOrTimes c then c :: withoutSilent r else (c :: r).filter fun d => !isSilent d

section

variable [Speller]

theorem mem_withoutSilent {t : Text} {c : Char} (h : c ∈ withoutSilent t) :
    isPlainOrTimes c = true ∨ isSilent c = false := by
  induction t with
  | nil => cases h
  | cons d r ih =>
    rw [withoutSilent] at h
    split_ifs at h with hd
    · rcases List.mem_cons.1 h with rfl | h
      · exact .inl hd
      · exact ih h
    · exact .inr (by simpa using (List.mem_filter.1 h).2)

theorem withoutSilent_of_not_silent {t : Text} (h : ∀ c ∈ t, isSilent c = false) :
    withoutSilent t = t := by
  induction t with
  | nil => rfl
  | cons c r ih =>
    rw [withoutSilent, ih (List.forall_mem_cons.1 h).2, List.filter_eq_self.2 (by simpa using h)]
    split_ifs <;> rfl

/-- No character is left out where none is silent from the first one on that is spelled. -/
theorem withoutSilent_cons_iff {c : Char} {r : Text} : withoutSilent (c :: r) = c :: r ↔
    if isPlainOrTimes c then withoutSilent r = r else ∀ d ∈ c :: r, isSilent d = false := by
  rw [withoutSilent]
  split_ifs
  · simp
  · simp [List.filter_eq_self]

theorem withoutSilent_tail {c : Char} {r : Text} (h : withoutSilent (c :: r) = c :: r) :
    withoutSilent r = r := by
  rw [withoutSilent_cons_iff] at h
  split_ifs at h
  · exact h
  · exact withoutSilent_of_not_silent fun d hd => h d (List.mem_cons_of_mem c hd)

theorem withoutSilent_withoutSilent (t : Text) :
    withoutSilent (withoutSilent t) = withoutSilent t := by
  induction t with
  | nil => rfl
  | cons c r ih =>
    rw [withoutSilent]
    split_ifs with hc
    · rw [withoutSilent, if_pos hc, ih]
    · refine withoutSilent_of_not_silent fun d hd => ?_
      simpa using (List.mem_filter.1 hd).2

theorem withoutSilent_subset (t : Text) : withoutSilent t ⊆ t := by
  induction t with
  | nil => exact List.Subset.refl _
  | cons c r ih =>
    rw [withoutSilent]
    split_ifs
    · exact List.cons_subset_cons c ih
    · exact List.filter_sublist.subset

/-- No character is silent while only plain ones and multiplication signs have come. -/
theorem withoutSilent_append_plain {u : Text} (h : ∀ c ∈ u, isPlainOrTimes c = true) (t : Text) :
    withoutSilent (u ++ t) = u ++ withoutSilent t := by
  induction u with
  | nil => rfl
  | cons c u ih =>
    obtain ⟨hc, hu⟩ := List.forall_mem_cons.1 h
    rw [List.cons_append, withoutSilent, if_pos hc, ih hu, List.cons_append]

/-- Behind any other character all silent ones are left out. -/
theorem withoutSilent_append_spelled {u : Text} (h : ∃ c ∈ u, isPlainOrTimes c = false)
    (t : Text) : withoutSilent (u ++ t) = withoutSilent u ++ t.filter fun d => !isSilent d := by
  induction u with
  | nil => simp at h
  | cons c u ih =>
    rw [List.cons_append, withoutSilent, withoutSilent]
    split_ifs with hc
    · rw [ih (by simpa [hc] using h), List.cons_append]
    · rw [← List.cons_append, List.filter_append]

/-- A space is plain, so it is kept at the start of a text. -/
theorem withoutSilent_space (t : Text) : withoutSilent (' ' :: t) = ' ' :: withoutSilent t := rfl

/-- Squeezing makes no character silent. -/
theorem withoutSilent_gap {t : Text} (h : withoutSilent t = t) : withoutSilent t.gap = t.gap := by
  cases t with
  | nil => rfl
  | cons c r =>
    by_cases hc : c = ' '
    · rwa [Text.gap, if_pos hc]
    · rw [Text.gap, if_neg hc, withoutSilent_space, h]

variable [Speller.KeepsAscii]

/-- Printable ASCII is not silent. -/
theorem not_isSilent_of_printable {c : Char} (hlow : 32 ≤ c.toNat) (hhigh : c.toNat < 127) :
    isSilent c = false := by
  simp [isSilent, Speller.KeepsAscii.spelling_printable hlow hhigh]

theorem withoutSilent_squeeze {t : Text} (h : withoutSilent t = t) :
    withoutSilent t.squeeze = t.squeeze := by
  induction t with
  | nil => rfl
  | cons c r ih =>
    rw [Text.squeeze]
    by_cases hblank : isBlank c = true
    · rw [if_pos hblank]
      exact withoutSilent_gap (ih (withoutSilent_tail h))
    · rw [if_neg hblank, withoutSilent_cons_iff]
      rw [withoutSilent_cons_iff] at h
      split_ifs at h ⊢
      · exact ih h
      · obtain ⟨hc, hr⟩ := List.forall_mem_cons.1 h
        refine List.forall_mem_cons.2 ⟨hc, fun d hd => ?_⟩
        rcases Text.mem_squeeze hd with rfl | hd
        · exact not_isSilent_of_printable (by decide) (by decide)
        · exact hr d hd

theorem withoutSilent_collapse {t : Text} (h : withoutSilent t = t) :
    withoutSilent t.collapse = t.collapse := by
  have hsqueeze := withoutSilent_squeeze h
  rw [Text.collapse, Text.trimStart]
  generalize t.squeeze = s at hsqueeze
  induction s with
  | nil => rfl
  | cons c r ih =>
    rw [List.dropWhile_cons]
    split_ifs
    · exact ih (withoutSilent_tail hsqueeze)
    · exact hsqueeze

/-- A space may be put for a piece of a line without silent characters. -/
theorem withoutSilent_replace {u b v : Text} (h : withoutSilent (u ++ b ++ v) = u ++ b ++ v) :
    withoutSilent (u ++ ' ' :: v) = u ++ ' ' :: v := by
  induction u with
  | nil =>
    have hv : withoutSilent v = v := by
      induction b with
      | nil => exact h
      | cons c b ih => exact ih (withoutSilent_tail h)
    rw [List.nil_append, withoutSilent_space, hv]
  | cons c u ih =>
    simp only [List.cons_append] at h ⊢
    rw [withoutSilent_cons_iff] at h ⊢
    split_ifs at h ⊢
    · exact ih h
    · intro d hd
      by_cases hspace : d = ' '
      · rw [hspace]
        exact not_isSilent_of_printable (by decide) (by decide)
      · have hmem : d = c ∨ d ∈ u ∨ d ∈ v := by simpa [hspace] using hd
        exact h d (by rcases hmem with rfl | hd | hd <;> simp [*])

end

/-! ## What is written for a character -/

theorem isBlank_lower (c : Char) : isBlank (lower c) = isBlank c :=
  lower_congr isBlank (by decide +kernel) c

theorem lower_eq_space (c : Char) : lower c = ' ' ↔ c = ' ' := by
  have := lower_congr (· == ' ') (by decide +kernel) c
  rw [← beq_iff_eq, this, beq_iff_eq]

section

variable [Speller]

/-- What is spelled for a character before one that does not start with a space. -/
def spelled (c : Char) : Text :=
  match Speller.spelling c with
  | none => "[?]"
  | some s => Speller.close false s

/-- What is written for a character that is not silent. -/
def written (c : Char) : Text :=
  if c = '×' then [' ', 'x', ' '] else if isPlain c then [c] else spelled c

/-- A character that is spelled in blanks, or by nothing. -/
def SpelledBlank (c : Char) : Prop :=
  ∃ s, Speller.spelling c = some s ∧ ∀ d ∈ s, isBlank d = true

/-- Nothing is left out of an empty spelling. -/
theorem close_nil (b : Bool) : Speller.close b [] = [] := by
  rcases Speller.close_eq b [] with h | h
  · exact h
  · exact absurd (congrArg List.length h) (by simp)

/-- A space that is left out of a spelling would have been left out with the spacing. -/
theorem squeeze_close_append {s v : Text} (h : Text.squeeze (' ' :: v) = Text.squeeze v)
    (b : Bool) : Text.squeeze (Speller.close b s ++ v) = Text.squeeze (s ++ v) := by
  rcases Speller.close_eq b s with hs | hs
  · rw [hs]
  · have hsplit : s ++ v = Speller.close b s ++ ' ' :: v := by
      rw [← List.singleton_append, ← List.append_assoc, ← hs]
    rw [hsplit]
    exact (Text.squeeze_append_congr h _).symm

theorem spelled_of_isSilent {c : Char} (h : isSilent c = true) : spelled c = [] := by
  simp only [isSilent, Bool.and_eq_true, beq_iff_eq] at h
  rw [spelled, h.2]
  exact close_nil false

variable [Speller.KeepsAscii]

/-- What is written of a spelling starts as the spelling does. -/
theorem exists_cons_close (b : Bool) (c : Char) (s : Text) :
    ∃ r, Speller.close b (c :: s) = c :: r := by
  rcases Speller.close_eq b (c :: s) with h | h
  · exact ⟨s, h⟩
  · cases hclose : Speller.close b (c :: s) with
    | nil =>
      rw [hclose, List.nil_append] at h
      rw [h, Speller.KeepsAscii.close_singleton] at hclose
      cases hclose
    | cons d r =>
      rw [hclose, List.cons_append] at h
      exact ⟨r, by rw [(List.cons.inj h).1]⟩

theorem spelled_of_isPlain {c : Char} (h : isPlain c = true) (hs : isSilent c = false) :
    spelled c = [c] := by
  have hlt : c.toNat < 127 := by simpa [isPlain] using h
  have hne : c ≠ '×' := by
    rintro rfl
    cases h
  have hlow : 32 ≤ c.toNat := by
    by_contra hlow
    simp [isSilent, hne, Speller.KeepsAscii.spelling_control (.inl (Nat.not_le.1 hlow))] at hs
  rw [spelled, Speller.KeepsAscii.spelling_printable hlow hlt]
  exact Speller.KeepsAscii.close_singleton false c

/-- The blanks of ASCII are spelled so. -/
theorem spelledBlank_of_isPlain {c : Char} (hb : isBlank c = true) (h : isPlain c = true) :
    SpelledBlank c := by
  have hlt : c.toNat < 127 := by simpa [isPlain] using h
  by_cases hlow : 32 ≤ c.toNat
  · exact ⟨[c], Speller.KeepsAscii.spelling_printable hlow hlt, List.forall_mem_singleton.2 hb⟩
  · exact ⟨[], Speller.KeepsAscii.spelling_control (.inl (Nat.not_le.1 hlow)),
      List.forall_mem_nil _⟩

theorem written_of_spelledBlank {c : Char} (hb : isBlank c = true) (h : SpelledBlank c)
    (silent : isPlainOrTimes c = true ∨ isSilent c = false) :
    written c ≠ [] ∧ ∀ d ∈ written c, isBlank d = true := by
  have hne : c ≠ '×' := by
    rintro rfl
    cases hb
  rw [written, if_neg hne]
  by_cases hp : isPlain c = true
  · rw [if_pos hp]
    exact ⟨List.cons_ne_nil c [], List.forall_mem_singleton.2 hb⟩
  · obtain ⟨s, hs, hall⟩ := h
    have hsilent : isSilent c = false := silent.resolve_left (by simp [isPlainOrTimes, hp, hne])
    rw [if_neg hp, spelled, hs]
    dsimp only
    cases s with
    | nil => simp [isSilent, hs, hne] at hsilent
    | cons e s =>
      obtain ⟨r, hr⟩ := exists_cons_close false e s
      refine ⟨by rw [hr]; exact List.cons_ne_nil e r, fun d hd => hall d (Speller.close_subset hd)⟩

/-- Whether a last space is left out makes no difference but to the spacing. -/
theorem squeeze_spell (t : Text) : Text.squeeze (spell t) = Text.squeeze (t.flatMap spelled) := by
  induction t with
  | nil => rfl
  | cons c r ih =>
    rw [spell, List.flatMap_cons, spelled]
    cases hs : Speller.spelling c with
    | none => exact Text.squeeze_append_congr ih _
    | some s =>
      dsimp only
      rw [Text.squeeze_append_congr ih]
      cases hends : endsHere r.head? with
      | false => rfl
      | true =>
        -- The space is the last character, or there is another one after it.
        have hspace :
            Text.squeeze (' ' :: r.flatMap spelled) = Text.squeeze (r.flatMap spelled) := ?_
        · rw [squeeze_close_append hspace, squeeze_close_append hspace]
        cases r with
        | nil => rfl
        | cons d r =>
          simp only [endsHere, List.head?_cons, Option.all_some, Option.any_eq_true,
            beq_iff_eq] at hends
          obtain ⟨u, hu, hhead⟩ := hends
          obtain ⟨w, rfl⟩ := List.head?_eq_some_iff.1 hhead
          obtain ⟨x, hx⟩ := exists_cons_close false ' ' w
          have hspelled : spelled d = ' ' :: x := by
            rw [spelled, hu]
            exact hx
          rw [List.flatMap_cons, hspelled, List.cons_append, Text.squeeze_space,
            Text.squeeze_space, Text.gap_gap]

theorem flatMap_spelled_spaceTimes (t : Text) :
    (spaceTimes t).flatMap spelled = (t.filter fun c => !isSilent c).flatMap written := by
  induction t with
  | nil => rfl
  | cons c r ih =>
    have hcons : spaceTimes (c :: r) = (if c = '×' then [' ', 'x', ' '] else [c]) ++ spaceTimes r :=
      List.flatMap_cons
    rw [hcons, List.flatMap_append, ih]
    by_cases hx : c = '×'
    · subst hx
      have hspelled {d : Char} (hlow : 32 ≤ d.toNat) (hhigh : d.toNat < 127) : spelled d = [d] :=
        spelled_of_isPlain (decide_eq_true hhigh) (not_isSilent_of_printable hlow hhigh)
      have htimes : [' ', 'x', ' '].flatMap spelled = [' ', 'x', ' '] := by
        simp [hspelled]
      rw [if_pos rfl, htimes, List.filter_cons_of_pos (by simp [isSilent]), List.flatMap_cons,
        written, if_pos rfl]
    rw [if_neg hx, List.flatMap_singleton]
    by_cases hc : isSilent c = true
    · rw [spelled_of_isSilent hc, List.filter_cons_of_neg (by simp [hc]), List.nil_append]
    · have hc : isSilent c = false := by simpa using hc
      rw [List.filter_cons_of_pos (by simp [hc]), List.flatMap_cons, written, if_neg hx]
      by_cases hp : isPlain c = true
      · rw [if_pos hp, spelled_of_isPlain hp hc]
      · rw [if_neg hp]

/-- **The line in ASCII, but for its spacing**: what is written for each character that is not
silent. -/
theorem squeeze_toAscii (raw : Text) :
    Text.squeeze (toAscii (spaceTimes raw)) =
      Text.squeeze ((withoutSilent raw).flatMap written) := by
  induction raw with
  | nil => rfl
  | cons c r ih =>
    have hcons : spaceTimes (c :: r) = (if c = '×' then [' ', 'x', ' '] else [c]) ++ spaceTimes r :=
      List.flatMap_cons
    have hplain {u : Text} (hu : ∀ d ∈ u, isPlain d = true) :
        toAscii (u ++ spaceTimes r) = u ++ toAscii (spaceTimes r) := by
      rw [toAscii, toAscii, List.takeWhile_append_of_pos hu, List.dropWhile_append_of_pos hu,
        List.append_assoc]
    rw [withoutSilent]
    by_cases hx : c = '×'
    · subst hx
      rw [if_pos (by decide), hcons, if_pos rfl, hplain (by decide), List.flatMap_cons]
      exact Text.squeeze_append_congr ih _
    by_cases hp : isPlain c = true
    · rw [if_pos (by simp [isPlainOrTimes, hp]), hcons, if_neg hx,
        hplain (List.forall_mem_singleton.2 hp), List.flatMap_cons, written, if_neg hx, if_pos hp]
      exact Text.squeeze_append_congr ih _
    · -- From here on everything is spelled.
      rw [if_neg (by simp [isPlainOrTimes, hp, hx]), ← flatMap_spelled_spaceTimes, ← squeeze_spell,
        hcons, if_neg hx, toAscii, List.singleton_append, List.takeWhile_cons_of_neg hp,
        List.dropWhile_cons_of_neg hp, List.nil_append]

/-! ## Normalizing -/

/-- What is written for a character in a normalized line. -/
def writtenLower (c : Char) : Text := (written c).map lower

theorem writtenLower_of_spelledBlank {c : Char} (hb : isBlank c = true) (h : SpelledBlank c)
    (silent : isPlainOrTimes c = true ∨ isSilent c = false) :
    writtenLower c ≠ [] ∧ ∀ d ∈ writtenLower c, isBlank d = true := by
  obtain ⟨hne, hall⟩ := written_of_spelledBlank hb h silent
  simpa [writtenLower, isBlank_lower, hne] using hall

/-- **The normalized line** is what is written for each character that is not silent, collapsed. -/
theorem normalize_eq (raw : Text) :
    normalize raw = Text.collapse ((withoutSilent raw).flatMap writtenLower) := by
  have hmap : (withoutSilent raw).flatMap writtenLower =
      ((withoutSilent raw).flatMap written).map lower := List.map_flatMap.symm
  rw [normalize, hmap, Text.collapse, Text.collapse,
    Text.squeeze_map lower_eq_space isBlank_lower, squeeze_toAscii,
    ← Text.squeeze_map lower_eq_space isBlank_lower]

/-- **Silent characters and spacing do not show** in the normalized line, where the blanks are
spelled so. -/
theorem normalize_collapse {raw : Text} (h : ∀ c ∈ raw, isBlank c = true → SpelledBlank c) :
    normalize (Text.collapse (withoutSilent raw)) = normalize raw := by
  rw [normalize_eq, normalize_eq, withoutSilent_collapse (withoutSilent_withoutSilent raw)]
  exact Text.collapse_flatMap rfl fun c hc hb =>
    writtenLower_of_spelledBlank hb (h c (withoutSilent_subset raw hc) hb) (mem_withoutSilent hc)

end

/-! ## Kinds of lines -/

namespace Text

theorem collapse_eq_squeeze (t : Text) : collapse t = squeeze (trimStart t) := by
  have hsplit := collapse_blank_append (b := t.takeWhile isBlank)
    (fun c hc => List.mem_takeWhile_imp hc) t.trimStart
  rw [trimStart, List.takeWhile_append_dropWhile] at hsplit
  rw [hsplit, trimStart]
  have hhead := List.head?_dropWhile_not isBlank t
  cases hd : t.dropWhile isBlank with
  | nil => rfl
  | cons c r =>
    have hc : isBlank c = false := by simpa [hd] using hhead
    rw [collapse, trimStart, squeeze, hc]
    exact List.dropWhile_cons_of_neg (by simp [hc])

theorem trimEnd_cons (c : Char) (r : Text) : trimEnd (c :: r) =
    if isBlank c = true ∧ trimEnd r = [] then [] else c :: trimEnd r := by
  rw [trimEnd]
  cases trimEnd r with
  | nil => simp
  | cons d s => simp

theorem trimEnd_eq_squeeze {t : Text}
    (h : (∀ c ∈ squeeze t, isBlank c = false) ∨ ∀ c ∈ trimEnd t, isBlank c = false) :
    trimEnd t = squeeze t := by
  induction t with
  | nil => rfl
  | cons c r ih =>
    rw [squeeze, trimEnd_cons] at h ⊢
    by_cases hc : isBlank c = true
    · -- Neither leaves the blank, so neither leaves anything behind it.
      rw [if_pos hc] at h ⊢
      have hnil : trimEnd r = [] ∧ squeeze r = [] := by
        rcases h with h | h
        · have hs : squeeze r = [] := eq_nil_of_gap h
          exact ⟨(ih (.inl (by simp [hs]))).trans hs, hs⟩
        · have ht : trimEnd r = [] := by
            by_contra hne
            rw [if_neg (by simp [hne])] at h
            simp [h c List.mem_cons_self] at hc
          exact ⟨ht, (ih (.inr (by simp [ht]))).symm.trans ht⟩
      rw [hnil.1, hnil.2, if_pos ⟨hc, rfl⟩]
      rfl
    · rw [if_neg hc] at h ⊢
      rw [if_neg fun hand => hc hand.1] at h ⊢
      rw [ih (h.imp (fun h d hd => h d (List.mem_cons_of_mem c hd))
        fun h d hd => h d (List.mem_cons_of_mem c hd))]

/-- Trimming is collapsing where no blank is left. -/
theorem trim_eq_collapse {t : Text}
    (h : (∀ c ∈ collapse t, isBlank c = false) ∨ ∀ c ∈ trim t, isBlank c = false) :
    trim t = collapse t := by
  rw [collapse_eq_squeeze] at h ⊢
  exact trimEnd_eq_squeeze h

theorem collapse_collapse (t : Text) : collapse (collapse t) = collapse t := by
  have := collapse_flatMap (f := fun c => [c]) rfl (t := t) fun c _ hc =>
    ⟨List.cons_ne_nil c [], List.forall_mem_singleton.2 hc⟩
  simpa using this

end Text

/-- What holds of the three rules holds of each. -/
theorem forall_rule {p : Char → Prop} (h : p '-' ∧ p '_' ∧ p '=') {c : Char}
    (hc : isRule c = true) : p c := by
  simp only [isRule, Bool.or_eq_true, beq_iff_eq] at hc
  obtain (rfl | rfl) | rfl := hc
  · exact h.1
  · exact h.2.1
  · exact h.2.2

theorem not_isBlank_of_isRule {c : Char} (h : isRule c = true) : isBlank c = false :=
  forall_rule (p := fun c => isBlank c = false) (by decide) h

/-- The kind of a line can be told from the line collapsed. -/
theorem LineKind.of_eq (t : Text) : LineKind.of t =
    if t.collapse.isEmpty then .blank else if t.collapse.all isRule then .separator
    else .content := by
  have hrule {u : Text} (h : u.all isRule = true) : ∀ c ∈ u, isBlank c = false :=
    fun c hc => not_isBlank_of_isRule (List.all_eq_true.1 h c hc)
  have hall : t.trim.all isRule = t.collapse.all isRule := by
    rw [Bool.eq_iff_iff]
    constructor
    · intro h
      rwa [← Text.trim_eq_collapse (.inr (hrule h))]
    · intro h
      rwa [Text.trim_eq_collapse (.inl (hrule h))]
  have hnil : t.trim.isEmpty = t.collapse.isEmpty := by
    rw [Bool.eq_iff_iff, List.isEmpty_iff, List.isEmpty_iff]
    constructor
    · intro h
      rw [← Text.trim_eq_collapse (.inr (by simp [h])), h]
    · intro h
      rw [Text.trim_eq_collapse (.inl (by simp [h])), h]
  rw [LineKind.of, hall, hnil]

theorem LineKind.of_collapse (t : Text) : LineKind.of t.collapse = LineKind.of t := by
  rw [LineKind.of_eq, LineKind.of_eq t, Text.collapse_collapse]

/-! ## Lines -/

variable {D : Type} [Metres D]

/-- Lines of one kind that normalize alike come to the same. -/
theorem parseLine_of_normalize_eq [Speller] (number : Nat) {raw raw' : Text}
    (previous : List (ParsedLine D)) (kind : LineKind.of raw' = LineKind.of raw)
    (h : normalize raw' = normalize raw) :
    parseLine number raw' previous = (parseLine number raw previous).labelled number raw' := by
  have hview : LineView.of raw' = LineView.of raw := by simp only [LineView.of, h]
  rw [parseLine, parseLine, kind, hview]
  cases LineKind.of raw with
  | blank | separator => rfl
  | content => exact (parseContent_labelled number number raw raw' _ rfl).symm

/-- A run of blanks that parts the text before it from the text behind it as a space does. -/
inductive Heard [Speller] (u b v : Text) : Prop
  /-- Nothing has to be spelled up to its end. -/
  | plain (all : ∀ c ∈ u ++ b, isPlainOrTimes c = true)
  /-- It stands where the line is spelled, and not all of it is silent. -/
  | spelled (before : ∃ c ∈ u, isPlainOrTimes c = false) (some : ∃ c ∈ b, isSilent c = false)
  /-- No character of the line is silent. -/
  | noneSilent (whole : withoutSilent (u ++ b ++ v) = u ++ b ++ v)

section

variable [Speller] [Speller.KeepsAscii] {u b v : Text}

/-- Silent characters aside, a run that is heard is a run of blanks, and so is the space that is
put for it. -/
theorem Heard.withoutSilent (h : Heard u b v) (hne : b ≠ []) :
    ∃ x y, ∃ c ⊆ b, c ≠ [] ∧ SwimSets.withoutSilent (u ++ b ++ v) = x ++ c ++ y ∧
      SwimSets.withoutSilent (u ++ ' ' :: v) = x ++ ' ' :: y := by
  cases h with
  | plain all =>
    have hu : ∀ c ∈ u, isPlainOrTimes c = true := fun c hc => all c (List.mem_append_left b hc)
    refine ⟨u, SwimSets.withoutSilent v, b, List.Subset.refl b, hne, ?_, ?_⟩
    · rw [withoutSilent_append_plain all]
    · rw [withoutSilent_append_plain hu, withoutSilent_space]
  | spelled before some =>
    refine ⟨SwimSets.withoutSilent u, v.filter fun d => !isSilent d,
      b.filter fun d => !isSilent d, List.filter_sublist.subset, ?_, ?_, ?_⟩
    · obtain ⟨c, hc, hcc⟩ := some
      exact List.ne_nil_of_mem (List.mem_filter.2 ⟨hc, by simp [hcc]⟩)
    · rw [List.append_assoc, withoutSilent_append_spelled before, List.filter_append,
        List.append_assoc]
    · have hspace : isSilent ' ' = false := not_isSilent_of_printable (by decide) (by decide)
      rw [withoutSilent_append_spelled before, List.filter_cons_of_pos (by simp [hspace])]
  | noneSilent whole =>
    exact ⟨u, v, b, List.Subset.refl b, hne, whole, withoutSilent_replace whole⟩

/-- A run of blanks that is heard, and is spelled in blanks, is as good as a space. -/
theorem Heard.normalize_replace (h : Heard u b v) (hne : b ≠ [])
    (hb : ∀ c ∈ b, isBlank c = true ∧ SpelledBlank c) :
    normalize (u ++ ' ' :: v) = normalize (u ++ b ++ v) := by
  obtain ⟨x, y, c, hcb, hc, hwhole, hone⟩ := h.withoutSilent hne
  have hwritten : ∀ d ∈ c, writtenLower d ≠ [] ∧ ∀ e ∈ writtenLower d, isBlank e = true := by
    intro d hd
    have hmem : d ∈ SwimSets.withoutSilent (u ++ b ++ v) := by
      rw [hwhole]
      simp [hd]
    exact writtenLower_of_spelledBlank (hb d (hcb hd)).1 (hb d (hcb hd)).2 (mem_withoutSilent hmem)
  have hnonempty : c.flatMap writtenLower ≠ [] := by
    obtain ⟨d, r, rfl⟩ := List.exists_cons_of_ne_nil hc
    simp [(hwritten d List.mem_cons_self).1]
  have hblank : ∀ e ∈ c.flatMap writtenLower, isBlank e = true := by
    intro e he
    obtain ⟨d, hd, he⟩ := List.mem_flatMap.1 he
    exact (hwritten d hd).2 e he
  rw [normalize_eq, normalize_eq, hone, hwhole, List.append_assoc, List.flatMap_append,
    List.flatMap_append, List.flatMap_append, List.flatMap_cons]
  refine Text.collapse_append_congr ?_ _
  rw [Text.squeeze_blank_append hnonempty hblank]
  exact Text.squeeze_space _

/-- A run of silent characters where the line is spelled is as good as nothing. -/
theorem normalize_append_silent (before : ∃ c ∈ u, isPlainOrTimes c = false)
    (silent : ∀ c ∈ b, isSilent c = true) : normalize (u ++ b ++ v) = normalize (u ++ v) := by
  have hnil : (b.filter fun d => !isSilent d) = [] := by simpa using silent
  rw [normalize_eq, normalize_eq, List.append_assoc, withoutSilent_append_spelled before,
    withoutSilent_append_spelled before, List.filter_append, hnil, List.nil_append]

end

/-- **Spacing makes no difference, silent characters aside.** The normalized line is that of the
line with its silent characters left out and each run of blanks made one space, if its blanks are
spelled in blanks; those of ASCII are. Any run of such blanks that is heard may be made one space,
and the line comes to the same. A run of silent characters is as good as nothing. -/
theorem spacing_indifferent [Speller] [Speller.KeepsAscii] (number : Nat) (raw : Text)
    (previous : List (ParsedLine D)) :
    ((∀ c ∈ raw, isBlank c = true → isPlain c = false → SpelledBlank c) →
      normalize raw = normalize (Text.collapse (withoutSilent raw))) ∧
      ∀ u b v, raw = u ++ b ++ v → b ≠ [] → (∀ c ∈ b, isBlank c = true) →
        ((∀ c ∈ b, isPlain c = false → SpelledBlank c) → Heard u b v →
          parseLine number (u ++ ' ' :: v) previous =
            (parseLine number raw previous).labelled number (u ++ ' ' :: v)) ∧
        ((∃ c ∈ u, isPlainOrTimes c = false) → (∀ c ∈ b, isSilent c = true) →
          normalize raw = normalize (u ++ v)) := by
  have spelledBlank {c : Char} (hc : isBlank c = true) (h : isPlain c = false → SpelledBlank c) :
      SpelledBlank c := by
    by_cases hp : isPlain c = true
    · exact spelledBlank_of_isPlain hc hp
    · exact h (Bool.of_not_eq_true hp)
  refine ⟨fun blanks => (normalize_collapse fun c hc hb => spelledBlank hb (blanks c hc hb)).symm,
    fun u b v hraw hne hb => ⟨fun blanks heard => ?_, fun before silent => ?_⟩⟩
  · subst hraw
    have kind : LineKind.of (u ++ ' ' :: v) = LineKind.of (u ++ b ++ v) := by
      have hcollapse : Text.collapse (u ++ ' ' :: v) = Text.collapse (u ++ b ++ v) := by
        rw [List.append_assoc]
        refine Text.collapse_append_congr ?_ u
        rw [Text.squeeze_blank_append hne hb, Text.squeeze_space]
      rw [← LineKind.of_collapse, hcollapse, LineKind.of_collapse]
    exact parseLine_of_normalize_eq number previous kind <|
      heard.normalize_replace hne fun c hc => ⟨hb c hc, spelledBlank (hb c hc) (blanks c hc)⟩
  · subst hraw
    exact normalize_append_silent before silent

/-- A run of tabs and spaces in a plain line, and a silent tab behind a dash. -/
theorem spacing_indifferent_tabs :
    let raw : Text := "4 x\t \t100m bk"
    let one : Text := "4 x 100m bk"
    let dashed : Text := "–  4 x 100m\tbk"
    Speller.KeepsAscii ∧ parseLine (D := Rat) 1 one [] = (parseLine 1 raw []).labelled 1 one ∧
      parseLine (D := Rat) 1 raw [] = .accepted 1 raw [⟨.backstroke, .swim, 400⟩] [] ∧
      Text.collapse (withoutSilent dashed) = "– 4 x 100mbk".toList ∧
      normalize dashed = normalize (Text.collapse (withoutSilent dashed)) := by
  intro raw one dashed
  have hplain : ∀ c ∈ "\t \t".toList, isPlain c = true := by decide
  have hdashed : ∀ c ∈ dashed, isBlank c = true → isPlain c = true := by decide
  refine ⟨inferInstance, ?_, by decide +kernel, by decide +kernel, ?_⟩
  · exact ((spacing_indifferent 1 raw []).2 "4 x".toList "\t \t".toList "100m bk".toList rfl
      (by decide) (by decide)).1 (fun c hc h => absurd (hplain c hc) (by simp [h]))
      (.plain (by decide))
  · exact (spacing_indifferent (D := Rat) 1 dashed []).1 fun c hc hb h =>
      absurd (hdashed c hc hb) (by simp [h])

/-- Behind a dash a tab parts no words: the stroke is not found, and another one is assumed. -/
theorem tab_parts_no_words :
    let raw : Text := "– 4 x 100m\tbk"
    let one : Text := Text.collapse raw
    normalize raw ≠ normalize one ∧
      parseLine (D := Rat) 1 raw [] =
        .accepted 1 raw [⟨.frontCrawl, .swim, 400⟩] [.strokeAssumed] ∧
      parseLine (D := Rat) 1 one [] = .accepted 1 one [⟨.backstroke, .swim, 400⟩] [] :=
  ⟨by decide +kernel, by decide +kernel, by decide +kernel⟩

end SwimSets
