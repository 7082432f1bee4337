import SwimSets.Proofs.Characters

/-!
# Normalizing a line with more before or behind it

**What normalizing keeps** (`isKept`). Printable ASCII without capitals is spelled as it stands,
where the way of spelling keeps ASCII. Such a text may be written before or behind a line before or
after normalizing, except for the spaces at the seam.

**More behind** (`normalize_append`). A space and a text that normalizing keeps stand behind the
normalized line as they do behind the line. Only where the line normalizes to nothing the space is
gone.

**More before** (`normalize_prepend`). A text that normalizing keeps, a comma and a space stand
before the normalized line as well. Only where the line normalizes to nothing the space is gone.
-/

namespace SwimSets

/-! ## Squeezing -/

namespace Text

theorem trimStart_append (u v : Text) : trimStart (trimStart u ++ v) = trimStart (u ++ v) := by
  induction u with
  | nil => rfl
  | cons c u ih =>
    by_cases hc : isBlank c = true
    · simpa only [trimStart, List.cons_append, List.dropWhile_cons_of_pos hc] using ih
    · rw [trimStart, trimStart, List.dropWhile_cons_of_neg hc]
      rfl

theorem gap_cons {c : Char} (h : isBlank c = false) (r : Text) : gap (c :: r) = ' ' :: c :: r := by
  rw [gap, if_neg]
  rintro rfl
  cases h

/-- A gap is the text itself or the text behind a blank. -/
theorem exists_gap (t : Text) : ∃ b, (∀ c ∈ b, isBlank c = true) ∧ gap t = b ++ t := by
  cases t with
  | nil => exact ⟨[], by simp, rfl⟩
  | cons c r =>
    rw [gap]
    split_ifs
    · exact ⟨[], by simp, rfl⟩
    · exact ⟨[' '], List.forall_mem_singleton.2 rfl, rfl⟩

theorem squeeze_append_of_nonblank {w : Text} (h : ∀ c ∈ w, isBlank c = false) (t : Text) :
    squeeze (w ++ t) = w ++ squeeze t := by
  induction w with
  | nil => rfl
  | cons c w ih =>
    obtain ⟨hc, hw⟩ := List.forall_mem_cons.1 h
    rw [List.cons_append, squeeze, hc, ih hw]
    rfl

theorem squeeze_of_nonblank {w : Text} (h : ∀ c ∈ w, isBlank c = false) : squeeze w = w := by
  have := squeeze_append_of_nonblank h []
  simpa [squeeze] using this

theorem squeeze_of_blank {b : Text} (h : ∀ c ∈ b, isBlank c = true) : squeeze b = [] := by
  induction b with
  | nil => rfl
  | cons c b ih =>
    obtain ⟨hc, hb⟩ := List.forall_mem_cons.1 h
    rw [squeeze, if_pos hc, ih hb]
    rfl

/-- A space inside a text is kept if something follows it. -/
theorem squeeze_append_space (u : Text) {c : Char} (hc : isBlank c = false) (r : Text) :
    squeeze (u ++ ' ' :: c :: r) = squeeze u ++ ' ' :: c :: squeeze r := by
  induction u with
  | nil => simp [squeeze, hc, gap_cons hc, show isBlank ' ' = true from rfl]
  | cons d u ih =>
    rw [List.cons_append, squeeze, squeeze, ih]
    split_ifs
    · cases squeeze u with
      | nil => rfl
      | cons e s =>
        rw [List.cons_append, gap, gap]
        split_ifs <;> rfl
    · rfl

theorem squeeze_cases (t : Text) : squeeze t = [] ∨ ∃ c r, isBlank c = false ∧
    (squeeze t = c :: r ∨ squeeze t = ' ' :: c :: r) := by
  induction t with
  | nil => exact .inl rfl
  | cons c t ih =>
    rw [squeeze]
    split_ifs with hc
    · obtain h | ⟨d, r, hd, h | h⟩ := ih
      · exact .inl (by rw [h]; rfl)
      · exact .inr ⟨d, r, hd, .inr (by rw [h, gap_cons hd])⟩
      · exact .inr ⟨d, r, hd, .inr (by rw [h]; rfl)⟩
    · exact .inr ⟨c, _, Bool.of_not_eq_true hc, .inl rfl⟩

/-- A space before a squeezed text, or before the same text collapsed. -/
theorem gap_squeeze (t : Text) : gap (squeeze t) = gap (collapse t) := by
  rw [collapse]
  obtain h | ⟨c, r, hc, h | h⟩ := squeeze_cases t <;> rw [h]
  · rfl
  · rw [trimStart, List.dropWhile_cons_of_neg (by simp [hc])]
  · rw [trimStart, List.dropWhile_cons_of_pos rfl, List.dropWhile_cons_of_neg (by simp [hc]),
      gap_cons hc]
    rfl

/-- Blanks at the end are dropped. -/
theorem collapse_append_blank (t : Text) {b : Text} (h : ∀ c ∈ b, isBlank c = true) :
    collapse (t ++ b) = collapse t := by
  have := squeeze_append_congr (show squeeze b = squeeze [] from squeeze_of_blank h) t
  rw [collapse, collapse, this, List.append_nil]

/-- A sign at the start is kept, and the space before it is dropped. -/
theorem collapse_space_cons {c : Char} (hc : isBlank c = false) (t : Text) :
    collapse (' ' :: c :: t) = c :: squeeze t := by
  have hsq : squeeze (' ' :: c :: t) = ' ' :: c :: squeeze t := by
    rw [squeeze, if_pos (show isBlank ' ' = true from rfl), squeeze, hc]
    exact gap_cons hc _
  rw [collapse, hsq, trimStart, List.dropWhile_cons_of_pos rfl,
    List.dropWhile_cons_of_neg (by simp [hc])]

/-- Blanks at the start are dropped. -/
theorem collapse_blank_append {b : Text} (h : ∀ c ∈ b, isBlank c = true) (t : Text) :
    collapse (b ++ t) = collapse t := by
  induction b with
  | nil => rfl
  | cons c b ih =>
    obtain ⟨hc, hb⟩ := List.forall_mem_cons.1 h
    rw [← ih hb, List.cons_append, collapse, squeeze, if_pos hc, gap_squeeze]
    obtain ⟨g, hg, hgap⟩ := exists_gap (collapse (b ++ t))
    rw [hgap, trimStart, List.dropWhile_append_of_pos hg]
    have := trimStart_append (squeeze (b ++ t)) []
    rwa [List.append_nil, List.append_nil] at this

/-- A collapsed text does not start with a blank. -/
theorem head_collapse (t : Text) : (collapse t).head?.any isBlank = false := by
  have := List.head?_dropWhile_not isBlank (squeeze t)
  cases h : (collapse t).head? with
  | none => rfl
  | some c =>
    rw [collapse, trimStart] at h
    simpa [h] using this

end Text

/-! ## Spelling -/

/-- A character that normalizing keeps: a printable one of ASCII that is no capital. -/
def isKept (c : Char) : Bool := 32 ≤ c.toNat && c.toNat < 127 && !('A' ≤ c && c ≤ 'Z')

theorem isPlain_of_isKept {c : Char} (h : isKept c = true) : isPlain c = true := by
  simp only [isKept, Bool.and_eq_true] at h
  exact h.1.2

theorem lower_of_isKept {c : Char} (h : isKept c = true) : lower c = c := by
  simp only [isKept, Bool.and_eq_true, Bool.not_eq_true'] at h
  rw [lower, if_neg (by simp [h.2])]

theorem spaceTimes_of_isKept {v : Text} (h : ∀ c ∈ v, isKept c = true) : spaceTimes v = v :=
  spaceTimes_of_plain fun c hc => isPlain_of_isKept (h c hc)

theorem spaceTimes_append (u v : Text) : spaceTimes (u ++ v) = spaceTimes u ++ spaceTimes v :=
  List.flatMap_append

section

variable [Speller] [Speller.KeepsAscii]

theorem spelling_of_isKept {c : Char} (h : isKept c = true) :
    Speller.spelling c = some [c] := by
  simp only [isKept, Bool.and_eq_true, decide_eq_true_eq] at h
  exact Speller.KeepsAscii.spelling_printable h.1.1 h.1.2

theorem spell_of_isKept {v : Text} (h : ∀ c ∈ v, isKept c = true) : spell v = v := by
  induction v with
  | nil => rfl
  | cons c v ih =>
    obtain ⟨hc, hv⟩ := List.forall_mem_cons.1 h
    rw [spell, spelling_of_isKept hc, ih hv]
    dsimp only
    rw [Speller.KeepsAscii.close_singleton, List.singleton_append]

/-- Before a space a character is spelled as at the end of the text. -/
theorem spell_append {v : Text} (h : ∀ c ∈ ' ' :: v, isKept c = true) (t : Text) :
    spell (t ++ ' ' :: v) = spell t ++ ' ' :: v := by
  have hspace : endsHere (some ' ') = true := by
    rw [endsHere, Option.all_some, spelling_of_isKept rfl]
    rfl
  induction t with
  | nil => exact spell_of_isKept h
  | cons c r ih =>
    rw [List.cons_append, spell, spell, ih]
    cases Speller.spelling c with
    | none => simp
    | some s =>
      have hends : endsHere (r ++ ' ' :: v).head? = endsHere r.head? := by
        cases r with
        | nil => exact hspace
        | cons d r => rfl
      simp only [hends, List.append_assoc]

theorem toAscii_append {v : Text} (h : ∀ c ∈ ' ' :: v, isKept c = true) (t : Text) :
    toAscii (t ++ ' ' :: v) = toAscii t ++ ' ' :: v := by
  rw [toAscii, toAscii, List.append_assoc, ← spell_append h]
  have hplain : ∀ c ∈ ' ' :: v, isPlain c = true := fun c hc => isPlain_of_isKept (h c hc)
  by_cases ht : ∀ c ∈ t, isPlain c = true
  · rw [List.takeWhile_append_of_pos ht, List.dropWhile_append_of_pos ht,
      List.takeWhile_eq_self_iff.2 hplain, List.dropWhile_eq_nil_iff.2 hplain,
      List.takeWhile_eq_self_iff.2 ht, List.dropWhile_eq_nil_iff.2 ht, List.nil_append,
      spell_of_isKept h]
    exact List.append_nil _
  · have hne : ¬ (t.takeWhile isPlain).length = t.length := fun hlen =>
      ht (List.takeWhile_eq_self_iff.1 ((List.takeWhile_prefix isPlain).eq_of_length hlen))
    have hnd : (t.dropWhile isPlain).isEmpty = false := by
      rw [List.isEmpty_eq_false_iff]
      exact fun hnil => ht (List.dropWhile_eq_nil_iff.1 hnil)
    rw [List.takeWhile_append, if_neg hne, List.dropWhile_append, hnd]
    rfl

end

theorem toAscii_prepend [Speller] {u : Text} (h : ∀ c ∈ u, isKept c = true) (t : Text) :
    toAscii (u ++ t) = u ++ toAscii t := by
  have hplain : ∀ c ∈ u, isPlain c = true := fun c hc => isPlain_of_isKept (h c hc)
  rw [toAscii, toAscii, List.takeWhile_append_of_pos hplain, List.dropWhile_append_of_pos hplain,
    List.append_assoc]

theorem map_lower_of_isKept {v : Text} (h : ∀ c ∈ v, isKept c = true) : v.map lower = v :=
  (List.map_congr_left fun c hc => lower_of_isKept (h c hc)).trans (List.map_id' v)

/-! ## Normalizing -/

/-- **More behind a line.** -/
theorem normalize_append [Speller] [Speller.KeepsAscii] (raw : Text) {c : Char} {v : Text}
    (hc : isBlank c = false) (hv : Text.squeeze v = v) (h : ∀ x ∈ ' ' :: c :: v, isKept x = true) :
    normalize (raw ++ ' ' :: c :: v) = Text.trimStart (normalize raw ++ ' ' :: c :: v) := by
  rw [normalize, spaceTimes_append, spaceTimes_of_isKept h, toAscii_append h, List.map_append,
    map_lower_of_isKept h, Text.collapse, Text.squeeze_append_space _ hc, hv, normalize,
    Text.collapse, Text.trimStart_append]

/-- **More before a line.** -/
theorem normalize_prepend [Speller] {u : Text} (hstart : u.head?.any isBlank = false)
    (hu : ∀ t, Text.squeeze (u ++ ',' :: t) = u ++ ',' :: Text.squeeze t)
    (h : ∀ x ∈ u, isKept x = true) (raw : Text) :
    normalize (u ++ ',' :: ' ' :: raw) = u ++ ',' :: Text.gap (normalize raw) := by
  have hkept : ∀ x ∈ u ++ [',', ' '], isKept x = true := by
    have hcomma : ∀ x ∈ [',', ' '], isKept x = true := by decide
    exact fun x hx => (List.mem_append.1 hx).elim (h x) (hcomma x)
  have hsplit : u ++ ',' :: ' ' :: raw = (u ++ [',', ' ']) ++ raw := by simp
  rw [normalize, hsplit, spaceTimes_append, spaceTimes_of_isKept hkept, toAscii_prepend hkept,
    List.map_append, map_lower_of_isKept hkept, List.append_assoc, Text.collapse]
  show Text.trimStart (Text.squeeze (u ++ ',' :: ' ' :: _)) = _
  rw [hu]
  show Text.trimStart (u ++ ',' :: Text.gap (Text.squeeze _)) = _
  rw [Text.gap_squeeze]
  cases u with
  | nil => rfl
  | cons x u =>
    rw [Text.trimStart, List.cons_append, List.dropWhile_cons_of_neg (by simpa using hstart)]
    rfl

/-- A line with a character that no layout has is content. -/
theorem content_of_mem {raw : Text} {c : Char} (h : c ∈ raw) (hb : isBlank c = false)
    (hr : isRule c = false) : LineKind.of raw = .content := by
  have hc : c ∈ Text.trim raw := (Text.mem_trim h).resolve_left (by simp [hb])
  rw [LineKind.of, if_neg, if_neg]
  · intro hall
    simp [List.all_eq_true.1 hall c hc] at hr
  · intro hnil
    rw [List.isEmpty_iff.1 hnil] at hc
    cases hc

end SwimSets
