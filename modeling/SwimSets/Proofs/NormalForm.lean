import SwimSets.Proofs.Layout
import SwimSets.Proofs.Words

/-!
# The normal form of a line

**Theorem (`normal_form`).** A normalized line is plain ASCII without capitals, in words with one
space between each two. Normalizing it again changes nothing, and lines that differ in the case of
their letters only normalize alike and come to the same.

**Ways of spelling** (`Speller`). All of this holds whatever characters beyond ASCII are spelled
like, as long as they are spelled in ASCII and letters spell themselves, and however a space at the
end of a spelling is treated where another one or the end of the text follows.

**Collapsing** (`Text.collapse_eq_join_words`) is what makes words with single spaces between them;
a text of plain characters is spelled as it stands, and neither lowering nor collapsing finds
anything left to do in a normalized line (`normalize_normalize`).

**Case.** Up to case a line may be lowered before it is spelled (`spell_lower`): letters
spell themselves and are no spaces, so what is spelled around them stays as it is.
-/

namespace SwimSets

/-! ## Collapsing makes words with single spaces -/

namespace Text

/-- What is squeezed are words with single spaces between them, and a space before them if the text
starts with a blank. -/
theorem squeeze_eq_words (t : Text) : squeeze t =
    if t.head?.any isBlank then gap (join [' '] (words t)) else join [' '] (words t) := by
  induction t with
  | nil => rfl
  | cons c r ih =>
    rw [squeeze, List.head?_cons, Option.any_some]
    by_cases hc : isBlank c = true
    · rw [if_pos hc, if_pos hc, words_cons_of_isBlank hc, ih]
      split_ifs
      · exact gap_gap _
      · rfl
    · rw [if_neg hc, if_neg hc, ih]
      have hword : IsWord [c] :=
        ⟨List.cons_ne_nil c [], List.forall_mem_singleton.2 (Bool.of_not_eq_true hc)⟩
      cases r with
      | nil =>
        rw [hword.words_eq]
        rfl
      | cons d r =>
        by_cases hd : isBlank d = true
        · have hwords : words (c :: d :: r) = [c] :: words (d :: r) := by
            rw [words_cons_of_isBlank hd]
            exact hword.words_append hd r
          rw [List.head?_cons, Option.any_some, if_pos hd, hwords]
          cases hws : words (d :: r) with
          | nil => rfl
          | cons w ws =>
            -- The first word starts with no space, so a space is put before it.
            have hw := isWord_of_mem_words (hws ▸ List.mem_cons_self : w ∈ words (d :: r))
            obtain ⟨e, w, rfl⟩ := List.exists_cons_of_ne_nil hw.ne_nil
            rw [join_cons_cons, gap_cons (hw.noBlank e List.mem_cons_self)]
            rw [← join_cons_cons]
            rfl
        · obtain ⟨w, ws, hws, hcws⟩ :=
            exists_words_cons (Bool.of_not_eq_true hc) (Bool.of_not_eq_true hd) r
          rw [List.head?_cons, Option.any_some, if_neg hd, hcws, hws, join_cons_cons]

/-- **A collapsed text is its words** with a space between each two. -/
theorem collapse_eq_join_words (t : Text) : collapse t = join [' '] (words t) := by
  have hstart : trimStart (join [' '] (words t)) = join [' '] (words t) := by
    cases hws : words t with
    | nil => rfl
    | cons w ws =>
      have hw := isWord_of_mem_words (hws ▸ List.mem_cons_self : w ∈ words t)
      obtain ⟨e, w, rfl⟩ := List.exists_cons_of_ne_nil hw.ne_nil
      rw [join_cons_cons, trimStart,
        List.dropWhile_cons_of_neg (by simp [hw.noBlank e List.mem_cons_self])]
  rw [collapse, squeeze_eq_words]
  split_ifs
  · obtain ⟨b, hb, hgap⟩ := exists_gap (join [' '] (words t))
    rw [hgap, trimStart, List.dropWhile_append_of_pos hb]
    exact hstart
  · exact hstart

end Text

/-! ## Lowering -/

theorem isPlain_lower (c : Char) : isPlain (lower c) = isPlain c :=
  lower_congr isPlain (by decide +kernel) c

theorem isUpper_iff {c : Char} : c.isUpper = true ↔ ('A' ≤ c && c ≤ 'Z') = true := by
  show decide (c.val ≥ 'A'.val ∧ c.val ≤ 'Z'.val) = true ↔ _
  rw [decide_eq_true_eq, Bool.and_eq_true, decide_eq_true_eq, decide_eq_true_eq]
  exact Iff.rfl

theorem isUpper_lower (c : Char) : (lower c).isUpper = false := by
  by_cases hc : ('A' ≤ c && c ≤ 'Z') = true
  · simpa using forall_capital (p := fun c => !(lower c).isUpper) (by decide +kernel) hc
  · rw [lower, if_neg (by simpa using hc)]
    exact Bool.eq_false_iff.2 fun h => hc (isUpper_iff.1 h)

theorem lower_of_not_isUpper {c : Char} (h : c.isUpper = false) : lower c = c := by
  rw [lower, if_neg]
  intro hc
  simp [isUpper_iff.2 (by simpa using hc)] at h

theorem lower_lower (c : Char) : lower (lower c) = lower c :=
  lower_of_not_isUpper (isUpper_lower c)

/-- A character that is changed is a letter, and so is what it is changed to. -/
theorem lower_cases (c : Char) :
    lower c = c ∨ isAsciiLetter c = true ∧ isAsciiLetter (lower c) = true := by
  by_cases hc : ('A' ≤ c && c ≤ 'Z') = true
  · refine .inr ?_
    simpa using forall_capital (p := fun c => isAsciiLetter c && isAsciiLetter (lower c))
      (by decide +kernel) hc
  · exact .inl (by rw [lower, if_neg (by simpa using hc)])

theorem spaceTimes_lower (raw : Text) :
    spaceTimes (raw.map lower) = (spaceTimes raw).map lower := by
  rw [spaceTimes, spaceTimes, List.flatMap_map, List.map_flatMap]
  refine congrArg (List.flatMap · raw) (funext fun c => ?_)
  have htimes : (lower c == '×') = (c == '×') := lower_congr (· == '×') (by decide +kernel) c
  by_cases hc : c = '×'
  · subst hc
    rfl
  · rw [if_neg hc, if_neg (by simpa [hc] using htimes), List.map_singleton]

/-! ## Plain characters -/

section

variable [Speller]

theorem not_isUpper_of_mem_normalize {raw : Text} {c : Char} (h : c ∈ normalize raw) :
    c.isUpper = false := by
  rcases Text.mem_collapse h with rfl | h
  · decide
  · obtain ⟨d, -, rfl⟩ := List.mem_map.1 h
    exact isUpper_lower d

/-- **Normalizing again changes nothing.** -/
theorem normalize_normalize (raw : Text) : normalize (normalize raw) = normalize raw := by
  have hplain : ∀ c ∈ normalize raw, isPlain c = true := fun c => isPlain_of_mem_normalize
  have hlower : (normalize raw).map lower = normalize raw := by
    rw [List.map_congr_left fun c hc => lower_of_not_isUpper (not_isUpper_of_mem_normalize hc),
      List.map_id']
  have hcollapse : Text.collapse (normalize raw) = normalize raw := Text.collapse_collapse _
  conv_lhs => rw [normalize]
  rw [spaceTimes_of_plain hplain, toAscii_of_plain hplain, hlower, hcollapse]

/-! ## Case -/

theorem endsHere_lower (next : Option Char) : endsHere (next.map lower) = endsHere next := by
  cases next with
  | none => rfl
  | some c =>
    rcases lower_cases c with h | ⟨hc, hl⟩
    · rw [Option.map_some, h]
    · -- A letter spells itself, so what comes next is no space.
      have hne {d : Char} (hd : isAsciiLetter d = true) : endsHere (some d) = false := by
        have hspace : d ≠ ' ' := by
          rintro rfl
          cases hd
        simp [endsHere, Speller.spelling_letter hd, hspace]
      rw [Option.map_some, hne hl, hne hc]

theorem close_letter {c : Char} (h : isAsciiLetter c = true) (b : Bool) :
    Speller.close b [c] = [c] := by
  rcases Speller.close_eq b [c] with hs | hs
  · exact hs
  · have hlast := congrArg List.getLast? hs
    rw [List.getLast?_concat, List.getLast?_singleton, Option.some.injEq] at hlast
    rw [hlast] at h
    cases h

/-- Up to case it makes no difference if a text is lowered before it is spelled. -/
theorem spell_lower (t : Text) : (spell (t.map lower)).map lower = (spell t).map lower := by
  induction t with
  | nil => rfl
  | cons c r ih =>
    rw [List.map_cons, spell, spell, List.head?_map, endsHere_lower]
    rcases lower_cases c with h | ⟨hc, hl⟩
    · rw [h]
      cases Speller.spelling c with
      | none => rw [List.map_append, List.map_append, ih]
      | some s => rw [List.map_append, List.map_append, ih]
    · rw [Speller.spelling_letter hc, Speller.spelling_letter hl]
      dsimp only
      rw [close_letter hc, close_letter hl, List.map_append, List.map_append, ih,
        List.map_singleton, List.map_singleton, lower_lower]

theorem normalize_lower (raw : Text) : normalize (raw.map lower) = normalize raw := by
  have hp : isPlain ∘ lower = isPlain := funext isPlain_lower
  have hascii (t : Text) : (toAscii (t.map lower)).map lower = (toAscii t).map lower := by
    have hlower :
        ((t.takeWhile isPlain).map lower).map lower = (t.takeWhile isPlain).map lower := by
      rw [List.map_map]
      exact List.map_congr_left fun c _ => lower_lower c
    rw [toAscii, toAscii, List.takeWhile_map, List.dropWhile_map, hp, List.map_append,
      List.map_append, spell_lower, hlower]
  rw [normalize, normalize, spaceTimes_lower, hascii]

end

/-- **The normal form of a line.** However characters are spelled, a normalized line has plain
characters only, no capitals, and words with one space between each two. Normalizing it again
changes nothing. A line with the letters in another case normalizes alike, and comes to the same. -/
theorem normal_form [Speller] {D : Type} [Metres D] (raw : Text) :
    (∀ c ∈ normalize raw, c.toNat < 0x7F ∧ c.isUpper = false) ∧
    (∃ ws, (∀ w ∈ ws, Text.IsWord w) ∧ normalize raw = Text.join [' '] ws) ∧
    normalize (normalize raw) = normalize raw ∧
    ∀ raw' : Text, raw'.map lower = raw.map lower →
      normalize raw' = normalize raw ∧
      ∀ (number : Nat) (previous : List (ParsedLine D)), parseLine number raw' previous =
        (parseLine number raw previous).labelled number raw' := by
  refine ⟨fun c hc => ⟨?_, not_isUpper_of_mem_normalize hc⟩, ?_, normalize_normalize raw,
    fun raw' hcase => ?_⟩
  · exact of_decide_eq_true (isPlain_of_mem_normalize hc)
  · exact ⟨_, fun w => Text.isWord_of_mem_words, Text.collapse_eq_join_words _⟩
  · have hnorm : normalize raw' = normalize raw := by
      rw [← normalize_lower raw', hcase, normalize_lower]
    have hkind : LineKind.of raw' = LineKind.of raw := by
      rw [← LineKind.of_map_lower raw', hcase, LineKind.of_map_lower]
    exact ⟨hnorm, fun number previous => parseLine_of_normalize_eq number previous hkind hnorm⟩

theorem normal_form_medley :
    let raw : Text := "4 × 100M  IM – Kick"
    let raw' : Text := "4 × 100m  im – KICK"
    raw'.map lower = raw.map lower ∧
      normalize raw = "4 x 100m im - kick".toList ∧
      normalize (normalize raw) = normalize raw ∧
      parseLine (D := Rat) 1 raw' [] = (parseLine 1 raw []).labelled 1 raw' := by
  intro raw raw'
  have hcase : raw'.map lower = raw.map lower := by decide +kernel
  have h := normal_form (D := Rat) raw
  exact ⟨hcase, by decide +kernel, h.2.2.1, (h.2.2.2 raw' hcase).2 1 []⟩

end SwimSets
