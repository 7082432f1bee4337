import Mathlib.Data.List.Basic
import SwimSets.Proofs.Blocks
import SwimSets.Proofs.Failing
import SwimSets.Proofs.Spacing
import SwimSets.Text.Spellings

/-!
# Layout in other characters

Whether a line is layout is told from the line as written. All else is read from the normalized
line, and that can look like layout where the line as written does not.

**Layout stays layout** (`normalize_of_layout`). A blank line or a separator normalizes to what it
is without the blanks at its ends.

**Content can become layout** (`kind_normalize`). A row of en dashes is spelled as a row of dashes,
and a soft hyphen as nothing. Such a line is still content, nothing can be read from it
(`refused_of_rules`), and a repeat below it looks past it.

Main result: `layout_normalized`.
-/

namespace SwimSets

/-! ## Trimming -/

namespace Text

/-- A text is what is left of it trimmed, between blanks. -/
theorem exists_trim (t : Text) : ∃ b b', (∀ c ∈ b, isBlank c = true) ∧
    (∀ c ∈ b', isBlank c = true) ∧ t = b ++ (trim t ++ b') := by
  have hend (u : Text) : ∃ b, (∀ c ∈ b, isBlank c = true) ∧ u = trimEnd u ++ b := by
    induction u with
    | nil => exact ⟨[], by simp, rfl⟩
    | cons c r ih =>
      obtain ⟨b, hb, hr⟩ := ih
      rw [trimEnd_cons]
      split_ifs with h
      · rw [h.2, List.nil_append] at hr
        exact ⟨c :: r, List.forall_mem_cons.2 ⟨h.1, by rwa [hr]⟩, rfl⟩
      · exact ⟨b, hb, by rw [List.cons_append, ← hr]⟩
  obtain ⟨b, hb, h⟩ := hend (trimStart t)
  refine ⟨t.takeWhile isBlank, b, fun c hc => List.mem_takeWhile_imp hc, hb, ?_⟩
  rw [trim, ← h, trimStart, List.takeWhile_append_dropWhile]

/-- A change of characters that keeps the blanks goes along with trimming. -/
theorem trim_map {f : Char → Char} (h : ∀ c, isBlank (f c) = isBlank c) (t : Text) :
    trim (t.map f) = (trim t).map f := by
  have hend (u : Text) : trimEnd (u.map f) = (trimEnd u).map f := by
    induction u with
    | nil => rfl
    | cons c r ih =>
      simp only [List.map_cons, trimEnd_cons, ih, h, List.map_eq_nil_iff]
      split_ifs <;> rfl
  have hp : isBlank ∘ f = isBlank := funext h
  rw [trim, trimStart, List.dropWhile_map, hp, hend, trim, trimStart]

theorem collapse_of_nonblank {w : Text} (h : ∀ c ∈ w, isBlank c = false) : collapse w = w := by
  rw [collapse, squeeze_of_nonblank h, trimStart]
  cases w with
  | nil => rfl
  | cons c w => exact List.dropWhile_cons_of_neg (by simp [h c List.mem_cons_self])

end Text

/-! ## The kind of a normalized line -/

theorem LineKind.of_map_lower (t : Text) : LineKind.of (t.map lower) = LineKind.of t := by
  have hp : isRule ∘ lower = isRule := funext (lower_congr isRule (by decide +kernel))
  rw [LineKind.of, LineKind.of, Text.trim_map isBlank_lower, List.all_map, hp, List.isEmpty_map]

/-- The kind of a normalized line is that of the line in ASCII. -/
theorem kind_normalize [Speller] (raw : Text) :
    LineKind.of (normalize raw) = LineKind.of (toAscii (spaceTimes raw)) := by
  rw [normalize, LineKind.of_collapse, LineKind.of_map_lower]

/-- A line is layout if it has only rules between the blanks at its ends. -/
theorem LineKind.ne_content_iff {t : Text} :
    LineKind.of t ≠ .content ↔ ∀ c ∈ Text.trim t, isRule c = true := by
  rw [← List.all_eq_true, LineKind.of]
  cases h : Text.trim t with
  | nil => simp
  | cons c r => by_cases hall : (c :: r).all isRule = true <;> simp [hall]

/-- Layout has no blanks to squeeze between those at its ends. -/
theorem LineKind.trim_eq_collapse {t : Text} (h : LineKind.of t ≠ .content) :
    Text.trim t = Text.collapse t :=
  Text.trim_eq_collapse (.inr fun c hc => not_isBlank_of_isRule (ne_content_iff.1 h c hc))

section

variable [Speller] [Speller.KeepsAscii]

/-- No rule is silent. -/
theorem withoutSilent_between (b : Text) {r : Text} (hr : ∀ c ∈ r, isRule c = true) (b' : Text) :
    ∃ x ⊆ b, ∃ y ⊆ b', withoutSilent (b ++ (r ++ b')) = x ++ (r ++ y) := by
  by_cases hb : ∀ c ∈ b, isPlainOrTimes c = true
  · refine ⟨b, List.Subset.refl b, withoutSilent b', withoutSilent_subset b', ?_⟩
    rw [withoutSilent_append_plain hb,
      withoutSilent_append_plain fun c hc =>
        forall_rule (p := fun c => isPlainOrTimes c = true) (by decide) (hr c hc)]
  · have hspelled : ∃ c ∈ b, isPlainOrTimes c = false := by simpa using hb
    have hkept : (r.filter fun c => !isSilent c) = r := by
      refine List.filter_eq_self.2 fun c hc => ?_
      have hcode : 32 ≤ c.toNat ∧ c.toNat < 127 :=
        forall_rule (p := fun c => 32 ≤ c.toNat ∧ c.toNat < 127) (by decide) (hr c hc)
      rw [not_isSilent_of_printable hcode.1 hcode.2]
      rfl
    refine ⟨withoutSilent b, withoutSilent_subset b, b'.filter fun c => !isSilent c,
      List.filter_sublist.subset, ?_⟩
    rw [withoutSilent_append_spelled hspelled, List.filter_append, hkept]

/-- **Layout normalizes to itself**, but for the blanks at its ends, if these are spelled so. -/
theorem normalize_of_layout {raw : Text} (h : LineKind.of raw ≠ .content)
    (blanks : ∀ c ∈ raw, isBlank c = true → SpelledBlank c) :
    normalize raw = Text.trim raw := by
  have hr := LineKind.ne_content_iff.1 h
  obtain ⟨b, b', hb, hb', hraw⟩ := Text.exists_trim raw
  generalize Text.trim raw = r at hr hraw ⊢
  obtain ⟨x, hx, y, hy, hsilent⟩ := withoutSilent_between b hr b'
  rw [← hraw] at hsilent
  have hblank {z : Text} (hz : ∀ c ∈ z, isBlank c = true) (hmem : z ⊆ withoutSilent raw) :
      ∀ d ∈ z.flatMap writtenLower, isBlank d = true := by
    intro d hd
    obtain ⟨c, hc, hd⟩ := List.mem_flatMap.1 hd
    have hraw := blanks c (withoutSilent_subset raw (hmem hc)) (hz c hc)
    exact (writtenLower_of_spelledBlank (hz c hc) hraw (mem_withoutSilent (hmem hc))).2 d hd
  have hrules : r.flatMap writtenLower = r := by
    have hself : ∀ c ∈ r, writtenLower c = [c] := fun c hc =>
      forall_rule (p := fun c => writtenLower c = [c]) ⟨rfl, rfl, rfl⟩ (hr c hc)
    rw [List.flatMap_congr hself, List.flatMap_singleton']
  rw [normalize_eq, hsilent, List.flatMap_append, List.flatMap_append, hrules,
    Text.collapse_blank_append (hblank (fun c hc => hb c (hx hc)) (by simp [hsilent])),
    Text.collapse_append_blank r (hblank (fun c hc => hb' c (hy hc)) (by simp [hsilent])),
    Text.collapse_of_nonblank fun c hc => not_isBlank_of_isRule (hr c hc)]

theorem kind_of_layout {raw : Text} (h : LineKind.of raw ≠ .content)
    (blanks : ∀ c ∈ raw, isBlank c = true → SpelledBlank c) :
    LineKind.of (normalize raw) = LineKind.of raw := by
  rw [normalize_of_layout h blanks, LineKind.trim_eq_collapse h, LineKind.of_collapse]

end

/-- A line of plain characters is of the kind that it has when normalized. -/
theorem kind_of_plain [Speller] {raw : Text} (h : ∀ c ∈ raw, isPlain c = true) :
    LineKind.of (normalize raw) = LineKind.of raw := by
  rw [kind_normalize, spaceTimes_of_plain h, toAscii_of_plain h]

/-! ## Lines that look like layout when normalized -/

namespace Scanner.OpensWith

/-- A scanner finds nothing where no character is one that it opens with. -/
theorem hits_eq_nil {α : Type} {p : Char → Bool} {s : Scanner α} (hs : OpensWith p s) {t : Text}
    (ht : ∀ c ∈ t, p c = false) : s.hits t = [] := by
  refine List.eq_nil_iff_forall_not_mem.2 fun h hh => ?_
  obtain ⟨d, hd, -⟩ := eq_some_of_mem_hits hh
  have hfails := hs (Cursor.place t h.span.start) <| (Option.any_eq_false _ _).2 fun c hc =>
    ht c (List.mem_of_mem_drop (List.mem_of_mem_head? hc))
  rw [hfails] at hd
  cases hd

theorem occursIn_eq_false {α : Type} {p : Char → Bool} {s : Scanner α} (hs : OpensWith p s)
    {t : Text} (ht : ∀ c ∈ t, p c = false) : s.occursIn t = false := by
  rw [occursIn, hs.hits_eq_nil ht]
  rfl

end Scanner.OpensWith

open Scanner in
/-- A text without digits has no distance. -/
theorem Distance.read_eq_none {t : Text} (ht : ∀ c ∈ t, isDecimal c = false) :
    Distance.read t = none := by
  have hreps : repsTimes.hits t = [] :=
    OpensWith.hits_eq_nil (.wordEdge_bind (.bind (.run _) _)) ht
  have hmeasured : measured.hits t = [] :=
    OpensWith.hits_eq_nil (.wordEdge_bind (.bind (.run _) _)) ht
  have hbare : bareNumber.hits t = [] :=
    OpensWith.hits_eq_nil (.wordEdge_bind (.bind (.run _) _)) ht
  simp [read, readBare, wholeLengths, firstHit, hreps, hmeasured, hbare]

variable {D : Type} [Metres D]

/-- **Nothing is read from a line of content with only rules** when normalized. -/
theorem refused_of_rules [Speller] (number : Nat) {raw : Text}
    (content : LineKind.of raw = .content) (rules : ∀ c ∈ normalize raw, isRule c = true)
    (previous : List (ParsedLine D)) :
    parseLine number raw previous = .refused number raw .noDistance := by
  have hletter : ∀ c ∈ normalize raw, isAsciiLetter c = false := fun c hc =>
    forall_rule (p := fun c => isAsciiLetter c = false) (by decide) (rules c hc)
  have hdigit : ∀ c ∈ (LineView.of raw).measurable, isDecimal c = false := by
    intro c hc
    rcases mem_stripAsides hc with rfl | hc
    · decide
    · exact forall_rule (p := fun c => isDecimal c = false) (by decide) (rules c hc)
  have hasked : Repeat.isAsked (LineView.of raw).normalized = false :=
    (Scanner.OpensWith.word rfl).occursIn_eq_false hletter
  have hlanes : laneConditional.occursIn (LineView.of raw).normalized = false :=
    Scanner.OpensWith.occursIn_eq_false (.wordEdge_bind (.bind (.anyWord (by decide)) _)) hletter
  have hsingle : ¬ 1 < Distance.countMultipliers (LineView.of raw).measurable := by
    have hnone : Distance.multiplier.hits (LineView.of raw).measurable = [] :=
      Scanner.OpensWith.hits_eq_nil (.wordEdge_bind (.bind (.run _) _)) hdigit
    simp [Distance.countMultipliers, hnone]
  simp only [parseLine, content, parseContent, hasked, hlanes, hsingle,
    Distance.read_eq_none hdigit, Bool.false_eq_true, if_false]

omit [Metres D] in
/-- A repeat looks past a line of content just above it that was not understood. -/
theorem Repeat.resolve_refused {reason : UnparsedReason} (h : reason.isLayout = false)
    (previous : List (ParsedLine D)) (number : Nat) (text : Text) :
    resolve (previous ++ [.refused number text reason]) = resolve previous := by
  have hlayout : (ParsedLine.refused number text reason : ParsedLine D).isLayout = false := h
  rw [resolve, List.reverse_append, List.reverse_singleton, List.singleton_append, collect,
    hlayout]
  rfl

/-- **Layout, when normalized.** A line is of the kind that its normalized form has, unless it is
content as written and nothing but rules stands in it in ASCII; a line of plain characters always
is. Where the kinds agree a layout line is no unparsed line and ends the search of a repeat. Where
they do not the line has no distance, and a repeat looks past it. It is asked that the blanks of a
layout line are spelled in blanks. -/
theorem layout_normalized [Speller] [Speller.KeepsAscii] (number : Nat) (raw : Text)
    (previous : List (ParsedLine D))
    (blanks : LineKind.of raw ≠ .content → ∀ c ∈ raw, isBlank c = true → SpelledBlank c) :
    (LineKind.of (normalize raw) = LineKind.of raw ↔
      (LineKind.of raw = .content →
        ∃ c ∈ Text.trim (toAscii (spaceTimes raw)), isRule c = false)) ∧
    ((∀ c ∈ raw, isPlain c = true) → LineKind.of (normalize raw) = LineKind.of raw) ∧
    (LineKind.of raw ≠ .content →
      (parseLine number raw previous).isUnparsed = false ∧
        Repeat.resolve (previous ++ [parseLine number raw previous]) = none) ∧
    (LineKind.of (normalize raw) ≠ LineKind.of raw →
      parseLine number raw previous = .refused number raw .noDistance ∧
        Repeat.resolve (previous ++ [parseLine number raw previous]) =
          Repeat.resolve previous) := by
  have hcontent (content : LineKind.of raw = .content) :
      LineKind.of (normalize raw) = .content ↔
        ∃ c ∈ Text.trim (toAscii (spaceTimes raw)), isRule c = false := by
    rw [kind_normalize, ← not_iff_not, ← ne_eq, LineKind.ne_content_iff]
    simp
  have hlayout (layout : LineKind.of raw ≠ .content) :
      LineKind.of (normalize raw) = LineKind.of raw := kind_of_layout layout (blanks layout)
  refine ⟨?_, kind_of_plain, fun layout => ?_, fun differ => ?_⟩
  · by_cases content : LineKind.of raw = .content
    · rw [content, hcontent content]
      simp
    · simp [content, hlayout content]
  · rw [parseLine]
    cases hkind : LineKind.of raw with
    | blank | separator => exact ⟨rfl, Repeat.resolve_layout 0 rfl previous []⟩
    | content => exact absurd hkind layout
  · have content : LineKind.of raw = .content := by
      by_contra layout
      exact differ (hlayout layout)
    rw [content] at differ
    have hself : Text.trim (normalize raw) = normalize raw :=
      (LineKind.trim_eq_collapse differ).trans (Text.collapse_collapse _)
    have rules := LineKind.ne_content_iff.1 differ
    rw [hself] at rules
    rw [refused_of_rules number content rules]
    exact ⟨rfl, Repeat.resolve_refused rfl previous number raw⟩

/-- A row of rules between tabs, one behind a blank that is no ASCII, and a row of dashes. -/
theorem layout_normalized_rows :
    let above : List (ParsedLine Rat) := [.accepted 1 "100m bk" [⟨.backstroke, .swim, 100⟩] []]
    let plain : Text := "\t--- ===\t"
    let ruled : Text := "\u00a0---"
    let dashes : Text := "–––"
    Speller.KeepsAscii ∧ (∀ c ∈ ruled, isBlank c = true → SpelledBlank c) ∧
      LineKind.of (normalize plain) = LineKind.of plain ∧
      LineKind.of (normalize ruled) = .separator ∧
      Repeat.resolve (above ++ [parseLine 2 ruled above]) = none ∧
      parseLine 2 dashes above = .refused 2 dashes .noDistance := by
  intro above plain ruled dashes
  have blanks : ∀ c ∈ ruled, isBlank c = true → SpelledBlank c := by
    intro c hc hb
    have hcases : c = '\u00a0' ∨ isBlank c = false :=
      (by decide : ∀ c ∈ ruled, c = '\u00a0' ∨ isBlank c = false) c hc
    obtain rfl := hcases.resolve_right (by simp [hb])
    exact ⟨[' '], by decide +kernel, by decide⟩
  have hruled := layout_normalized 2 ruled above fun _ => blanks
  refine ⟨inferInstance, blanks, ?_, ?_, (hruled.2.2.1 (by decide +kernel)).2, ?_⟩
  · exact (layout_normalized (D := Rat) 2 plain [] fun h => absurd rfl h).2.1 (by decide +kernel)
  · rw [hruled.1.2 fun content => absurd content (by decide +kernel)]
    decide +kernel
  · exact ((layout_normalized 2 dashes above fun h => absurd rfl h).2.2.2 (by decide +kernel)).1

/-- A row of en dashes is no separator as written, though it is one when normalized, and a repeat
takes the line above it. -/
theorem repeat_across_dashes :
    Speller.spelling '–' = some ['-'] ∧ LineKind.of "–––".toList = .content ∧
      LineKind.of (normalize "–––") = .separator ∧
      (parse (D := Rat) "100m bk\n–––\nRepeat").lines =
        [.accepted 1 "100m bk" [⟨.backstroke, .swim, 100⟩] [], .refused 2 "–––" .noDistance,
          .accepted 3 "Repeat" [⟨.backstroke, .swim, 100⟩] [.repeated 1]] :=
  ⟨by decide +kernel, by decide +kernel, by decide +kernel, by decide +kernel⟩

end SwimSets
