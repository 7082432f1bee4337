import SwimSets.Proofs.Blocks

/-!
# Line endings

**Theorem (`line_endings_indifferent`).** A session whose lines end with a carriage return and a
newline comes to exactly what it comes to with newlines alone, unless a carriage return stood before
a newline already: that one is then part of the line.

A carriage return that is put before a newline belongs to the line end, and no other character of
the text is followed by a newline any more (`withReturns_ne_newline_cons`). So the lines are cut in
the same places (`Text.lines_withReturns_iff`). A session is read from its lines alone, and keeps
them as they are (`parse_eq_iff`).
-/

namespace SwimSets

/-- The text with a carriage return put before each newline. -/
def withReturns (t : Text) : Text := t.flatMap fun c => if c = '\n' then ['\r', '\n'] else [c]

theorem withReturns_newline (r : Text) :
    withReturns ('\n' :: r) = '\r' :: '\n' :: withReturns r := rfl

theorem withReturns_cons {c : Char} (h : c ≠ '\n') (r : Text) :
    withReturns (c :: r) = c :: withReturns r := by
  rw [withReturns, List.flatMap_cons, if_neg h]
  rfl

/-- No line end is a newline alone. -/
theorem withReturns_ne_newline_cons (t s : Text) : withReturns t ≠ '\n' :: s := by
  cases t with
  | nil => exact fun he => List.cons_ne_nil _ _ he.symm
  | cons c r =>
    by_cases h : c = '\n'
    · subst h
      rw [withReturns_newline]
      intro he
      exact absurd (List.cons.inj he).1 (by decide)
    · rw [withReturns_cons h]
      intro he
      exact h (List.cons.inj he).1

namespace Text

theorem lines_eq_nil_iff {t : Text} : lines t = [] ↔ t = [] := by
  constructor
  · intro h
    by_contra hne
    exact lines_ne_nil hne h
  · rintro rfl
    rfl

/-- The lines are the same exactly when no carriage return stood before a newline. The induction
follows the cutting of the text into lines. -/
theorem lines_withReturns_iff (t : Text) :
    lines (withReturns t) = lines t ↔ ¬ ['\r', '\n'] <:+: t := by
  have extend {c : Char} {r : Text} (hc : c ≠ '\n') (hr : ∀ s, c = '\r' → r ≠ '\n' :: s)
      (ih : lines (withReturns r) = lines r ↔ ¬ ['\r', '\n'] <:+: r) :
      lines (withReturns (c :: r)) = lines (c :: r) ↔ ¬ ['\r', '\n'] <:+: c :: r := by
    have hstart : ¬ ['\r', '\n'] <+: c :: r := by
      rintro ⟨s, hs⟩
      obtain ⟨hcr, hs⟩ := List.cons.inj hs
      exact hr s hcr.symm hs.symm
    have hnil : lines (withReturns r) = [] ↔ lines r = [] := by
      rw [lines_eq_nil_iff, lines_eq_nil_iff]
      cases r with
      | nil => exact Iff.rfl
      | cons d s => by_cases hd : d = '\n' <;> simp [withReturns, hd]
    rw [withReturns_cons hc, lines_cons hc fun s _ => withReturns_ne_newline_cons r s,
      lines_cons hc hr, List.infix_cons_iff, or_iff_right hstart, ← ih]
    -- The first line and the ones below it are all there is of the lines.
    cases hw : lines (withReturns r) with
    | nil => simp [hnil.1 hw]
    | cons l ls =>
      cases hl : lines r with
      | nil => simp [hnil.2 hl] at hw
      | cons m ms => simp
  induction t using lines.induct with
  | case1 => simp [withReturns]
  | case2 r ih =>
    have hstart : ¬ ['\r', '\n'] <+: '\n' :: r := by
      rintro ⟨s, hs⟩
      exact absurd (List.cons.inj hs).1 (by decide)
    have hline : lines (withReturns ('\n' :: r)) = [] :: lines (withReturns r) := rfl
    rw [hline, lines, List.cons_inj_right, List.infix_cons_iff, or_iff_right hstart]
    exact ih
  | case3 r ih =>
    -- The carriage return that was there is the last character of the line.
    have hline : lines (withReturns ('\r' :: '\n' :: r)) = ['\r'] :: lines (withReturns r) := rfl
    have hpair : ['\r', '\n'] <:+: '\r' :: '\n' :: r := (List.prefix_append _ r).isInfix
    simp [hline, hpair, lines]
  | case4 c r hc hr he ih => exact extend hc (fun s hcr hs => hr s hcr hs) ih
  | case5 c r hc hr l ls he ih => exact extend hc (fun s hcr hs => hr s hcr hs) ih

end Text

variable {D : Type} [Metres D]

/-- Texts come to the same exactly when they have the same lines. -/
theorem parse_eq_iff [Speller] (t u : Text) : parse (D := D) t = parse u ↔ t.lines = u.lines := by
  constructor
  · intro h
    rw [← (Tally.accounts_parse (D := D) t).texts, h, (Tally.accounts_parse u).texts]
  · intro h
    rw [parse, h, parse]

/-- **Line endings make no difference.** With a carriage return before each newline a text without
carriage returns comes to the same: the same totals and counts, and the same lines as written. Of
all texts this holds exactly of those in which no carriage return stands before a newline. -/
theorem line_endings_indifferent [Speller] (text : Text) :
    ('\r' ∉ text → parse (D := D) (withReturns text) = parse text) ∧
      (parse (D := D) (withReturns text) = parse text ↔ ¬ ['\r', '\n'] <:+: text) := by
  have h : parse (D := D) (withReturns text) = parse text ↔ ¬ ['\r', '\n'] <:+: text := by
    rw [parse_eq_iff, Text.lines_withReturns_iff]
  refine ⟨fun noReturn => h.2 fun pair => noReturn ?_, h⟩
  exact pair.subset List.mem_cons_self

theorem line_endings_indifferent_repeat :
    let text : Text := "4 x 50m fly\n\n100m bk\nRepeat"
    '\r' ∉ text ∧ withReturns text = "4 x 50m fly\r\n\r\n100m bk\r\nRepeat".toList ∧
      parse (D := Rat) (withReturns text) = parse text :=
  ⟨by decide, by decide, (line_endings_indifferent _).1 (by decide)⟩

end SwimSets
