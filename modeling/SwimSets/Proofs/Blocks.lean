import Mathlib.Algebra.Field.Rat
import Mathlib.Tactic.SplitIfs
import SwimSets.Proofs.Accounting
import SwimSets.Proofs.Views
import SwimSets.Text.Spellings

/-!
# Blocks of a session are independent

**Theorem (`blocks_independent`).** A session that is cut in two by a blank line or a separator
comes to what its two parts come to on their own: the lines of the first, the layout line, and the
lines of the second further down. Counts add up, and so do the exact totals. Nothing that is added
after a session changes what its lines came to.

**Lines of a text.** A text that is empty or ends with a newline can be followed by any other
(`Text.lines_append`), and text without a newline is one line up to the next one
(`Text.lines_newline`).

**Repeats** are the only rule that looks at the lines above. They look upwards until the first
layout line, so what stands above that makes no difference (`Repeat.resolve_layout`). A line of the
second part therefore comes to the same in the whole session, and so, line by line, do all of them
(`Tally.lines_read_layout`, `Tally.lines_foldl_layout`).
-/

namespace SwimSets

/-! ## Cutting a text into lines -/

namespace Text

theorem lines_ne_nil {t : Text} (h : t ≠ []) : lines t ≠ [] := by
  fun_cases lines t with
  | case1 => exact absurd rfl h
  | case2 | case3 => exact List.cons_ne_nil _ _
  | case4 | case5 => simp

/-- A character that ends no line is put before the first line of what follows. -/
theorem lines_cons {c : Char} {r : Text} (h : c ≠ '\n') (h' : ∀ s, c = '\r' → r ≠ '\n' :: s) :
    lines (c :: r) = (c :: (lines r).head?.getD []) :: (lines r).tail := by
  rw [lines.eq_4 c r h fun s hc hr => h' s hc hr]
  cases lines r <;> rfl

/-- After a newline the lines are those of what follows. -/
theorem lines_append {a : Text} (whole : a = [] ∨ a.getLast? = some '\n') (b : Text) :
    lines (a ++ b) = lines a ++ lines b := by
  have rest {c : Char} {r : Text} (h : (c :: r) = [] ∨ (c :: r).getLast? = some '\n') :
      r = [] ∨ r.getLast? = some '\n' := by
    cases r with
    | nil => exact .inl rfl
    | cons d s => simpa using h
  fun_induction lines a with
  | case1 => rfl
  | case2 r ih => simpa [lines] using ih (rest whole)
  | case3 r ih => simpa [lines] using ih (rest (rest whole))
  | case4 c r hc hr he ih =>
    have hnil : r = [] := by
      by_contra hne
      exact lines_ne_nil hne he
    subst hnil
    simp only [List.getLast?_singleton, Option.some.injEq, List.cons_ne_nil, false_or] at whole
    exact absurd whole hc
  | case5 c r hc hr l ls he ih =>
    have hne : r ≠ [] := by
      rintro rfl
      cases he
    have h' : ∀ s, c = '\r' → r ++ b ≠ '\n' :: s := by
      rintro s rfl hs
      obtain ⟨d, r, rfl⟩ := List.exists_cons_of_ne_nil hne
      obtain ⟨rfl, -⟩ := List.cons.inj hs
      exact hr r rfl rfl
    rw [List.cons_append, lines_cons hc h', ih (rest whole), he]
    rfl

/-- A line as it is read: a carriage return at its end belongs to the line end. -/
def lineText (s : Text) : Text := if s.getLast? = some '\r' then s.dropLast else s

/-- Text without a newline is one line. -/
theorem lines_newline {s : Text} (h : '\n' ∉ s) (b : Text) :
    lines (s ++ '\n' :: b) = lineText s :: lines b := by
  induction s with
  | nil => rfl
  | cons c r ih =>
    have hc : c ≠ '\n' := fun e => h (e ▸ List.mem_cons_self)
    have hr : '\n' ∉ r := fun m => h (List.mem_cons_of_mem _ m)
    cases r with
    | nil =>
      by_cases he : c = '\r'
      · subst he
        rfl
      · rw [List.singleton_append, lines_cons hc fun s hs => absurd hs he]
        simp [lines, lineText, he]
    | cons d r =>
      have hd : ∀ s, c = '\r' → d :: r ++ '\n' :: b ≠ '\n' :: s := by
        rintro s - hs
        obtain ⟨rfl, -⟩ := List.cons.inj hs
        exact hr List.mem_cons_self
      rw [List.cons_append, lines_cons hc hd, ih hr]
      simp only [lineText, List.getLast?_cons_cons, List.dropLast_cons_cons]
      split_ifs <;> rfl

theorem trimEnd_append_blank (t : Text) {c : Char} (h : isBlank c = true) :
    trimEnd (t ++ [c]) = trimEnd t := by
  induction t with
  | nil => simp [trimEnd, h]
  | cons d r ih => rw [List.cons_append, trimEnd, ih, trimEnd]

theorem trim_append_blank (t : Text) {c : Char} (h : isBlank c = true) :
    trim (t ++ [c]) = trim t := by
  rw [trim, trim, trimStart, trimStart, List.dropWhile_append]
  split_ifs with he
  · simp [List.isEmpty_iff.1 he, h]
  · exact trimEnd_append_blank _ h

theorem trim_lineText (s : Text) : trim (lineText s) = trim s := by
  unfold lineText
  split_ifs with h
  · obtain ⟨r, rfl⟩ := List.getLast?_eq_some_iff.1 h
    rw [List.dropLast_concat, trim_append_blank r (by decide)]
  · rfl

end Text

theorem LineKind.of_lineText (s : Text) : LineKind.of s.lineText = LineKind.of s := by
  rw [LineKind.of, LineKind.of, Text.trim_lineText]

/-! ## Repeats below a layout line -/

variable {D : Type}

/-- The line `k` lines further down. -/
def ParsedLine.lowered (k : Nat) (l : ParsedLine D) : ParsedLine D :=
  { l with number := l.number + k }

namespace Repeat

variable (k : Nat) {l : ParsedLine D} (h : l.isLayout = true)

include h

theorem collect_layout (found above rest : List (ParsedLine D)) :
    collect (found.map (·.lowered k)) (above.map (·.lowered k) ++ l :: rest) =
      (collect found above).map (·.lowered k) := by
  induction above generalizing found with
  | nil => simp [collect, h]
  | cons m above ih =>
    have hl : (m.lowered k).isLayout = m.isLayout := rfl
    have hp : (m.lowered k).parsed = m.parsed := rfl
    rw [List.map_cons, List.cons_append, collect, collect, hl, hp, List.length_map,
      List.isEmpty_map]
    split_ifs
    · rfl
    · rfl
    · exact ih (m :: found)
    · exact ih found
    · rfl

/-- **A repeat does not look above a layout line.** -/
theorem resolve_layout (above below : List (ParsedLine D)) :
    resolve (above ++ l :: below.map (·.lowered k)) = resolve below := by
  have hc := collect_layout k h [] below.reverse above.reverse
  rw [List.map_nil, List.map_reverse] at hc
  have hr : (above ++ l :: below.map (·.lowered k)).reverse =
      (below.map (·.lowered k)).reverse ++ l :: above.reverse := by simp
  simp only [resolve]
  rw [hr, hc, List.isEmpty_map, List.flatMap_map, List.length_map]
  rfl

end Repeat

variable [Metres D]

theorem parseLine_lowered [Speller] (n k : Nat) (raw : Text) {p q : List (ParsedLine D)}
    (h : Repeat.resolve p = Repeat.resolve q) :
    (parseLine n raw p).lowered k = parseLine (n + k) raw q := by
  obtain ⟨hn, ht, -⟩ := (parseLine_verdict n raw p).written
  rw [← parseLine_labelled n (n + k) raw h]
  generalize parseLine n raw p = l at hn ht
  rw [ParsedLine.lowered, ParsedLine.labelled, hn, ← ht]

/-! ## Reading on -/

namespace Tally

theorem lines_read [Speller] (t : Tally D) (raw : Text) :
    (t.read raw).lines = t.lines ++ [parseLine (t.lines.length + 1) raw t.lines] := rfl

/-- Reading on keeps the lines that have been read. -/
theorem lines_prefix_foldl [Speller] (t : Tally D) (raws : List Text) :
    t.lines <+: (raws.foldl read t).lines := by
  induction raws generalizing t with
  | nil => exact List.prefix_refl _
  | cons raw raws ih => exact (List.prefix_append _ _).trans (ih (t.read raw))

variable {t u : Tally D} {above : List (ParsedLine D)} {l : ParsedLine D}

/-- **One more line below a layout line** is read as if nothing stood above that. -/
theorem lines_read_layout [Speller] (h : l.isLayout = true)
    (ht : t.lines = above ++ l :: u.lines.map (·.lowered (above.length + 1))) (raw : Text) :
    (t.read raw).lines = above ++ l :: (u.read raw).lines.map (·.lowered (above.length + 1)) := by
  have hn : t.lines.length + 1 = u.lines.length + 1 + (above.length + 1) := by
    rw [ht]
    simp only [List.length_append, List.length_cons, List.length_map]
    omega
  have hline : parseLine (t.lines.length + 1) raw t.lines =
      (parseLine (u.lines.length + 1) raw u.lines).lowered (above.length + 1) := by
    rw [hn, ht]
    exact (parseLine_lowered _ _ raw (Repeat.resolve_layout _ h above u.lines).symm).symm
  rw [lines_read, lines_read, hline, ht, List.map_append, List.append_assoc]
  rfl

theorem lines_foldl_layout [Speller] (h : l.isLayout = true)
    (ht : t.lines = above ++ l :: u.lines.map (·.lowered (above.length + 1)))
    (raws : List Text) :
    (raws.foldl read t).lines =
      above ++ l :: (raws.foldl read u).lines.map (·.lowered (above.length + 1)) := by
  induction raws generalizing t u with
  | nil => exact ht
  | cons raw raws ih => exact ih (lines_read_layout h ht raw)

end Tally

/-! ## The line between two blocks -/

/-- What a blank line or a separator comes to. -/
def layoutLine (number : Nat) (written : Text) : ParsedLine D :=
  .refused number written.lineText
    (if LineKind.of written = .blank then .blank else .separator)

omit [Metres D] in
theorem isLayout_layoutLine (number : Nat) (written : Text) :
    (layoutLine number written : ParsedLine D).isLayout = true := by
  unfold layoutLine
  split_ifs <;> rfl

theorem parseLine_layout [Speller] (number : Nat) {written : Text}
    (layout : LineKind.of written ≠ .content) (previous : List (ParsedLine D)) :
    parseLine number written.lineText previous = layoutLine number written := by
  rw [parseLine, LineKind.of_lineText, layoutLine]
  cases h : LineKind.of written with
  | blank | separator => rfl
  | content => exact absurd h layout

/-! ## Counts and totals -/

omit [Metres D] in
/-- Lines that are picked out by what they came to are picked out further down as well. -/
theorem length_filter_layout {p : ParsedLine D → Bool} {l : ParsedLine D} (hl : p l = false)
    (k : Nat) (hp : ∀ m, p (m.lowered k) = p m) (above below : List (ParsedLine D)) :
    ((above ++ l :: below.map (·.lowered k)).filter p).length =
      (above.filter p).length + (below.filter p).length := by
  have hpk : p ∘ (·.lowered k) = p := funext hp
  rw [List.filter_append, List.length_append, List.filter_cons_of_neg (by simp [hl]),
    List.filter_map, List.length_map, hpk]

/-- The counts of two blocks add up. -/
theorem Tally.Accounts.counts_layout {t a b : Tally D} {above below : List Text} {raw : Text}
    (ht : t.Accounts (above ++ raw :: below)) (ha : a.Accounts above) (hb : b.Accounts below)
    (layout : LineKind.of raw ≠ .content) {number k : Nat} {written : Text}
    (hlines : t.lines = a.lines ++ layoutLine number written :: b.lines.map (·.lowered k)) :
    t.parsedCount = a.parsedCount + b.parsedCount ∧
      t.warningCount = a.warningCount + b.warningCount ∧
      t.unparsedCount = a.unparsedCount + b.unparsedCount := by
  have hw : t.warningCount = a.warningCount + b.warningCount := by
    rw [ht.warned, ha.warned, hb.warned, Tally.warned, Tally.warned, Tally.warned, hlines]
    exact length_filter_layout rfl k (fun _ => rfl) _ _
  have hu : t.unparsedCount = a.unparsedCount + b.unparsedCount := by
    rw [ht.unparsed, ha.unparsed, hb.unparsed, Tally.unparsed, Tally.unparsed, Tally.unparsed,
      hlines]
    refine length_filter_layout ?_ k (fun _ => rfl) _ _
    simp [ParsedLine.isUnparsed, isLayout_layoutLine]
  refine ⟨?_, hw, hu⟩
  have hc := ht.counted
  rw [List.countP_append, List.countP_cons_of_pos (by simpa using layout), List.length_append,
    List.length_cons] at hc
  have hca := ha.counted
  have hcb := hb.counted
  omega

namespace Totals

/-- A cell of exact totals is the sum of what belongs to it. -/
theorem get_ofLines_eq_sum (ls : List (ParsedLine Rat)) (s : Stroke) (a : Activity) :
    (ofLines ls).get s a =
      (((ls.flatMap (·.contributions)).filter fun c => c.stroke = s ∧ c.activity = a).map
        (·.distance)).sum := by
  have fold : ∀ (cs : List (Contribution Rat)) (d : Rat),
      cs.foldl (fun d c => d + c.distance) d = d + (cs.map (·.distance)).sum := by
    intro cs
    induction cs with
    | nil => simp
    | cons c cs ih => intro d; rw [List.foldl_cons, ih, List.map_cons, List.sum_cons, add_assoc]
  rw [ofLines_eq_addAll, get_addAll, get_zero, fold]
  simp

/-- The cells of two blocks add up. -/
theorem get_ofLines_layout (above below : List (ParsedLine Rat)) (number k : Nat) (written : Text)
    (s : Stroke) (a : Activity) :
    (ofLines (above ++ layoutLine number written :: below.map (·.lowered k))).get s a =
      (ofLines above).get s a + (ofLines below).get s a := by
  have hl : (layoutLine number written : ParsedLine Rat).contributions = [] := rfl
  have hb : (below.map (·.lowered k)).flatMap (·.contributions) =
      below.flatMap (·.contributions) := List.flatMap_map ..
  rw [get_ofLines_eq_sum, get_ofLines_eq_sum, get_ofLines_eq_sum, List.flatMap_append,
    List.flatMap_cons, hl, hb, List.nil_append, List.filter_append, List.map_append,
    List.sum_append]

end Totals

/-! ## Two blocks -/

section

variable {above between : Text} (whole : above = [] ∨ above.getLast? = some '\n')
  (oneLine : '\n' ∉ between) (below : Text)

include whole oneLine

theorem lines_blocks :
    (above ++ between ++ '\n' :: below).lines =
      above.lines ++ between.lineText :: below.lines := by
  rw [List.append_assoc, Text.lines_append whole, Text.lines_newline oneLine]

/-- The lines of a session in two blocks. -/
theorem lines_parse_blocks [Speller] (layout : LineKind.of between ≠ .content) :
    (parse (D := D) (above ++ between ++ '\n' :: below)).lines =
      (parse above).lines ++ layoutLine ((parse (D := D) above).lines.length + 1) between ::
        (parse below).lines.map (·.lowered ((parse (D := D) above).lines.length + 1)) := by
  unfold parse
  rw [lines_blocks whole oneLine, List.foldl_append, List.foldl_cons]
  refine Tally.lines_foldl_layout (isLayout_layoutLine _ _) ?_ below.lines
  rw [Tally.lines_read, parseLine_layout _ layout]
  rfl

end

/-- **Blocks are independent.** Let a text that is empty or ends with a newline be followed by a
blank line or a separator and then by any other text. The lines of the whole are those of the first
text, the layout line, and those of the second text further down and otherwise unchanged. The
counts of the two texts add up, and, in exact numbers, so does every cell of their totals. Whatever
else comes after the first text leaves its lines as they are. -/
theorem blocks_independent [Speller] (above between below : Text)
    (whole : above = [] ∨ above.getLast? = some '\n') (oneLine : '\n' ∉ between)
    (layout : LineKind.of between ≠ .content) :
    let a : Tally D := parse above
    let b : Tally D := parse below
    let t : Tally D := parse (above ++ between ++ '\n' :: below)
    t.lines = a.lines ++ layoutLine (a.lines.length + 1) between ::
        b.lines.map (·.lowered (a.lines.length + 1)) ∧
      (t.parsedCount = a.parsedCount + b.parsedCount ∧
        t.warningCount = a.warningCount + b.warningCount ∧
        t.unparsedCount = a.unparsedCount + b.unparsedCount) ∧
      (∀ s c, (parse (D := Rat) (above ++ between ++ '\n' :: below)).totals.get s c =
        (parse (D := Rat) above).totals.get s c + (parse (D := Rat) below).totals.get s c) ∧
      ∀ more, a.lines <+: (parse (D := D) (above ++ more)).lines := by
  have hlines := lines_parse_blocks (D := D) whole oneLine below layout
  have ht := Tally.accounts_parse (D := D) (above ++ between ++ '\n' :: below)
  rw [lines_blocks whole oneLine] at ht
  refine ⟨hlines, ht.counts_layout (Tally.accounts_parse above) (Tally.accounts_parse below)
    (by rwa [LineKind.of_lineText]) hlines, fun s c => ?_, fun more => ?_⟩
  · rw [(Tally.accounts_parse _).totals, (Tally.accounts_parse above).totals,
      (Tally.accounts_parse below).totals, lines_parse_blocks whole oneLine below layout,
      Totals.get_ofLines_layout]
  · unfold parse
    rw [Text.lines_append whole, List.foldl_append]
    exact Tally.lines_prefix_foldl _ _

/-- The repeat below the separator finds nothing to repeat, and the one below that finds a line. -/
theorem blocks_independent_repeats :
    let above : Text := "200m fly\nrepeat\n"
    let between : Text := "----"
    let below : Text := "repeat\n4 x 50m bk\nrepeat"
    (above = [] ∨ above.getLast? = some '\n') ∧ '\n' ∉ between ∧
      LineKind.of between ≠ .content ∧
      let a : Tally Rat := parse above
      let b : Tally Rat := parse below
      let t : Tally Rat := parse (above ++ between ++ '\n' :: below)
      t.lines = a.lines ++ layoutLine (a.lines.length + 1) between ::
          b.lines.map (·.lowered (a.lines.length + 1)) ∧
        (t.parsedCount = a.parsedCount + b.parsedCount ∧
          t.warningCount = a.warningCount + b.warningCount ∧
          t.unparsedCount = a.unparsedCount + b.unparsedCount) ∧
        (∀ s c, (parse (D := Rat) (above ++ between ++ '\n' :: below)).totals.get s c =
          (parse (D := Rat) above).totals.get s c + (parse (D := Rat) below).totals.get s c) ∧
        ∀ more, a.lines <+: (parse (D := Rat) (above ++ more)).lines :=
  ⟨by decide +kernel, by decide +kernel, by decide +kernel,
    blocks_independent "200m fly\nrepeat\n" "----" "repeat\n4 x 50m bk\nrepeat"
      (by decide +kernel) (by decide +kernel) (by decide +kernel)⟩

end SwimSets
