import Mathlib.Data.List.Forall2
import SwimSets.Proofs.Printing
import SwimSets.Proofs.ZeroSums

/-!
# The report says what was read

**Theorem (`report_faithful`).** The lines of a report are told apart by how they start
(`Report.Entry.of`). The table has a row for each stroke that something was contributed to; there is
a warning for each line that has one; and the audit has a row for each line of content, marked for
what became of it. The counts of the session are the numbers of these lines.

A report is put together from a table, notes, warnings and an audit, and each part has lines of its
own kinds only. What the table leaves out are strokes whose total is zero, and as no distance is
negative nothing but zeros was contributed to these (`isZero_strokeTotal_parse`). A row of the audit
is marked by its line alone, and lines are counted when they are read; both go by the same three
cases (`Tally.Accounts.countP_glyph`).
-/

namespace SwimSets

namespace Report

/-! ## The kinds of lines in a report -/

/-- What a line of a report is. -/
inductive Entry where
  | row (stroke : Stroke)
  | noDistance
  | warning
  | auditHead
  | other
  deriving DecidableEq, Repr

namespace Entry

/-- What a line of a report is, told by how it starts. -/
def of (l : Text) : Entry :=
  match Stroke.all.find? fun s => s.label.isPrefixOf l with
  | some s => .row s
  | none =>
    if l = "No distance found.".toList then .noDistance
    else if "Warning (line ".toList.isPrefixOf l then .warning
    else if l = "Line audit:".toList then .auditHead
    else .other

/-- The line is the row of a stroke. -/
def isRow : Entry → Bool
  | row _ => true
  | _ => false

theorem of_strokeRow (t : Totals Float) (decimals : Nat) (s : Stroke) :
    of (strokeRow t decimals s) = .row s := by
  cases s <;> rfl

theorem of_totalRow (t : Totals Float) (decimals : Nat) :
    of (totalRow t decimals) = .other := rfl

theorem of_countsLine (t : Tally Float) : of (countsLine t) = .other := rfl

theorem of_poolNote {t : Tally Float} {o : ReportOptions} :
    ∀ n ∈ poolNote t o, of n = .other := by
  unfold poolNote
  split_ifs
  · exact fun _ hn => nomatch hn
  · rintro n ⟨⟩
    rfl

theorem of_auditLine [Ruler] {l : ParsedLine Float} (h : l.Settled) (decimals : Nat) :
    of (auditLine decimals l) = .other := by
  rw [auditLine_eq h]
  rcases glyph_cases l with hg | hg | hg <;> rw [hg] <;> rfl

end Entry

/-! ## The parts of a report -/

theorem filter_row_table (t : Totals Float) (decimals : Nat) :
    (table t decimals).filter (fun l => (Entry.of l).isRow) =
      (strokesSwum t).map (strokeRow t decimals) := by
  have hrows : ((strokesSwum t).map (strokeRow t decimals)).filter (fun l => (Entry.of l).isRow) =
      (strokesSwum t).map (strokeRow t decimals) := by
    refine List.filter_eq_self.mpr (List.forall_mem_map.mpr fun s _ => ?_)
    rw [Entry.of_strokeRow]
    rfl
  unfold table
  dsimp only
  split_ifs with h
  · rw [List.isEmpty_iff.mp h]
    rfl
  · rw [List.cons_append, List.filter_cons_of_neg (by decide), List.filter_append, hrows]
    exact List.append_nil _

theorem mem_table_noDistance (t : Totals Float) (decimals : Nat) :
    "No distance found.".toList ∈ table t decimals ↔ strokesSwum t = [] := by
  unfold table
  dsimp only
  split_ifs with h
  · exact ⟨fun _ => List.isEmpty_iff.mp h, fun _ => List.mem_singleton.mpr rfl⟩
  · refine ⟨fun hmem => ?_, fun hnil => absurd (List.isEmpty_iff.mpr hnil) h⟩
    have hof : Entry.of "No distance found.".toList = .noDistance := rfl
    simp only [List.mem_append, List.mem_cons, List.mem_map, List.not_mem_nil, or_false] at hmem
    rcases hmem with (he | ⟨s, -, he⟩) | he | he
    · exact absurd he (by decide)
    · rw [← he, Entry.of_strokeRow] at hof
      cases hof
    · exact absurd he (by decide)
    · rw [he, Entry.of_totalRow] at hof
      cases hof

theorem entry_of_mem_table (t : Totals Float) (decimals : Nat) :
    ∀ l ∈ table t decimals, Entry.of l ≠ .warning ∧ Entry.of l ≠ .auditHead := by
  unfold table
  dsimp only
  split_ifs
  · exact List.forall_mem_singleton.mpr (by decide)
  · simp only [List.forall_mem_append, List.forall_mem_cons, List.forall_mem_map]
    refine ⟨⟨by decide, fun s _ => ?_⟩, by decide, ?_, List.forall_mem_nil _⟩
    · rw [Entry.of_strokeRow]
      exact ⟨nofun, nofun⟩
    · rw [Entry.of_totalRow]
      exact ⟨nofun, nofun⟩

/-- The lines between the table and the warnings. -/
def notes (t : Tally Float) (o : ReportOptions) : List Text :=
  [[], countsLine t] ++ (poolNote t o).toList

theorem entry_of_mem_notes (t : Tally Float) (o : ReportOptions) :
    ∀ l ∈ notes t o, Entry.of l = .other := by
  refine List.forall_mem_append.mpr ⟨List.forall_mem_cons.mpr ⟨rfl,
    List.forall_mem_singleton.mpr (Entry.of_countsLine t)⟩, fun n hn => ?_⟩
  exact Entry.of_poolNote n (Option.mem_toList.mp hn)

/-- The warning of a line that has one. -/
def warningOf (l : ParsedLine Float) : Text :=
  "Warning (line ".toList ++ Text.ofNat l.number ++ "): ".toList ++
    Text.join "; ".toList (l.warnings.map Warning.message)

theorem filterMap_warningLine (t : Tally Float) :
    t.warned.filterMap warningLine = t.warned.map warningOf := by
  rw [← List.filterMap_eq_map]
  refine List.filterMap_congr fun l hl => ?_
  have hw : l.hasWarning = true := (List.mem_filter.mp hl).2
  rw [warningLine, ParsedLine.warningText, if_pos hw]
  rfl

theorem entry_of_mem_warnings (t : Tally Float) :
    ∀ l ∈ t.warned.map warningOf, Entry.of l = .warning :=
  List.forall_mem_map.mpr fun _ _ => rfl

/-- The rows of the audit. -/
def auditRows [Ruler] (t : Tally Float) (decimals : Nat) : List Text :=
  (t.lines.filter (!·.isLayout)).map (auditLine decimals)

theorem entry_of_mem_auditRows [Ruler] {t : Tally Float} (h : ∀ l ∈ t.lines, l.Settled)
    (decimals : Nat) :
    ∀ l ∈ auditRows t decimals, Entry.of l = .other :=
  List.forall_mem_map.mpr fun l hl => Entry.of_auditLine (h l (List.mem_filter.mp hl).1) decimals

theorem textLines_listed [Ruler] (t : Tally Float) {o : ReportOptions}
    (listed : o.showLines = true) :
    textLines t o = table t.totals o.decimals ++ notes t o ++ t.warned.map warningOf ++
      [] :: "Line audit:".toList :: auditRows t o.decimals := by
  rw [textLines, if_pos listed, filterMap_warningLine, List.append_assoc (table _ _)]
  rfl

section

variable [Ruler] {t : Tally Float} (settled : ∀ l ∈ t.lines, l.Settled) {o : ReportOptions}
  (listed : o.showLines = true)

include settled

/-- Only the table has rows of strokes, and only it says that there is nothing. -/
theorem entry_below_table : ∀ l ∈ notes t o ++ (t.warned.map warningOf ++
      [] :: "Line audit:".toList :: auditRows t o.decimals),
    (Entry.of l).isRow = false ∧ Entry.of l ≠ .noDistance := by
  simp only [List.forall_mem_append, List.forall_mem_cons]
  refine ⟨fun l hl => ?_, fun l hl => ?_, by decide, by decide, fun l hl => ?_⟩
  · rw [entry_of_mem_notes t o l hl]
    exact ⟨rfl, nofun⟩
  · rw [entry_of_mem_warnings t l hl]
    exact ⟨rfl, nofun⟩
  · rw [entry_of_mem_auditRows settled o.decimals l hl]
    exact ⟨rfl, nofun⟩

include listed

theorem filter_row_textLines : (textLines t o).filter (fun l => (Entry.of l).isRow) =
    (strokesSwum t.totals).map (strokeRow t.totals o.decimals) := by
  have hbelow := entry_below_table settled (o := o)
  rw [textLines_listed t listed, List.append_assoc, List.append_assoc, List.filter_append,
    filter_row_table, List.filter_eq_nil_iff.mpr fun l hl => ne_true_of_eq_false (hbelow l hl).1,
    List.append_nil]

theorem mem_textLines_noDistance :
    "No distance found.".toList ∈ textLines t o ↔ strokesSwum t.totals = [] := by
  have hbelow := entry_below_table settled (o := o)
  rw [textLines_listed t listed, List.append_assoc, List.append_assoc, List.mem_append,
    mem_table_noDistance, or_iff_left fun hmem => (hbelow _ hmem).2 rfl]

theorem filter_warning_textLines :
    (textLines t o).filter (fun l => Entry.of l = .warning) = t.warned.map warningOf := by
  have hwarnings : (t.warned.map warningOf).filter (fun l => Entry.of l = .warning) =
      t.warned.map warningOf :=
    List.filter_eq_self.mpr fun l hl => decide_eq_true (entry_of_mem_warnings t l hl)
  have hnotes : (notes t o).filter (fun l => Entry.of l = .warning) = [] :=
    List.filter_eq_nil_iff.mpr fun l hl => by simp [entry_of_mem_notes t o l hl]
  have htable : (table t.totals o.decimals).filter (fun l => Entry.of l = .warning) = [] :=
    List.filter_eq_nil_iff.mpr fun l hl => by simp [(entry_of_mem_table _ _ l hl).1]
  have hrows : (auditRows t o.decimals).filter (fun l => Entry.of l = .warning) = [] :=
    List.filter_eq_nil_iff.mpr fun l hl => by simp [entry_of_mem_auditRows settled _ l hl]
  rw [textLines_listed t listed, List.filter_append, List.filter_append, List.filter_append,
    htable, hnotes, hwarnings, List.filter_cons_of_neg (by decide),
    List.filter_cons_of_neg (by decide), hrows]
  exact List.append_nil _

end

theorem countP_auditRows [Ruler] {t : Tally Float} (settled : ∀ l ∈ t.lines, l.Settled)
    (decimals : Nat) (c : Char) : (auditRows t decimals).countP (fun row => row.head? = some c) =
      (t.lines.filter (!·.isLayout)).countP fun l => glyph l = c := by
  rw [auditRows, List.countP_map]
  refine List.countP_congr fun l hl => ?_
  rw [Function.comp_apply, auditLine_eq (settled l (List.mem_filter.mp hl).1), List.head?_cons]
  simp

end Report

/-! ## Counting the marks -/

namespace ParsedLine

open Report

variable {l : ParsedLine Float}

/-- A settled line is marked as it is counted. -/
theorem glyph_settled (h : l.Settled) :
    (decide (glyph l = '!') && !l.isLayout) = l.hasWarning ∧
      (decide (glyph l = '-') && !l.isLayout) = l.isUnparsed ∧
      (decide (glyph l = '+') && !l.isLayout).toNat + l.hasWarning.toNat + l.isUnparsed.toNat +
        l.isLayout.toNat = 1 := by
  obtain ⟨-, ⟨hp, -, hr⟩ | ⟨hp, -, hw, -⟩⟩ := h
  · have hl : l.isLayout = false := by simp [isLayout, hr]
    cases hw : l.hasWarning <;> simp [glyph, isUnparsed, hp, hl, hw]
  · have hw : l.hasWarning = false := by simp [hasWarning, hw]
    cases hl : l.isLayout <;> simp [glyph, isUnparsed, hp, hl, hw]

end ParsedLine

namespace Tally

open Report

/-- Four counts add up to the length if each element is counted by one of them. -/
theorem countP_add_of_one {α : Type} {p q r s : α → Bool} {xs : List α}
    (h : ∀ x ∈ xs, (p x).toNat + (q x).toNat + (r x).toNat + (s x).toNat = 1) :
    xs.countP p + xs.countP q + xs.countP r + xs.countP s = xs.length := by
  induction xs with
  | nil => rfl
  | cons x xs ih =>
    rw [List.forall_mem_cons] at h
    have hx := h.1
    have hxs := ih h.2
    have hcons (f : α → Bool) : (x :: xs).countP f = xs.countP f + (f x).toNat := by
      rw [List.countP_cons]
      cases f x <;> rfl
    rw [hcons p, hcons q, hcons r, hcons s, List.length_cons]
    omega

variable {t : Tally Float} {raws : List Text}

/-- **The marks of the audit are counted like the lines.** -/
theorem Accounts.countP_glyph (h : t.Accounts raws)
    (written : ∀ l ∈ t.lines, l.isLayout = (LineKind.of l.text != .content)) :
    let content := t.lines.filter (!·.isLayout)
    content.countP (fun l => glyph l = '+') = t.parsedCount ∧
      content.countP (fun l => glyph l = '!') = t.warningCount ∧
      content.countP (fun l => glyph l = '-') = t.unparsedCount := by
  have marks := fun l hl => ParsedLine.glyph_settled (h.settled l hl)
  have hwarned : t.lines.countP ParsedLine.hasWarning = t.warningCount :=
    List.countP_eq_length_filter.trans h.warned.symm
  have hunparsed : t.lines.countP ParsedLine.isUnparsed = t.unparsedCount :=
    List.countP_eq_length_filter.trans h.unparsed.symm
  simp only [List.countP_filter]
  refine ⟨?_, ?_, ?_⟩
  · -- Both the marks and the counts leave the same number for what has no warning.
    have hlayout : raws.countP (fun raw => LineKind.of raw != .content) =
        t.lines.countP ParsedLine.isLayout := by
      rw [← h.texts, List.countP_map]
      exact List.countP_congr fun l hl => by rw [written l hl]; rfl
    have hlength : t.lines.length = raws.length := by rw [← h.texts, List.length_map]
    have hone := countP_add_of_one fun l hl => (marks l hl).2.2
    have hcounted := h.counted
    omega
  · rw [← hwarned]
    exact List.countP_congr fun l hl => by rw [(marks l hl).1]
  · rw [← hunparsed]
    exact List.countP_congr fun l hl => by rw [(marks l hl).2.1]

end Tally

open Report

/-- **The report says what was read.** A report with an audit is made of lines that each end with a
newline. It has a row for each stroke that a line of the session contributes something to, in
canonical order, and says so if there is none. It has the warnings of each line that has any, in the
order of the lines. Behind the heading of the audit there is one row for each line of content, in
the same order, marked and with the number of the line. There are as many warnings, and as many rows
with each mark, as was counted. -/
theorem report_faithful [Speller] [Ruler] (text : Text) (o : ReportOptions)
    (listed : o.showLines = true) :
    let t : Tally Float := parse text
    let report := renderText t o
    let swum := Stroke.all.filter fun s => t.Contributes s
    let content := t.lines.filter (!·.isLayout)
    report = report.lines.flatMap (fun l => l ++ ['\n']) ∧
    t.lines.map (·.number) = List.range' 1 text.lines.length ∧
    (report.lines.filter (fun l => (Entry.of l).isRow) =
        swum.map (strokeRow t.totals o.decimals) ∧
      ("No distance found.".toList ∈ report.lines ↔ swum = [])) ∧
    (report.lines.filter (fun l => Entry.of l = .warning) = t.warned.map warningOf ∧
      t.warned.length = t.warningCount) ∧
    ∃ above rows, report.lines = above ++ "Line audit:".toList :: rows ∧
      (∀ l ∈ above, Entry.of l ≠ .auditHead) ∧
      List.Forall₂ (fun l row => ∃ said, row =
        glyph l :: ' ' :: (padLeft 4 (Text.ofNat l.number) ++ ' ' :: ' ' :: said)) content rows ∧
      rows.countP (fun row => row.head? = some '+') = t.parsedCount ∧
      rows.countP (fun row => row.head? = some '!') = t.warningCount ∧
      rows.countP (fun row => row.head? = some '-') = t.unparsedCount := by
  intro t report swum content
  have accounts := Tally.accounts_parse (D := Float) text
  have settled := accounts.settled
  have hlines : report.lines = textLines t o := lines_renderText text o
  have hswum : strokesSwum t.totals = swum := by
    refine List.filter_congr fun s _ => ?_
    rw [Bool.eq_iff_iff, Bool.not_eq_true', decide_eq_true_eq]
    exact isZero_strokeTotal_parse text s
  rw [hlines, filter_row_textLines settled listed, mem_textLines_noDistance settled listed,
    filter_warning_textLines settled listed, hswum]
  refine ⟨rfl, accounts.numbers, ⟨rfl, Iff.rfl⟩, ⟨rfl, accounts.warned.symm⟩,
    table t.totals o.decimals ++ notes t o ++ t.warned.map warningOf ++ [[]],
    auditRows t o.decimals, ?_, ?_, ?_, ?_⟩
  · rw [textLines_listed t listed, List.append_assoc _ [[]]]
    rfl
  · simp only [List.forall_mem_append, List.forall_mem_singleton]
    refine ⟨⟨⟨fun l hl => (entry_of_mem_table _ _ l hl).2, fun l hl => ?_⟩, fun l hl => ?_⟩,
      by decide⟩
    · rw [entry_of_mem_notes t o l hl]
      exact nofun
    · rw [entry_of_mem_warnings t l hl]
      exact nofun
  · rw [auditRows, List.forall₂_map_right_iff, List.forall₂_same]
    intro l hl
    exact ⟨_, auditLine_eq (settled l (List.mem_filter.mp hl).1) o.decimals⟩
  · rw [countP_auditRows settled, countP_auditRows settled, countP_auditRows settled]
    exact accounts.countP_glyph (isLayout_of_mem_parse text)

/-- A backstroke distance of zero has no row, and the line that names no stroke has a warning. -/
theorem report_faithful_mixed :
    let text : Text := "4 x 50m fly\n\n100m\n0m bk\nsome words"
    let o : ReportOptions := ⟨0, 25, true⟩
    let lines := (renderText (parse text) o).lines
    o.showLines = true ∧
      lines.filter (fun l => (Entry.of l).isRow) =
        [.frontCrawl, .butterfly].map (strokeRow (parse text).totals 0) ∧
      "No distance found.".toList ∉ lines ∧
      lines.filter (fun l => Entry.of l = .warning) =
        ["Warning (line 3): No stroke specified, defaulted to Front Crawl".toList] := by
  intro text o lines
  obtain ⟨-, -, ⟨hrows, hnone⟩, ⟨hwarnings, -⟩, -⟩ := report_faithful text o rfl
  have hswum : (Stroke.all.filter fun s => (parse text : Tally Float).Contributes s) =
      [.frontCrawl, .butterfly] := by
    decide +kernel
  have hwarned : (parse text : Tally Float).warned.map warningOf =
      ["Warning (line 3): No stroke specified, defaulted to Front Crawl".toList] := by
    decide +kernel
  rw [hswum] at hrows hnone
  exact ⟨rfl, hrows, fun h => List.cons_ne_nil _ _ (hnone.mp h), hwarnings.trans hwarned⟩

end SwimSets
