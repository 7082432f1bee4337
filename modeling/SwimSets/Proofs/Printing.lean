import SwimSets.Proofs.Columns
import SwimSets.Proofs.Layout
import SwimSets.Proofs.Truncation

/-!
# A report is cut into the lines that it is made of

**Theorem (`lines_renderText`).** The lines of the report of a session are the rows, notes and
warnings that were put together to make it: each ends with a newline, and none is cut.

A line of a report holds numbers, fixed words and what was written in the session. Numbers and words
have no other blanks than spaces (`Text.Spaced`). What was written is a line of text, so there is no
newline in it; but any other blank can be, a carriage return among them, and it is not at the end of
a row of the audit because what was read of the line stands behind it (`auditLine_eq`).
-/

namespace SwimSets

namespace Text

/-! ## Lines -/

/-- The text is one line, and is read as it is. -/
structure OneLine (t : Text) : Prop where
  noNewline : '\n' ∉ t
  noReturn : t.getLast? ≠ some '\r'

/-- Lines that each end with a newline are cut there and nowhere else. -/
theorem lines_flatMap_newline {ls : List Text} (h : ∀ l ∈ ls, OneLine l) :
    lines (ls.flatMap fun l => l ++ ['\n']) = ls := by
  induction ls with
  | nil => rfl
  | cons l ls ih =>
    rw [List.forall_mem_cons] at h
    rw [List.flatMap_cons, List.append_assoc, List.singleton_append, lines_newline h.1.noNewline,
      ih h.2, lineText, if_neg h.1.noReturn]

/-- No line of a text has a newline in it. -/
theorem newline_not_mem_of_mem_lines {l t : Text} (h : l ∈ lines t) : '\n' ∉ l := by
  fun_induction lines t generalizing l with
  | case1 => cases h
  | case2 r ih | case3 r ih =>
    rcases List.mem_cons.mp h with rfl | h
    · exact List.not_mem_nil
    · exact ih h
  | case4 c r hc hr he ih =>
    rw [List.mem_singleton.mp h]
    exact List.not_mem_cons_of_ne_of_not_mem (Ne.symm hc) List.not_mem_nil
  | case5 c r hc hr m ms he ih =>
    rw [he] at ih
    rcases List.mem_cons.mp h with rfl | h
    · exact List.not_mem_cons_of_ne_of_not_mem (Ne.symm hc) (ih List.mem_cons_self)
    · exact ih (List.mem_cons_of_mem m h)

/-! ## Texts with no blanks but spaces -/

/-- The only blanks of the text are spaces. -/
def Spaced (t : Text) : Prop := ∀ c ∈ t, isBlank c = true → c = ' '

instance (t : Text) : Decidable (Spaced t) :=
  inferInstanceAs (Decidable (∀ c ∈ t, isBlank c = true → c = ' '))

theorem Spaced.oneLine {t : Text} (h : Spaced t) : OneLine t where
  noNewline := fun hn => absurd (h _ hn (by decide)) (by decide)
  noReturn := fun hr => absurd (h _ (List.mem_of_getLast? hr) (by decide)) (by decide)

theorem spaced_append {u v : Text} : Spaced (u ++ v) ↔ Spaced u ∧ Spaced v :=
  List.forall_mem_append

theorem spaced_cons {c : Char} {t : Text} :
    Spaced (c :: t) ↔ (isBlank c = true → c = ' ') ∧ Spaced t :=
  List.forall_mem_cons

theorem spaced_replicate (n : Nat) : Spaced (List.replicate n ' ') :=
  fun _ hc _ => (List.mem_replicate.mp hc).2

theorem IsWord.spaced {w : Text} (h : IsWord w) : Spaced w := by
  intro c hc hb
  rw [h.noBlank c hc] at hb
  cases hb

theorem spaced_ofNat (n : Nat) : Spaced (ofNat n) := by
  intro c hc hb
  rw [isBlank_of_isDigit (isDigit_of_mem_ofNat hc)] at hb
  cases hb

theorem spaced_flatMap {α : Type} {xs : List α} {f : α → Text} (h : ∀ x ∈ xs, Spaced (f x)) :
    Spaced (xs.flatMap f) := by
  intro c hc
  obtain ⟨x, hx, hc⟩ := List.mem_flatMap.mp hc
  exact h x hx c hc

theorem spaced_join {sep : Text} (hsep : Spaced sep) {ts : List Text} (h : ∀ t ∈ ts, Spaced t) :
    Spaced (join sep ts) := by
  fun_induction join sep ts with
  | case1 => exact List.forall_mem_nil _
  | case2 t => exact h t List.mem_cons_self
  | case3 t ts hne ih =>
    rw [List.forall_mem_cons] at h
    exact spaced_append.mpr ⟨spaced_append.mpr ⟨h.1, hsep⟩, ih h.2⟩

/-! ## Texts that end with a word -/

/-- The last character of the text is no blank. -/
def EndsInWord (t : Text) : Prop := ∃ c ∈ t.getLast?, isBlank c = false

theorem EndsInWord.append {t : Text} (h : EndsInWord t) (u : Text) : EndsInWord (u ++ t) := by
  obtain ⟨c, hc, hb⟩ := h
  refine ⟨c, ?_, hb⟩
  rw [Option.mem_def] at hc
  rw [List.getLast?_append, hc]
  rfl

theorem EndsInWord.cons {t : Text} (h : EndsInWord t) (c : Char) : EndsInWord (c :: t) :=
  h.append [c]

theorem EndsInWord.trimEnd_eq {t : Text} (h : EndsInWord t) : trimEnd t = t := by
  obtain ⟨c, hc, hb⟩ := h
  obtain ⟨u, rfl⟩ := List.getLast?_eq_some_iff.mp hc
  induction u with
  | nil => rw [List.nil_append, trimEnd_cons, if_neg (by simp [hb]), trimEnd]
  | cons d u ih =>
    rw [List.cons_append, trimEnd_cons, ih (List.getLast?_concat ..), if_neg (by simp)]

theorem EndsInWord.getLast?_ne {t : Text} (h : EndsInWord t) {c : Char} (hc : isBlank c = true) :
    t.getLast? ≠ some c := by
  obtain ⟨d, hd, hb⟩ := h
  intro he
  rw [Option.mem_def.mp hd, Option.some.injEq] at he
  rw [he, hc] at hb
  cases hb

theorem endsInWord_join (sep : Text) {ts : List Text} (hne : ts ≠ [])
    (h : ∀ t ∈ ts, EndsInWord t) : EndsInWord (join sep ts) := by
  fun_induction join sep ts with
  | case1 => exact absurd rfl hne
  | case2 t => exact h t List.mem_cons_self
  | case3 t ts hts ih =>
    rw [List.forall_mem_cons] at h
    exact (ih (fun he => hts he) h.2).append _

end Text

/-! ## What is written of a line -/

theorem Warning.spaced_message {w : Warning} (h : ∀ t, w ≠ .remark t) :
    Text.Spaced w.message := by
  cases w with
  | strokeAssumed => exact of_decide_eq_true rfl
  | partsIgnored n | repeated n =>
    show Text.Spaced (_ ++ Text.ofNat n ++ _)
    simp only [Text.spaced_append, Text.spaced_ofNat, and_true]
    decide
  | partsDisagree m n =>
    show Text.Spaced (_ ++ Text.ofNat m ++ _ ++ Text.ofNat n ++ _)
    simp only [Text.spaced_append, Text.spaced_ofNat, and_true]
    decide
  | remark t => exact absurd rfl (h t)

theorem UnparsedReason.spaced_message (r : UnparsedReason) : Text.Spaced r.message := by
  cases r <;> decide

theorem UnparsedReason.endsInWord_message (r : UnparsedReason) : r.message.EndsInWord := by
  cases r <;> exact ⟨_, rfl, by decide⟩

/-- Reading a line makes no remarks. -/
theorem ne_remark_of_mem_warnings [Speller] {D : Type} [Metres D] {number : Nat} {raw : Text}
    {previous : List (ParsedLine D)} {w : Warning}
    (h : w ∈ (parseLine number raw previous).warnings) (t : Text) : w ≠ .remark t := by
  have verdict := parseLine_verdict number raw previous
  generalize parseLine number raw previous = l at verdict h
  rintro rfl
  cases verdict with
  | layout | refused | split => exact absurd h List.not_mem_nil
  | repeated => exact Warning.noConfusion (List.mem_singleton.mp h)
  | parts d cs ws measured found =>
    unfold Breakdown.read at found
    split at found
    · cases found
    · dsimp only at found
      split_ifs at found
      cases found
      simp [ParsedLine.accepted, Breakdown.warningsFor] at h
  | plain d =>
    change _ ∈ (if _ then _ else _) at h
    split_ifs at h
    · exact Warning.noConfusion (List.mem_singleton.mp h)
    · exact absurd h List.not_mem_nil

/-- What is known of a line when it is written in a report. -/
structure Writable (l : ParsedLine Float) : Prop where
  settled : l.Settled
  noNewline : '\n' ∉ l.text
  noMinus : Throughout Double.NoMinus l.contributions
  spaced : ∀ w ∈ l.warnings, w.message.Spaced

theorem writable_parse [Speller] (text : Text) :
    ∀ l ∈ (parse text : Tally Float).lines, Writable l := by
  have accounts := Tally.accounts_parse (D := Float) text
  have spaced := Tally.forall_mem_parse (D := Float)
    (Q := fun l => ∀ w ∈ l.warnings, w.message.Spaced)
    (fun _ _ _ _ w hw => Warning.spaced_message (ne_remark_of_mem_warnings hw)) text
  intro l hl
  refine ⟨accounts.settled l hl, Text.newline_not_mem_of_mem_lines (t := text) ?_,
    closed_noMinus.throughout_parse text l hl, spaced l hl⟩
  rw [← accounts.texts]
  exact List.mem_map_of_mem hl

namespace Report

/-! ## The table and the notes -/

theorem spaced_amount {d : Float} (h : Double.NoMinus d) (decimals : Nat) :
    (amount d decimals).Spaced :=
  (isWord_amount h decimals).spaced

theorem spaced_padLeft (n : Nat) {t : Text} (h : t.Spaced) : (padLeft n t).Spaced :=
  Text.spaced_append.mpr ⟨Text.spaced_replicate _, h⟩

theorem spaced_tableRow {label : Text} (hl : label.Spaced) {cells : List Text}
    (h : ∀ c ∈ cells, c.Spaced) : (tableRow label cells).Spaced :=
  Text.spaced_append.mpr ⟨Text.spaced_append.mpr ⟨hl, Text.spaced_replicate _⟩,
    Text.spaced_flatMap fun c hc => spaced_padLeft columnWidth (h c hc)⟩

theorem spaced_amounts {ds : List Float} (h : ∀ d ∈ ds, Double.NoMinus d) (decimals : Nat) :
    ∀ c ∈ amounts decimals ds, c.Spaced := by
  intro c hc
  obtain ⟨d, hd, rfl⟩ := List.mem_map.mp hc
  exact spaced_amount (h d hd) decimals

theorem spaced_strokeRow [Speller] (text : Text) (decimals : Nat) (s : Stroke) :
    (strokeRow (parse text : Tally Float).totals decimals s).Spaced :=
  spaced_tableRow (by cases s <;> decide) (spaced_amounts (noMinus_strokeDistances text s) decimals)

theorem spaced_table [Speller] (text : Text) (decimals : Nat) :
    ∀ l ∈ table (parse text : Tally Float).totals decimals, l.Spaced := by
  unfold table
  dsimp only
  split_ifs
  · exact List.forall_mem_singleton.mpr (of_decide_eq_true rfl)
  · simp only [List.forall_mem_append, List.forall_mem_cons, List.forall_mem_map]
    refine ⟨⟨by decide +kernel, fun s _ => spaced_strokeRow text decimals s⟩, by decide +kernel,
      spaced_tableRow (by decide) (spaced_amounts (noMinus_totalDistances text) decimals),
      List.forall_mem_nil _⟩

theorem spaced_countsLine (t : Tally Float) : (countsLine t).Spaced := by
  unfold countsLine
  simp only [Text.spaced_append, Text.spaced_ofNat, and_true]
  decide

theorem spaced_poolNote [Speller] (text : Text) (o : ReportOptions) :
    ∀ n ∈ poolNote (parse text : Tally Float) o, n.Spaced := by
  unfold poolNote
  split_ifs
  · exact fun _ hn => nomatch hn
  · rintro n ⟨⟩
    have htotal := spaced_amount (closed_noMinus.total_parse text) o.decimals
    simp only [Text.spaced_append, Text.spaced_ofNat, Tally.total, htotal, and_true]
    decide

variable {l : ParsedLine Float}

theorem spaced_warningText (h : Writable l) : ∀ w ∈ l.warningText, w.Spaced := by
  unfold ParsedLine.warningText
  split_ifs
  · rintro w ⟨⟩
    refine Text.spaced_join (by decide) fun t ht => ?_
    obtain ⟨w, hw, rfl⟩ := List.mem_map.mp ht
    exact h.spaced w hw
  · exact fun _ hn => nomatch hn

theorem spaced_warningLine (h : Writable l) : ∀ w ∈ warningLine l, w.Spaced := by
  intro w hw
  obtain ⟨t, ht, rfl⟩ := Option.mem_map.mp hw
  simp only [Text.spaced_append, Text.spaced_ofNat, spaced_warningText h t ht, and_true]
  decide

/-! ## The audit -/

theorem spaced_contributionText (decimals : Nat) {c : Contribution Float}
    (h : Double.NoMinus c.distance) : (contributionText decimals c).Spaced := by
  have hstroke : c.stroke.abbreviation.Spaced := by cases c.stroke <;> decide
  have hactivity : c.activity.label.Spaced := by cases c.activity <;> decide
  unfold contributionText
  simp only [Text.spaced_append, Text.spaced_cons, hstroke, hactivity, spaced_amount h decimals,
    true_and]
  decide

theorem endsInWord_contributionText (decimals : Nat) (c : Contribution Float) :
    (contributionText decimals c).EndsInWord := by
  have hunit : Text.EndsInWord ['m'] := ⟨'m', rfl, by decide⟩
  have hdistance := (hunit.append (amount c.distance decimals)).cons ' '
  exact ((hdistance.append c.activity.label).cons ' ').append c.stroke.abbreviation

theorem spaced_detail (h : Writable l) (decimals : Nat) : (detail l decimals).Spaced := by
  unfold detail
  split
  · exact UnparsedReason.spaced_message _
  · refine Text.spaced_append.mpr ⟨Text.spaced_join (by decide) fun t ht => ?_, ?_⟩
    · obtain ⟨c, hc, rfl⟩ := List.mem_map.mp ht
      exact spaced_contributionText decimals (h.noMinus c hc)
    · split
      · rename_i w hw
        simp only [Text.spaced_append, spaced_warningText h w hw, and_true]
        decide
      · exact List.forall_mem_nil _

theorem endsInWord_detail (h : l.Settled) (decimals : Nat) : (detail l decimals).EndsInWord := by
  unfold detail
  split
  · exact UnparsedReason.endsInWord_message _
  · rename_i hreason
    have hne : l.contributions.map (contributionText decimals) ≠ [] := by
      obtain ⟨-, ⟨-, hc, -⟩ | ⟨-, -, -, hr⟩⟩ := h
      · simpa using hc
      · exact absurd hreason hr
    split
    · exact .append (.append ⟨_, rfl, by decide⟩ _) _
    · rw [List.append_nil]
      refine Text.endsInWord_join _ hne fun t ht => ?_
      obtain ⟨c, -, rfl⟩ := List.mem_map.mp ht
      exact endsInWord_contributionText decimals c

/-- A row of the audit ends as what was read of its line does. -/
theorem endsInWord_row {read : Text} (h : read.EndsInWord) (mark : Char) (number text : Text) :
    Text.EndsInWord (mark :: ' ' :: (number ++ ' ' :: ' ' :: (text ++ ' ' :: ' ' :: read))) := by
  have htext := ((h.cons ' ').cons ' ').append text
  have hnumber := ((htext.cons ' ').cons ' ').append number
  exact (hnumber.cons ' ').cons mark

/-- The row of a settled line: nothing is trimmed from its end. -/
theorem auditLine_eq [Ruler] (h : l.Settled) (decimals : Nat) :
    auditLine decimals l = glyph l :: ' ' :: (padLeft 4 (Text.ofNat l.number) ++ ' ' :: ' ' ::
      (padTo (truncate (Text.trim l.text) auditWidth) auditWidth ++ ' ' :: ' ' ::
        detail l decimals)) :=
  (endsInWord_row (endsInWord_detail h decimals) _ _ _).trimEnd_eq

theorem newline_not_mem_truncate [Ruler] {t : Text} (h : '\n' ∉ t) (limit : Nat) :
    '\n' ∉ truncate (Text.trim t) limit := by
  have htrim : '\n' ∉ Text.trim t := by
    obtain ⟨b, b', -, -, ht⟩ := Text.exists_trim t
    rw [ht] at h
    exact fun hn => h (List.mem_append_right _ (List.mem_append_left _ hn))
  by_cases hlt : limit < Ruler.width (Text.trim t)
  · obtain ⟨rest, hrest, -, -⟩ := takeWidth_append (limit - (dots limit).length) (Text.trim t)
    rw [truncate_of_lt hlt, List.mem_append, not_or]
    refine ⟨fun hn => htrim (hrest ▸ List.mem_append_left rest hn), ?_⟩
    unfold dots
    split_ifs <;> decide
  · rwa [truncate, if_pos (Nat.le_of_not_lt hlt)]

theorem glyph_cases (l : ParsedLine Float) : glyph l = '+' ∨ glyph l = '!' ∨ glyph l = '-' := by
  unfold glyph
  split_ifs <;> simp

theorem oneLine_auditLine [Ruler] (h : Writable l) (decimals : Nat) :
    (auditLine decimals l).OneLine := by
  rw [auditLine_eq h.settled]
  constructor
  · have hglyph : '\n' ≠ glyph l := by
      rcases glyph_cases l with hg | hg | hg <;> rw [hg] <;> decide
    have hspace : '\n' ≠ ' ' := by decide
    have hnumber := (spaced_padLeft 4 (Text.spaced_ofNat l.number)).oneLine.noNewline
    have htext := newline_not_mem_truncate h.noNewline auditWidth
    have hdetail := (spaced_detail h decimals).oneLine.noNewline
    simp [padTo, hglyph, hspace, hnumber, htext, hdetail]
  · exact (endsInWord_row (endsInWord_detail h.settled decimals) _ _ _).getLast?_ne (by decide)

/-! ## The report -/

theorem oneLine_textLines [Speller] [Ruler] (text : Text) (o : ReportOptions) :
    ∀ l ∈ textLines (parse text) o, l.OneLine := by
  have writable := writable_parse text
  simp only [textLines, List.forall_mem_append]
  refine ⟨⟨⟨⟨fun l hl => (spaced_table text o.decimals l hl).oneLine, ?_⟩, fun l hl => ?_⟩,
    fun w hw => ?_⟩, ?_⟩
  · exact List.forall_mem_cons.mpr ⟨⟨List.not_mem_nil, nofun⟩,
      List.forall_mem_singleton.mpr (spaced_countsLine _).oneLine⟩
  · exact (spaced_poolNote text o l (Option.mem_toList.mp hl)).oneLine
  · obtain ⟨l, hl, hw⟩ := List.mem_filterMap.mp hw
    exact (spaced_warningLine (writable l (List.mem_filter.mp hl).1) w hw).oneLine
  · split_ifs
    · refine List.forall_mem_cons.mpr ⟨⟨List.not_mem_nil, nofun⟩, List.forall_mem_cons.mpr
        ⟨Text.Spaced.oneLine (by decide), List.forall_mem_map.mpr fun l hl => ?_⟩⟩
      exact oneLine_auditLine (writable l (List.mem_filter.mp hl).1) o.decimals
    · exact List.forall_mem_nil _

/-- **A report is cut into the lines that it is made of.** -/
theorem lines_renderText [Speller] [Ruler] (text : Text) (o : ReportOptions) :
    (renderText (parse text) o).lines = textLines (parse text) o :=
  Text.lines_flatMap_newline (oneLine_textLines text o)

end Report

end SwimSets
