import Mathlib.Tactic.SplitIfs
import SwimSets.Proofs.Splits
import SwimSets.Proofs.Verdict

/-!
# Every line of a session is accounted for

**Theorem (`parse_accounts`).** The tally of a session has one line for each line of the text, as
written and numbered from one. Each line is either understood, with contributions and without a
reason, or not understood, with a reason and nothing else. Each is counted once, the blank lines
and separators aside. And each cell of the totals is the sum, from the left, of the distances that
belong to it.

**Settled lines** (`ParsedLine.Settled`). The two shapes that a line can have. That a repeat is
never empty rests on the lines above it being settled (`resolve_ne_nil`), so the shape of one line
is shown from that of the lines before.

**The invariant** (`Tally.Accounts`). What holds of a tally after some lines of text. One more line
keeps it (`accounts_read`), so it holds after all of them.
-/

namespace SwimSets

variable {D : Type}

/-! ## The shape of a line -/

namespace ParsedLine

/-- The line is understood and contributes something, or it is not and has a reason. -/
def Settled (l : ParsedLine D) : Prop :=
  l.error = none ∧
    (l.parsed = true ∧ l.contributions ≠ [] ∧ l.reason = none ∨
      l.parsed = false ∧ l.contributions = [] ∧ l.warnings = [] ∧ l.reason ≠ none)

theorem settled_accepted (number : Nat) (raw : Text) {cs : List (Contribution D)}
    (ws : List Warning) (h : cs ≠ []) : (accepted number raw cs ws).Settled :=
  ⟨rfl, .inl ⟨rfl, h, rfl⟩⟩

theorem settled_refused (number : Nat) (raw : Text) (reason : UnparsedReason) :
    (refused number raw reason : ParsedLine D).Settled :=
  ⟨rfl, .inr ⟨rfl, rfl, rfl, Option.some_ne_none _⟩⟩

end ParsedLine

namespace Repeat

/-- What is collected comes from the lines, and the lines taken from above are parsed. -/
theorem mem_collect {l : ParsedLine D} {found above : List (ParsedLine D)}
    (h : l ∈ collect found above) : l ∈ found ∨ l ∈ above ∧ l.parsed = true := by
  induction above generalizing found with
  | nil => exact .inl h
  | cons m above ih =>
    rw [collect] at h
    split_ifs at h with hl hp hw he
    · exact .inl h
    · rcases List.mem_cons.1 h with rfl | h
      · exact .inr ⟨List.mem_cons_self, hp⟩
      · exact .inl h
    · rcases ih h with h | ⟨h, hp'⟩
      · rcases List.mem_cons.1 h with rfl | h
        · exact .inr ⟨List.mem_cons_self, hp⟩
        · exact .inl h
      · exact .inr ⟨List.mem_cons_of_mem _ h, hp'⟩
    · exact (ih h).imp id fun h => ⟨List.mem_cons_of_mem _ h.1, h.2⟩
    · exact .inl h

/-- A repeat of settled lines contributes something. -/
theorem resolve_ne_nil {previous : List (ParsedLine D)} {cs : List (Contribution D)} {n : Nat}
    (h : resolve previous = some (cs, n)) (hs : ∀ l ∈ previous, l.Settled) : cs ≠ [] := by
  simp only [resolve] at h
  split_ifs at h with he
  cases h
  obtain ⟨l, hl⟩ := List.exists_mem_of_ne_nil _ (by simpa using he)
  rcases mem_collect hl with h | ⟨h, hp⟩
  · simp at h
  · rcases (hs l (List.mem_reverse.1 h)).2 with ⟨-, hc, -⟩ | ⟨hp', -⟩
    · rw [Ne, List.flatMap_eq_nil_iff]
      exact fun hall => hc (hall l hl)
    · simp [hp] at hp'

end Repeat

variable [Metres D]

/-- A breakdown with parts contributes something. -/
theorem Breakdown.ne_nil_of_parts {ctx : LineContext} {cs : List (Contribution D)}
    {ws : List Warning} (h : read ctx = .parts cs ws) : cs ≠ [] := by
  unfold read at h
  split at h
  · cases h
  · dsimp only at h
    split_ifs at h with he
    cases h
    simpa using he

/-- Below settled lines a line is settled. -/
theorem Verdict.settled [Speller] {number : Nat} {raw : Text} {previous : List (ParsedLine D)}
    {l : ParsedLine D} (h : Verdict number raw previous l) (hs : ∀ m ∈ previous, m.Settled) :
    l.Settled := by
  cases h with
  | layout reason | refused reason => exact ParsedLine.settled_refused number raw reason
  | repeated cs n content asked found =>
    exact ParsedLine.settled_accepted number raw _ (Repeat.resolve_ne_nil found hs)
  | parts d cs ws measured found =>
    exact ParsedLine.settled_accepted number raw ws (Breakdown.ne_nil_of_parts found)
  | split d way cs measured noParts found =>
    exact ParsedLine.settled_accepted number raw _
      (Split.ne_nil_of_apply (Split.apply_of_choose found))
  | plain d measured noParts =>
    exact ParsedLine.settled_accepted number raw _ (List.cons_ne_nil _ _)

/-- The line keeps its number and its text, and is layout exactly when it is written so. -/
theorem Verdict.written [Speller] {number : Nat} {raw : Text} {previous : List (ParsedLine D)}
    {l : ParsedLine D} (h : Verdict number raw previous l) :
    l.number = number ∧ l.text = raw ∧ l.isLayout = (LineKind.of raw != .content) := by
  cases h with
  | layout reason kind isLayout => exact ⟨rfl, rfl, isLayout.trans (bne_iff_ne.2 kind).symm⟩
  | refused reason content refusal =>
    exact ⟨rfl, rfl, refusal.not_layout.trans (by simp [content])⟩
  | repeated cs n content =>
    exact ⟨rfl, rfl, (by simp [content] : (LineKind.of raw != .content) = false).symm⟩
  | parts d cs ws measured | split d way cs measured | plain d measured =>
    exact ⟨rfl, rfl, (by simp [measured.content] : (LineKind.of raw != .content) = false).symm⟩

/-! ## Totals -/

namespace Totals

/-- Contributions are added to a cell one after another, those that belong to it. -/
theorem get_addAll (t : Totals D) (cs : List (Contribution D)) (s : Stroke) (a : Activity) :
    (t.addAll cs).get s a =
      (cs.filter fun c => c.stroke = s ∧ c.activity = a).foldl (fun d c => d + c.distance)
        (t.get s a) := by
  induction cs generalizing t with
  | nil => rfl
  | cons c cs ih =>
    rw [addAll, List.foldl_cons, ← addAll, ih, get_add]
    by_cases h : c.stroke = s ∧ c.activity = a
    · rw [List.filter_cons_of_pos (by simpa using h), if_pos ⟨h.1.symm, h.2.symm⟩, List.foldl_cons]
    · rw [List.filter_cons_of_neg (by simpa using h), if_neg fun h' => h ⟨h'.1.symm, h'.2.symm⟩]

/-- The totals of lines are those of all their contributions in order. -/
theorem ofLines_eq_addAll (ls : List (ParsedLine D)) :
    ofLines ls = zero.addAll (ls.flatMap (·.contributions)) := by
  rw [addAll, List.foldl_flatMap]
  rfl

theorem ofLines_append (ls : List (ParsedLine D)) (l : ParsedLine D) :
    ofLines (ls ++ [l]) = (ofLines ls).addAll l.contributions := by
  rw [ofLines, List.foldl_append]
  rfl

end Totals

/-! ## The counts -/

namespace Tally

omit [Metres D] in
/-- A settled line adds one to the count of its kind. -/
theorem count_settled (t : Tally D) {l : ParsedLine D} (h : l.Settled) :
    (t.count l).errorCount = t.errorCount ∧
      (t.count l).warningCount = t.warningCount + l.hasWarning.toNat ∧
      (t.count l).unparsedCount = t.unparsedCount + l.isUnparsed.toNat ∧
      (t.count l).parsedCount + l.hasWarning.toNat + l.isUnparsed.toNat + l.isLayout.toNat =
        t.parsedCount + 1 := by
  obtain ⟨he, ⟨hp, -, hr⟩ | ⟨hp, -, hw, -⟩⟩ := h
  · have hl : l.isLayout = false := by simp [ParsedLine.isLayout, hr]
    cases hw : l.hasWarning <;> simp [count, ParsedLine.isUnparsed, he, hp, hl, hw]
  · have hw : l.hasWarning = false := by simp [ParsedLine.hasWarning, hw]
    cases hl : l.isLayout <;> simp [count, ParsedLine.isUnparsed, he, hp, hl, hw]

/-- What holds of a tally when the lines have been read. -/
structure Accounts (t : Tally D) (raws : List Text) : Prop where
  numbers : t.lines.map (·.number) = List.range' 1 raws.length
  texts : t.lines.map (·.text) = raws
  settled : ∀ l ∈ t.lines, l.Settled
  counted : t.parsedCount + t.warningCount + t.unparsedCount +
    raws.countP (fun raw => LineKind.of raw != .content) = raws.length
  noErrors : t.errorCount = 0
  warned : t.warningCount = t.warned.length
  unparsed : t.unparsedCount = t.unparsed.length
  totals : t.totals = Totals.ofLines t.lines

theorem accounts_empty : (empty : Tally D).Accounts [] where
  numbers := rfl
  texts := rfl
  settled := by simp [empty]
  counted := rfl
  noErrors := rfl
  warned := rfl
  unparsed := rfl
  totals := rfl

/-- **One more line keeps the accounts.** -/
theorem accounts_read [Speller] {t : Tally D} {raws : List Text} (h : t.Accounts raws)
    (raw : Text) : (t.read raw).Accounts (raws ++ [raw]) := by
  have hv := parseLine_verdict (t.lines.length + 1) raw t.lines
  have hs := hv.settled h.settled
  obtain ⟨hn, ht, hl⟩ := hv.written
  have hlen : t.lines.length = raws.length := by simpa using congrArg List.length h.texts
  unfold read
  generalize parseLine (t.lines.length + 1) raw t.lines = l at hs hn ht hl
  obtain ⟨ce, cw, cu, cp⟩ := t.count_settled hs
  constructor
  case numbers => simp [push, h.numbers, hn, hlen, List.range'_concat, Nat.add_comm]
  case texts => simp [push, h.texts, ht]
  case settled =>
    intro m hm
    rcases List.mem_append.1 hm with hm | hm
    · exact h.settled m hm
    · rwa [List.mem_singleton.1 hm]
  case counted =>
    have hc := h.counted
    have hp : (raws ++ [raw]).countP (fun raw => LineKind.of raw != .content) =
        raws.countP (fun raw => LineKind.of raw != .content) + l.isLayout.toNat := by
      rw [List.countP_append, List.countP_singleton, hl]
      cases LineKind.of raw != .content <;> rfl
    show (t.count l).parsedCount + (t.count l).warningCount + (t.count l).unparsedCount + _ = _
    rw [hp, cw, cu, List.length_append, List.length_singleton]
    omega
  case noErrors => exact ce.trans h.noErrors
  case warned =>
    refine cw.trans ?_
    rw [h.warned, warned, warned, lines_push, List.filter_append, List.length_append]
    cases hw : l.hasWarning <;> simp [hw]
  case unparsed =>
    refine cu.trans ?_
    rw [h.unparsed, unparsed, unparsed, lines_push, List.filter_append, List.length_append]
    cases hw : l.isUnparsed <;> simp [hw]
  case totals => rw [totals_push, lines_push, Totals.ofLines_append, h.totals]

/-- The accounts hold after all lines of a text. -/
theorem accounts_parse [Speller] (text : Text) : (parse text : Tally D).Accounts text.lines := by
  have fold : ∀ (rest : List Text) {t : Tally D} {raws : List Text}, t.Accounts raws →
      (rest.foldl read t).Accounts (raws ++ rest) := by
    intro rest
    induction rest with
    | nil => intro t raws h; simpa using h
    | cons raw rest ih =>
      intro t raws h
      rw [List.foldl_cons, List.append_cons]
      exact ih (accounts_read h raw)
  exact fold text.lines accounts_empty

/-- What each line has if the lines above it have it, all lines of a session have. -/
theorem forall_mem_parse [Speller] {Q : ParsedLine D → Prop}
    (h : ∀ number raw previous, (∀ l ∈ previous, Q l) → Q (parseLine number raw previous))
    (text : Text) : ∀ l ∈ (parse text : Tally D).lines, Q l := by
  have fold : ∀ (raws : List Text) (t : Tally D), (∀ l ∈ t.lines, Q l) →
      ∀ l ∈ (raws.foldl read t).lines, Q l := by
    intro raws
    induction raws with
    | nil => exact fun t ht => ht
    | cons raw raws ih =>
      intro t ht
      refine ih _ fun l hl => ?_
      rw [read, lines_push, List.mem_append, List.mem_singleton] at hl
      rcases hl with hl | rfl
      · exact ht l hl
      · exact h _ raw _ ht
  exact fold text.lines empty (List.forall_mem_nil _)

end Tally

/-- A line of a session is layout unless it is written as content. -/
theorem isLayout_of_mem_parse [Speller] (text : Text) :
    ∀ l ∈ (parse text : Tally D).lines, l.isLayout = (LineKind.of l.text != .content) := by
  refine Tally.forall_mem_parse (fun number raw previous _ => ?_) text
  obtain ⟨-, ht, hl⟩ := (parseLine_verdict number raw previous).written
  rw [ht, hl]

/-- **Every line of a session is accounted for.** The lines are those of the text in order; each is
settled one way or the other; each is counted once, but for blank lines and separators; and each
cell of the totals is the sum from zero, in the order of the lines, of what they contribute to
it. -/
theorem parse_accounts [Speller] (text : Text) :
    let t : Tally D := parse text
    (t.lines.map (·.number) = List.range' 1 text.lines.length ∧
      t.lines.map (·.text) = text.lines) ∧
    (∀ l ∈ t.lines, l.Settled) ∧
    (t.parsedCount + t.warningCount + t.unparsedCount +
        text.lines.countP (fun raw => LineKind.of raw != .content) = text.lines.length ∧
      t.errorCount = 0 ∧ t.warningCount = t.warned.length ∧
      t.unparsedCount = t.unparsed.length) ∧
    t.totals = Totals.ofLines t.lines ∧
    ∀ s a, t.totals.get s a =
      ((t.lines.flatMap (·.contributions)).filter fun c => c.stroke = s ∧ c.activity = a).foldl
        (fun d c => d + c.distance) ((0 : Nat) : D) := by
  have h := Tally.accounts_parse (D := D) text
  refine ⟨⟨h.numbers, h.texts⟩, h.settled, ⟨h.counted, h.noErrors, h.warned, h.unparsed⟩,
    h.totals, fun s a => ?_⟩
  rw [h.totals, Totals.ofLines_eq_addAll, Totals.get_addAll, Totals.get_zero]

end SwimSets
