import Mathlib.Data.List.TakeWhile
import Mathlib.Tactic.SplitIfs
import SwimSets.Line.View

/-!
# Characters of a line

**Classes.** Digits, blanks and word characters as the scanners tell them apart: digits stand in
words, blanks do not, and neither is a letter. The blanks are few, so what holds of each of them
is found by trying them all (`forall_blank`), and so it is with the digits of ASCII
(`forall_digit`).

**Where characters come from.** The steps from a line to its views drop characters, spell them
differently and put single spaces between them. What a view holds is therefore a space or comes
from a character of the line (`mem_collapse`, `mem_stripAsides`, `mem_toAscii`).

**Layout.** Lines of blanks, dashes, underscores and equals signs are layout. Their views hold no
digit (`not_isDecimal_of_layout`), so a line with a number to read is content.
-/

namespace SwimSets

/-- What is said of each character in a list is decided by going through the list, and never by
going through all characters. -/
instance (priority := high) decidableForallMem {α : Type} (p : α → Prop) [DecidablePred p]
    (t : List α) : Decidable (∀ c ∈ t, p c) := List.decidableBAll p t

/-! ## Tables of ranges -/

section Ranges

variable {rs ws : List (Nat × Nat)} {r : Nat × Nat} {n : Nat}

theorem inRanges_cons :
    inRanges (r :: rs) n = true ↔ (r.1 ≤ n ∧ n ≤ r.2) ∨ inRanges rs n = true := by
  simp [inRanges]

/-- Each range of the first table lies in one of the second, both gone through once. -/
def rangesWithin : List (Nat × Nat) → List (Nat × Nat) → Bool
  | [], _ => true
  | r :: rs, ws =>
    match ws.dropWhile fun w => w.2.blt r.1 with
    | [] => false
    | w :: ws => w.1.ble r.1 && r.2.ble w.2 && rangesWithin rs (w :: ws)

theorem inRanges_mono (h : rangesWithin rs ws = true) (hn : inRanges rs n = true) :
    inRanges ws n = true := by
  induction rs generalizing ws with
  | nil => cases hn
  | cons r rs ih =>
    have hsub : ∀ w ∈ ws.dropWhile fun w => w.2.blt r.1, w ∈ ws :=
      fun w hw => (List.dropWhile_sublist _).subset hw
    rw [rangesWithin] at h
    split at h
    · cases h
    · next w vs hdrop =>
      simp only [Bool.and_eq_true, Nat.ble_eq] at h
      obtain ⟨⟨hlow, hhigh⟩, hrest⟩ := h
      have hin : inRanges (w :: vs) n = true := by
        rcases inRanges_cons.1 hn with hr | hn
        · exact inRanges_cons.2 (.inl ⟨by omega, by omega⟩)
        · exact ih hrest hn
      obtain ⟨v, hv, hvn⟩ := List.any_eq_true.1 hin
      exact List.any_eq_true.2 ⟨v, hsub v (hdrop ▸ hv), hvn⟩

end Ranges

/-! ## Classes of characters -/

/-- The codes of the characters with the White_Space property. -/
def blankCodes : List Nat :=
  [9, 10, 11, 12, 13, 32, 0x85, 0xA0, 0x1680, 0x2000, 0x2001, 0x2002, 0x2003, 0x2004, 0x2005,
    0x2006, 0x2007, 0x2008, 0x2009, 0x200A, 0x2028, 0x2029, 0x202F, 0x205F, 0x3000]

theorem toNat_mem_blankCodes {c : Char} (h : isBlank c = true) : c.toNat ∈ blankCodes := by
  simp only [isBlank, Bool.or_eq_true, Bool.and_eq_true, decide_eq_true_eq, beq_iff_eq] at h
  simp only [blankCodes, List.mem_cons, List.not_mem_nil, or_false]
  omega

/-- What holds of each blank holds of all. -/
theorem forall_blank {p : Char → Bool} (h : blankCodes.all fun n => p (Char.ofNat n)) {c : Char}
    (hc : isBlank c = true) : p c = true := by
  have := List.all_eq_true.1 h c.toNat (toNat_mem_blankCodes hc)
  rwa [Char.ofNat_toNat] at this

theorem not_isDecimal_of_isBlank {c : Char} (h : isBlank c = true) : isDecimal c = false := by
  simpa using forall_blank (p := fun c => !isDecimal c) (by decide +kernel) h

theorem not_isWordChar_of_isBlank {c : Char} (h : isBlank c = true) : isWordChar c = false := by
  simpa using forall_blank (p := fun c => !isWordChar c) (by decide +kernel) h

theorem isWordChar_of_isDecimal {c : Char} (h : isDecimal c = true) : isWordChar c = true := by
  unfold isDecimal at h
  unfold isWordChar
  split_ifs at h ⊢
  · simp [h]
  · exact inRanges_mono (by decide +kernel) h

/-- No digit comes where no word goes on. -/
theorem not_any_isDecimal {o : Option Char} (h : o.any isWordChar = false) :
    o.any isDecimal = false := by
  refine (Option.any_eq_false _ _).2 fun c hc => Bool.eq_false_iff.2 fun hd => ?_
  simp [hc, isWordChar_of_isDecimal hd] at h

theorem isWordChar_of_isAsciiLetter {c : Char} (h : isAsciiLetter c = true) :
    isWordChar c = true := by
  have hlt : c.toNat < 128 := by
    simp only [isAsciiLetter, Bool.or_eq_true, Bool.and_eq_true, decide_eq_true_eq] at h
    rcases h with ⟨-, h⟩ | ⟨-, h⟩ <;>
      exact Nat.lt_of_le_of_lt (UInt32.le_iff_toNat_le.1 h) (by decide)
  simp [isWordChar, hlt, h]

/-- The codes of the digits of ASCII. -/
def digitCodes : List Nat := [48, 49, 50, 51, 52, 53, 54, 55, 56, 57]

/-- What holds of the digits by their codes holds of each. -/
theorem forall_digit {p : Char → Bool} (h : digitCodes.all fun k => p (Char.ofNat k)) {c : Char}
    (hc : isAsciiDigit c = true) : p c = true := by
  have hmem : c.toNat ∈ digitCodes := by
    simp only [isAsciiDigit, Bool.and_eq_true, decide_eq_true_eq] at hc
    have h0 : 48 ≤ c.toNat := UInt32.le_iff_toNat_le.1 hc.1
    have h9 : c.toNat ≤ 57 := UInt32.le_iff_toNat_le.1 hc.2
    simp only [digitCodes, List.mem_cons, List.not_mem_nil, or_false]
    omega
  have := List.all_eq_true.1 h c.toNat hmem
  rwa [Char.ofNat_toNat] at this

theorem isDecimal_of_isAsciiDigit {c : Char} (h : isAsciiDigit c = true) :
    isDecimal c = true := forall_digit (by decide) h

/-- What holds of the capitals by their codes holds of each. -/
theorem forall_capital {p : Char → Bool} (h : (List.range' 65 26).all fun n => p (Char.ofNat n))
    {c : Char} (hc : ('A' ≤ c && c ≤ 'Z') = true) : p c = true := by
  have hmem : c.toNat ∈ List.range' 65 26 := by
    simp only [Bool.and_eq_true, decide_eq_true_eq] at hc
    have hA : 65 ≤ c.toNat := UInt32.le_iff_toNat_le.1 hc.1
    have hZ : c.toNat ≤ 90 := UInt32.le_iff_toNat_le.1 hc.2
    rw [List.mem_range'_1]
    omega
  have := List.all_eq_true.1 h c.toNat hmem
  rwa [Char.ofNat_toNat] at this

/-- What a capital and its small letter have in common, a character and its lower-case form have. -/
theorem lower_congr {α : Type} [DecidableEq α] (f : Char → α)
    (h : (List.range' 65 26).all fun n => f (lower (Char.ofNat n)) = f (Char.ofNat n)) (c : Char) :
    f (lower c) = f c := by
  by_cases hc : ('A' ≤ c && c ≤ 'Z') = true
  · simpa using forall_capital (p := fun c => f (lower c) = f c) h hc
  · rw [lower, if_neg (by simpa using hc)]

/-- A number starts with no lower-case letter. -/
theorem not_letter_of_isDecimal {c : Char} (h : isDecimal c = true) :
    ('a' ≤ c && c ≤ 'z' : Bool) = false := by
  unfold isDecimal at h
  split_ifs at h with hc
  · simp only [isAsciiDigit, Bool.and_eq_true, decide_eq_true_eq] at h
    have := h.2
    simp only [Bool.and_eq_false_iff, decide_eq_false_iff_not]
    left
    intro ha
    exact absurd (Char.le_trans ha this) (by decide)
  · simp only [Bool.and_eq_false_iff, decide_eq_false_iff_not]
    right
    intro hz
    exact hc (Nat.lt_of_le_of_lt (UInt32.le_iff_toNat_le.1 hz) (by decide))

theorem not_isAsciiLetter_of_isDecimal {c : Char} (h : isDecimal c = true) :
    isAsciiLetter c = false := by
  have hlow := not_letter_of_isDecimal h
  have hup : ('A' ≤ c && c ≤ 'Z' : Bool) = false := by
    by_contra hup
    simp only [Bool.not_eq_false, Bool.and_eq_true, decide_eq_true_eq] at hup
    have hlt : c.toNat < 128 :=
      Nat.lt_of_le_of_lt (UInt32.le_iff_toNat_le.1 hup.2) (by decide)
    simp only [isDecimal, hlt, if_true, isAsciiDigit, Bool.and_eq_true, decide_eq_true_eq] at h
    exact absurd (Char.le_trans hup.1 h.2) (by decide)
  rw [isAsciiLetter, hlow, hup]
  rfl

theorem not_letter_of_isBlank {c : Char} (h : isBlank c = true) :
    ('a' ≤ c && c ≤ 'z' : Bool) = false := by
  have := forall_blank (p := fun c => !('a' ≤ c && c ≤ 'z')) (by decide) h
  simpa only [Bool.not_eq_true'] using this

/-! ## Where characters come from -/

theorem Text.mem_trimEnd {t : Text} {c : Char} (h : c ∈ t) :
    isBlank c = true ∨ c ∈ Text.trimEnd t := by
  induction t with
  | nil => cases h
  | cons d r ih =>
    rw [trimEnd]
    cases hr : trimEnd r with
    | nil =>
      rw [hr] at ih
      rcases List.mem_cons.1 h with rfl | h
      · by_cases hc : isBlank c = true
        · exact .inl hc
        · simp [hc]
      · exact .inl ((ih h).resolve_right List.not_mem_nil)
    | cons e s =>
      rw [hr] at ih
      rcases List.mem_cons.1 h with rfl | h
      · exact .inr List.mem_cons_self
      · exact (ih h).imp_right (List.mem_cons_of_mem d)

theorem Text.mem_trim {t : Text} {c : Char} (h : c ∈ t) :
    isBlank c = true ∨ c ∈ Text.trim t := by
  rw [← List.takeWhile_append_dropWhile (p := isBlank) (l := t)] at h
  rcases List.mem_append.1 h with h | h
  · exact .inl (List.mem_takeWhile_imp h)
  · exact mem_trimEnd h

theorem Text.mem_gap {t : Text} {c : Char} (h : c ∈ Text.gap t) : c = ' ' ∨ c ∈ t := by
  cases t with
  | nil => cases h
  | cons d r =>
    rw [gap] at h
    split_ifs at h
    · exact .inr h
    · exact List.mem_cons.1 h

theorem Text.mem_squeeze {t : Text} {c : Char} (h : c ∈ Text.squeeze t) : c = ' ' ∨ c ∈ t := by
  induction t with
  | nil => cases h
  | cons d r ih =>
    rw [squeeze] at h
    split at h
    · rcases mem_gap h with h | h
      · exact .inl h
      · exact (ih h).imp_right (List.mem_cons_of_mem d)
    · rcases List.mem_cons.1 h with rfl | h
      · exact .inr List.mem_cons_self
      · exact (ih h).imp_right (List.mem_cons_of_mem d)

theorem Text.mem_collapse {t : Text} {c : Char} (h : c ∈ Text.collapse t) : c = ' ' ∨ c ∈ t :=
  mem_squeeze (List.dropWhile_subset isBlank h)

theorem Scanner.mem_blankFrom {α : Type} {s : Scanner α} {t : Text} {n : Nat} {q : Option Char}
    {c : Char} (h : c ∈ s.blankFrom n q t) : c = ' ' ∨ c ∈ t := by
  induction t generalizing n q with
  | nil => cases h
  | cons d r ih =>
    cases n with
    | succ n => exact (ih h).imp_right (List.mem_cons_of_mem d)
    | zero =>
      rw [blankFrom] at h
      split at h
      · rcases List.mem_cons.1 h with rfl | h
        · exact .inr List.mem_cons_self
        · exact (ih h).imp_right (List.mem_cons_of_mem d)
      · rcases List.mem_cons.1 h with rfl | h
        · exact .inl rfl
        · exact (ih h).imp_right (List.mem_cons_of_mem d)

theorem mem_stripAsides {t : Text} {c : Char} (h : c ∈ stripAsides t) : c = ' ' ∨ c ∈ t := by
  have fold : ∀ (kinds : List (Scanner Unit)) {u : Text},
      c ∈ kinds.foldl (fun u kind => kind.blankOut u) u → c = ' ' ∨ c ∈ u := by
    intro kinds
    induction kinds with
    | nil => exact .inr
    | cons kind kinds ih =>
      intro u hu
      exact (ih hu).elim .inl Scanner.mem_blankFrom
  exact (Text.mem_collapse h).elim .inl (fold Aside.kinds)

theorem Speller.close_subset [Speller] {b : Bool} {s : Text} : Speller.close b s ⊆ s := by
  rcases Speller.close_eq b s with h | h
  · rw [h]
    exact List.Subset.refl s
  · intro c hc
    rw [h]
    exact List.mem_append_left _ hc

theorem mem_spell [Speller] {t : Text} {c : Char} (h : c ∈ spell t) :
    ∃ d ∈ t, c ∈ (Speller.spelling d).getD "[?]".toList := by
  induction t with
  | nil => cases h
  | cons d r ih =>
    rw [spell] at h
    cases hd : Speller.spelling d with
    | none =>
      rw [hd] at h
      rcases List.mem_append.1 h with h | h
      · exact ⟨d, List.mem_cons_self, by simpa [hd] using h⟩
      · obtain ⟨e, he, hc⟩ := ih h
        exact ⟨e, List.mem_cons_of_mem d he, hc⟩
    | some w =>
      rw [hd] at h
      rcases List.mem_append.1 h with h | h
      · exact ⟨d, List.mem_cons_self, by simpa [hd] using Speller.close_subset h⟩
      · obtain ⟨e, he, hc⟩ := ih h
        exact ⟨e, List.mem_cons_of_mem d he, hc⟩

theorem mem_toAscii [Speller] {t : Text} {c : Char} (h : c ∈ toAscii t) :
    c ∈ t ∨ ∃ d ∈ t, c ∈ (Speller.spelling d).getD "[?]".toList := by
  rcases List.mem_append.1 h with h | h
  · exact .inl ((List.takeWhile_prefix isPlain).subset h)
  · obtain ⟨d, hd, hc⟩ := mem_spell h
    exact .inr ⟨d, List.dropWhile_subset isPlain hd, hc⟩

theorem mem_spaceTimes {raw : Text} {c : Char} (h : c ∈ spaceTimes raw) :
    c = ' ' ∨ c = 'x' ∨ c ∈ raw := by
  obtain ⟨d, hd, hc⟩ := List.mem_flatMap.1 h
  split at hc
  · simp only [List.mem_cons, List.not_mem_nil, or_false] at hc
    rcases hc with rfl | rfl | rfl <;> simp
  · rw [List.mem_singleton.1 hc]
    exact .inr (.inr hd)

/-! ## ASCII -/

/-- Below 128 there are no other digits than those of ASCII. -/
theorem isAsciiDigit_of_lt {c : Char} (h : c.toNat < 128) (hd : isDecimal c = true) :
    isAsciiDigit c = true := by
  rwa [isDecimal, if_pos h] at hd

/-- A plain digit is one of ASCII. -/
theorem isAsciiDigit_of_isPlain {c : Char} (h : isPlain c = true) (hd : isDecimal c = true) :
    isAsciiDigit c = true := isAsciiDigit_of_lt (Nat.lt_succ_of_lt (of_decide_eq_true h)) hd

/-- All that is spelled is plain. -/
theorem isPlain_of_mem_spelling [Speller] {c d : Char}
    (h : c ∈ (Speller.spelling d).getD "[?]".toList) : isPlain c = true := by
  cases hd : Speller.spelling d with
  | none =>
    rw [hd] at h
    exact (by decide : ∀ c ∈ "[?]".toList, isPlain c = true) c h
  | some w =>
    rw [hd] at h
    exact Speller.spelling_plain hd c h

/-- A normalized line is plain. -/
theorem isPlain_of_mem_normalize [Speller] {raw : Text} {c : Char} (h : c ∈ normalize raw) :
    isPlain c = true := by
  rcases Text.mem_collapse h with rfl | h
  · decide
  obtain ⟨d, hd, rfl⟩ := List.mem_map.1 h
  rw [lower_congr isPlain (by decide)]
  rcases List.mem_append.1 hd with hd | hd
  · exact List.mem_takeWhile_imp hd
  · obtain ⟨e, -, he⟩ := mem_spell hd
    exact isPlain_of_mem_spelling he

/-- No multiplication sign is plain. -/
theorem spaceTimes_of_plain {raw : Text} (h : ∀ c ∈ raw, isPlain c = true) :
    spaceTimes raw = raw := by
  induction raw with
  | nil => rfl
  | cons c raw ih =>
    obtain ⟨hc, hraw⟩ := List.forall_mem_cons.1 h
    have hne : c ≠ '×' := by
      rintro rfl
      cases hc
    show (if c = '×' then [' ', 'x', ' '] else [c]) ++ spaceTimes raw = c :: raw
    rw [ih hraw, if_neg hne]
    rfl

/-- Of a plain text nothing is spelled. -/
theorem toAscii_of_plain [Speller] {t : Text} (h : ∀ c ∈ t, isPlain c = true) : toAscii t = t := by
  rw [toAscii, List.takeWhile_eq_self_iff.2 h, List.dropWhile_eq_nil_iff.2 h, spell,
    List.append_nil]

/-- **A plain line is normalized alike** in all ways of spelling. -/
theorem normalize_of_plain [Speller] {raw : Text} (h : ∀ c ∈ raw, isPlain c = true) :
    normalize raw = Text.collapse (raw.map lower) := by
  rw [normalize, spaceTimes_of_plain h, toAscii_of_plain h]

/-- The digits of a measurable line are those of ASCII. -/
theorem isAsciiDigit_of_mem_measurable [Speller] {raw : Text} {c : Char}
    (h : c ∈ (LineView.of raw).measurable) (hd : isDecimal c = true) : isAsciiDigit c = true := by
  refine isAsciiDigit_of_isPlain ?_ hd
  rcases mem_stripAsides h with rfl | h
  · decide
  · exact isPlain_of_mem_normalize h

/-! ## Layout -/

/-- No blank and no rule is spelled with a digit. -/
def Speller.DigitlessLayout [Speller] : Prop :=
  ∀ (c : Char) (s : Text), isBlank c = true ∨ isRule c = true → Speller.spelling c = some s →
    ∀ d ∈ s, isDecimal d = false

/-- Layout consists of blanks and rules. -/
theorem isBlank_or_isRule_of_layout {raw : Text} (h : LineKind.of raw ≠ .content) {c : Char}
    (hc : c ∈ raw) : isBlank c = true ∨ isRule c = true := by
  refine (Text.mem_trim hc).imp_right fun ht => ?_
  rw [LineKind.of] at h
  split_ifs at h with hnil hrule
  · simp [List.isEmpty_iff.1 hnil] at ht
  · exact List.all_eq_true.1 hrule c ht
  · exact absurd rfl h

theorem not_isDecimal_of_isRule {c : Char} (h : isRule c = true) : isDecimal c = false := by
  simp only [isRule, Bool.or_eq_true, beq_iff_eq] at h
  rcases h with (rfl | rfl) | rfl <;> decide

/-- Capitals and their small letters are no digits. -/
theorem isDecimal_lower (c : Char) : isDecimal (lower c) = isDecimal c :=
  lower_congr isDecimal (by decide +kernel) c

/-- **Layout holds no digit that is read**, if none is spelled for its blanks and rules. -/
theorem not_isDecimal_of_layout [Speller] (hdigitless : Speller.DigitlessLayout) {raw : Text}
    (h : LineKind.of raw ≠ .content) {c : Char} (hc : c ∈ (LineView.of raw).measurable) :
    isDecimal c = false := by
  rcases mem_stripAsides hc with rfl | hc
  · decide
  rcases Text.mem_collapse hc with rfl | hc
  · decide
  obtain ⟨d, hd, rfl⟩ := List.mem_map.1 hc
  rw [isDecimal_lower]
  rcases mem_toAscii hd with hd | ⟨e, he, hd⟩
  · rcases mem_spaceTimes hd with rfl | rfl | hd
    · decide
    · decide
    · exact (isBlank_or_isRule_of_layout h hd).elim not_isDecimal_of_isBlank
        not_isDecimal_of_isRule
  · cases hs : Speller.spelling e with
    | none =>
      rw [hs] at hd
      exact (by decide : ∀ c ∈ "[?]".toList, isDecimal c = false) d hd
    | some w =>
      rw [hs] at hd
      rcases mem_spaceTimes he with rfl | rfl | he
      · exact hdigitless _ _ (.inl rfl) hs d hd
      · have := Speller.spelling_letter (c := 'x') rfl
        rw [hs, Option.some.injEq] at this
        rw [this, Option.getD_some, List.mem_singleton] at hd
        exact hd ▸ by decide
      · exact hdigitless _ _ (isBlank_or_isRule_of_layout h he) hs d hd

end SwimSets
