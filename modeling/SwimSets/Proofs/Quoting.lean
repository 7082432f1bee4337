import SwimSets.Proofs.Readers
import SwimSets.Toml.Quoted

/-!
# Texts in quotes, read and written

**Reading (`quoted_oneLine`).** A text in quotes on one line is read as the text that it writes, and
the reader stops right behind it. Between double quotes what stands for a character is one piece
(`basicChar_piece`), and by induction the pieces make the text (`rounds_body`). Between single
quotes the whole text is one run. A reader gives one answer, so no two texts are written alike
(`OneLine.unique`).

**Writing.** A text that is quoted on one line is written as itself (`oneLine_quote`), and what is
quoted on several lines is no text of one line (`not_oneLine_tripled`). So what is quoted on one
line is the text that was to be quoted (`eq_of_oneLine_quote`). Letters are put between double
quotes (`quote_letters`).
-/

namespace SwimSets.Toml

open Reader

variable {t u w : Text} {c : Char}

/-! ## Between double quotes -/

/-- **What stands for a character is read as that character.** -/
theorem basicChar_piece {p : Text} (h : Piece p c) (r : Text) :
    basicChar (p ++ r) = some (c, r) := by
  cases h with
  | plain printable noQuote noEscape => simp [basicChar, printable, noQuote]
  | @short e _ h =>
    unfold shortEscape? at h
    split_ifs at h with hb ht hn hf hr hq hs
    all_goals
      cases h
      subst e
      rfl
  | code h =>
    show (charOfHex? _).map _ = _
    rw [h]
    rfl
  | longCode h =>
    show (charOfHex? _).map _ = _
    rw [h]
    rfl

/-- No piece starts with a double quote, and each has a first character. -/
theorem Piece.head {p : Text} (h : Piece p c) : ∃ x w, p = x :: w ∧ x ≠ '"' := by
  cases h with
  | plain _ noQuote _ => exact ⟨_, _, rfl, noQuote⟩
  | short _ | code _ | longCode _ => exact ⟨_, _, rfl, by decide⟩

theorem Body.head {b : Text} (h : Body b t) : b.head?.any (· == '"') = false := by
  cases h with
  | nil => rfl
  | cons piece _ =>
    obtain ⟨x, w, rfl, hx⟩ := piece.head
    simpa using hx

/-- The pieces are read up to the closing quote. -/
theorem rounds_body {b : Text} (h : Body b t) (r : Text) :
    Rounds basicChar t (b ++ '"' :: r) ('"' :: r) := by
  induction h with
  | nil => exact .stop rfl
  | cons piece _ ih =>
    obtain ⟨x, w, rfl, -⟩ := piece.head
    rw [List.append_assoc]
    refine .more (basicChar_piece piece _) ?_ ih
    simp only [List.length_append, List.length_cons]
    omega

theorem basicText_body {b : Text} (h : Body b t) (r : Text) :
    basicText ("\"".toList ++ (b ++ ("\"".toList ++ r))) = some (t, r) := by
  have hmany : many basicChar (b ++ ("\"".toList ++ r)) = some (t, "\"".toList ++ r) :=
    (rounds_body h r).many
  rw [basicText, bind_exactly, bind_of_some hmany, bind_exactly]
  rfl

/-! ## Between single quotes -/

theorem literalText_plain (h : ∀ c ∈ t, c ≠ '\'' ∧ isPrintable c = true) (r : Text) :
    literalText ("'".toList ++ (t ++ ("'".toList ++ r))) = some (t, r) := by
  have hrun : run (fun c => c != '\'' && isPrintable c) (t ++ ("'".toList ++ r)) =
      some (t, "'".toList ++ r) :=
    run_append (fun c hc => by simp [h c hc]) rfl
  rw [literalText, bind_exactly, bind_of_some hrun, bind_exactly]
  rfl

/-! ## On one line -/

/-- A text between two quotes is none between two times three, unless it starts with one. -/
theorem longText_of_short {q : Char} {piece : Reader Text} {body : Text} (hq : q ≠ '\n')
    (hbody : body.head?.any (· == q) = false) (r : Text) :
    longText [q, q, q] piece (q :: (body ++ q :: '\n' :: r)) = none := by
  refine bind_of_none ?_
  cases body with
  | nil => simp [exactly, hq]
  | cons c body =>
    have hc : c ≠ q := by simpa using hbody
    simp [exactly, hc.symm]

/-- Reading between one kind of quotes fails at the other. -/
theorem longText_of_ne {q x : Char} {piece : Reader Text} (h : q ≠ x) (r : Text) :
    longText (q :: w) piece (x :: r) = none :=
  bind_of_none (exactly_of_ne h)

/-- **A text of one line is read as what it writes,** and the end of the line is left. -/
theorem quoted_oneLine (h : OneLine w t) (r : Text) :
    quoted (w ++ '\n' :: r) = some (t, '\n' :: r) := by
  cases h with
  | @basic b _ body =>
    have htext : '"' :: (b ++ ['"']) ++ '\n' :: r = '"' :: (b ++ '"' :: '\n' :: r) := by simp
    rw [htext, quoted]
    refine (oneOf_of_none (longText_of_short (by decide) body.head r)).trans ?_
    refine (oneOf_of_none (longText_of_ne (by decide) _)).trans ?_
    exact oneOf_of_some (basicText_body body _)
  | literal plain =>
    have htext : '\'' :: (t ++ ['\'']) ++ '\n' :: r = '\'' :: (t ++ '\'' :: '\n' :: r) := by simp
    have hhead : t.head?.any (· == '\'') = false := by
      cases t with
      | nil => rfl
      | cons c t => simpa using (plain c List.mem_cons_self).1
    rw [htext, quoted]
    refine (oneOf_of_none (longText_of_ne (by decide) _)).trans ?_
    refine (oneOf_of_none (longText_of_short (by decide) hhead r)).trans ?_
    refine (oneOf_of_none rfl).trans ?_
    exact oneOf_of_some (literalText_plain plain _)

/-- No two texts are written alike. -/
theorem OneLine.unique (h : OneLine w t) (h' : OneLine w u) : t = u := by
  have heq := (quoted_oneLine h []).symm.trans (quoted_oneLine h' [])
  simpa using heq

/-- What starts with three quotes is no text of one line. -/
theorem not_oneLine_tripled {q : Char} : ¬ OneLine (q :: q :: q :: w) t := by
  intro h
  generalize hw : q :: q :: q :: w = v at h
  cases h with
  | @basic b _ body =>
    obtain ⟨rfl, hrest⟩ := List.cons.inj hw
    cases b with
    | nil => simp at hrest
    | cons x b =>
      obtain ⟨rfl, -⟩ := List.cons.inj hrest
      exact absurd body.head (by simp)
  | literal plain =>
    obtain ⟨rfl, hrest⟩ := List.cons.inj hw
    cases t with
    | nil => simp at hrest
    | cons x t =>
      obtain ⟨rfl, -⟩ := List.cons.inj hrest
      exact (plain _ List.mem_cons_self).1 rfl

/-! ## Writing -/

/-- The digits of an escape write the code of the character. -/
theorem charOfHex_hexUpper :
    ∀ n < 128,
      charOfHex? ['0', '0', hexUpper (n / 16), hexUpper (n % 16)] = some (Char.ofNat n) := by
  decide +kernel

theorem eq_of_toNat {n : Nat} (h : c.toNat = n) : c = Char.ofNat n := by
  rw [← h, Char.ofNat_toNat]

/-- Between double quotes on one line: a quote is escaped. -/
def escapeBasic (c : Char) : Text := if c = '"' then ['\\', '"'] else escapeChar false c

theorem escape_basic (seen : Nat) (t : Text) : escape false seen t = t.flatMap escapeBasic := by
  induction t generalizing seen with
  | nil => rfl
  | cons c t ih =>
    by_cases hc : c = '"'
    · simp [escape, escapeBasic, hc, ih]
    · simp [escape, escapeBasic, hc, ih]

/-- **What is written for a character stands for it.** -/
theorem piece_escapeBasic (c : Char) : Piece (escapeBasic c) c := by
  by_cases hq : c = '"'
  · rw [escapeBasic, if_pos hq, hq]
    exact .short rfl
  · rw [escapeBasic, if_neg hq]
    unfold escapeChar
    split_ifs with h₁ h₂ h₃ h₄ h₅ h₆ h₇ h₈
    · cases h₂
    · rw [h₁]
      exact .short rfl
    · rw [h₃]
      exact .short rfl
    · rw [h₄]
      exact .short rfl
    · rw [eq_of_toNat h₅]
      exact .short rfl
    · rw [eq_of_toNat h₆]
      exact .short rfl
    · rw [h₇]
      exact .short rfl
    · have hc : c.toNat < 128 := by
        simp only [Bool.or_eq_true, decide_eq_true_eq] at h₈
        omega
      have hcode := charOfHex_hexUpper _ hc
      rw [Char.ofNat_toNat] at hcode
      exact .code hcode
    · have hprint : isPrintable c = true := by
        simp only [Bool.or_eq_true, decide_eq_true_eq, not_or] at h₈
        simp only [isPrintable, Bool.or_eq_true, Bool.and_eq_true, decide_eq_true_eq, bne_iff_ne]
        omega
      exact .plain hprint hq h₇

theorem body_escape (seen : Nat) (t : Text) : Body (escape false seen t) t := by
  rw [escape_basic]
  induction t with
  | nil => exact .nil
  | cons c t ih => exact .cons (piece_escapeBasic c) ih

theorem max_le_longestRun (q : Char) (current longest : Nat) (t : Text) :
    max current longest ≤ longestRun q current longest t := by
  induction t generalizing current longest with
  | nil => exact Nat.le_refl _
  | cons c t ih =>
    by_cases h : c = q
    · have := ih (current + 1) longest
      simp only [longestRun, h, if_true]
      omega
    · have := ih 0 (max current longest)
      simp only [longestRun, h, if_false]
      omega

/-- There is a run of quotes exactly where there is a quote. -/
theorem longestRun_eq_zero_iff {q : Char} : longestRun q 0 0 t = 0 ↔ q ∉ t := by
  induction t with
  | nil => simp [longestRun]
  | cons c t ih =>
    by_cases h : c = q
    · have hrun : 1 ≤ longestRun q 1 0 t := max_le_longestRun q 1 0 t
      have hne : longestRun q 1 0 t ≠ 0 := by omega
      simpa [longestRun, h] using hne
    · simpa [longestRun, h, Ne.symm h] using ih

/-- Single quotes are taken where nothing needs an escape and no quote in the text closes it. -/
theorem isPrintable_of_styleFor (h : styleFor t = .literal) :
    ∀ c ∈ t, c ≠ '\'' ∧ isPrintable c = true := by
  simp only [styleFor] at h
  split_ifs at h with hescape hlines hbasic hliteral
  rw [Bool.and_eq_true, decide_eq_true_eq] at hliteral
  obtain ⟨hrun, hline⟩ := hliteral
  intro c hc
  have hquote : c ≠ '\'' := by
    intro heq
    exact longestRun_eq_zero_iff.1 hrun (heq ▸ hc)
  have hnewline : c ≠ '\n' := by
    rintro rfl
    simp [hc] at hline
  have hplain : needsEscape c = false := by
    simpa using (List.any_eq_false.1 (Bool.of_not_eq_true hescape)) c hc
  exact ⟨hquote, by simpa [needsEscape, hnewline] using hplain⟩

theorem quote_of_basic (h : styleFor t = .basic) :
    quote t = '"' :: (escape false 0 t ++ ['"']) := by
  simp [quote, h, QuoteStyle.mark]

/-- What is put between simple quotes is written as itself. -/
theorem oneLine_quote (h : styleFor t = .basic ∨ styleFor t = .literal) : OneLine (quote t) t := by
  rcases h with h | h
  · rw [quote_of_basic h]
    exact .basic (body_escape 0 t)
  · have hquote : quote t = '\'' :: (t ++ ['\'']) := by simp [quote, h, QuoteStyle.mark]
    rw [hquote]
    exact .literal (isPrintable_of_styleFor h)

/-- **What is quoted on one line is the text that was to be quoted.** -/
theorem eq_of_oneLine_quote (h : OneLine (quote t) u) : u = t := by
  cases hstyle : styleFor t with
  | basic => exact h.unique (oneLine_quote (.inl hstyle))
  | literal => exact h.unique (oneLine_quote (.inr hstyle))
  | longBasic | longLiteral =>
    simp only [quote, hstyle, QuoteStyle.mark] at h
    exact absurd h not_oneLine_tripled

theorem code_of_isAsciiLetter (h : isAsciiLetter c = true) : 65 ≤ c.toNat ∧ c.toNat ≤ 122 ∧
    c.toNat ≠ 92 := by
  simp only [isAsciiLetter, Bool.or_eq_true, Bool.and_eq_true, decide_eq_true_eq, Char.le_def,
    UInt32.le_iff_toNat_le] at h
  have hcodes : ('a' : Char).val.toNat = 97 ∧ ('z' : Char).val.toNat = 122 ∧
      ('A' : Char).val.toNat = 65 ∧ ('Z' : Char).val.toNat = 90 := by decide
  have hcode : c.toNat = c.val.toNat := rfl
  omega

/-- A letter stands for itself. -/
theorem escapeBasic_letter (h : isAsciiLetter c = true) : escapeBasic c = [c] := by
  have hcode := code_of_isAsciiLetter h
  have hne {d : Char} (hd : d.toNat < 65 ∨ d.toNat = 92) : c ≠ d := by
    rintro rfl
    omega
  have hcontrol : ¬ (c.toNat < 32 ∨ c.toNat = 127) := by omega
  simp [escapeBasic, escapeChar, hne, hcontrol, show c.toNat ≠ 8 by omega,
    show c.toNat ≠ 12 by omega]

/-- **Letters are put between double quotes.** -/
theorem quote_letters (h : ∀ c ∈ t, isAsciiLetter c = true) : quote t = '"' :: (t ++ ['"']) := by
  have hnot {d : Char} (hd : d.toNat < 65 ∨ d.toNat = 92) : d ∉ t := by
    intro hmem
    have := code_of_isAsciiLetter (h d hmem)
    omega
  have hplain : t.any needsEscape = false := by
    refine List.any_eq_false.2 fun c hc => ?_
    have := code_of_isAsciiLetter (h c hc)
    simp only [needsEscape, isPrintable, Bool.not_eq_true, Bool.not_eq_false', Bool.or_eq_true,
      Bool.and_eq_true, decide_eq_true_eq, bne_iff_ne]
    omega
  have hstyle : styleFor t = .basic := by
    simp [styleFor, hplain, hnot, longestRun_eq_zero_iff.2]
  have hescape : escape false 0 t = t := by
    have hpieces : t.map escapeBasic = t.map fun c => [c] :=
      List.map_congr_left fun c hc => escapeBasic_letter (h c hc)
    rw [escape_basic, List.flatMap_def, hpieces, ← List.flatMap_def, List.flatMap_singleton']
  rw [quote_of_basic hstyle, hescape]

end SwimSets.Toml
