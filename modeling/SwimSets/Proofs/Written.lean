import SwimSets.Proofs.Grouping
import SwimSets.Proofs.Quoting
import SwimSets.Toml.Document

/-!
# Values and lines of a document, as they are written

**Values.** What writes a value is read as that value in front of the end of a line (`Writes.leaf`):
digits as a number, `true` and `false` as a boolean, and quotes as a text.

**Numbers** are the delicate case, because a date, a time and a float start with digits too and are
tried first. All of them need a sign between their digits that is not a digit, and up to the end of
the line there is none (`DigitLine`).

**Lines.** A bare key with a written value is a line that is read as that pair (`line_entry`), and a
bare key in brackets one that is read as a header (`line_header`).
-/

namespace SwimSets.Toml

open Reader

variable {t u r : Text} {n : Nat}

/-! ## Digits -/

theorem value_ofNat (n : Nat) : Text.value (Text.ofNat n) = n :=
  Nat.ofDigitChars_toDigits (by decide) (by decide)

theorem isAsciiDigit_of_mem_ofNat {c : Char} (h : c ∈ Text.ofNat n) : isAsciiDigit c = true :=
  isDigit_of_mem_ofNat h

/-- A number other than zero starts with a digit other than zero. -/
theorem exists_ofNat (hn : 0 < n) : ∃ c ds, Text.ofNat n = c :: ds ∧ c ≠ '0' := by
  induction n using Nat.strongRecOn with
  | ind n ih =>
    by_cases h : n < 10
    · refine ⟨n.digitChar, [], Nat.toDigits_of_lt_base h, ?_⟩
      intro hzero
      have hcode := Nat.toNat_digitChar_of_lt_ten h
      rw [hzero] at hcode
      have : ('0' : Char).toNat = 48 := rfl
      omega
    · obtain ⟨c, ds, hds, hc⟩ := ih (n / 10) (by omega) (by omega)
      refine ⟨c, ds ++ [(n % 10).digitChar], ?_, hc⟩
      rw [Text.ofNat, Nat.toDigits_of_base_le (by decide) (by omega)]
      exact congrArg (· ++ [(n % 10).digitChar]) hds

/-- The text starts with digits that go on to the end of a line. -/
def DigitLine (t : Text) : Prop := ∃ ds r, t = ds ++ '\n' :: r ∧ ∀ c ∈ ds, isAsciiDigit c = true

theorem digitLine_ofNat (n : Nat) (r : Text) : DigitLine (Text.ofNat n ++ '\n' :: r) :=
  ⟨_, r, rfl, fun _ hc => isAsciiDigit_of_mem_ofNat hc⟩

namespace DigitLine

/-- Nothing but a digit and the end of the line comes next. -/
theorem head (h : DigitLine t) {p : Char → Bool}
    (hp : ∀ c, isAsciiDigit c = true ∨ c = '\n' → p c = false) : t.head?.any p = false := by
  obtain ⟨ds, r, rfl, hds⟩ := h
  cases ds with
  | nil => exact hp '\n' (.inr rfl)
  | cons d ds => exact hp d (.inl (hds d List.mem_cons_self))

theorem exactly_none (h : DigitLine t) {c : Char} {w : Text} (hc : isAsciiDigit c = false)
    (hn : c ≠ '\n') : exactly (c :: w) t = none := by
  have hhead : t.head?.any (· == c) = false := by
    refine h.head fun d hd => ?_
    rcases hd with hd | rfl
    · simpa using fun heq : d = c => by simp [← heq, hd] at hc
    · simpa using hn.symm
  cases t with
  | nil => rfl
  | cons d t => exact exactly_of_ne (Ne.symm (by simpa using hhead))

/-- There is no sign in front of digits. -/
theorem sign_none (h : DigitLine t) : sign t = some (false, t) := by
  have hhead : t.head?.any (fun c => c == '+' || c == '-') = false := by
    refine h.head fun c hc => ?_
    by_contra hsign
    simp only [Bool.not_eq_false, Bool.or_eq_true, beq_iff_eq] at hsign
    rcases hsign with rfl | rfl <;> revert hc <;> decide
  rw [sign, bind_of_some (maybe_of_none (char_of_head hhead))]
  rfl

theorem of_char (h : DigitLine t) {c : Char} (hread : char isAsciiDigit t = some (c, u)) :
    DigitLine u := by
  obtain ⟨ds, r, rfl, hds⟩ := h
  cases ds with
  | nil => simp [char, isAsciiDigit] at hread
  | cons d ds =>
    obtain ⟨hd, htail⟩ := List.forall_mem_cons.1 hds
    rw [List.cons_append, char_of_pos hd] at hread
    cases hread
    exact ⟨ds, r, rfl, htail⟩

theorem of_times (h : DigitLine t) {k : Nat} {ds : Text}
    (hread : exactTimes (char isAsciiDigit) k t = some (ds, u)) : DigitLine u := by
  induction k generalizing t ds with
  | zero =>
    cases hread
    exact h
  | succ k ih =>
    obtain ⟨c, v, hc, hv⟩ := bind_eq_some.1 hread
    obtain ⟨cs, w, hw, hpure⟩ := bind_eq_some.1 hv
    cases hpure
    exact ih (h.of_char hc) hw

/-- A field of a date or a time leaves no sign to go on with. -/
theorem field_none (h : DigitLine t) {k low high : Nat} {c : Char} {w : Text} {α : Type}
    {f : Nat → Unit → Reader α} (hc : isAsciiDigit c = false) (hn : c ≠ '\n') :
    (fixedDigits k low high >>= fun x => exactly (c :: w) >>= f x) t = none := by
  cases hread : fixedDigits k low high t with
  | none => exact bind_of_none hread
  | some x =>
    obtain ⟨v, u⟩ := x
    rw [bind_of_some hread]
    refine bind_of_none (exactly_none ?_ hc hn)
    obtain ⟨ds, u', hds, hrest⟩ := bind_eq_some.1 hread
    obtain ⟨_, u'', hguard, hpure⟩ := bind_eq_some.1 hrest
    obtain ⟨-, hsame⟩ := guard_eq_some.1 hguard
    cases hsame
    cases hpure
    exact h.of_times hds

/-- No date and no time is written with digits alone. -/
theorem date_none (h : DigitLine t) : date t = none := by
  have hday : fullDate t = none := h.field_none (by decide) (by decide)
  have htime : timeOfDay t = none := h.field_none (by decide) (by decide)
  refine bind_of_none ?_
  rw [oneOf_of_none (bind_of_none hday), oneOf_of_none htime]
  rfl

/-- No text in quotes starts with a digit. -/
theorem quoted_none (h : DigitLine t) : quoted t = none := by
  have hmark : ∀ {c : Char} {w : Text} {f : Unit → Reader Text}, isAsciiDigit c = false →
      c ≠ '\n' → (exactly (c :: w) >>= f) t = none :=
    fun hc hn => bind_of_none (h.exactly_none hc hn)
  rw [quoted]
  refine (oneOf_of_none (hmark (by decide) (by decide))).trans ?_
  refine (oneOf_of_none (hmark (by decide) (by decide))).trans ?_
  refine (oneOf_of_none (hmark (by decide) (by decide))).trans ?_
  exact oneOf_of_none (hmark (by decide) (by decide))

theorem boolean_none (h : DigitLine t) : boolean t = none := by
  rw [boolean]
  refine (oneOf_of_none (bind_of_none (h.exactly_none (by decide) (by decide)))).trans ?_
  exact oneOf_of_none (bind_of_none (h.exactly_none (by decide) (by decide)))

end DigitLine

/-! ## Numbers -/

theorem decimalDigits_ofNat (n : Nat) (r : Text) :
    decimalDigits (Text.ofNat n ++ '\n' :: r) = some (Text.ofNat n, '\n' :: r) := by
  by_cases hn : n = 0
  · rw [hn]
    rfl
  · obtain ⟨c, ds, hds, hc⟩ := exists_ofNat (Nat.pos_of_ne_zero hn)
    have hdigits : ∀ d ∈ c :: ds, isAsciiDigit d = true := by
      intro d hd
      exact isAsciiDigit_of_mem_ofNat (hds ▸ hd)
    have hfirst : (decide ('1' ≤ c) && decide (c ≤ '9')) = true := by
      have hdigit := hdigits c List.mem_cons_self
      simp only [isAsciiDigit, Bool.and_eq_true, decide_eq_true_eq, Char.le_def,
        UInt32.le_iff_toNat_le] at hdigit ⊢
      have hzero : c.val.toNat ≠ ('0' : Char).val.toNat := fun h => hc (Char.toNat_inj.1 h)
      have hone : ('1' : Char).val.toNat = ('0' : Char).val.toNat + 1 := rfl
      exact ⟨by omega, hdigit.2⟩
    have hrounds : Rounds (oneOf [char isAsciiDigit, do exactly "_"; char isAsciiDigit])
        (ds.map id) (ds.flatMap (fun d => [d]) ++ '\n' :: r) ('\n' :: r) := by
      refine rounds_pieces ds ?_ rfl
      intro d hd
      refine ⟨List.cons_ne_nil d [], fun r => ?_⟩
      exact oneOf_of_some (char_of_pos (hdigits d (List.mem_cons_of_mem c hd)))
    have hrest := hrounds.many
    rw [List.map_id, List.flatMap_singleton'] at hrest
    rw [hds]
    refine oneOf_of_some ?_
    rw [List.cons_append, bind_of_some (char_of_pos hfirst), bind_of_some hrest]
    rfl

theorem float_ofNat (n : Nat) (r : Text) : float (Text.ofNat n ++ '\n' :: r) = none := by
  have hnumeric : numericFloat (Text.ofNat n ++ '\n' :: r) = none := by
    rw [numericFloat, bind_of_some (digitLine_ofNat n r).sign_none,
      bind_of_some (decimalDigits_ofNat n r)]
    rfl
  have hspecial : specialFloat (Text.ofNat n ++ '\n' :: r) = none := by
    have h := digitLine_ofNat n r
    rw [specialFloat, bind_of_some (digitLine_ofNat n r).sign_none]
    refine bind_of_none ?_
    refine (oneOf_of_none (h.exactly_none (by decide) (by decide))).trans ?_
    exact oneOf_of_none (h.exactly_none (by decide) (by decide))
  rw [float, oneOf_of_none hnumeric, oneOf_of_none hspecial]
  rfl

/-- The mark of another base does not stand in front of digits. -/
theorem basedInteger_ofNat (n : Nat) {x : Char} (hx : x ≠ '\n') (base : Nat) (r : Text) :
    basedInteger ['0', x] base (Text.ofNat n ++ '\n' :: r) = none := by
  refine bind_of_none ?_
  by_cases hn : n = 0
  · rw [hn]
    show exactly ['0', x] ('0' :: '\n' :: r) = none
    simp [exactly, hx]
  · obtain ⟨c, ds, hds, hc⟩ := exists_ofNat (Nat.pos_of_ne_zero hn)
    rw [hds]
    exact exactly_of_ne hc.symm

theorem decimalInteger_ofNat (hn : n < integerBound) (r : Text) :
    decimalInteger (Text.ofNat n ++ '\n' :: r) = some (.integer n, '\n' :: r) := by
  have hguard : (decide (n < integerBound) || false && decide (n = integerBound)) = true := by
    simp [hn]
  rw [decimalInteger, bind_of_some (digitLine_ofNat n r).sign_none,
    bind_of_some (decimalDigits_ofNat n r), value_ofNat,
    bind_of_some ((guard_eq_some (u := ())).2 ⟨hguard, rfl⟩)]
  rfl

/-- **A number is read back from its digits,** unless it is too large for an integer. -/
theorem number_ofNat (hn : n < integerBound) (r : Text) :
    number (Text.ofNat n ++ '\n' :: r) = some (.integer n, '\n' :: r) := by
  have hinteger : integer (Text.ofNat n ++ '\n' :: r) = some (.integer n, '\n' :: r) := by
    rw [integer]
    refine (oneOf_of_none (basedInteger_ofNat n (by decide) 16 r)).trans ?_
    refine (oneOf_of_none (basedInteger_ofNat n (by decide) 8 r)).trans ?_
    refine (oneOf_of_none (basedInteger_ofNat n (by decide) 2 r)).trans ?_
    exact oneOf_of_some (decimalInteger_ofNat hn r)
  rw [number, oneOf_of_none (digitLine_ofNat n r).date_none, oneOf_of_none (float_ofNat n r)]
  exact oneOf_of_some hinteger

/-! ## Values -/

theorem leaf_of_quoted {x : Text} (h : quoted t = some (x, r)) : leaf t = some (.text x, r) := by
  have htext : (do return Value.text (← quoted) : Reader Value) t = some (.text x, r) :=
    bind_of_some h
  exact oneOf_of_some htext

theorem leaf_of_boolean {x : Value × Text} (hq : quoted t = none) (h : boolean t = some x) :
    leaf t = some x :=
  (oneOf_of_none (bind_of_none hq)).trans (oneOf_of_some h)

theorem leaf_of_number {x : Value × Text} (hq : quoted t = none) (hb : boolean t = none)
    (h : number t = some x) : leaf t = some x :=
  (oneOf_of_none (bind_of_none hq)).trans ((oneOf_of_none hb).trans (oneOf_of_some h))

/-- A space or a tab. -/
def isSpace (c : Char) : Bool := c == ' ' || c == '\t'

/-- What is told apart from a space and a tab is neither. -/
theorem not_isSpace {q : Char → Bool} {c : Char} (hc : q c = true) (hspace : q ' ' = false)
    (htab : q '\t' = false) : isSpace c = false := by
  by_contra h
  simp only [isSpace, Bool.not_eq_false, Bool.or_eq_true, beq_iff_eq] at h
  rcases h with rfl | rfl
  · simp [hc] at hspace
  · simp [hc] at htab

/-- **A value is read from the text that writes it,** up to the end of the line. -/
theorem Writes.leaf {w : Text} {v : Value} (h : Writes w v) (r : Text) :
    leaf (w ++ '\n' :: r) = some (v, '\n' :: r) := by
  cases h with
  | @integer n bounded =>
    have hdigits := digitLine_ofNat n r
    exact leaf_of_number hdigits.quoted_none hdigits.boolean_none (number_ofNat bounded r)
  | boolean b => cases b <;> exact leaf_of_boolean rfl rfl
  | text quoted => exact leaf_of_quoted (quoted_oneLine quoted r)

/-- No space stands in front of a written value. -/
theorem Writes.tight {w : Text} {v : Value} (h : Writes w v) (r : Text) :
    (w ++ '\n' :: r).head?.any isSpace = false := by
  cases h with
  | @integer n bounded =>
    refine (digitLine_ofNat n r).head fun c hc => ?_
    rcases hc with hc | rfl
    · exact not_isSpace hc (by decide) (by decide)
    · rfl
  | boolean b => cases b <;> rfl
  | text quoted => cases quoted <;> rfl

theorem node_of_leaf {v : Value} (h : leaf t = some (v, r)) (depth : Nat) :
    node depth t = some (.leaf v, r) := by
  have hleaf : (do return Node.leaf (← leaf) : Reader Node) t = some (.leaf v, r) := bind_of_some h
  cases depth with
  | zero => exact hleaf
  | succ depth => exact oneOf_of_some hleaf

/-! ## Keys -/

theorem exists_of_isBare {k : Text} (h : isBare k = true) :
    ∃ c cs, k = c :: cs ∧ isKeyChar c = true ∧ ∀ d ∈ cs, isKeyChar d = true := by
  cases k with
  | nil => exact absurd h (by decide)
  | cons c cs =>
    simp only [isBare, List.isEmpty_cons, Bool.not_false, Bool.true_and, List.all_cons,
      Bool.and_eq_true, List.all_eq_true] at h
    exact ⟨c, cs, rfl, h⟩

theorem spaces_nothing (h : t.head?.any isSpace = false) : spaces t = some ((), t) :=
  bind_of_some (run_nothing h)

section Keys

variable {k : Text}

/-- A bare key starts with a character of a key. -/
theorem exactly_bare (hk : isBare k = true) {c : Char} {w : Text} (hc : isKeyChar c = false)
    (r : Text) : exactly (c :: w) (k ++ r) = none := by
  obtain ⟨d, ds, rfl, hd, -⟩ := exists_of_isBare hk
  refine exactly_of_ne ?_
  rintro rfl
  simp [hd] at hc

theorem spaces_bare (hk : isBare k = true) (r : Text) : spaces (k ++ r) = some ((), k ++ r) := by
  obtain ⟨c, cs, rfl, hc, -⟩ := exists_of_isBare hk
  exact spaces_nothing (not_isSpace hc (by decide) (by decide))

theorem simpleKey_bare (hk : isBare k = true) (hr : r.head?.any isKeyChar = false) :
    simpleKey (k ++ r) = some (k, r) := by
  have hbasic : basicText (k ++ r) = none := bind_of_none (exactly_bare hk (by decide) r)
  have hliteral : literalText (k ++ r) = none := bind_of_none (exactly_bare hk (by decide) r)
  rw [simpleKey, oneOf_of_none hbasic, oneOf_of_none hliteral]
  obtain ⟨c, cs, rfl, hc, hcs⟩ := exists_of_isBare hk
  refine oneOf_of_some ?_
  rw [List.cons_append, bind_of_some (char_of_pos hc), bind_of_some (run_append hcs hr)]
  rfl

/-- A bare key is read up to the spaces behind it. -/
theorem key_bare (hk : isBare k = true) (hr : r.head?.any isKeyChar = false)
    (hspaces : spaces r = some ((), u)) (hdot : exactly "." u = none) :
    key (k ++ r) = some ([k], u) := by
  have hsep : (do spaces; exactly "."; spaces : Reader Unit) r = none := by
    rw [bind_of_some hspaces, bind_of_none hdot]
  have hmore : many (do let _ ← (do spaces; exactly "."; spaces); simpleKey) r = some ([], r) :=
    (Rounds.stop (bind_of_none hsep)).many
  have hkeys : sepBy1 (do spaces; exactly "."; spaces) simpleKey (k ++ r) = some ([k], r) := by
    rw [sepBy1, bind_of_some (simpleKey_bare hk hr), bind_of_some hmore]
    rfl
  rw [key, bind_of_some (spaces_bare hk r), bind_of_some hkeys, bind_of_some hspaces]
  rfl

/-! ## Lines -/

theorem pair_written (hk : isBare k = true) {w : Text} {v : Value} (hw : Writes w v) (depth : Nat)
    (r : Text) :
    pair (node depth) (k ++ (" = ".toList ++ (w ++ '\n' :: r))) =
      some (([k], .leaf v), '\n' :: r) := by
  have hkey : key (k ++ (" = ".toList ++ (w ++ '\n' :: r))) =
      some ([k], "=".toList ++ (' ' :: (w ++ '\n' :: r))) :=
    key_bare hk rfl rfl rfl
  have hspaces : spaces (' ' :: (w ++ '\n' :: r)) = some ((), w ++ '\n' :: r) :=
    bind_of_some (run_append (w := [' ']) (by simp) (hw.tight r))
  rw [pair, bind_of_some hkey, bind_exactly, bind_of_some hspaces,
    bind_of_some (node_of_leaf (hw.leaf r) depth)]
  rfl

/-- What stands on a line up to its end. -/
theorem line_of_statement {s : Option Statement} (hne : t ≠ []) (hspaces : spaces t = some ((), t))
    (h : maybe statement t = some (s, '\n' :: r)) : line t = some (s, r) := by
  have hempty : t.isEmpty = false := by simpa using hne
  rw [line, hempty, if_neg (by decide), bind_of_some hspaces, bind_of_some h]
  rfl

/-- **A bare key with a written value is read as that pair.** -/
theorem line_entry (hk : isBare k = true) {w : Text} {v : Value} (hw : Writes w v) (r : Text) :
    line (entryLine k w ++ r) = some (some (.pair [k] (.leaf v)), r) := by
  have htext : entryLine k w ++ r = k ++ (" = ".toList ++ (w ++ '\n' :: r)) := by
    simp [entryLine]
  rw [htext]
  refine line_of_statement ?_ (spaces_bare hk _) (maybe_of_some ?_)
  · obtain ⟨c, cs, rfl, -⟩ := exists_of_isBare hk
    exact List.cons_ne_nil _ _
  · have hheader : header (k ++ (" = ".toList ++ (w ++ '\n' :: r))) = none := by
      rw [header]
      refine (oneOf_of_none (bind_of_none (exactly_bare hk (by decide) _))).trans ?_
      exact oneOf_of_none (bind_of_none (exactly_bare hk (by decide) _))
    rw [statement, oneOf_of_none hheader]
    exact oneOf_of_some (bind_of_some (pair_written hk hw maxDepth r))

/-- **A bare key in brackets is read as a header.** -/
theorem line_header (hk : isBare k = true) (r : Text) :
    line (headerLine k ++ r) = some (some (.table [k]), r) := by
  have htext : headerLine k ++ r = "[".toList ++ (k ++ ("]".toList ++ '\n' :: r)) := by
    simp [headerLine]
  rw [htext]
  refine line_of_statement (List.cons_ne_nil _ _) rfl (maybe_of_some ?_)
  have hkey : key (k ++ ("]".toList ++ '\n' :: r)) = some ([k], "]".toList ++ '\n' :: r) :=
    key_bare hk rfl rfl rfl
  have hrow : exactly "[[" ("[".toList ++ (k ++ ("]".toList ++ '\n' :: r))) = none :=
    exactly_cons_of_none (exactly_bare hk (by decide) _)
  have hheader : header ("[".toList ++ (k ++ ("]".toList ++ '\n' :: r))) =
      some (.table [k], '\n' :: r) := by
    rw [header, oneOf_of_none (bind_of_none hrow)]
    refine oneOf_of_some ?_
    rw [bind_exactly, bind_of_some hkey, bind_exactly]
    rfl
  exact oneOf_of_some hheader

theorem line_blank (r : Text) : line ('\n' :: r) = some (none, r) :=
  line_of_statement (List.cons_ne_nil _ _) rfl rfl

end Keys

end SwimSets.Toml
