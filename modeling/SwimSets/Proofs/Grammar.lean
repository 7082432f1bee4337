import SwimSets.Proofs.Starts

/-!
# The grammar of distances

The reader of distances searches the text up to three times. What it returns is told here without
a search: by what stands in the text (`Reading`).

**Products** (`Product`). A number that starts a word, a multiplication sign and another whole run
of digits, with blanks around the sign or none. A product closes with a measure, or with a plural s
(`closing`).

**Readings** (`Reading`). The leftmost product; where there is none, the leftmost figure with a
measure; where there is none, the leftmost whole number that is a positive multiple of the length of
a pool; else nothing. A text has one reading (`Reading.unique`).

**Theorem (`read_iff_reading`).** What is read of an ASCII text whose numbers can be held is its
reading. Neither assumption can go: where the leftmost product, or the leftmost figure with a
measure, has a number that cannot be held or is written in digits of another script, nothing is
read, whatever else stands in the text.
-/

namespace SwimSets

open Scanner

variable {t : Text}

/-! ## Numbers that can be held -/

/-- Each number in the text can be held. -/
def NumbersFit (t : Text) : Prop := ∀ r : DigitRun t, Text.value r.digits < numberBound

/-- The number that the digits from a position on write. -/
def Text.numberAt (t : Text) (i : Nat) : Nat := value ((t.drop i).takeWhile isDecimal)

theorem DigitRun.numberAt_start (r : DigitRun t) : t.numberAt r.start = Text.value r.digits := by
  rw [Text.numberAt, r.drop_start, takeWhile_append_of_stop r.edgeAfter,
    List.takeWhile_eq_self_iff.2 r.allDigits]

/-- Whether all numbers can be held is seen at the places behind no digit. -/
theorem numbersFit_iff : NumbersFit t ↔
    ∀ i < t.length, (t.take i).getLast?.any isDecimal = false → t.numberAt i < numberBound := by
  constructor
  · intro fits i hi hedge
    have hend := (reads_takeWhile (.place t i) isDecimal).2
    rw [rest_advance_takeWhile] at hend
    cases hn : (t.drop i).takeWhile isDecimal with
    | nil =>
      rw [Text.numberAt, hn]
      decide
    | cons x w =>
      exact fits ⟨t.take i, (t.drop i).takeWhile isDecimal, (t.drop i).dropWhile isDecimal,
        by rw [List.takeWhile_append_dropWhile, List.take_append_drop], by simp [hn],
        fun c hc => List.mem_takeWhile_imp hc, hedge, hend⟩
  · intro h r
    rw [← r.numberAt_start]
    refine h r.start (Nat.lt_of_lt_of_le r.start_lt_stop r.stop_le) ?_
    rw [r.take_start]
    exact r.edgeBefore

instance : DecidablePred NumbersFit := fun _ => decidable_of_iff _ numbersFit_iff.symm

/-- A number in digits of ASCII is read as what it writes, if it can be held. -/
theorem readNumber_of_fits {n : Text} (ascii : ∀ c ∈ n, isAsciiDigit c = true)
    (fits : Text.value n < numberBound) : readNumber n = some (Text.value n) := by
  rw [readNumber, if_pos]
  simpa [fits] using ascii

namespace DigitRun

theorem mem_text (r : DigitRun t) {c : Char} (h : c ∈ r.digits) : c ∈ t := by
  rw [r.text]
  exact List.mem_append_right _ (List.mem_append_left _ h)

/-- The number that a run writes is read. -/
theorem readNumber_digits (r : DigitRun t)
    (ascii : ∀ c ∈ t, isDecimal c = true → isAsciiDigit c = true) (fits : NumbersFit t) :
    readNumber r.digits = some (Text.value r.digits) :=
  readNumber_of_fits (fun c hc => ascii c (r.mem_text hc) (r.allDigits c hc)) (fits r)

end DigitRun

/-! ## Products -/

/-- A number that starts a word, a multiplication sign and a second whole number. -/
structure Product (t : Text) extends Factor t where
  space : Text
  perRep : Text
  rest : Text
  joined : after = space ++ (perRep ++ rest)
  isSpace : ∀ c ∈ space, isBlank c = true
  perRep_ne_nil : perRep ≠ []
  perRep_digits : ∀ c ∈ perRep, isDecimal c = true
  perRep_whole : rest.head?.any isDecimal = false

/-- The measure behind a product, or its plural s. -/
def closing (v : Text) : Text :=
  if HasMeasure v then measureOf v else if v.firstWord = ['s'] then ['s'] else []

theorem closing_isPrefix (v : Text) : closing v <+: v := by
  unfold closing
  split_ifs with hmeasure hplural
  · exact Distance.measured_readsFigures.starts v
  · rw [← hplural]
    exact Distance.bareNumber_readsFigures.starts v
  · exact List.nil_prefix

namespace Product

/-- Between sign and second number stand blanks or nothing. -/
theorem takeWhile_after (p : Product t) : p.after.takeWhile isBlank = p.space := by
  obtain ⟨c, r, hc⟩ := List.exists_cons_of_ne_nil p.perRep_ne_nil
  have hblank : isBlank c = false := Bool.eq_false_iff.2 fun h => by
    simpa [not_isDecimal_of_isBlank h] using p.perRep_digits c (by simp [hc])
  refine takeWhile_of_reads (c := ⟨none, p.after⟩) (d := ⟨_, p.perRep ++ p.rest⟩)
    ⟨p.joined, rfl⟩ p.isSpace ?_
  rw [hc]
  exact hblank

/-- The second number is a run of digits. -/
def second (p : Product t) : DigitRun t where
  before := p.before ++ (p.number ++ (p.gap ++ p.sign :: p.space))
  digits := p.perRep
  after := p.rest
  text := p.text.trans (by rw [p.joined]; simp)
  nonempty := p.perRep_ne_nil
  allDigits := p.perRep_digits
  edgeBefore := by
    have hlast : ∀ c ∈ p.sign :: p.space, isDecimal c = false :=
      List.forall_mem_cons.2
        ⟨p.isDecimal_sign, fun c hc => not_isDecimal_of_isBlank (p.isSpace c hc)⟩
    have hne : p.sign :: p.space ≠ [] := List.cons_ne_nil _ _
    simp only [List.getLast?_append, List.getLast?_eq_some_getLast hne, Option.some_or]
    exact hlast _ (List.getLast_mem hne)
  edgeAfter := p.perRep_whole

theorem start_second (p : Product t) : p.second.start = p.signStop + p.space.length := by
  simp only [DigitRun.start, second, Factor.signStop, List.length_append, List.length_cons]
  omega

/-- Where the product stands. -/
def span (p : Product t) : Span := ⟨p.start, p.second.span.stop + (closing p.rest).length⟩

/-- The piece of text that the product takes. -/
def piece (p : Product t) : Text :=
  p.number ++ (p.gap ++ p.sign :: (p.space ++ (p.perRep ++ closing p.rest)))

theorem piece_isPrefix (p : Product t) : p.piece <+: t.drop p.start := by
  obtain ⟨v, hv⟩ := closing_isPrefix p.rest
  have hrest : t.drop p.start = p.number ++ (p.gap ++ p.sign :: p.after) :=
    congrArg Cursor.rest p.place_start
  refine ⟨v, ?_⟩
  rw [hrest, p.joined, ← hv]
  simp [piece]

theorem start_add_length_piece (p : Product t) : p.start + p.piece.length = p.span.stop := by
  have hdigits : p.second.digits = p.perRep := rfl
  simp only [piece, span, DigitRun.span, hdigits, p.start_second, Factor.start, Factor.signStop,
    List.length_append, List.length_cons]
  omega

theorem numberFollows (p : Product t) : p.toFactor.numberFollows = true :=
  p.numberFollows_iff.2 ⟨p.space, p.perRep, p.rest, p.joined, p.isSpace, p.perRep_ne_nil,
    p.perRep_digits⟩

theorem eq_of_start {p q : Product t} (h : p.start = q.start) : p = q := by
  have hfactor : p.toFactor = q.toFactor := Factor.eq_of_start h
  have hspace : p.space = q.space := by rw [← p.takeWhile_after, ← q.takeWhile_after, hfactor]
  have hsecond : p.second = q.second := DigitRun.eq_of_start (by
    rw [p.start_second, q.start_second, hfactor, hspace])
  have hperRep : p.perRep = q.perRep := congrArg DigitRun.digits hsecond
  have hrest : p.rest = q.rest := congrArg DigitRun.after hsecond
  cases p
  cases q
  cases hfactor
  cases hspace
  cases hperRep
  cases hrest
  rfl

end Product

/-- Where a number follows a factor, there is a product. -/
theorem Factor.exists_product (s : Factor t) (h : s.numberFollows = true) :
    ∃ p : Product t, p.toFactor = s := by
  have hfirst : ((s.after.dropWhile isBlank).head?).any isDecimal = true := h
  obtain ⟨n, d, hn⟩ := run_succeeds (c := ⟨none, s.after.dropWhile isBlank⟩) hfirst
  obtain ⟨hne, hdigits, hr, hwhole⟩ := run_eq_some.1 hn
  refine ⟨⟨s, s.after.takeWhile isBlank, n, d.rest, ?_, fun c hc => List.mem_takeWhile_imp hc, hne,
    hdigits, hwhole⟩, rfl⟩
  rw [← hr.rest, List.takeWhile_append_dropWhile]

namespace Distance

/-- A closing is read behind a product, or nothing. -/
theorem closing_eq (c : Cursor) :
    maybe (oneOf [do blanks; wholeWord metreWords, do one (· == 's'); wordEdge]) c =
      some ((), c.advance (closing c.rest).length) := by
  have hmeasure : (do blanks; wholeWord metreWords : Scanner Unit) c =
      if HasMeasure c.rest then some ((), c.advance (measureOf c.rest).length) else none :=
    metreWord_eq c
  simp only [maybe, oneOf, hmeasure, plural_eq, closing]
  split_ifs <;> rfl

/-- Where a product stands it is read. -/
theorem repsTimes_product (p : Product t) :
    repsTimes (.place t p.start) = some ((p.number, p.perRep), .place t p.span.stop) := by
  have hblanks : blanks ⟨some p.sign, p.after⟩ = some ((), .place t p.second.start) := by
    have hskip : blanks (.place t p.signStop) = some ((), (Cursor.place t p.signStop).advance
        ((t.drop p.signStop).takeWhile isBlank).length) := rfl
    have hdrop : t.drop p.signStop = p.after := congrArg Cursor.rest p.place_signStop
    rwa [hdrop, p.takeWhile_after, Cursor.place_advance, ← p.start_second, p.place_signStop]
      at hskip
  have hclosing := closing_eq (.place t p.second.span.stop)
  have hrest : (Cursor.place t p.second.span.stop).rest = p.rest := p.second.drop_stop
  rw [hrest, Cursor.place_advance] at hclosing
  refine factor_eq_some.2 ⟨p.toFactor, rfl, ?_⟩
  refine (bind_of_some hblanks).trans ((bind_of_some p.second.digits_place_start).trans ?_)
  exact bind_of_some hclosing

/-- What is found first as repetitions is the leftmost product. -/
theorem exists_product_of_firstHit {h : Hit (Text × Text)} (m : repsTimes.firstHit t = some h) :
    ∃ p : Product t, (∀ q : Product t, p.start ≤ q.start) ∧ h = ⟨(p.number, p.perRep), p.span⟩ := by
  obtain ⟨d, hd, hstop⟩ := eq_some_of_mem_hits (mem_hits_of_firstHit m)
  obtain ⟨s, hstart, hnumber, -⟩ := repsTimes_eq_some hd
  obtain ⟨p, rfl⟩ := s.exists_product hnumber
  rw [← hstart] at hd hstop
  obtain ⟨hvalue, rfl⟩ := Prod.mk.inj (Option.some.inj ((repsTimes_product p).symm.trans hd))
  refine ⟨p, fun q => ?_, ?_⟩
  · rw [hstart]
    exact firstHit_le m q.start_lt_length (repsTimes_product q)
  · have hread := Cursor.reads_place p.piece_isPrefix
    rw [p.start_add_length_piece] at hread
    have hspan := hstop _ (by simp [Product.piece, p.nonempty]) hread
    obtain ⟨value, start, stop⟩ := h
    simp only at hvalue hstart hspan
    rw [p.start_add_length_piece] at hspan
    rw [← hvalue, ← hstart, hspan]
    rfl

theorem firstHit_eq_none_iff_product :
    repsTimes.firstHit t = none ↔ IsEmpty (Product t) := by
  constructor
  · refine fun hnone => ⟨fun p => ?_⟩
    obtain ⟨h, m⟩ := exists_firstHit p.start_lt_length (repsTimes_product p)
    rw [hnone] at m
    cases m
  · intro hnone
    refine Option.eq_none_iff_forall_ne_some.2 fun h m => ?_
    obtain ⟨p, -⟩ := exists_product_of_firstHit m
    exact hnone.false p

end Distance

/-! ## Readings -/

/-- The figure is a whole number and a positive multiple of the length of a pool. -/
def Figure.IsMultiple (f : Figure t) : Prop :=
  IsWhole f.after ∧ 0 < Text.value f.digits ∧ Distance.lengthQuantum ∣ Text.value f.digits

/-- What a text says about its distance, by the grammar alone. -/
inductive Reading (t : Text) : Option Distance → Prop where
  /-- The leftmost product. -/
  | product (p : Product t) (left : ∀ q : Product t, p.start ≤ q.start) :
      Reading t (some ⟨Text.value p.number, Text.value p.perRep, true, p.span⟩)
  /-- The leftmost figure with a measure. -/
  | measured (noProduct : IsEmpty (Product t)) (f : Figure t)
      (left : f.Leftmost Figure.IsMeasured) :
      Reading t (some ⟨1, Text.value f.digits, false, (f.hit (measureOf f.after)).span⟩)
  /-- The leftmost whole number of pool lengths. -/
  | multiple (noProduct : IsEmpty (Product t)) (noMeasure : ∀ f : Figure t, ¬ f.IsMeasured)
      (f : Figure t) (left : f.Leftmost Figure.IsMultiple) :
      Reading t (some ⟨1, Text.value f.digits, false, (f.hit f.after.firstWord).span⟩)
  /-- There is none of these. -/
  | nothing (noProduct : IsEmpty (Product t)) (noMeasure : ∀ f : Figure t, ¬ f.IsMeasured)
      (noMultiple : ∀ f : Figure t, ¬ f.IsMultiple) : Reading t none

/-- **A text has one reading.** -/
theorem Reading.unique {d e : Option Distance} (hd : Reading t d) (he : Reading t e) : d = e := by
  cases hd with
  | product p left =>
    cases he with
    | product q left' =>
      rw [Product.eq_of_start (Nat.le_antisymm (left q) (left' p))]
    | measured noProduct => exact (noProduct.false p).elim
    | multiple noProduct => exact (noProduct.false p).elim
    | nothing noProduct => exact (noProduct.false p).elim
  | measured noProduct f left =>
    cases he with
    | product q => exact (noProduct.false q).elim
    | measured _ g left' => rw [left.eq left']
    | multiple _ noMeasure => exact absurd left.1 (noMeasure f)
    | nothing _ noMeasure => exact absurd left.1 (noMeasure f)
  | multiple noProduct noMeasure f left =>
    cases he with
    | product q => exact (noProduct.false q).elim
    | measured _ g left' => exact absurd left'.1 (noMeasure g)
    | multiple _ _ g left' => rw [left.eq left']
    | nothing _ _ noMultiple => exact absurd left.1 (noMultiple f)
  | nothing noProduct noMeasure noMultiple =>
    cases he with
    | product q => exact (noProduct.false q).elim
    | measured _ g left' => exact absurd left'.1 (noMeasure g)
    | multiple _ _ g left' => exact absurd left'.1 (noMultiple g)
    | nothing => rfl

theorem Distance.isWholeLengths_iff {n : Nat} :
    isWholeLengths n = true ↔ 0 < n ∧ lengthQuantum ∣ n := by
  have hquantum : lengthQuantum = 25 := rfl
  simp only [isWholeLengths, Bool.and_eq_true, decide_eq_true_eq, beq_iff_eq, hquantum]
  omega

section Fits

variable (ascii : ∀ c ∈ t, isDecimal c = true → isAsciiDigit c = true) (fits : NumbersFit t)

include ascii fits

theorem isLengths_iff_isMultiple (f : Figure t) : f.IsLengths ↔ f.IsMultiple := by
  have hn := f.readNumber_digits ascii fits
  simp only [Figure.IsLengths, Figure.IsMultiple, WritesLengths, hn, Option.some.injEq,
    exists_eq_left', Distance.isWholeLengths_iff]

/-- **What is read is a reading.** -/
theorem reading_read : Reading t (Distance.read t) := by
  rw [Distance.read]
  cases hm : Distance.repsTimes.firstHit t with
  | some h =>
    obtain ⟨p, left, rfl⟩ := Distance.exists_product_of_firstHit hm
    have hreps : readNumber p.number = _ := p.toFactor.run.readNumber_digits ascii fits
    have hperRep : readNumber p.perRep = _ := p.second.readNumber_digits ascii fits
    simp only [hreps, hperRep]
    exact .product p left
  | none =>
    have noProduct := Distance.firstHit_eq_none_iff_product.1 hm
    simp only
    cases hbare : Distance.readBare t with
    | some d =>
      obtain ⟨n, span⟩ := d
      rcases Distance.readBare_eq_some_iff.1 hbare with
        ⟨f, left, hn, rfl⟩ | ⟨noMeasure, f, left, hn, rfl⟩
      · obtain rfl := Option.some.inj ((f.readNumber_digits ascii fits).symm.trans hn)
        exact .measured noProduct f left
      · obtain rfl := Option.some.inj ((f.readNumber_digits ascii fits).symm.trans hn)
        refine .multiple noProduct noMeasure f ?_
        simpa only [Figure.Leftmost, isLengths_iff_isMultiple ascii fits] using left
    | none =>
      rcases Distance.readBare_eq_none_iff.1 hbare with ⟨f, -, hnone⟩ | hnone
      · rw [f.readNumber_digits ascii fits] at hnone
        cases hnone
      · refine .nothing noProduct (fun f hf => hnone f (.inl hf)) fun f hf => hnone f (.inr ?_)
        exact (isLengths_iff_isMultiple ascii fits f).2 hf

end Fits

/-- **Theorem (what is read).** Of an ASCII text whose numbers can all be held, the distance that is
read is its reading. -/
theorem read_iff_reading (ascii : ∀ c ∈ t, c.toNat < 128) (fits : NumbersFit t)
    (d : Option Distance) : Distance.read t = d ↔ Reading t d := by
  have sound := reading_read (fun c hc => isAsciiDigit_of_lt (ascii c hc)) fits
  constructor
  · rintro rfl
    exact sound
  · exact sound.unique

/-- The distance in the text is the second number. -/
theorem read_iff_reading_laps :
    let t : Text := "3 laps then 4 x 50 mtrs"
    let d : Option Distance := some ⟨4, 50, true, ⟨12, 23⟩⟩
    (∀ c ∈ t, c.toNat < 128) ∧ NumbersFit t ∧ Distance.read t = d ∧ Reading t d := by
  intro t d
  have ascii : ∀ c ∈ t, c.toNat < 128 := by decide
  have fits : NumbersFit t := by decide +kernel
  have hread : Distance.read t = d := by decide +kernel
  exact ⟨ascii, fits, hread, (read_iff_reading ascii fits d).1 hread⟩

end SwimSets
