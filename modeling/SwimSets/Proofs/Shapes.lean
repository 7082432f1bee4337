import Mathlib.Data.List.Find
import SwimSets.Proofs.LaneNumbers

/-!
# How asides are written

A kind of aside reads on as far as it can. Whether it reads anything at all is decided by less: by
the first digit of a rest after its word, or by the first number of a lane list.

**Shapes** (`Shape`). The kinds of aside, the rests in words taken apart into the two orders of word
and time. The text that decides is the core of the aside (`Shape.Core`). Some shapes have to start
and end with a word, and a lane must not be followed by a measure (`Shape.Stands`).

**Result.** A scanner succeeds exactly where a core of its shape stands (`Shape.sound`,
`Shape.complete`), and it reads the core whole.
-/

namespace SwimSets

open Scanner Aside

/-! ## Parts of scanners -/

theorem Scanner.Forward.many {s : Scanner Unit} (hs : Forward s) : Forward (many s) := by
  have hup (n : Nat) : Forward (upTo s n) := by
    induction n with
    | zero =>
      intro c a d h
      obtain ⟨-, rfl⟩ := pure_eq_some.1 h
      exact List.suffix_rfl
    | succ n ih =>
      intro c a d h
      cases hc : s c with
      | none =>
        simp only [upTo, hc, Option.some.injEq, Prod.mk.injEq] at h
        rw [h.2]
      | some r =>
        simp only [upTo, hc] at h
        exact (ih _ _ _ h).trans (hs _ _ _ hc)
  exact fun c a d h => hup _ c a d h

/-- The first that succeeds is read, if any does. -/
theorem Scanner.oneOf_succeeds {α : Type} {ss : List (Scanner α)} {s : Scanner α} {c : Cursor}
    {r : α × Cursor} (hs : s ∈ ss) (h : s c = some r) : ∃ r', oneOf ss c = some r' := by
  cases hone : oneOf ss c with
  | some r' => exact ⟨r', rfl⟩
  | none =>
    rw [oneOf_eq_none.1 hone s hs] at h
    cases h

/-! ## Edges of words -/

section Edges

variable {x : Char} {q : Option Char} {v : Text}

theorem atWordEdge_before (hx : isWordChar x = true) :
    (Cursor.mk q (x :: v)).atWordEdge = true ↔ q.any isWordChar = false := by
  simp [Cursor.atWordEdge, hx]

theorem atWordEdge_behind (hx : isWordChar x = true) :
    (Cursor.mk (some x) v).atWordEdge = true ↔ v.head?.any isWordChar = false := by
  simp [Cursor.atWordEdge, hx]

end Edges

/-! ## Shapes -/

/-- The ways in which an aside is written. -/
inductive Shape where
  | restAt
  | restThenTime
  | timeThenRest
  | duration
  | clock
  | lanes
  | note
  deriving DecidableEq, Repr

namespace Shape

/-- The scanner for asides of the shape. -/
def scanner : Shape → Scanner Unit
  | restAt => Aside.restAt
  | restThenTime => Aside.restThenTime
  | timeThenRest => Aside.timeThenRest
  | duration => Aside.duration
  | clock => Aside.clock
  | lanes => Aside.lanes
  | note => Aside.note

/-- Only blanks. -/
def Blank (b : Text) : Prop := ∀ x ∈ b, isBlank x = true

/-- A number in digits. -/
def Number (n : Text) : Prop := n ≠ [] ∧ ∀ x ∈ n, isDecimal x = true

/-- Nothing, or the sign with blanks behind it. -/
def Signed (sign : Char) (s : Text) : Prop := s = [] ∨ ∃ b, Blank b ∧ s = sign :: b

/-- Nothing, or a colon and two digits. -/
def Paired (p : Text) : Prop :=
  p = [] ∨ ∃ x y, isDecimal x = true ∧ isDecimal y = true ∧ p = [':', x, y]

/-- The text by which an aside of the shape is told. -/
def Core : Shape → Text → Prop
  | restAt, c => ∃ b s x, Blank b ∧ Signed '+' s ∧ isDecimal x = true ∧
      c = '@' :: (b ++ (s ++ [x]))
  | restThenTime, c => ∃ b s x, Blank b ∧ Signed ':' s ∧ isDecimal x = true ∧
      c = "rest".toList ++ (b ++ (s ++ [x]))
  | timeThenRest, c => ∃ n p b u b', Number n ∧ Paired p ∧ Blank b ∧ u ∈ timeUnits ∧ b' ≠ [] ∧
      Blank b' ∧ c = n ++ (p ++ (b ++ (u ++ (b' ++ "rest".toList))))
  | duration, c => ∃ n b u, Number n ∧ Blank b ∧ u ∈ durationUnits ∧ c = n ++ (b ++ u)
  | clock, c => ∃ n x y, Number n ∧ n.length ≤ 2 ∧ isDecimal x = true ∧ isDecimal y = true ∧
      c = n ++ [':', x, y]
  | lanes, c => ∃ s b n, (s = [] ∨ s = ['s']) ∧ Blank b ∧ Number n ∧
      c = "lane".toList ++ (s ++ (b ++ n))
  | note, c => ∃ b, (∀ x ∈ b, inNote x = true) ∧ c = '(' :: (b ++ [')'])

/-- The core is one or more words, so no word runs into it. -/
def StartsWord : Shape → Prop
  | restAt | note => False
  | _ => True

/-- What may come behind the core. -/
def Tail : Shape → Text → Prop
  | restAt, _ | restThenTime, _ | note, _ => True
  | timeThenRest, v | duration, v | clock, v => v.head?.any isWordChar = false
  | lanes, v => v.head?.any isWordChar = false ∧ Fails v measureFollows

/-- What is read of an aside of the shape does not end inside a word. -/
def EndsClear : Shape → Prop
  | restAt | restThenTime => False
  | _ => True

/-- The core of an aside, with what may come before it and behind it. -/
structure Stands (k : Shape) (q : Option Char) (c v : Text) : Prop where
  core : k.Core c
  front : k.StartsWord → q.any isWordChar = false
  tail : k.Tail v

/-! ## Cores of what is read -/

/-- The scanner succeeds only where a core stands, and reads it. What it reads with that ends where
its shape lets it end. -/
def Sound (k : Shape) : Prop :=
  ∀ q t u d, k.scanner ⟨q, t⟩ = some (u, d) →
    ∃ c w, t = c ++ (w ++ d.rest) ∧ k.Stands q c (w ++ d.rest) ∧
      (k.EndsClear → d.rest.head?.any isWordChar = false ∨
        (c ++ w).getLast?.any isWordChar = false)

/-- The scanner succeeds wherever a core stands. -/
def Complete (k : Shape) : Prop :=
  ∀ q c v, k.Stands q c v → ∃ r, k.scanner ⟨q, c ++ v⟩ = some r

theorem number_of_digits {c d : Cursor} {n : Text} (h : digits c = some (n, d)) :
    Number n ∧ c.Reads n d ∧ d.rest.head?.any isDecimal = false := by
  obtain ⟨hne, hall, hr, hedge⟩ := run_eq_some.1 h
  exact ⟨⟨hne, hall⟩, hr, hedge⟩

theorem Number.exists_first {n : Text} (h : Number n) :
    ∃ x w, n = x :: w ∧ isDecimal x = true := by
  obtain ⟨x, w, rfl⟩ := List.exists_cons_of_ne_nil h.1
  exact ⟨x, w, rfl, h.2 x List.mem_cons_self⟩

theorem Number.isWordChar_last {n : Text} (h : Number n) :
    ∃ x, isWordChar x = true ∧ n.getLast? = some x :=
  ⟨_, isWordChar_of_isDecimal (h.2 _ (List.getLast_mem h.1)), List.getLast?_eq_some_getLast h.1⟩

theorem colonPair_forward : Forward colonPair :=
  .bind (.one _) fun _ => .bind (.one _) fun _ => .one _

theorem timeUnit_forward : Forward timeUnit :=
  .maybe (.bind (.skip _) fun _ => .wholeWord _)

/-- What comes after the sign or word of a rest starts with a digit, but for blanks and one more
sign. -/
theorem timeAfter_sound {sign : Char} {c d : Cursor} {u : Unit}
    (h : (do blanks; maybe (one (· == sign)); blanks; time; timeUnit : Scanner Unit) c =
      some (u, d)) :
    ∃ b s x w, Blank b ∧ Signed sign s ∧ isDecimal x = true ∧
      c.rest = b ++ (s ++ x :: (w ++ d.rest)) := by
  simp only [blanks, time, bind_eq_some, skip_eq_some] at h
  obtain ⟨_, c₁, ⟨b, hb, hr₁, hedge⟩, _, c₂, hsign, _, c₃, ⟨b', hb', hr₃, -⟩, _, c₅,
    ⟨n, c₄, hn, hpair⟩, hunit⟩ := h
  obtain ⟨hn, hr₄, -⟩ := number_of_digits hn
  obtain ⟨x, w, rfl, hx⟩ := hn.exists_first
  obtain ⟨w', hw'⟩ : d.rest <:+ c₄.rest :=
    (timeUnit_forward _ _ _ hunit).trans (colonPair_forward.maybe _ _ _ hpair)
  have hdigit : c₃.rest = x :: ((w ++ w') ++ d.rest) := by
    rw [hr₄.rest, List.cons_append, List.append_assoc, hw']
  rcases maybe_eq_some hsign with ⟨_, hone⟩ | ⟨-, rfl⟩
  · obtain ⟨y, hy, hr₂⟩ := one_eq_some.1 hone
    obtain rfl : y = sign := beq_iff_eq.1 hy
    refine ⟨b, y :: b', x, w ++ w', hb, .inr ⟨b', hb', rfl⟩, hx, ?_⟩
    rw [hr₁.rest, hr₂.rest, hr₃.rest, hdigit]
    rfl
  · -- The first run of blanks leaves none for the second.
    have hnil : b' = [] := by
      cases b' with
      | nil => rfl
      | cons y b' =>
        rw [hr₃.rest] at hedge
        simp [hb' y List.mem_cons_self] at hedge
    subst hnil
    refine ⟨b, [], x, w ++ w', hb, .inl rfl, hx, ?_⟩
    rw [hr₁.rest, hr₃.rest, hdigit]

theorem restAt_sound : Sound restAt := by
  intro q t u d h
  obtain ⟨_, c, hone, htime⟩ := bind_eq_some.1 h
  obtain ⟨y, hy, hr⟩ := one_eq_some.1 hone
  obtain rfl : y = '@' := beq_iff_eq.1 hy
  obtain ⟨b, s, x, w, hb, hs, hx, hrest⟩ := timeAfter_sound htime
  refine ⟨_, w, ?_, ⟨⟨b, s, x, hb, hs, hx, rfl⟩, False.elim, trivial⟩, False.elim⟩
  have ht : t = '@' :: c.rest := hr.rest
  simp [ht, hrest]

theorem restThenTime_sound : Sound restThenTime := by
  intro q t u d h
  obtain ⟨_, c₀, hstart, h⟩ := bind_eq_some.1 h
  obtain ⟨hedge, rfl⟩ := wordEdge_eq_some.1 hstart
  obtain ⟨_, c, hword, htime⟩ := bind_eq_some.1 h
  obtain ⟨b, s, x, w, hb, hs, hx, hrest⟩ := timeAfter_sound htime
  have ht : t = "rest".toList ++ c.rest := (word_eq_some.1 hword).rest
  refine ⟨_, w, ?_, ⟨⟨b, s, x, hb, hs, hx, rfl⟩, fun _ => ?_, trivial⟩, False.elim⟩
  · simp [ht, hrest]
  · rw [ht] at hedge
    exact (atWordEdge_before (x := 'r') (by decide)).1 hedge

/-- A time is a number, perhaps with a pair of digits behind a colon. -/
theorem time_sound {c d : Cursor} {u : Unit} (h : time c = some (u, d)) :
    ∃ n p, Number n ∧ Paired p ∧ c.Reads (n ++ p) d := by
  obtain ⟨n, c₁, hdigits, hpair⟩ := bind_eq_some.1 h
  obtain ⟨hn, hr, -⟩ := number_of_digits hdigits
  rcases maybe_eq_some hpair with ⟨_, hpair⟩ | ⟨-, rfl⟩
  · simp only [colonPair, bind_eq_some, one_eq_some] at hpair
    obtain ⟨_, c₂, ⟨z, hz, hr₂⟩, _, c₃, ⟨x, hx, hr₃⟩, y, hy, hr₄⟩ := hpair
    obtain rfl : z = ':' := beq_iff_eq.1 hz
    exact ⟨n, [':', x, y], hn, .inr ⟨x, y, hx, hy, rfl⟩, hr.trans (hr₂.trans (hr₃.trans hr₄))⟩
  · exact ⟨n, [], hn, .inl rfl, by rwa [List.append_nil]⟩

/-- A word edge before a number. -/
theorem Number.front {n v : Text} {q : Option Char} (h : Number n) :
    (Cursor.mk q (n ++ v)).atWordEdge = true ↔ q.any isWordChar = false := by
  obtain ⟨x, w, rfl, hx⟩ := h.exists_first
  exact atWordEdge_before (isWordChar_of_isDecimal hx)

/-- A word edge behind a text that ends in a word. -/
theorem atWordEdge_of_reads {c d : Cursor} {w : Text} (hr : c.Reads w d) {x : Char}
    (hx : isWordChar x = true) (hlast : w.getLast? = some x) :
    d.atWordEdge = true ↔ d.rest.head?.any isWordChar = false := by
  obtain ⟨q, v⟩ := d
  obtain rfl : q = some x := by
    have := hr.prev
    rwa [hlast, Option.some_or] at this
  exact atWordEdge_behind hx

theorem timeThenRest_sound : Sound timeThenRest := by
  intro q t u d h
  obtain ⟨_, c₀, hstart, h⟩ := bind_eq_some.1 h
  obtain ⟨hedge, rfl⟩ := wordEdge_eq_some.1 hstart
  obtain ⟨_, c₁, htime, h⟩ := bind_eq_some.1 h
  obtain ⟨n, p, hn, hp, hr₁⟩ := time_sound htime
  simp only [blanks, bind_eq_some, skip_eq_some, word_eq_some, wordEdge_eq_some] at h
  obtain ⟨_, c₂, ⟨b, hb, hr₂, -⟩, _, c₃, hunit, _, c₄, hblank, _, c₅, hr₅, hend, rfl⟩ := h
  obtain ⟨s, hs, hword⟩ := oneOf_eq_some hunit
  obtain ⟨w, hw, rfl⟩ := List.mem_map.1 hs
  obtain ⟨b', hne, hb', hr₄⟩ := blanks1_eq_some hblank
  have hr₃ := word_eq_some.1 hword
  have ht : t = n ++ (p ++ (b ++ (w ++ (b' ++ ("rest".toList ++ d.rest))))) := by
    have h₁ : t = (n ++ p) ++ c₁.rest := hr₁.rest
    rw [h₁, hr₂.rest, hr₃.rest, hr₄.rest, hr₅.rest, List.append_assoc]
  have htail := (atWordEdge_of_reads hr₅ (x := 't') (by decide) rfl).1 hend
  refine ⟨_, [], ?_, ⟨⟨n, p, b, w, b', hn, hp, hb, hw, hne, hb', rfl⟩, fun _ => ?_, htail⟩,
    fun _ => .inl htail⟩
  · simpa only [List.append_assoc, List.nil_append] using ht
  · rw [ht] at hedge
    exact hn.front.1 hedge

theorem last_of_unit {w : Text} (hw : w ∈ durationUnits) :
    ∃ x, isWordChar x = true ∧ w.getLast? = some x := by
  have hall : ∀ w ∈ durationUnits, w.getLast?.any isWordChar = true := by decide +kernel
  obtain ⟨x, hx, hword⟩ := (Option.any_eq_true _ _).1 (hall w hw)
  exact ⟨x, hword, hx⟩

theorem duration_sound : Sound duration := by
  intro q t u d h
  obtain ⟨_, c₀, hstart, h⟩ := bind_eq_some.1 h
  obtain ⟨hedge, rfl⟩ := wordEdge_eq_some.1 hstart
  obtain ⟨n, c₁, hdigits, h⟩ := bind_eq_some.1 h
  obtain ⟨hn, hr₁, -⟩ := number_of_digits hdigits
  simp only [blanks, bind_eq_some, skip_eq_some] at h
  obtain ⟨_, c₂, ⟨b, hb, hr₂, -⟩, hunit⟩ := h
  obtain ⟨w, hw, hr₃, hend⟩ := wholeWord_eq_some hunit
  have ht : t = n ++ (b ++ (w ++ d.rest)) := by
    have h₁ : t = n ++ c₁.rest := hr₁.rest
    rw [h₁, hr₂.rest, hr₃.rest]
  obtain ⟨x, hx, hlast⟩ := last_of_unit hw
  have htail := (atWordEdge_of_reads hr₃ hx hlast).1 hend
  refine ⟨_, [], ?_, ⟨⟨n, b, w, hn, hb, hw, rfl⟩, fun _ => ?_, htail⟩, fun _ => .inl htail⟩
  · simpa only [List.append_assoc, List.nil_append] using ht
  · rw [ht] at hedge
    exact hn.front.1 hedge

theorem clock_sound : Sound clock := by
  intro q t u d h
  obtain ⟨_, c₀, hstart, h⟩ := bind_eq_some.1 h
  obtain ⟨hedge, rfl⟩ := wordEdge_eq_some.1 hstart
  obtain ⟨n, c₁, hdigits, h⟩ := bind_eq_some.1 h
  obtain ⟨hn, hr₁, -⟩ := number_of_digits hdigits
  simp only [colonPair, bind_eq_some, guard_eq_some, one_eq_some, wordEdge_eq_some] at h
  obtain ⟨_, c₂, ⟨hlen, rfl⟩, _, c₅, ⟨_, c₃, ⟨z, hz, hr₃⟩, _, c₄, ⟨x, hx, hr₄⟩, y, hy, hr₅⟩, hend,
    rfl⟩ := h
  obtain rfl : z = ':' := beq_iff_eq.1 hz
  have ht : t = n ++ ':' :: x :: y :: d.rest := by
    have h₁ : t = n ++ c₂.rest := hr₁.rest
    rw [h₁, hr₃.rest, hr₄.rest, hr₅.rest]
    rfl
  have htail := (atWordEdge_of_reads hr₅ (isWordChar_of_isDecimal hy) rfl).1 hend
  refine ⟨_, [], ?_, ⟨⟨n, x, y, hn, hlen, hx, hy, rfl⟩, fun _ => ?_, htail⟩, fun _ => .inl htail⟩
  · simpa only [List.append_assoc, List.cons_append, List.nil_append] using ht
  · rw [ht] at hedge
    exact hn.front.1 hedge

/-- The word "lane" and its number. -/
theorem laneHead_sound {q : Option Char} {t : Text} {u : Unit} {d : Cursor}
    (h : laneHead ⟨q, t⟩ = some (u, d)) : ∃ s b n, (s = [] ∨ s = ['s']) ∧ Blank b ∧ Number n ∧
      t = "lane".toList ++ (s ++ (b ++ (n ++ d.rest))) ∧ q.any isWordChar = false ∧
      d.rest.head?.any isWordChar = false := by
  obtain ⟨_, c₀, hstart, h⟩ := bind_eq_some.1 h
  obtain ⟨hedge, rfl⟩ := wordEdge_eq_some.1 hstart
  simp only [blanks, bind_eq_some, skip_eq_some, word_eq_some, wordEdge_eq_some] at h
  obtain ⟨_, c₁, hr₁, _, c₂, hs, _, c₃, ⟨b, hb, hr₃, -⟩, n, c₄, hdigits, hend, rfl⟩ := h
  obtain ⟨hn, hr₄, -⟩ := number_of_digits hdigits
  obtain ⟨s, hs, hr₂⟩ : ∃ s, (s = [] ∨ s = ['s']) ∧ c₁.Reads s c₂ := by
    rcases maybe_eq_some hs with ⟨_, hone⟩ | ⟨-, rfl⟩
    · obtain ⟨x, hx, hr⟩ := one_eq_some.1 hone
      obtain rfl : x = 's' := beq_iff_eq.1 hx
      exact ⟨['s'], .inr rfl, hr⟩
    · exact ⟨[], .inl rfl, .refl _⟩
  have ht : t = "lane".toList ++ (s ++ (b ++ (n ++ d.rest))) := by
    have h₁ : t = "lane".toList ++ c₁.rest := hr₁.rest
    rw [h₁, hr₂.rest, hr₃.rest, hr₄.rest]
  obtain ⟨x, hx, hlast⟩ := hn.isWordChar_last
  refine ⟨s, b, n, hs, hb, hn, ht, ?_, (atWordEdge_of_reads hr₄ hx hlast).1 hend⟩
  rw [ht] at hedge
  exact (atWordEdge_before (x := 'l') (by decide)).1 hedge

theorem laneTurn_forward : Forward (do laneMore; notHere measureFollows) := by
  refine .bind ?_ fun _ => .notHere _
  refine .bind (.skip _) fun _ => .bind (.either (.one _) (.wholeWord _)) fun _ =>
    .bind (.skip _) fun _ => .bind (.of_reads fun c w d h => ?_) fun _ => .wordEdge
  exact ⟨w, (run_eq_some.1 h).2.2.1⟩

/-- A list that goes on ends with a number again. -/
theorem laneTurns_end {k : Nat} {c d : Cursor} {u : Unit}
    (h : upTo (do laneMore; notHere measureFollows) k c = some (u, d))
    (hc : c.rest.head?.any isWordChar = false) : d.rest.head?.any isWordChar = false := by
  induction k generalizing c with
  | zero =>
    obtain ⟨-, rfl⟩ := pure_eq_some.1 h
    exact hc
  | succ k ih =>
    rw [upTo] at h
    cases hturn : (do laneMore; notHere measureFollows : Scanner Unit) c with
    | none =>
      simp only [hturn, Option.some.injEq, Prod.mk.injEq] at h
      exact h.2 ▸ hc
    | some r =>
      simp only [hturn] at h
      refine ih h ?_
      obtain ⟨_, e⟩ := r
      simp only [laneMore, bind_eq_some, wordEdge_eq_some, notHere_eq_some] at hturn
      obtain ⟨_, _, ⟨_, _, -, _, _, -, _, _, -, n, _, hdigits, hend, rfl⟩, -, rfl⟩ := hturn
      obtain ⟨hn, hr, -⟩ := number_of_digits hdigits
      obtain ⟨x, hx, hlast⟩ := hn.isWordChar_last
      exact (atWordEdge_of_reads hr hx hlast).1 hend

theorem lanes_sound : Sound lanes := by
  intro q t u d h
  obtain ⟨_, c, hhead, h⟩ := bind_eq_some.1 h
  obtain ⟨_, c', hfree, hmore⟩ := bind_eq_some.1 h
  obtain ⟨hfree, rfl⟩ := notHere_eq_some.1 hfree
  obtain ⟨s, b, n, hs, hb, hn, ht, hfront, hend⟩ := laneHead_sound hhead
  obtain ⟨w, hw⟩ : d.rest <:+ c'.rest := laneTurn_forward.many _ _ _ hmore
  refine ⟨_, w, ?_, ⟨⟨s, b, n, hs, hb, hn, rfl⟩, fun _ => hfront, ?_⟩,
    fun _ => .inl (laneTurns_end hmore hend)⟩
  · simpa only [hw, List.append_assoc] using ht
  · rw [hw]
    refine ⟨hend, fun q' => ?_⟩
    rw [measureFollows_looksAhead, ← hfree, measureFollows_looksAhead c'.prev]

theorem note_sound : Sound note := by
  intro q t u d h
  simp only [scanner, Aside.note, bind_eq_some, one_eq_some, skip_eq_some] at h
  obtain ⟨_, c₁, ⟨x, hx, hr₁⟩, _, c₂, ⟨b, hb, hr₂, -⟩, y, hy, hr₃⟩ := h
  obtain rfl : x = '(' := beq_iff_eq.1 hx
  obtain rfl : y = ')' := beq_iff_eq.1 hy
  refine ⟨_, [], ?_, ⟨⟨b, hb, rfl⟩, False.elim, trivial⟩, fun _ => .inr ?_⟩
  · have ht : t = '(' :: c₁.rest := hr₁.rest
    simp [ht, hr₂.rest, hr₃.rest]
  · rw [List.append_nil, ← List.cons_append, List.getLast?_concat]
    decide

/-- **What is read starts with a core.** -/
theorem sound (k : Shape) : Sound k := by
  cases k with
  | restAt => exact restAt_sound
  | restThenTime => exact restThenTime_sound
  | timeThenRest => exact timeThenRest_sound
  | duration => exact duration_sound
  | clock => exact clock_sound
  | lanes => exact lanes_sound
  | note => exact note_sound

/-! ## What is read where a core stands -/

section Complete

variable {b n p s v : Text} {q : Option Char} {x : Char}

theorem Number.first (hn : Number n) (v : Text) :
    ∃ x, isDecimal x = true ∧ (n ++ v).head? = some x := by
  obtain ⟨x, w, rfl, hx⟩ := hn.exists_first
  exact ⟨x, hx, rfl⟩

theorem Number.reads (hn : Number n) (hv : v.head?.any isDecimal = false) (q : Option Char) :
    ∃ x, isWordChar x = true ∧ digits ⟨q, n ++ v⟩ = some (n, ⟨some x, v⟩) := by
  obtain ⟨x, hx, hlast⟩ := hn.isWordChar_last
  refine ⟨x, hx, ?_⟩
  have := run_append hn.1 hn.2 hv q
  rwa [hlast, Option.some_or] at this

/-- Behind blanks or nothing comes what comes first in the text. -/
theorem Blank.head {f : Char → Bool} (hb : Blank b) (hf : ∀ x, isBlank x = true → f x = false)
    (hv : v.head?.any f = false) : (b ++ v).head?.any f = false := by
  cases b with
  | nil => exact hv
  | cons x b => exact hf x (hb x List.mem_cons_self)

theorem timeAfter_complete {sign : Char} (hb : Blank b) (hs : Signed sign s)
    (hx : isDecimal x = true) (hblank : isBlank sign = false) (hdecimal : isDecimal sign = false) :
    ∃ r, (do blanks; maybe (one (· == sign)); blanks; time; timeUnit : Scanner Unit)
      ⟨q, b ++ (s ++ x :: v)⟩ = some r := by
  have hxb : (x :: v).head?.any isBlank = false := by
    refine Bool.eq_false_iff.2 fun h => ?_
    simp [not_isDecimal_of_isBlank (by simpa using h : isBlank x = true)] at hx
  have htime (b : Text) (hb : Blank b) (q : Option Char) :
      ∃ r, (do blanks; time; timeUnit : Scanner Unit) ⟨q, b ++ x :: v⟩ = some r := by
    obtain ⟨w, c, hw⟩ := run_succeeds (c := ⟨b.getLast?.or q, x :: v⟩) (p := isDecimal) (by simpa)
    obtain ⟨c', hc'⟩ := maybe_succeeds colonPair c
    obtain ⟨d, hd⟩ := maybe_succeeds (do blanks; wholeWord timeUnits) c'
    refine ⟨((), d), (bind_of_some (skip_append hb hxb q)).trans ?_⟩
    exact (bind_of_some ((bind_of_some hw).trans hc')).trans hd
  rcases hs with rfl | ⟨b', hb', rfl⟩
  · have hfails : Fails (x :: v) (one (· == sign)) := Fails.one <| by
      refine beq_eq_false_iff_ne.2 ?_
      rintro rfl
      simp [hdecimal] at hx
    obtain ⟨r, hr⟩ := htime [] (List.forall_mem_nil _) (b.getLast?.or q)
    refine ⟨r, (bind_of_some (skip_append hb hxb q)).trans ?_⟩
    exact (bind_of_some (maybe_of_fails hfails _)).trans hr
  · obtain ⟨r, hr⟩ := htime b' hb' (some sign)
    have hsign : maybe (one (· == sign)) ⟨b.getLast?.or q, sign :: (b' ++ x :: v)⟩ =
        some ((), ⟨some sign, b' ++ x :: v⟩) :=
      maybe_of_some (one_cons (beq_self_eq_true sign) (b' ++ x :: v) (b.getLast?.or q))
    have hskip := skip_append hb (r := sign :: (b' ++ x :: v)) hblank q
    refine ⟨r, (bind_of_some hskip).trans ?_⟩
    exact (bind_of_some hsign).trans hr

theorem restAt_complete : Complete restAt := by
  rintro q c v ⟨⟨b, s, x, hb, hs, hx, rfl⟩, -, -⟩
  obtain ⟨r, hr⟩ := timeAfter_complete (q := some '@') (v := v) hb hs hx (by decide) (by decide)
  refine ⟨r, (bind_of_some (one_cons rfl _ q)).trans ?_⟩
  simpa using hr

theorem restThenTime_complete : Complete restThenTime := by
  rintro q c v ⟨⟨b, s, x, hb, hs, hx, rfl⟩, hfront, -⟩
  obtain ⟨r, hr⟩ := timeAfter_complete (q := some 't') (v := v) hb hs hx (by decide) (by decide)
  have hedge : (Cursor.mk q ("rest".toList ++ (b ++ (s ++ x :: v)))).atWordEdge = true :=
    (atWordEdge_before (x := 'r') (by decide)).2 (hfront trivial)
  refine ⟨r, ?_⟩
  simp only [List.append_assoc, List.cons_append, List.nil_append]
  exact (wordEdge_bind hedge _).trans ((bind_of_some (word_append _ _ q)).trans hr)

theorem first_of_unit : ∀ w ∈ timeUnits, w.head? = some 's' ∨ w.head? = some 'm' := by decide

theorem durationUnits_subset : ∀ w ∈ durationUnits, w ∈ timeUnits := by decide

/-- Neither a digit nor a blank nor a colon comes first where a unit of time stands. -/
theorem head_of_unit {w : Text} (hw : w ∈ timeUnits) {f : Char → Bool} (hs : f 's' = false)
    (hm : f 'm' = false) (v : Text) : (w ++ v).head?.any f = false := by
  rw [List.head?_append]
  rcases first_of_unit w hw with h | h <;> simp [h, hs, hm]

/-- The word of the list that is read first stands there. -/
theorem anyWord_eq (ws : List Text) (q : Option Char) (t : Text) : anyWord ws ⟨q, t⟩ =
    (ws.find? fun w => w.isPrefixOf t).bind fun w => word w ⟨q, t⟩ := by
  induction ws with
  | nil => rfl
  | cons w ws ih =>
    rw [List.find?_cons]
    cases h : w.isPrefixOf t with
    | true =>
      have hword : word w ⟨q, t⟩ = some ((), Cursor.advance ⟨q, t⟩ w.length) := by
        simp [word, h]
      simp [anyWord, oneOf, hword]
    | false =>
      have hword : word w ⟨q, t⟩ = none := by simp [word, h]
      rw [anyWord, List.map_cons, oneOf]
      simp only [hword]
      exact ih

/-- A word without blanks goes no further than to the next blank. -/
theorem prefix_before_blank {u w : Text} (hu : ∀ y ∈ u, isBlank y = false)
    (hx : isBlank x = true) : u <+: w ++ x :: v ↔ u <+: w := by
  refine ⟨fun h => ?_, fun h => h.trans (List.prefix_append ..)⟩
  rcases Nat.le_total u.length w.length with hlen | hlen
  · exact List.prefix_of_prefix_length_le h (List.prefix_append ..) hlen
  · obtain ⟨b, rfl⟩ := List.prefix_of_prefix_length_le (List.prefix_append ..) h hlen
    rw [List.prefix_append_right_inj] at h
    cases b with
    | nil => rw [List.append_nil]
    | cons y b =>
      obtain ⟨rfl, -⟩ := List.cons_prefix_cons.1 h
      simp [hu y (by simp)] at hx

/-- Of the units of time the one that stands there is read, if a blank comes behind it. -/
theorem unit_reads {w : Text} (hw : w ∈ timeUnits) (hx : isBlank x = true) (q : Option Char) :
    anyWord timeUnits ⟨q, w ++ x :: v⟩ = some ((), ⟨w.getLast?.or q, x :: v⟩) := by
  have hfind : timeUnits.find? (fun u => u.isPrefixOf (w ++ x :: v)) = some w := by
    have hlist : ∀ w ∈ timeUnits, timeUnits.find? (fun u => u.isPrefixOf w) = some w := by decide
    have hsame : ∀ u ∈ timeUnits, u.isPrefixOf (w ++ x :: v) = u.isPrefixOf w := fun u hu => by
      have hblank := (by decide : ∀ u ∈ timeUnits, ∀ y ∈ u, isBlank y = false) u hu
      rw [Bool.eq_iff_iff, List.isPrefixOf_iff_prefix, List.isPrefixOf_iff_prefix,
        prefix_before_blank hblank hx]
    rw [← hlist w hw]
    exact List.find?_congr hsame
  rw [anyWord_eq, hfind]
  exact word_append ..

theorem colonPair_reads {y : Char} (hx : isDecimal x = true) (hy : isDecimal y = true)
    (q : Option Char) (r : Text) :
    colonPair ⟨q, ':' :: x :: y :: r⟩ = some ((), ⟨some y, r⟩) :=
  (bind_of_some (one_cons rfl _ _)).trans
    ((bind_of_some (one_cons hx _ _)).trans (one_cons hy _ _))

theorem time_complete (hn : Number n) (hp : Paired p) {r : Text}
    (hdecimal : r.head?.any isDecimal = false) (hcolon : r.head?.any (· == ':') = false)
    (q : Option Char) : ∃ z, time ⟨q, n ++ (p ++ r)⟩ = some ((), ⟨z, r⟩) := by
  rcases hp with rfl | ⟨x, y, hx, hy, rfl⟩
  · obtain ⟨z, -, hdigits⟩ := hn.reads hdecimal q
    have hfails : Fails r colonPair := (Fails.one hcolon).bind _
    exact ⟨some z, (bind_of_some hdigits).trans (maybe_of_fails hfails _)⟩
  · obtain ⟨z, -, hdigits⟩ := hn.reads (v := ':' :: x :: y :: r) rfl q
    exact ⟨some y, (bind_of_some hdigits).trans (maybe_of_some (colonPair_reads hx hy _ r))⟩

theorem timeThenRest_complete : Complete timeThenRest := by
  rintro q c v ⟨⟨n, p, b, w, b', hn, hp, hb, hw, hne, hb', rfl⟩, hfront, hend⟩
  obtain ⟨y, g, rfl⟩ := List.exists_cons_of_ne_nil hne
  have hy : isBlank y = true := hb' y List.mem_cons_self
  have hunit (r : Text) : (w ++ r).head?.any isBlank = false :=
    head_of_unit hw (by decide) (by decide) r
  obtain ⟨z, htime⟩ := time_complete hn hp (r := b ++ (w ++ ((y :: g) ++ ("rest".toList ++ v))))
    (hb.head (fun _ h => not_isDecimal_of_isBlank h)
      (head_of_unit hw (by decide) (by decide) _))
    (hb.head (fun x h => by simpa using forall_blank (p := fun x => !(x == ':')) (by decide) h)
      (head_of_unit hw (by decide) (by decide) _)) q
  have hskip := skip_append hb (hunit ((y :: g) ++ ("rest".toList ++ v))) z
  have hword := unit_reads (v := g ++ ("rest".toList ++ v)) hw hy (b.getLast?.or z)
  obtain ⟨z', hblanks⟩ := blanks1_append hne hb' (r := "rest".toList ++ v) rfl
    (w.getLast?.or (b.getLast?.or z))
  refine ⟨((), ⟨some 't', v⟩), ?_⟩
  simp only [List.append_assoc]
  refine (wordEdge_bind (hn.front.2 (hfront trivial)) _).trans ?_
  refine (bind_of_some htime).trans ((bind_of_some hskip).trans ?_)
  refine (bind_of_some hword).trans ((bind_of_some hblanks).trans ?_)
  refine (bind_of_some (word_append _ _ _)).trans ?_
  exact wordEdge_eq_some.2 ⟨(atWordEdge_behind (by decide)).2 hend, rfl⟩

theorem duration_complete : Complete duration := by
  rintro q c v ⟨⟨n, b, w, hn, hb, hw, rfl⟩, hfront, hend⟩
  have hunit := durationUnits_subset w hw
  obtain ⟨y, hy, hdigits⟩ := hn.reads (v := b ++ (w ++ v))
    (hb.head (fun _ h => not_isDecimal_of_isBlank h)
      (head_of_unit hunit (by decide) (by decide) v)) q
  have hskip := skip_append hb (r := w ++ v) (head_of_unit hunit (by decide) (by decide) v) (some y)
  obtain ⟨r, hr⟩ : ∃ r, wholeWord durationUnits ⟨b.getLast?.or (some y), w ++ v⟩ = some r := by
    obtain ⟨x, hx, hlast⟩ := last_of_unit hw
    refine oneOf_succeeds (r := ((), ⟨some x, v⟩)) (List.mem_map.2 ⟨w, hw, rfl⟩) ?_
    rw [bind_of_some (word_append w v _), hlast]
    exact wordEdge_eq_some.2 ⟨(atWordEdge_behind hx).2 hend, rfl⟩
  refine ⟨r, ?_⟩
  simp only [List.append_assoc]
  refine (wordEdge_bind (hn.front.2 (hfront trivial)) _).trans ?_
  exact (bind_of_some hdigits).trans ((bind_of_some hskip).trans hr)

theorem clock_complete : Complete clock := by
  rintro q c v ⟨⟨n, x, y, hn, hlen, hx, hy, rfl⟩, hfront, hend⟩
  obtain ⟨z, hz, hdigits⟩ := hn.reads (v := ':' :: x :: y :: v) rfl q
  have hpair := colonPair_reads hx hy (some z) v
  have hguard : (guard (n.length ≤ 2) : Scanner Unit) ⟨some z, ':' :: x :: y :: v⟩ = some ((), _) :=
    guard_eq_some.2 ⟨hlen, rfl⟩
  refine ⟨((), ⟨some y, v⟩), ?_⟩
  simp only [List.append_assoc, List.cons_append, List.nil_append]
  refine (wordEdge_bind (hn.front.2 (hfront trivial)) _).trans ?_
  refine (bind_of_some hdigits).trans ?_
  refine (bind_of_some hguard).trans ?_
  refine (bind_of_some hpair).trans ?_
  exact wordEdge_eq_some.2 ⟨(atWordEdge_behind (isWordChar_of_isDecimal hy)).2 hend, rfl⟩

theorem lanes_complete : Complete lanes := by
  rintro q c v ⟨⟨s, b, n, hs, hb, hn, rfl⟩, hfront, hend, hfree⟩
  obtain ⟨z, hz, hdigits⟩ :=
    hn.reads (not_any_isDecimal hend) (b.getLast?.or (s.getLast?.or (some 'e')))
  obtain ⟨x, hx, hfirst⟩ := hn.first v
  have hdigit {f : Char → Bool} (hf : ∀ x, isDecimal x = true → f x = false) :
      (n ++ v).head?.any f = false := by simp [hfirst, hf x hx]
  have hplural : maybe (one (· == 's')) ⟨some 'e', s ++ (b ++ (n ++ v))⟩ =
      some ((), ⟨s.getLast?.or (some 'e'), b ++ (n ++ v)⟩) := by
    rcases hs with rfl | rfl
    · refine maybe_of_fails (Fails.one (hb.head ?_ (hdigit ?_))) _
      · exact fun x h => by simpa using forall_blank (p := fun x => !(x == 's')) (by decide) h
      · rintro x h
        refine beq_eq_false_iff_ne.2 ?_
        rintro rfl
        exact absurd h (by decide)
    · exact maybe_of_some (one_cons rfl _ _)
  have hskip := skip_append hb (r := n ++ v) (hdigit fun x h => Bool.eq_false_iff.2 fun hblank => by
    simp [not_isDecimal_of_isBlank hblank] at h) (s.getLast?.or (some 'e'))
  have hhead : laneHead ⟨q, "lane".toList ++ (s ++ (b ++ (n ++ v)))⟩ = some ((), ⟨some z, v⟩) := by
    have hedge : (Cursor.mk q ("lane".toList ++ (s ++ (b ++ (n ++ v))))).atWordEdge = true :=
      (atWordEdge_before (x := 'l') (by decide)).2 (hfront trivial)
    refine (wordEdge_bind hedge _).trans ((bind_of_some (word_append _ _ q)).trans ?_)
    refine (bind_of_some hplural).trans ((bind_of_some hskip).trans ?_)
    refine (bind_of_some hdigits).trans ?_
    exact wordEdge_eq_some.2 ⟨(atWordEdge_behind hz).2 hend, rfl⟩
  obtain ⟨d, hmore⟩ := upTo_succeeds (do laneMore; notHere measureFollows) v.length ⟨some z, v⟩
  refine ⟨((), d), ?_⟩
  simp only [List.append_assoc]
  refine (bind_of_some hhead).trans ?_
  exact (notHere_bind (hfree (some z)) _).trans hmore

theorem note_complete : Complete note := by
  rintro q c v ⟨⟨b, hb, rfl⟩, -, -⟩
  refine ⟨((), ⟨some ')', v⟩), ?_⟩
  simp only [List.append_assoc, List.cons_append, List.nil_append]
  refine (bind_of_some (one_cons rfl _ _)).trans ?_
  exact (bind_of_some (skip_append hb rfl _)).trans (one_cons rfl _ _)

/-- **Where a core stands its scanner succeeds.** -/
theorem complete (k : Shape) : Complete k := by
  cases k with
  | restAt => exact restAt_complete
  | restThenTime => exact restThenTime_complete
  | timeThenRest => exact timeThenRest_complete
  | duration => exact duration_complete
  | clock => exact clock_complete
  | lanes => exact lanes_complete
  | note => exact note_complete

end Complete

end Shape

end SwimSets
