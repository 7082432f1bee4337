import SwimSets.Proofs.Characters
import SwimSets.Proofs.Scanning
import SwimSets.Proofs.Verdict
import SwimSets.Text.Spellings

/-!
# Multipliers

What the search for multiplication signs finds, and what a line with one or several comes to.

**Factors** (`Factor`). A number at the start of a word with a multiplication sign after it. A
factor is fixed by where it starts, and no factor starts before the sign of an earlier one
(`Factor.signStop_le_start`), since inside a number there is no word edge.

**Multipliers** (`Multiplier`). The factors whose sign does not start a word. As the search reads
one, it also takes the character after the sign: that is how it sees that no word starts there.
So two multipliers are both counted if the second starts after that character
(`one_lt_countMultipliers`), and a factor whose number starts at that character is lost.

**Chains** (`Chain`). Three numbers joined by two signs. Where a blank follows the first sign, the
chain holds two multipliers that are both counted. Where the second number stands right at the
sign, its first digit is the character that the search took. Such a chain is refused only if two
multipliers of the line are counted all the same.

**One multiplier.** A line of one multiplier applies it exactly if a number follows the sign. With
anything else there, such as a parenthesis, the line is read as if the multiplier were not written.

Main results: `chain_refused_iff`, `multiplier_applied_iff`.
-/

namespace SwimSets

open Scanner

variable {α : Type} {t : Text}

/-- A number at the start of a word with a multiplication sign after it. -/
structure Factor (t : Text) where
  before : Text
  number : Text
  gap : Text
  sign : Char
  after : Text
  text : t = before ++ (number ++ (gap ++ sign :: after))
  edge : before.getLast?.any isWordChar = false
  nonempty : number ≠ []
  allDigits : ∀ c ∈ number, isDecimal c = true
  allBlank : ∀ c ∈ gap, isBlank c = true
  isSign : (sign == 'x' || sign == '*') = true

namespace Factor

/-- Where the number starts. -/
def start (s : Factor t) : Nat := s.before.length

/-- Where the sign ends. -/
def signStop (s : Factor t) : Nat := s.before.length + s.number.length + s.gap.length + 1

/-- Blanks aside, a number comes after the sign. -/
def numberFollows (s : Factor t) : Bool := (s.after.dropWhile isBlank).head?.any isDecimal

theorem length_text (s : Factor t) : t.length = s.signStop + s.after.length := by
  have := congrArg List.length s.text
  simp only [List.length_append, List.length_cons] at this
  simp only [signStop]
  omega

theorem start_lt_signStop (s : Factor t) : s.start + 1 < s.signStop := by
  have := List.length_pos_iff.2 s.nonempty
  simp only [start, signStop]
  omega

theorem start_lt_length (s : Factor t) : s.start < t.length := by
  have := s.length_text
  have := s.start_lt_signStop
  omega

theorem sign_eq (s : Factor t) : s.sign = 'x' ∨ s.sign = '*' := by simpa using s.isSign

theorem isDecimal_sign (s : Factor t) : isDecimal s.sign = false := by
  rcases s.sign_eq with h | h <;> rw [h] <;> decide

theorem isBlank_sign (s : Factor t) : isBlank s.sign = false := by
  rcases s.sign_eq with h | h <;> rw [h] <;> decide

theorem place_start (s : Factor t) :
    Cursor.place t s.start =
      ⟨s.before.getLast?, s.number ++ (s.gap ++ s.sign :: s.after)⟩ := by
  have := Cursor.place_length s.before (s.number ++ (s.gap ++ s.sign :: s.after))
  rwa [← s.text] at this

theorem reads (s : Factor t) :
    (Cursor.place t s.start).Reads (s.number ++ (s.gap ++ [s.sign])) ⟨some s.sign, s.after⟩ where
  rest := by simp [s.place_start]
  prev := by simp

theorem start_add_length (s : Factor t) :
    s.start + (s.number ++ (s.gap ++ [s.sign])).length = s.signStop := by
  simp only [start, signStop, List.length_append, List.length_singleton]
  omega

theorem place_signStop (s : Factor t) :
    Cursor.place t s.signStop = ⟨some s.sign, s.after⟩ := by
  rw [← s.start_add_length]
  exact s.reads.eq_place.symm

/-- The number starts with a digit. -/
theorem exists_head (s : Factor t) : ∃ c r, s.number = c :: r ∧ isDecimal c = true := by
  obtain ⟨c, r, h⟩ := List.exists_cons_of_ne_nil s.nonempty
  exact ⟨c, r, h, s.allDigits c (by simp [h])⟩

theorem atWordEdge_start (s : Factor t) : (Cursor.place t s.start).atWordEdge = true := by
  obtain ⟨c, r, hn, hc⟩ := s.exists_head
  simp [s.place_start, Cursor.atWordEdge, s.edge, hn, isWordChar_of_isDecimal hc]

end Factor

/-- A scanner that reads a factor and goes on succeeds where a factor stands after which it can
go on. -/
theorem factor_eq_some {f : Text → Scanner α} {i : Nat} {a : α} {e : Cursor} :
    (do wordEdge; let n ← digits; blanks; Distance.times; f n : Scanner α) (Cursor.place t i) =
        some (a, e) ↔
      ∃ s : Factor t, s.start = i ∧ f s.number ⟨some s.sign, s.after⟩ = some (a, e) := by
  simp only [bind_eq_some, wordEdge_eq_some, digits, run_eq_some, blanks, skip_eq_some,
    Distance.times, one_eq_some]
  constructor
  · rintro ⟨-, _, ⟨edge, rfl⟩, number, c₁, ⟨nonempty, hd, h₁, -⟩, -, c₂, ⟨gap, hg, h₂, -⟩,
      -, ⟨q, after⟩, ⟨sign, hs, h₃⟩, hf⟩
    obtain rfl : q = some sign := h₃.prev
    have rest : t.drop i = number ++ (gap ++ sign :: after) := by
      have := h₁.rest
      rwa [h₂.rest, h₃.rest] at this
    obtain ⟨c, r, rfl⟩ := List.exists_cons_of_ne_nil nonempty
    have hi : i < t.length := by
      by_contra h
      rw [List.drop_eq_nil_of_le (Nat.le_of_not_lt h)] at rest
      cases rest
    refine ⟨⟨t.take i, c :: r, gap, sign, after, ?_, ?_, nonempty, hd, hg, hs⟩, ?_, hf⟩
    · rw [← rest, List.take_append_drop]
    · have hc := isWordChar_of_isDecimal (hd c List.mem_cons_self)
      simpa [Cursor.atWordEdge, Cursor.place, rest, hc] using edge
    · simp [Factor.start, Nat.le_of_lt hi]
  · rintro ⟨s, rfl, hf⟩
    refine ⟨(), _, ⟨s.atWordEdge_start, rfl⟩, s.number,
      ⟨s.number.getLast?.or s.before.getLast?, s.gap ++ s.sign :: s.after⟩,
      ⟨s.nonempty, s.allDigits, ?_, ?_⟩, (),
      ⟨s.gap.getLast?.or (s.number.getLast?.or s.before.getLast?), s.sign :: s.after⟩,
      ⟨s.gap, s.allBlank, ⟨rfl, rfl⟩, ?_⟩, (), ⟨some s.sign, s.after⟩,
      ⟨s.sign, s.isSign, ⟨rfl, rfl⟩⟩, hf⟩
    · rw [s.place_start]
      exact ⟨rfl, rfl⟩
    · cases hg : s.gap with
      | nil => simp [s.isDecimal_sign]
      | cons g r => simp [not_isDecimal_of_isBlank (s.allBlank g (by simp [hg]))]
    · simp [s.isBlank_sign]

namespace Factor

/-- A factor is fixed by where it starts. -/
theorem eq_of_start {s s' : Factor t} (h : s.start = s'.start) : s = s' := by
  have hb := List.append_inj (s.text.symm.trans s'.text) h
  have hs := (factor_eq_some (f := fun n => (pure n : Scanner Text))).2 ⟨s, h, rfl⟩
  have hs' := (factor_eq_some (f := fun n => (pure n : Scanner Text))).2 ⟨s', rfl, rfl⟩
  have he := Option.some.inj (hs.symm.trans hs')
  obtain ⟨b, n, g, x, r, _, _, _, _, _, _⟩ := s
  obtain ⟨b', n', g', x', r', _, _, _, _, _, _⟩ := s'
  simp only [Prod.mk.injEq, Cursor.mk.injEq, Option.some.injEq] at he hb
  obtain ⟨rfl, rfl, rfl⟩ := he
  obtain ⟨rfl, hr⟩ := hb
  obtain rfl := List.append_cancel_right (List.append_cancel_left hr)
  rfl

/-- No factor starts before the sign of an earlier one ends. -/
theorem signStop_le_start {s s' : Factor t} (h : s.start < s'.start) :
    s.signStop ≤ s'.start := by
  obtain ⟨c, r, hn, hc⟩ := s'.exists_head
  have e := s.text.symm.trans s'.text
  rw [hn, List.cons_append] at e
  -- The later factor starts after a piece `a` that the earlier one starts with.
  obtain ⟨a, hb, ha⟩ : ∃ a, s'.before = s.before ++ a ∧
      s.number ++ (s.gap ++ s.sign :: s.after) =
        a ++ c :: (r ++ (s'.gap ++ s'.sign :: s'.after)) := by
    rcases List.append_eq_append_iff.1 e with ⟨a, hb, ha⟩ | ⟨a, hb, -⟩
    · exact ⟨a, hb, ha⟩
    · have := congrArg List.length hb
      simp only [List.length_append, start] at this h
      omega
  have hlen := congrArg List.length hb
  rw [List.length_append] at hlen
  rcases List.append_eq_append_iff.1 ha with ⟨b, rfl, hg⟩ | ⟨b, hnum, -⟩
  · rcases List.append_eq_append_iff.1 hg with ⟨u, rfl, hu⟩ | ⟨u, hgap, hu⟩
    · cases u with
      | nil =>
        obtain ⟨rfl, -⟩ := List.cons.inj hu
        simp [s.isDecimal_sign] at hc
      | cons x v =>
        simp only [List.length_append, List.length_cons] at hlen
        simp only [signStop, start]
        omega
    · cases u with
      | nil =>
        obtain ⟨rfl, -⟩ := List.cons.inj hu
        simp [s.isDecimal_sign] at hc
      | cons x v =>
        obtain ⟨rfl, -⟩ := List.cons.inj hu
        simp [not_isDecimal_of_isBlank (s.allBlank c (by simp [hgap]))] at hc
  · -- Inside the number there is no word edge.
    have hne : a ≠ [] := by
      rintro rfl
      simp [start, hb] at h
    have hlast := s'.edge
    rw [hb, List.getLast?_append, List.getLast?_eq_some_getLast hne] at hlast
    have hd := s.allDigits (a.getLast hne) (by simp [hnum, List.getLast_mem])
    simp [isWordChar_of_isDecimal hd] at hlast

end Factor

/-! ## Counting -/

/-- A factor whose sign is not the first letter of a word. -/
structure Multiplier (t : Text) extends Factor t where
  noWord : after.head?.any (fun c => 'a' ≤ c && c ≤ 'z') = false

namespace Multiplier

/-- Where the search goes on: it takes one character after the sign, if there is one. -/
def stop (m : Multiplier t) : Nat := m.signStop + (m.after.take 1).length

theorem signStop_le_stop (m : Multiplier t) : m.signStop ≤ m.stop := Nat.le_add_right ..

theorem stop_le_signStop (m : Multiplier t) : m.stop ≤ m.signStop + 1 := by
  simp only [stop, List.length_take]
  omega

theorem eq_of_start {m m' : Multiplier t} (h : m.start = m'.start) : m = m' := by
  have := Factor.eq_of_start h
  cases m
  cases m'
  congr

end Multiplier

/-- What the search reads after the sign. -/
theorem noWord_eq_some {c e : Cursor} {u : Unit} :
    oneOf [one fun x => !('a' ≤ x && x ≤ 'z'), atEnd] c = some (u, e) ↔
      c.rest.head?.any (fun x => 'a' ≤ x && x ≤ 'z') = false ∧ c.Reads (c.rest.take 1) e := by
  obtain ⟨q, r⟩ := c
  cases r with
  | nil =>
    simp only [oneOf, one, atEnd, List.isEmpty_nil, if_true, Option.some.injEq, Prod.mk.injEq,
      true_and, List.head?_nil, Option.any_none, List.take_nil]
    constructor
    · rintro rfl
      exact Cursor.Reads.refl _
    · intro h
      exact h.eq_advance.symm
  | cons y r =>
    have hr : Cursor.Reads ⟨q, y :: r⟩ [y] e ↔ e = ⟨some y, r⟩ := by
      constructor
      · intro h
        exact h.eq_advance
      · rintro rfl
        exact ⟨rfl, rfl⟩
    simp only [List.head?_cons, Option.any_some, List.take_succ_cons, List.take_zero, hr]
    cases hy : ('a' ≤ y && y ≤ 'z' : Bool) with
    | false => simp [oneOf, one, hy, eq_comm]
    | true => simp [oneOf, one, atEnd, hy]

/-- The search reads a multiplier where one stands. -/
theorem multiplier_eq_some {i : Nat} {u : Unit} {e : Cursor} :
    Distance.multiplier (Cursor.place t i) = some (u, e) ↔
      ∃ m : Multiplier t, m.start = i ∧
        Cursor.Reads ⟨some m.sign, m.after⟩ (m.after.take 1) e := by
  refine factor_eq_some.trans ⟨?_, ?_⟩
  · rintro ⟨s, hs, hf⟩
    obtain ⟨hw, hr⟩ := noWord_eq_some.1 hf
    exact ⟨⟨s, hw⟩, hs, hr⟩
  · rintro ⟨m, hm, hr⟩
    exact ⟨m.toFactor, hm, noWord_eq_some.2 ⟨m.noWord, hr⟩⟩

theorem Multiplier.succeeds (m : Multiplier t) :
    Distance.multiplier (Cursor.place t m.start) =
      some ((), Cursor.advance ⟨some m.sign, m.after⟩ (m.after.take 1).length) :=
  multiplier_eq_some.2 ⟨m, rfl, Cursor.reads_advance (List.take_append_drop 1 m.after).symm⟩

/-- What is counted is a multiplier. -/
theorem multiplier_of_mem_hits {h : Hit Unit} (mem : h ∈ Distance.multiplier.hits t) :
    ∃ m : Multiplier t, m.start = h.span.start ∧ m.stop = h.span.stop := by
  obtain ⟨d, hd, hstop⟩ := eq_some_of_mem_hits mem
  obtain ⟨m, hm, hr⟩ := multiplier_eq_some.1 hd
  refine ⟨m, hm, ?_⟩
  rw [← hm] at hstop
  rw [hstop _ (by simp) (m.reads.trans hr), List.length_append, ← Nat.add_assoc,
    m.start_add_length]
  rfl

/-- Each multiplier starts in a piece that is counted. -/
theorem mem_hits_of_multiplier (m : Multiplier t) :
    ∃ h ∈ Distance.multiplier.hits t, h.span.start ≤ m.start ∧ m.start < h.span.stop :=
  mem_hits_of_reads m.start_lt_length m.succeeds

/-- **Two multipliers are counted exactly if some two do not share a character.** -/
theorem one_lt_countMultipliers :
    1 < Distance.countMultipliers t ↔ ∃ m m' : Multiplier t, m.stop ≤ m'.start := by
  unfold Distance.countMultipliers
  constructor
  · intro hlen
    have apart := hits_pairwise Distance.multiplier t
    obtain ⟨a, b, l, hl⟩ : ∃ a b l, Distance.multiplier.hits t = a :: b :: l := by
      match hh : Distance.multiplier.hits t with
      | [] | [_] => simp [hh] at hlen
      | a :: b :: l => exact ⟨a, b, l, rfl⟩
    have ha : a ∈ Distance.multiplier.hits t := hl ▸ List.mem_cons_self
    have hb : b ∈ Distance.multiplier.hits t := hl ▸ List.mem_cons_of_mem a List.mem_cons_self
    obtain ⟨m, -, hm⟩ := multiplier_of_mem_hits ha
    obtain ⟨m', hm', -⟩ := multiplier_of_mem_hits hb
    rw [hl] at apart
    refine ⟨m, m', ?_⟩
    rw [hm, hm']
    exact (List.pairwise_cons.1 apart).1 b List.mem_cons_self
  · rintro ⟨m, m', hmm⟩
    obtain ⟨h, mem, hle, hlt⟩ := mem_hits_of_multiplier m
    obtain ⟨h', mem', hle', hlt'⟩ := mem_hits_of_multiplier m'
    by_contra hlen
    obtain rfl : h = h' := by
      match hh : Distance.multiplier.hits t with
      | [] => simp [hh] at mem
      | [a] =>
        rw [hh, List.mem_singleton] at mem mem'
        rw [mem, mem']
      | a :: b :: l => simp [hh] at hlen
    -- Both would start in the one piece that is counted, which is too short for that.
    obtain ⟨n, hn, hn'⟩ := multiplier_of_mem_hits mem
    rw [← hn] at hle
    rw [← hn'] at hlt'
    rcases Nat.eq_or_lt_of_le hle with he | hlt₁
    · rw [Multiplier.eq_of_start he] at hlt'
      omega
    · have := Factor.signStop_le_start hlt₁
      have := n.stop_le_signStop
      have := m.start_lt_signStop
      have := m.signStop_le_stop
      omega

/-! ## What comes after the sign -/

namespace Factor

theorem numberFollows_iff (s : Factor t) :
    s.numberFollows = true ↔ ∃ space number rest, s.after = space ++ (number ++ rest) ∧
      (∀ c ∈ space, isBlank c = true) ∧ number ≠ [] ∧ ∀ c ∈ number, isDecimal c = true := by
  unfold numberFollows
  constructor
  · intro h
    cases hd : s.after.dropWhile isBlank with
    | nil => simp [hd] at h
    | cons y r =>
      refine ⟨s.after.takeWhile isBlank, [y], r, ?_, ?_, by simp, ?_⟩
      · rw [List.singleton_append, ← hd, List.takeWhile_append_dropWhile]
      · exact fun c hc => List.mem_takeWhile_imp hc
      · simpa [hd] using h
  · rintro ⟨space, number, rest, hs, hb, hn, hd⟩
    obtain ⟨y, r, rfl⟩ := List.exists_cons_of_ne_nil hn
    have hy := hd y List.mem_cons_self
    have hyb : isBlank y = false := by
      by_contra hb
      simp [not_isDecimal_of_isBlank (Bool.of_not_eq_false hb)] at hy
    rw [hs, List.dropWhile_append_of_pos hb]
    simp [hyb, hy]

/-- A sign that a number follows starts no word. -/
theorem noWord_of_numberFollows (s : Factor t) (h : s.numberFollows = true) :
    s.after.head?.any (fun c => 'a' ≤ c && c ≤ 'z') = false := by
  obtain ⟨space, number, rest, hs, hb, hn, hd⟩ := s.numberFollows_iff.1 h
  rw [hs]
  cases space with
  | cons b r => simpa using not_letter_of_isBlank (hb b List.mem_cons_self)
  | nil =>
    obtain ⟨y, r, rfl⟩ := List.exists_cons_of_ne_nil hn
    simpa using not_letter_of_isDecimal (hd y List.mem_cons_self)

/-- The multiplier that a factor before a number is. -/
def toMultiplier (s : Factor t) (h : s.numberFollows = true) : Multiplier t :=
  ⟨s, s.noWord_of_numberFollows h⟩

end Factor

/-- Repetitions are read at a factor that a number follows. -/
theorem repsTimes_eq_some {i : Nat} {v : Text × Text} {e : Cursor}
    (h : Distance.repsTimes (Cursor.place t i) = some (v, e)) :
    ∃ s : Factor t, s.start = i ∧ s.numberFollows = true ∧ v.1 = s.number := by
  obtain ⟨s, hs, hf⟩ := factor_eq_some.1 h
  refine ⟨s, hs, ?_, ?_⟩
  · simp only [bind_eq_some, pure_eq_some, blanks, skip_eq_some, digits, run_eq_some] at hf
    obtain ⟨-, d, ⟨space, hb, h₁, -⟩, number, d', ⟨hn, hd, h₂, -⟩, -⟩ := hf
    refine s.numberFollows_iff.2 ⟨space, number, d'.rest, ?_, hb, hn, hd⟩
    have := h₁.rest
    rwa [h₂.rest] at this
  · simp only [bind_eq_some, pure_eq_some] at hf
    obtain ⟨-, -, -, p, -, -, -, -, -, rfl, -⟩ := hf
    rfl

/-- At each factor that a number follows repetitions are read. -/
theorem Factor.repsTimes_succeeds (s : Factor t) (h : s.numberFollows = true) :
    ∃ r, Distance.repsTimes (Cursor.place t s.start) = some r := by
  let c : Cursor := ⟨some s.sign, s.after⟩
  have hc : (c.advance (c.rest.takeWhile isBlank).length).rest.head?.any isDecimal = true := by
    rw [rest_advance_takeWhile]
    exact h
  obtain ⟨w, d, hw⟩ := run_succeeds hc
  obtain ⟨e, he⟩ := maybe_succeeds
    (oneOf [do blanks; wholeWord Distance.metreWords, do one (· == 's'); wordEdge]) d
  refine ⟨((s.number, w), e), factor_eq_some.2 ⟨s, rfl, ?_⟩⟩
  exact bind_eq_some.2 ⟨(), _, rfl, bind_eq_some.2 ⟨w, d, hw, bind_eq_some.2 ⟨(), e, he, rfl⟩⟩⟩

/-- A factor whose sign a later one starts right after has a number after it. -/
theorem Factor.numberFollows_of_start {s s' : Factor t} (h : s'.start = s.signStop) :
    s.numberFollows = true := by
  have hrest : t.drop s'.start = s'.number ++ (s'.gap ++ s'.sign :: s'.after) :=
    congrArg Cursor.rest s'.place_start
  have hafter : t.drop s.signStop = s.after := congrArg Cursor.rest s.place_signStop
  rw [h, hafter] at hrest
  exact s.numberFollows_iff.2
    ⟨[], s'.number, _, hrest, List.forall_mem_nil _, s'.nonempty, s'.allDigits⟩

/-! ## Chains -/

/-- Three numbers joined by two multiplication signs, the first at the start of a word. -/
structure Chain (t : Text) extends Factor t where
  space : Text
  number₂ : Text
  gap₂ : Text
  sign₂ : Char
  space₂ : Text
  number₃ : Text
  rest : Text
  joined : after = space ++ (number₂ ++ (gap₂ ++ sign₂ :: (space₂ ++ (number₃ ++ rest))))
  isSpace : ∀ c ∈ space, isBlank c = true
  nonempty₂ : number₂ ≠ []
  allDigits₂ : ∀ c ∈ number₂, isDecimal c = true
  allBlank₂ : ∀ c ∈ gap₂, isBlank c = true
  isSign₂ : (sign₂ == 'x' || sign₂ == '*') = true
  isSpace₂ : ∀ c ∈ space₂, isBlank c = true
  nonempty₃ : number₃ ≠ []
  allDigits₃ : ∀ c ∈ number₃, isDecimal c = true

namespace Chain

/-- The first number of a chain is multiplied. -/
def first (c : Chain t) : Multiplier t :=
  c.toFactor.toMultiplier (c.numberFollows_iff.2
    ⟨c.space, c.number₂, _, c.joined, c.isSpace, c.nonempty₂, c.allDigits₂⟩)

/-- The second number with the second sign, after a space. -/
def factor₂ (c : Chain t) (h : c.space ≠ []) : Factor t where
  before := (c.before ++ (c.number ++ (c.gap ++ [c.sign]))) ++ c.space
  number := c.number₂
  gap := c.gap₂
  sign := c.sign₂
  after := c.space₂ ++ (c.number₃ ++ c.rest)
  text := c.text.trans (by rw [c.joined]; simp)
  edge := by
    rw [List.getLast?_append, List.getLast?_eq_some_getLast h]
    exact not_isWordChar_of_isBlank (c.isSpace _ (List.getLast_mem h))
  nonempty := c.nonempty₂
  allDigits := c.allDigits₂
  allBlank := c.allBlank₂
  isSign := c.isSign₂

/-- The second number of a chain is multiplied too, after a space. -/
def second (c : Chain t) (h : c.space ≠ []) : Multiplier t :=
  (c.factor₂ h).toMultiplier ((c.factor₂ h).numberFollows_iff.2
    ⟨c.space₂, c.number₃, c.rest, rfl, c.isSpace₂, c.nonempty₃, c.allDigits₃⟩)

theorem stop_first_le_start_second (c : Chain t) (h : c.space ≠ []) :
    c.first.stop ≤ (c.second h).start := by
  have hstop := c.first.stop_le_signStop
  have hlen := List.length_pos_iff.2 h
  have hstart : (c.second h).start = c.first.signStop + c.space.length := by
    show ((c.before ++ (c.number ++ (c.gap ++ [c.sign]))) ++ c.space).length = _
    show _ = c.before.length + c.number.length + c.gap.length + 1 + c.space.length
    simp only [List.length_append, List.length_singleton]
    omega
  omega

/-- A line with a chain is content, as layout has no digits. -/
theorem content [Speller] (digitless : Speller.DigitlessLayout) {raw : Text}
    (c : Chain (LineView.of raw).measurable) : LineKind.of raw = .content := by
  by_contra h
  obtain ⟨d, r, hn, hd⟩ := c.exists_head
  have hmem : d ∈ (LineView.of raw).measurable := by
    rw [c.text, hn]
    simp
  rw [not_isDecimal_of_layout digitless h hmem] at hd
  cases hd

end Chain

variable {D : Type} [Metres D]

/-- A line of content that is refused for its multipliers has several that are counted. -/
theorem refused_nested_iff [Speller] (number : Nat) {raw : Text} (previous : List (ParsedLine D))
    (content : LineKind.of raw = .content) (noRepeat : Repeat.isAsked (normalize raw) = false)
    (noLanes : laneConditional.occursIn (normalize raw) = false) :
    parseLine number raw previous = .refused number raw .nestedMultiplier ↔
      1 < Distance.countMultipliers (LineView.of raw).measurable := by
  constructor
  · intro h
    have why := congrArg ParsedLine.reason h
    cases (parseLine_verdict number raw previous).refusal content why with
    | nested _ _ several => exact several
  · intro several
    have normalized : (LineView.of raw).normalized = normalize raw := rfl
    simp only [parseLine, content, parseContent, normalized, noRepeat, noLanes, several,
      Bool.false_eq_true, if_false, if_true]

/-- **When a chain is refused.** A chain with a blank after its first sign always is. One without
is refused only if the line has two multipliers apart all the same: the search takes the first
digit of the second number along with the first sign, and misses what that number multiplies. -/
theorem chain_refused_iff [Speller] (digitless : Speller.DigitlessLayout) (number : Nat)
    (raw : Text) (previous : List (ParsedLine D))
    (noRepeat : Repeat.isAsked (normalize raw) = false)
    (noLanes : laneConditional.occursIn (normalize raw) = false)
    (chain : Chain (LineView.of raw).measurable) :
    parseLine number raw previous = .refused number raw .nestedMultiplier ↔
      chain.space ≠ [] ∨ ∃ m m' : Multiplier (LineView.of raw).measurable, m.stop ≤ m'.start := by
  rw [refused_nested_iff number previous (chain.content digitless) noRepeat noLanes,
    one_lt_countMultipliers]
  constructor
  · exact .inr
  · rintro (h | h)
    · exact ⟨chain.first, chain.second h, chain.stop_first_le_start_second h⟩
    · exact h

/-- Two times three times four at the start of a text, with `space` after the first sign. -/
def Chain.twoThreeFour (space rest : Text)
    (text : t = '2' :: 'x' :: (space ++ '3' :: 'x' :: '4' :: rest))
    (isSpace : ∀ c ∈ space, isBlank c = true) : Chain t where
  before := []
  number := ['2']
  gap := []
  sign := 'x'
  after := space ++ '3' :: 'x' :: '4' :: rest
  text := text
  edge := rfl
  nonempty := List.cons_ne_nil _ _
  allDigits := List.forall_mem_singleton.2 rfl
  allBlank := List.forall_mem_nil _
  isSign := rfl
  space := space
  number₂ := ['3']
  gap₂ := []
  sign₂ := 'x'
  space₂ := []
  number₃ := ['4']
  rest := rest
  joined := rfl
  isSpace := isSpace
  nonempty₂ := List.cons_ne_nil _ _
  allDigits₂ := List.forall_mem_singleton.2 rfl
  allBlank₂ := List.forall_mem_nil _
  isSign₂ := rfl
  isSpace₂ := List.forall_mem_nil _
  nonempty₃ := List.cons_ne_nil _ _
  allDigits₃ := List.forall_mem_singleton.2 rfl

/-- The program spells blanks and rules without digits. -/
theorem digitlessLayout_known : Speller.DigitlessLayout := by
  intro c s hc hs d hd
  have hall : ((knownSpelling c).getD []).all fun d => !isDecimal d := by
    rcases hc with hc | hc
    · exact forall_blank (p := fun c => ((knownSpelling c).getD []).all fun d => !isDecimal d)
        (by decide +kernel) hc
    · simp only [isRule, Bool.or_eq_true, beq_iff_eq] at hc
      rcases hc with (rfl | rfl) | rfl <;> decide
  rw [show knownSpelling c = some s from hs] at hall
  simpa using List.all_eq_true.1 hall d hd

/-- With a blank after its first sign the chain is refused. -/
theorem chain_refused_spaced :
    let raw : Text := "2x 3x4m fc"
    Speller.DigitlessLayout ∧ Repeat.isAsked (normalize raw) = false ∧
      laneConditional.occursIn (normalize raw) = false ∧
      (∃ chain : Chain (LineView.of raw).measurable, chain.space ≠ []) ∧
      parseLine (D := Rat) 1 raw [] = .refused 1 raw .nestedMultiplier := by
  intro raw
  have text : (LineView.of raw).measurable =
      '2' :: 'x' :: ([' '] ++ '3' :: 'x' :: '4' :: "m fc".toList) := by decide +kernel
  let chain := Chain.twoThreeFour [' '] "m fc".toList text (List.forall_mem_singleton.2 rfl)
  have spaced : chain.space ≠ [] := List.cons_ne_nil _ _
  exact ⟨digitlessLayout_known, by decide +kernel, by decide +kernel, ⟨chain, spaced⟩,
    (chain_refused_iff digitlessLayout_known 1 raw [] (by decide +kernel) (by decide +kernel)
      chain).2 (.inl spaced)⟩

/-- Without the blank it is read as two times three metres. -/
theorem chain_accepted_tight :
    let raw : Text := "2x3x4m fc"
    Repeat.isAsked (normalize raw) = false ∧
      laneConditional.occursIn (normalize raw) = false ∧
      Nonempty (Chain (LineView.of raw).measurable) ∧
      parseLine (D := Rat) 1 raw [] = .accepted 1 raw [⟨.frontCrawl, .swim, 6⟩] [] :=
  ⟨by decide +kernel, by decide +kernel,
    ⟨.twoThreeFour [] "m fc".toList (by decide +kernel) (List.forall_mem_nil _)⟩,
    by decide +kernel⟩

/-! ## One multiplier -/

/-- Where one multiplier is counted, it is the leftmost, and all others start inside it. -/
theorem exists_of_countMultipliers_eq_one (h : Distance.countMultipliers t = 1) :
    ∃ m : Multiplier t, ∀ m' : Multiplier t, m.start ≤ m'.start ∧ m'.start < m.stop := by
  obtain ⟨a, ha⟩ := List.length_eq_one_iff.1 h
  obtain ⟨m, hstart, hstop⟩ := multiplier_of_mem_hits (h := a) (ha ▸ List.mem_singleton_self a)
  refine ⟨m, fun m' => ?_⟩
  obtain ⟨b, hb, hle, hlt⟩ := mem_hits_of_multiplier m'
  rw [ha, List.mem_singleton] at hb
  rw [hb] at hle hlt
  rw [hstart, hstop]
  exact ⟨hle, hlt⟩

/-- The repetitions of a distance: those read first, or one where none are. -/
theorem Distance.reps_of_read {d : Distance} (h : Distance.read t = some d) :
    (d.explicitReps = false ∧ d.reps = 1 ∧ Distance.repsTimes.firstHit t = none) ∨
      (d.explicitReps = true ∧ ∃ hit, Distance.repsTimes.firstHit t = some hit ∧
        d.reps = Text.value hit.value.1 ∧ d.span = hit.span) := by
  rw [Distance.read] at h
  split at h
  · rename_i hit hhit
    split at h
    · rename_i reps perRep hreps hper
      obtain rfl := Option.some.inj h
      unfold readNumber at hreps
      split_ifs at hreps
      exact .inr ⟨rfl, hit, hhit, (Option.some.inj hreps).symm, rfl⟩
    · cases h
  · rename_i hnone
    obtain ⟨r, -, rfl⟩ := Option.map_eq_some_iff.1 h
    exact .inl ⟨rfl, rfl, hnone⟩

/-- What is read first as repetitions is a factor that a number follows. -/
theorem factor_of_firstHit {hit : Hit (Text × Text)}
    (h : Distance.repsTimes.firstHit t = some hit) :
    ∃ s : Factor t, s.start = hit.span.start ∧ s.numberFollows = true ∧
      hit.value.1 = s.number := by
  obtain ⟨e, he, -⟩ := eq_some_of_mem_hits (mem_hits_of_firstHit h)
  exact repsTimes_eq_some he

/-- The only multiplier that is counted gives the repetitions if a number follows it. -/
theorem read_of_numberFollows {m : Multiplier t} (left : ∀ m' : Multiplier t, m.start ≤ m'.start)
    (h : m.numberFollows = true) {d : Distance} (hd : Distance.read t = some d) :
    d.explicitReps = true ∧ d.reps = Text.value m.number ∧ d.span.start = m.start := by
  obtain ⟨r, hr⟩ := m.repsTimes_succeeds h
  rcases Distance.reps_of_read hd with ⟨-, -, hnone⟩ | ⟨hex, hit, hhit, hreps, hspan⟩
  · obtain ⟨hit, hhit⟩ := exists_firstHit m.start_lt_length hr
    rw [hhit] at hnone
    cases hnone
  · obtain ⟨s, hs, hf, hv⟩ := factor_of_firstHit hhit
    have hle := firstHit_le hhit m.start_lt_length hr
    have hge := left (s.toMultiplier hf)
    have hstart : s.start = m.start := by
      change m.start ≤ s.start at hge
      omega
    obtain rfl := Factor.eq_of_start hstart
    exact ⟨hex, by rw [hreps, hv], by rw [hspan, hs]⟩

/-- It is passed over if no number follows it. -/
theorem read_of_not_numberFollows {m : Multiplier t}
    (sole : ∀ m' : Multiplier t, m.start ≤ m'.start ∧ m'.start < m.stop)
    (h : m.numberFollows = false) {d : Distance} (hd : Distance.read t = some d) :
    d.explicitReps = false ∧ d.reps = 1 := by
  rcases Distance.reps_of_read hd with ⟨hex, hreps, -⟩ | ⟨-, hit, hhit, -⟩
  · exact ⟨hex, hreps⟩
  · obtain ⟨s, -, hf, -⟩ := factor_of_firstHit hhit
    obtain ⟨hle, hlt⟩ := sole (s.toMultiplier hf)
    change m.start ≤ s.start at hle
    change s.start < m.stop at hlt
    rcases Nat.eq_or_lt_of_le hle with he | hlt'
    · obtain rfl := Factor.eq_of_start he
      rw [h] at hf
      cases hf
    · -- The factor can only start at the character that the search took after the sign.
      have hsign := Factor.signStop_le_start hlt'
      have hstop := m.stop_le_signStop
      have hstart : s.start = m.signStop := by omega
      have := Factor.numberFollows_of_start hstart
      rw [h] at this
      cases this

/-- **When the multiplier of a line is applied.** A line that is understood and on which one
multiplier is counted has a distance. The multiplier gives its repetitions if a number follows the
sign; with anything else there the distance is read as if it stood alone. -/
theorem multiplier_applied_iff [Speller] (number : Nat) (raw : Text)
    (previous : List (ParsedLine D)) (noRepeat : Repeat.isAsked (normalize raw) = false)
    (parsed : (parseLine number raw previous).parsed = true)
    (single : Distance.countMultipliers (LineView.of raw).measurable = 1) :
    ∃ (d : Distance) (m : Multiplier (LineView.of raw).measurable),
      Distance.read (LineView.of raw).measurable = some d ∧
      (∀ m' : Multiplier (LineView.of raw).measurable, m.start ≤ m'.start) ∧
      (d.explicitReps = true ↔ m.numberFollows = true) ∧
      (d.explicitReps = true → d.reps = Text.value m.number ∧ d.span.start = m.start) ∧
      (d.explicitReps = false → d.reps = 1) := by
  obtain ⟨d, measured⟩ := (parseLine_verdict number raw previous).measured parsed noRepeat
  obtain ⟨m, sole⟩ := exists_of_countMultipliers_eq_one single
  refine ⟨d, m, measured.read, fun m' => (sole m').1, ?_⟩
  cases h : m.numberFollows with
  | true =>
    obtain ⟨hex, hreps, hspan⟩ := read_of_numberFollows (fun m' => (sole m').1) h measured.read
    simp [hex, hreps, hspan]
  | false =>
    obtain ⟨hex, hreps⟩ := read_of_not_numberFollows sole h measured.read
    simp [hex, hreps]

/-- The four repetitions of this line are applied. -/
theorem multiplier_applied_number :
    let raw : Text := "4 x 100m fc"
    Repeat.isAsked (normalize raw) = false ∧
      (parseLine (D := Rat) 1 raw []).parsed = true ∧
      Distance.countMultipliers (LineView.of raw).measurable = 1 ∧
      ∃ (d : Distance) (m : Multiplier (LineView.of raw).measurable),
        Distance.read (LineView.of raw).measurable = some d ∧
        (∀ m' : Multiplier (LineView.of raw).measurable, m.start ≤ m'.start) ∧
        (d.explicitReps = true ↔ m.numberFollows = true) ∧
        (d.explicitReps = true → d.reps = Text.value m.number ∧ d.span.start = m.start) ∧
        (d.explicitReps = false → d.reps = 1) :=
  ⟨by decide +kernel, by decide +kernel, by decide +kernel,
    multiplier_applied_iff (D := Rat) 1 "4 x 100m fc" [] (by decide +kernel) (by decide +kernel)
      (by decide +kernel)⟩

/-- Those of this line are not: it is read as one hundred metres, without a warning. -/
theorem multiplier_dropped_parenthesis :
    let raw : Text := "4 x (100m fc)"
    Repeat.isAsked (normalize raw) = false ∧
      Distance.countMultipliers (LineView.of raw).measurable = 1 ∧
      (Distance.read (LineView.of raw).measurable).map (·.explicitReps) = some false ∧
      parseLine (D := Rat) 1 raw [] = .accepted 1 raw [⟨.frontCrawl, .swim, 100⟩] [] :=
  ⟨by decide +kernel, by decide +kernel, by decide +kernel, by decide +kernel⟩

end SwimSets
