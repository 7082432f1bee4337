import SwimSets.Proofs.Words
import SwimSets.Scan.Search

/-!
# Where scanners read

**Reading** (`Cursor.Reads`). Each part of a scanner that succeeds has read a piece of text and
stands after it. The lemmas on the parts say which piece that can be, so what a whole scanner reads
is put together from what its parts read.

**Occurrences.** A search lists some of the places where a scanner succeeds: those that do not lie
in a piece that was read before. At each place it lists, the scanner succeeds
(`eq_some_of_mem_hits`), and each place where it succeeds lies in a piece that is listed
(`mem_hits_of_reads`). So the first one listed is the leftmost of all (`firstHit_le`), and none is
listed only where there is none.
-/

namespace SwimSets

/-! ## Places -/

namespace Cursor

/-- Reading the text `w` leads from one place to the other. -/
structure Reads (c : Cursor) (w : Text) (d : Cursor) : Prop where
  rest : c.rest = w ++ d.rest
  prev : d.prev = w.getLast?.or c.prev

theorem Reads.refl (c : Cursor) : c.Reads [] c := ⟨rfl, rfl⟩

theorem Reads.trans {c d e : Cursor} {u v : Text} (h : c.Reads u d) (h' : d.Reads v e) :
    c.Reads (u ++ v) e where
  rest := by rw [h.rest, h'.rest, List.append_assoc]
  prev := by rw [h'.prev, h.prev, List.getLast?_append, Option.or_assoc]

/-- The place after a piece at the start of what is left. -/
theorem reads_advance {c : Cursor} {w v : Text} (h : c.rest = w ++ v) :
    c.Reads w (c.advance w.length) where
  rest := by rw [advance, h, List.drop_left]
  prev := by rw [advance, h, List.take_left]

theorem Reads.eq_advance {c d : Cursor} {w : Text} (h : c.Reads w d) : d = c.advance w.length := by
  rw [advance, h.rest, List.take_left, List.drop_left, ← h.prev]

/-- The place in a text before the character at a position. -/
def place (t : Text) (i : Nat) : Cursor := ⟨(t.take i).getLast?, t.drop i⟩

theorem place_length (u v : Text) : place (u ++ v) u.length = ⟨u.getLast?, v⟩ := by
  rw [place, List.take_left, List.drop_left]

theorem place_advance (t : Text) (i n : Nat) : (place t i).advance n = place t (i + n) := by
  have hi : t.take (i + n) = t.take i ++ (t.drop i).take n := List.take_add
  rw [place, advance, place, List.drop_drop, hi, List.getLast?_append]

theorem Reads.eq_place {t w : Text} {i : Nat} {d : Cursor} (h : (place t i).Reads w d) :
    d = place t (i + w.length) := by
  rw [h.eq_advance, place_advance]

end Cursor

/-! ## One part after another -/

section Sequence

variable {σ α β : Type} {s : StateT σ Option α} {f : α → StateT σ Option β} {c d e : σ}

theorem bind_eq_some {b : β} :
    (s >>= f) c = some (b, e) ↔ ∃ a d, s c = some (a, d) ∧ f a d = some (b, e) := by
  show (s c).bind (fun r => f r.1 r.2) = _ ↔ _
  simp [Option.bind_eq_some_iff, Prod.exists]

theorem bind_of_some {a : α} (h : s c = some (a, d)) : (s >>= f) c = f a d := by
  show (s c).bind _ = _
  rw [h]
  rfl

theorem bind_of_none (h : s c = none) : (s >>= f) c = none := by
  show (s c).bind _ = _
  rw [h]
  rfl

theorem guard_eq_some {b : Prop} [Decidable b] {u : Unit} :
    (guard b : StateT σ Option Unit) c = some (u, d) ↔ b ∧ d = c := by
  by_cases hb : b
  · have hguard : (guard b : StateT σ Option Unit) = pure () := if_pos hb
    rw [hguard]
    show some ((), c) = _ ↔ _
    simp [hb, eq_comm]
  · have hguard : (guard b : StateT σ Option Unit) = failure := if_neg hb
    rw [hguard]
    show none = _ ↔ _
    simp [hb]

end Sequence

namespace Scanner

variable {α β : Type} {c d e : Cursor} {p : Char → Bool} {w : Text}

/-! ## The parts of a scanner -/

theorem pure_eq_some {a b : α} : (pure a : Scanner α) c = some (b, d) ↔ b = a ∧ d = c := by
  show some (a, c) = _ ↔ _
  simp [eq_comm]

theorem wordEdge_eq_some {u : Unit} :
    wordEdge c = some (u, d) ↔ c.atWordEdge = true ∧ d = c := by
  simp only [wordEdge, Option.ite_none_right_eq_some, Option.some.injEq, Prod.mk.injEq]
  exact and_congr_right fun _ => ⟨fun h => h.2.symm, fun h => ⟨trivial, h.symm⟩⟩

theorem atEnd_eq_some {u : Unit} : atEnd c = some (u, d) ↔ c.rest = [] ∧ d = c := by
  simp only [atEnd, Option.ite_none_right_eq_some, List.isEmpty_iff, Option.some.injEq,
    Prod.mk.injEq, true_and]
  exact and_congr_right fun _ => eq_comm

theorem one_eq_some {u : Unit} :
    one p c = some (u, d) ↔ ∃ x, p x = true ∧ c.Reads [x] d := by
  obtain ⟨q, t⟩ := c
  obtain ⟨q', t'⟩ := d
  cases t with
  | nil =>
    simp only [one, reduceCtorEq, false_iff, not_exists, not_and]
    intro x _ h
    cases h.rest
  | cons y r =>
    simp only [one, Option.ite_none_right_eq_some, Option.some.injEq, Prod.mk.injEq,
      Cursor.mk.injEq, true_and]
    constructor
    · rintro ⟨hp, rfl, rfl⟩
      exact ⟨y, hp, rfl, rfl⟩
    · rintro ⟨x, hp, hr, hq⟩
      obtain ⟨rfl, rfl⟩ := List.cons.inj hr
      exact ⟨hp, hq.symm, rfl⟩

theorem word_eq_some {u : Unit} : word w c = some (u, d) ↔ c.Reads w d := by
  simp only [word, Option.ite_none_right_eq_some, Option.some.injEq, Prod.mk.injEq, true_and,
    List.isPrefixOf_iff_prefix]
  constructor
  · rintro ⟨⟨v, hv⟩, rfl⟩
    exact Cursor.reads_advance hv.symm
  · intro h
    exact ⟨⟨d.rest, h.rest.symm⟩, h.eq_advance.symm⟩

/-- A longest run is one that the next character does not continue. -/
theorem takeWhile_of_reads (h : c.Reads w d) (hw : ∀ x ∈ w, p x = true)
    (hd : d.rest.head?.any p = false) : c.rest.takeWhile p = w := by
  rw [h.rest, takeWhile_append_of_stop hd]
  exact List.takeWhile_eq_self_iff.2 hw

theorem rest_advance_takeWhile (c : Cursor) (p : Char → Bool) :
    (c.advance (c.rest.takeWhile p).length).rest = c.rest.dropWhile p := by
  have h : c.rest = c.rest.takeWhile p ++ c.rest.dropWhile p :=
    List.takeWhile_append_dropWhile.symm
  have := congrArg (List.drop (c.rest.takeWhile p).length) h
  rwa [List.drop_left] at this

theorem reads_takeWhile (c : Cursor) (p : Char → Bool) :
    c.Reads (c.rest.takeWhile p) (c.advance (c.rest.takeWhile p).length) ∧
      (c.advance (c.rest.takeWhile p).length).rest.head?.any p = false := by
  refine ⟨Cursor.reads_advance List.takeWhile_append_dropWhile.symm, ?_⟩
  rw [rest_advance_takeWhile]
  have := List.head?_dropWhile_not p c.rest
  cases h0 : (c.rest.dropWhile p).head? <;> simp_all

theorem skip_eq_some {u : Unit} :
    skip p c = some (u, d) ↔
      ∃ w, (∀ x ∈ w, p x = true) ∧ c.Reads w d ∧ d.rest.head?.any p = false := by
  simp only [skip, Option.some.injEq, Prod.mk.injEq, true_and]
  constructor
  · rintro rfl
    exact ⟨_, fun x hx => List.mem_takeWhile_imp hx, reads_takeWhile c p⟩
  · rintro ⟨w, hw, h, hd⟩
    rw [takeWhile_of_reads h hw hd, h.eq_advance]

theorem run_eq_some :
    run p c = some (w, d) ↔
      w ≠ [] ∧ (∀ x ∈ w, p x = true) ∧ c.Reads w d ∧ d.rest.head?.any p = false := by
  simp only [run, Option.ite_none_left_eq_some, Option.some.injEq, Prod.mk.injEq,
    List.isEmpty_iff]
  constructor
  · rintro ⟨hne, rfl, rfl⟩
    exact ⟨hne, fun x hx => List.mem_takeWhile_imp hx, reads_takeWhile c p⟩
  · rintro ⟨hne, hw, h, hd⟩
    rw [takeWhile_of_reads h hw hd]
    exact ⟨hne, rfl, h.eq_advance.symm⟩

theorem run_succeeds (h : c.rest.head?.any p = true) : ∃ w d, run p c = some (w, d) := by
  refine ⟨c.rest.takeWhile p, _, run_eq_some.2 ⟨?_, ?_, reads_takeWhile c p⟩⟩
  · cases hr : c.rest with
    | nil => simp [hr] at h
    | cons y r => simp [show p y = true by simpa [hr] using h]
  · exact fun x hx => List.mem_takeWhile_imp hx

theorem maybe_succeeds (s : Scanner α) (c : Cursor) : ∃ d, maybe s c = some ((), d) := by
  unfold maybe
  cases s c with
  | none => exact ⟨c, rfl⟩
  | some r => exact ⟨r.2, rfl⟩

theorem maybe_eq_some {s : Scanner α} {u : Unit} (h : maybe s c = some (u, d)) :
    (∃ a, s c = some (a, d)) ∨ s c = none ∧ d = c := by
  unfold maybe at h
  split at h
  · rename_i a e he
    obtain ⟨-, rfl⟩ := Prod.mk.inj (Option.some.inj h)
    exact .inl ⟨a, he⟩
  · rename_i he
    obtain ⟨-, rfl⟩ := Prod.mk.inj (Option.some.inj h)
    exact .inr ⟨he, rfl⟩

theorem oneOf_eq_some {ss : List (Scanner α)} {a : α} (h : oneOf ss c = some (a, d)) :
    ∃ s ∈ ss, s c = some (a, d) := by
  induction ss with
  | nil => cases h
  | cons s ss ih =>
    rw [oneOf] at h
    dsimp only at h
    split at h
    · rename_i r hr
      exact ⟨s, List.mem_cons_self, hr.trans h⟩
    · obtain ⟨s', hs', hr⟩ := ih h
      exact ⟨s', List.mem_cons_of_mem s hs', hr⟩

theorem notHere_eq_some {s : Scanner α} {u : Unit} :
    notHere s c = some (u, d) ↔ s c = none ∧ d = c := by
  unfold notHere
  cases s c <;> simp [eq_comm]

theorem blanks1_eq_some {u : Unit} (h : blanks1 c = some (u, d)) :
    ∃ w ≠ [], (∀ x ∈ w, isBlank x = true) ∧ c.Reads w d := by
  simp only [blanks1, blanks, bind_eq_some, one_eq_some, skip_eq_some] at h
  obtain ⟨-, e, ⟨x, hx, he⟩, w, hw, hr, -⟩ := h
  exact ⟨x :: w, List.cons_ne_nil x w, List.forall_mem_cons.2 ⟨hx, hw⟩, he.trans hr⟩

theorem wholeWord_eq_some {ws : List Text} {u : Unit} (h : wholeWord ws c = some (u, d)) :
    ∃ w ∈ ws, c.Reads w d ∧ d.atWordEdge = true := by
  obtain ⟨s, hs, h⟩ := oneOf_eq_some h
  obtain ⟨w, hw, rfl⟩ := List.mem_map.1 hs
  simp only [bind_eq_some, word_eq_some, wordEdge_eq_some] at h
  obtain ⟨-, e, hr, he, rfl⟩ := h
  exact ⟨w, hw, hr, he⟩

/-! ## Occurrences -/

theorem place_cons (q : Option Char) (x : Char) (r : Text) (j : Nat) :
    Cursor.advance ⟨q, x :: r⟩ (j + 1) = Cursor.advance ⟨some x, r⟩ j := by
  simp [Cursor.advance, List.getLast?_cons]

theorem advance_zero (c : Cursor) : c.advance 0 = c := rfl

/-- The places in a text are its start and the places behind its first character. -/
theorem forall_place_cons {P : Cursor → Prop} {q : Option Char} {x : Char} {r : Text} :
    (∀ i < (x :: r).length, P (Cursor.advance ⟨q, x :: r⟩ i)) ↔
      P ⟨q, x :: r⟩ ∧ ∀ i < r.length, P (Cursor.advance ⟨some x, r⟩ i) := by
  constructor
  · intro h
    refine ⟨h 0 (Nat.succ_pos _), fun i hi => ?_⟩
    have := h (i + 1) (Nat.succ_lt_succ hi)
    rwa [place_cons] at this
  · rintro ⟨h, hr⟩ i hi
    cases i with
    | zero => exact h
    | succ i =>
      rw [place_cons]
      exact hr i (Nat.lt_of_succ_lt_succ hi)

/-- The last character of a text, if there is none the one before it. -/
theorem getLast?_cons_or (q : Option Char) (x : Char) (r : Text) :
    (x :: r).getLast?.or q = r.getLast?.or (some x) := by
  rw [List.getLast?_cons]
  cases r.getLast? <;> rfl

/-- What is listed was read where it stands. -/
theorem eq_some_of_mem_hitsFrom {s : Scanner α} {t : Text} {pos skip : Nat} {q : Option Char}
    {h : Hit α} (m : h ∈ hitsFrom s pos skip q t) :
    ∃ j d, h.span.start = pos + j ∧ s (Cursor.advance ⟨q, t⟩ j) = some (h.value, d) ∧
      ∀ w, w ≠ [] → (Cursor.advance ⟨q, t⟩ j).Reads w d → h.span.stop = pos + j + w.length := by
  induction t generalizing pos skip q with
  | nil => simp [hitsFrom] at m
  | cons x r ih =>
    have later : ∀ {n : Nat}, h ∈ hitsFrom s (pos + 1) n (some x) r →
        ∃ j d, h.span.start = pos + j ∧
          s (Cursor.advance ⟨q, x :: r⟩ j) = some (h.value, d) ∧
          ∀ w, w ≠ [] → (Cursor.advance ⟨q, x :: r⟩ j).Reads w d →
            h.span.stop = pos + j + w.length := by
      intro n m
      obtain ⟨j, d, hstart, hd⟩ := ih m
      have hpos : pos + 1 + j = pos + (j + 1) := by omega
      rw [hpos] at hstart hd
      exact ⟨j + 1, d, hstart, by rwa [place_cons]⟩
    cases skip with
    | succ n => exact later (by simpa [hitsFrom] using m)
    | zero =>
      rw [hitsFrom] at m
      split at m
      · exact later m
      · rename_i a d hd
        rcases List.mem_cons.1 m with rfl | m
        · refine ⟨0, d, rfl, hd, fun w hw hr => ?_⟩
          have hlen := congrArg List.length hr.rest
          have := List.length_pos_iff.2 hw
          simp only [advance_zero, List.length_cons, List.length_append] at hlen
          simp only
          omega
        · exact later m

/-- Where the scanner succeeds lies in a piece that is listed. -/
theorem mem_hitsFrom_of_reads {s : Scanner α} {t : Text} (pos : Nat) {skip j : Nat}
    {q : Option Char} (hj : skip ≤ j) (hjt : j < t.length) {r : α × Cursor}
    (hr : s (Cursor.advance ⟨q, t⟩ j) = some r) :
    ∃ h ∈ hitsFrom s pos skip q t, h.span.start ≤ pos + j ∧ pos + j < h.span.stop := by
  induction t generalizing pos skip q j with
  | nil => simp at hjt
  | cons x v ih =>
    have later : ∀ {n i : Nat}, j = i + 1 → n ≤ i →
        ∃ h ∈ hitsFrom s (pos + 1) n (some x) v,
          h.span.start ≤ pos + j ∧ pos + j < h.span.stop := by
      rintro n i rfl hn
      rw [place_cons] at hr
      have := ih (pos + 1) hn (by simpa using hjt) hr
      rwa [Nat.add_right_comm pos 1 i] at this
    cases skip with
    | succ n =>
      obtain ⟨i, rfl⟩ : ∃ i, j = i + 1 := ⟨j - 1, by omega⟩
      simpa [hitsFrom] using later rfl (by omega : n ≤ i)
    | zero =>
      rw [hitsFrom]
      cases hs : s ⟨q, x :: v⟩ with
      | none =>
        cases j with
        | zero => simp [advance_zero, hs] at hr
        | succ i => exact later rfl (Nat.zero_le i)
      | some found =>
        obtain ⟨a, d⟩ := found
        by_cases hn : j ≤ v.length - d.rest.length
        · exact ⟨_, List.mem_cons_self, Nat.le_add_right .., by simp only; omega⟩
        · obtain ⟨i, rfl⟩ : ∃ i, j = i + 1 := ⟨j - 1, by omega⟩
          obtain ⟨h, m, hh⟩ := later rfl (by omega : v.length - d.rest.length ≤ i)
          exact ⟨h, List.mem_cons_of_mem _ m, hh⟩

theorem advance_start (t : Text) (i : Nat) : Cursor.advance ⟨none, t⟩ i = Cursor.place t i := by
  simp [Cursor.advance, Cursor.place]

variable {s : Scanner α} {t : Text} {h : Hit α}

/-- **What is listed was read where it stands.** -/
theorem eq_some_of_mem_hits (m : h ∈ s.hits t) :
    ∃ d, s (Cursor.place t h.span.start) = some (h.value, d) ∧
      ∀ w, w ≠ [] → (Cursor.place t h.span.start).Reads w d →
        h.span.stop = h.span.start + w.length := by
  obtain ⟨j, d, hstart, hr⟩ := eq_some_of_mem_hitsFrom m
  rw [Nat.zero_add] at hstart
  rw [advance_start, Nat.zero_add, ← hstart] at hr
  exact ⟨d, hr⟩

/-- Behind what is listed the scanner came to a stop, if it never reads nothing. -/
theorem eq_some_place_of_mem_hits (m : h ∈ s.hits t)
    (reads : ∀ i a d, s (.place t i) = some (a, d) → ∃ w ≠ [], (Cursor.place t i).Reads w d) :
    s (Cursor.place t h.span.start) = some (h.value, Cursor.place t h.span.stop) := by
  obtain ⟨d, hd, hstop⟩ := eq_some_of_mem_hits m
  obtain ⟨w, hw, hr⟩ := reads _ _ _ hd
  rw [hd, hstop w hw hr, hr.eq_place]

/-- **Each place where the scanner succeeds lies in a piece that is listed.** -/
theorem mem_hits_of_reads {i : Nat} (hi : i < t.length) {r : α × Cursor}
    (hr : s (Cursor.place t i) = some r) :
    ∃ h ∈ s.hits t, h.span.start ≤ i ∧ i < h.span.stop := by
  rw [← advance_start] at hr
  simpa only [hits, Nat.zero_add] using mem_hitsFrom_of_reads 0 (Nat.zero_le i) hi hr

/-- A scanner that succeeds nowhere in the text fails at each place of it. -/
theorem eq_none_of_not_occursIn (h : s.occursIn t = false) {i : Nat} (hi : i < t.length) :
    s (Cursor.place t i) = none := by
  cases hs : s (Cursor.place t i) with
  | none => rfl
  | some r =>
    obtain ⟨g, hg, -⟩ := mem_hits_of_reads hi hs
    have hnil : s.hits t = [] := by simpa [occursIn] using h
    rw [hnil] at hg
    cases hg

/-- The first occurrence is listed, and starts before all others. -/
theorem firstHit_le (m : s.firstHit t = some h) {i : Nat} (hi : i < t.length) {r : α × Cursor}
    (hr : s (Cursor.place t i) = some r) : h.span.start ≤ i := by
  obtain ⟨g, hg, hgi, -⟩ := mem_hits_of_reads hi hr
  have hp := hits_pairwise s t
  rw [firstHit] at m
  obtain ⟨rest, hrest⟩ := List.head?_eq_some_iff.1 m
  rw [hrest] at hp hg
  rcases List.mem_cons.1 hg with rfl | hg
  · exact hgi
  · have h1 := (List.pairwise_cons.1 hp).1 g hg
    have h2 := mem_hits (List.mem_of_mem_head? m)
    omega

theorem mem_hits_of_firstHit (m : s.firstHit t = some h) : h ∈ s.hits t :=
  List.mem_of_mem_head? m

/-- There is a first occurrence where the scanner succeeds anywhere. -/
theorem exists_firstHit {i : Nat} (hi : i < t.length) {r : α × Cursor}
    (hr : s (Cursor.place t i) = some r) : ∃ h, s.firstHit t = some h := by
  obtain ⟨g, hg, -⟩ := mem_hits_of_reads hi hr
  cases hh : s.hits t with
  | nil => simp [hh] at hg
  | cons a l => exact ⟨a, by simp [firstHit, hh]⟩

end Scanner

end SwimSets
