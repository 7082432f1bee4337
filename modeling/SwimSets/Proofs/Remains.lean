import SwimSets.Proofs.Shapes

/-!
# What is left where asides are taken out

**Marks** (`Marked`). A text with a mark on each space that was put in the place of an aside. What
is left without a mark in it stood in the text before, in one piece (`Scanner.plain_of_cutFrom`).
The character before it stood there too, unless an aside ended there (`Scanner.exists_of_cutFrom`).

**Turns** (`Shape.turn`). The kinds are taken out in turn, the rests before all others. No aside
starts inside a word (`not_isWordChar_of_reads`), and after the rests none ends inside one
(`Shape.endsClear_of_le`).

**Asides that are left** (`Shape.StandsIn`). The core of an aside stands in what is left, and no
mark is in it. It stood in the text before each kind was taken out, with the same around it as far
as its shape asks for that (`Shape.StandsIn.of_cutOut`). So it was there when its own kind was
searched for, and that kind would have found it (`Shape.not_standsIn`).

**Result** (`Shape.gap_of_reads`). What a kind still reads in what is left goes over a mark, or is a
rest in words that starts right behind one.
-/

namespace SwimSets

open Scanner Aside

/-- A text with a mark on each space that stands for a piece that was taken out. -/
abbrev Marked := List (Char × Bool)

namespace Marked

/-- The text without its marks. -/
def text (m : Marked) : Text := m.map (·.1)

@[simp] theorem text_nil : text [] = [] := rfl

@[simp] theorem text_cons (x : Char × Bool) (m : Marked) : text (x :: m) = x.1 :: text m := rfl

@[simp] theorem text_append (m n : Marked) : text (m ++ n) = text m ++ text n := List.map_append

@[simp] theorem length_text (m : Marked) : (text m).length = m.length := List.length_map _

theorem text_drop (m : Marked) (k : Nat) : text (m.drop k) = (text m).drop k := List.map_drop

/-- Nothing in the text is marked. -/
def Plain (m : Marked) : Prop := ∀ x ∈ m, x.2 = false

/-- Each mark is on a space. -/
def OnSpaces (m : Marked) : Prop := ∀ x ∈ m, x.2 = true → x.1 = ' '

/-- The text as it is before anything is taken out. -/
def ofText (t : Text) : Marked := t.map (·, false)

@[simp] theorem text_ofText (t : Text) : text (ofText t) = t := by
  rw [text, ofText, List.map_map]
  exact List.map_id t

end Marked

/-! ## Taking out -/

namespace Scanner

variable {α : Type} {s : Scanner α} {q : Option Char} {m c u' v' : Marked}

/-- The text with each occurrence made one marked space, after passing over `skip` characters. -/
def cutFrom (s : Scanner α) (skip : Nat) (prev : Option Char) : Marked → Marked
  | [] => []
  | x :: r =>
    match skip with
    | n + 1 => cutFrom s n (some x.1) r
    | 0 =>
      match s ⟨prev, x.1 :: Marked.text r⟩ with
      | none => x :: cutFrom s 0 (some x.1) r
      | some (_, d) => (' ', true) :: cutFrom s (r.length - d.rest.length) (some x.1) r

/-- The text with each occurrence made one marked space. -/
def cutOut (s : Scanner α) (m : Marked) : Marked := cutFrom s 0 none m

theorem text_cutFrom (s : Scanner α) (k : Nat) (q : Option Char) (m : Marked) :
    Marked.text (s.cutFrom k q m) = s.blankFrom k q m.text := by
  induction m generalizing k q with
  | nil => cases k <;> rfl
  | cons x r ih =>
    cases k with
    | succ k => exact ih k (some x.1)
    | zero =>
      rw [Marked.text_cons, cutFrom, blankFrom]
      cases s ⟨q, x.1 :: Marked.text r⟩ with
      | none => exact congrArg (x.1 :: ·) (ih ..)
      | some found => exact congrArg (' ' :: ·) (by rw [Marked.length_text]; exact ih ..)

theorem cutFrom_skip (s : Scanner α) (k : Nat) (q : Option Char) (m : Marked) :
    s.cutFrom k q m = s.cutFrom 0 ((Marked.text (m.take k)).getLast?.or q) (m.drop k) := by
  induction k generalizing q m with
  | zero => rfl
  | succ k ih =>
    cases m with
    | nil => rfl
    | cons x r =>
      rw [cutFrom, ih, List.take_succ_cons, Marked.text_cons, getLast?_cons_or, List.drop_succ_cons]

/-- What the scanner reads comes first in the text, and is not empty. -/
def Consumes (s : Scanner α) : Prop :=
  ∀ q x t a d, s ⟨q, x :: t⟩ = some (a, d) → d.rest <:+ t

theorem cutFrom_of_some (hs : Consumes s) {x : Char × Bool} {r : Marked} {a : α} {d : Cursor}
    (h : s ⟨q, x.1 :: Marked.text r⟩ = some (a, d)) : ∃ f w, r = f ++ w ∧ d.rest = w.text ∧
      s.cutFrom 0 q (x :: r) =
        (' ', true) :: s.cutFrom 0 ((Marked.text (x :: f)).getLast?.or q) w := by
  refine ⟨r.take (r.length - d.rest.length), r.drop (r.length - d.rest.length),
    (List.take_append_drop ..).symm, ?_, ?_⟩
  · have := List.suffix_iff_eq_drop.1 (hs _ _ _ _ _ h)
    rwa [Marked.length_text, ← Marked.text_drop] at this
  · rw [cutFrom]
    simp only [h]
    rw [cutFrom_skip, Marked.text_cons, getLast?_cons_or]

/-- What comes before a place in the text, and what comes before it in what is left of that: the
same character, or a mark for a piece that reaches to that place. -/
def Alongside (s : Scanner α) (q : Option Char) (u u' v : Marked) : Prop :=
  u.getLast? = u'.getLast? ∨ (∃ x ∈ u'.getLast?, x.2 = true) ∧ ∃ e f a d, u = e ++ f ∧ f ≠ [] ∧
    s ⟨e.text.getLast?.or q, (f ++ v).text⟩ = some (a, d) ∧ d.rest = v.text

theorem Alongside.behind {b u u' v : Marked} (hu' : u' ≠ []) (y : Char × Bool)
    (h : Alongside s ((Marked.text b).getLast?.or q) u u' v) :
    Alongside s q (b ++ u) (y :: u') v := by
  obtain ⟨z, w, rfl⟩ := List.exists_cons_of_ne_nil hu'
  have hlast : (y :: z :: w).getLast? = (z :: w).getLast? := List.getLast?_cons_cons
  rcases h with hsame | ⟨hmark, e, f, a, d, rfl, hne, hread, hrest⟩
  · refine .inl ?_
    rw [hlast, List.getLast?_append, hsame, List.getLast?_cons, Option.some_or]
  · refine .inr ⟨hlast ▸ hmark, b ++ e, f, a, d, by rw [List.append_assoc], hne, ?_, hrest⟩
    rwa [Marked.text_append, List.getLast?_append, Option.or_assoc]

/-- **What is left from a place on is what is left of the text from a place on.** -/
theorem exists_of_cutFrom (hs : Consumes s) (h : s.cutFrom 0 q m = u' ++ v') :
    ∃ u v, m = u ++ v ∧ v' = s.cutFrom 0 ((Marked.text u).getLast?.or q) v ∧
      Alongside s q u u' v := by
  induction u' generalizing m q with
  | nil => exact ⟨[], m, rfl, h.symm, .inl rfl⟩
  | cons y u' ih =>
    cases m with
    | nil => cases h
    | cons x r =>
      -- The place is right behind the first piece, or further on.
      have later {f w : Marked} (hr : r = f ++ w)
          (hw : s.cutFrom 0 ((Marked.text (x :: f)).getLast?.or q) w = u' ++ v')
          (hfirst : Alongside s q (x :: f) [y] w) :
          ∃ u v, x :: r = u ++ v ∧ v' = s.cutFrom 0 ((Marked.text u).getLast?.or q) v ∧
            Alongside s q u (y :: u') v := by
        by_cases hu' : u' = []
        · subst hu'
          exact ⟨x :: f, w, by rw [hr]; rfl, hw.symm, hfirst⟩
        · obtain ⟨u, v, rfl, rfl, hside⟩ := ih hw
          refine ⟨x :: f ++ u, v, by rw [hr, List.append_assoc]; rfl, ?_, hside.behind hu' y⟩
          rw [Marked.text_append, List.getLast?_append, Option.or_assoc]
      cases hx : s ⟨q, x.1 :: Marked.text r⟩ with
      | none =>
        rw [cutFrom] at h
        simp only [hx] at h
        obtain ⟨rfl, hr⟩ := List.cons.inj h
        exact later (f := []) rfl hr (.inl rfl)
      | some found =>
        obtain ⟨a, d⟩ := found
        obtain ⟨f, w, rfl, hrest, hcut⟩ := cutFrom_of_some hs hx
        rw [hcut] at h
        obtain ⟨rfl, hw⟩ := List.cons.inj h
        exact later rfl hw (.inr ⟨⟨_, rfl, rfl⟩, [], x :: f, a, d, rfl, by simp, hx, hrest⟩)

/-- **What is left without a mark was there before,** and nothing was found at its start. -/
theorem plain_of_cutFrom (hc : c.Plain) (h : s.cutFrom 0 q m = c ++ v') :
    ∃ v, m = c ++ v ∧ v' = s.cutFrom 0 (c.text.getLast?.or q) v ∧
      (c ≠ [] → s ⟨q, m.text⟩ = none) := by
  induction c generalizing m q with
  | nil => exact ⟨m, rfl, h.symm, fun h => absurd rfl h⟩
  | cons y c ih =>
    obtain ⟨hfirst, hlater⟩ := List.forall_mem_cons.1 hc
    cases m with
    | nil => cases h
    | cons x r =>
      cases hx : s ⟨q, x.1 :: Marked.text r⟩ with
      | none =>
        rw [cutFrom] at h
        simp only [hx] at h
        obtain ⟨rfl, hr⟩ := List.cons.inj h
        obtain ⟨v, rfl, rfl, -⟩ := ih hlater hr
        refine ⟨v, rfl, ?_, fun _ => hx⟩
        rw [Marked.text_cons, getLast?_cons_or]
      | some found =>
        rw [cutFrom] at h
        simp only [hx] at h
        obtain ⟨rfl, -⟩ := List.cons.inj h
        cases hfirst

end Scanner

/-! ## Kinds and their shapes -/

namespace Shape

/-- The kind of aside that the shape belongs to. -/
def kind : Shape → Scanner Unit
  | restAt => Aside.restAt
  | restThenTime | timeThenRest => Aside.restWorded
  | duration => Aside.duration
  | clock => Aside.clock
  | lanes => Aside.lanes
  | note => Aside.note

/-- How many kinds are taken out before the kind of the shape. -/
def turn : Shape → Nat
  | restAt => 0
  | restThenTime | timeThenRest => 1
  | duration => 2
  | clock => 3
  | lanes => 4
  | note => 5

variable {k : Shape} {s : Scanner Unit} {c : Cursor} {r : Unit × Cursor}

theorem drop_turn (k : Shape) : kinds.drop k.turn = k.kind :: kinds.drop (k.turn + 1) := by
  cases k <;> rfl

/-- Where a kind succeeds, one of its shapes does. -/
theorem exists_of_turn {i : Nat} (hi : kinds[i]? = some s) (h : s c = some r) :
    ∃ k : Shape, k.turn = i ∧ k.scanner c = some r := by
  match i with
  | 0 =>
    obtain rfl : Aside.restAt = s := Option.some.inj hi
    exact ⟨restAt, rfl, h⟩
  | 1 =>
    obtain rfl : restWorded = s := Option.some.inj hi
    obtain ⟨s, hs, hread⟩ := oneOf_eq_some h
    rcases List.mem_pair.1 hs with rfl | rfl
    · exact ⟨restThenTime, rfl, hread⟩
    · exact ⟨timeThenRest, rfl, hread⟩
  | 2 =>
    obtain rfl : Aside.duration = s := Option.some.inj hi
    exact ⟨duration, rfl, h⟩
  | 3 =>
    obtain rfl : Aside.clock = s := Option.some.inj hi
    exact ⟨clock, rfl, h⟩
  | 4 =>
    obtain rfl : Aside.lanes = s := Option.some.inj hi
    exact ⟨lanes, rfl, h⟩
  | 5 =>
    obtain rfl : Aside.note = s := Option.some.inj hi
    exact ⟨note, rfl, h⟩

theorem exists_of_mem_drop {n : Nat} (hs : s ∈ kinds.drop n) (h : s c = some r) :
    ∃ k : Shape, n ≤ k.turn ∧ k.scanner c = some r := by
  obtain ⟨i, hi⟩ := List.mem_iff_getElem?.1 hs
  rw [List.getElem?_drop] at hi
  obtain ⟨k, hk, hread⟩ := exists_of_turn hi h
  exact ⟨k, hk ▸ Nat.le_add_right n i, hread⟩

theorem exists_of_mem_kinds (hs : s ∈ kinds) (h : s c = some r) :
    ∃ k : Shape, k.scanner c = some r := by
  obtain ⟨k, -, hk⟩ := exists_of_mem_drop (n := 0) hs h
  exact ⟨k, hk⟩

/-- Where one of its shapes succeeds, a kind does. -/
theorem kind_succeeds (h : k.scanner c = some r) : ∃ r, k.kind c = some r := by
  cases k with
  | restThenTime => exact oneOf_succeeds (List.mem_pair.2 (.inl rfl)) h
  | timeThenRest => exact oneOf_succeeds (List.mem_pair.2 (.inr rfl)) h
  | _ => exact ⟨r, h⟩

/-- Only a rest can end inside a word, and the rests are the first to be taken out. -/
theorem endsClear_of_le (h : 2 ≤ k.turn) : k.EndsClear := by
  cases k with
  | restAt | restThenTime => exact absurd h (by decide)
  | _ => trivial

/-! ## Where cores begin and end -/

theorem Core.exists_first {w : Text} (h : k.Core w) :
    ∃ x v, w = x :: v ∧ (k.StartsWord ↔ isWordChar x = true) := by
  have digit {n : Text} (hn : Number n) (v : Text) :
      ∃ x u, n ++ v = x :: u ∧ (True ↔ isWordChar x = true) := by
    obtain ⟨x, u, rfl, hx⟩ := hn.exists_first
    exact ⟨x, u ++ v, rfl, iff_of_true trivial (isWordChar_of_isDecimal hx)⟩
  cases k with
  | restAt =>
    obtain ⟨b, s, x, -, -, -, rfl⟩ := h
    exact ⟨'@', _, rfl, iff_of_false id (by decide)⟩
  | restThenTime =>
    obtain ⟨b, s, x, -, -, -, rfl⟩ := h
    exact ⟨'r', _, rfl, iff_of_true trivial (by decide)⟩
  | timeThenRest =>
    obtain ⟨n, p, b, u, b', hn, -, -, -, -, -, rfl⟩ := h
    exact digit hn _
  | duration =>
    obtain ⟨n, b, u, hn, -, -, rfl⟩ := h
    exact digit hn _
  | clock =>
    obtain ⟨n, x, y, hn, -, -, -, rfl⟩ := h
    exact digit hn _
  | lanes =>
    obtain ⟨s, b, n, -, -, -, rfl⟩ := h
    exact ⟨'l', _, rfl, iff_of_true trivial (by decide)⟩
  | note =>
    obtain ⟨b, -, rfl⟩ := h
    exact ⟨'(', _, rfl, iff_of_false id (by decide)⟩

theorem Core.exists_last {w : Text} (h : k.Core w) :
    (∀ v, k.Tail v) ∨ ∃ x, isWordChar x = true ∧ w.getLast? = some x := by
  cases k with
  | restAt | restThenTime | note => exact .inl fun _ => trivial
  | timeThenRest =>
    obtain ⟨n, p, b, u, b', -, -, -, -, -, -, rfl⟩ := h
    exact .inr ⟨'t', by decide, by simp [List.getLast?_append]⟩
  | duration =>
    obtain ⟨n, b, u, -, -, hu, rfl⟩ := h
    obtain ⟨x, hx, hlast⟩ := last_of_unit hu
    exact .inr ⟨x, hx, by simp [List.getLast?_append, hlast]⟩
  | clock =>
    obtain ⟨n, x, y, -, -, -, hy, rfl⟩ := h
    exact .inr ⟨y, isWordChar_of_isDecimal hy, by simp [List.getLast?_append]⟩
  | lanes =>
    obtain ⟨s, b, n, -, -, hn, rfl⟩ := h
    obtain ⟨x, hx, hlast⟩ := hn.isWordChar_last
    exact .inr ⟨x, hx, by simp only [List.getLast?_append, hlast, Option.some_or]⟩

end Shape

section Kinds

variable {s : Scanner Unit}

theorem consumes_of_mem_kinds (hs : s ∈ kinds) : Consumes s := by
  intro q x t a d h
  obtain ⟨k, hk⟩ := Shape.exists_of_mem_kinds hs h
  obtain ⟨c, w, ht, hstands, -⟩ := k.sound q _ _ _ hk
  obtain ⟨y, v, rfl, -⟩ := hstands.core.exists_first
  obtain ⟨rfl, rfl⟩ := List.cons.inj ht
  exact ⟨v ++ w, List.append_assoc ..⟩

/-- **No aside is read inside a word.** -/
theorem not_isWordChar_of_reads (hs : s ∈ kinds) {q : Option Char} (hq : q.any isWordChar = true)
    {y : Char} {t : Text} {r : Unit × Cursor} (h : s ⟨q, y :: t⟩ = some r) :
    isWordChar y = false := by
  obtain ⟨k, hk⟩ := Shape.exists_of_mem_kinds hs h
  obtain ⟨c, w, ht, hstands, -⟩ := k.sound q _ _ _ hk
  obtain ⟨x, v, rfl, hx⟩ := hstands.core.exists_first
  obtain ⟨rfl, -⟩ := List.cons.inj ht
  refine Bool.eq_false_iff.2 fun hy => ?_
  rw [hstands.front (hx.2 hy)] at hq
  cases hq

end Kinds

/-! ## What comes behind a core -/

section Behind

variable {s : Scanner Unit} {q : Option Char} {v w : Text}

/-- The cut text starts as the text does, or with the space for an aside. -/
theorem head_blankFrom (s : Scanner Unit) (q : Option Char) (v : Text) :
    (s.blankFrom 0 q v).head? = v.head? ∨
      (s.blankFrom 0 q v).head? = some ' ' ∧ ∃ y t r, v = y :: t ∧ s ⟨q, v⟩ = some r := by
  cases v with
  | nil => exact .inl rfl
  | cons y t =>
    rw [blankFrom]
    cases hy : s ⟨q, y :: t⟩ with
    | none => exact .inl rfl
    | some r => exact .inr ⟨rfl, y, t, r, rfl, rfl⟩

theorem head_blankFrom_of_not_word (hv : v.head?.any isWordChar = false) :
    (s.blankFrom 0 q v).head?.any isWordChar = false := by
  rcases head_blankFrom s q v with h | ⟨h, -⟩
  · rw [h, hv]
  · rw [h]
    decide

theorem not_word_of_blankFrom (hs : s ∈ kinds) (hq : q.any isWordChar = true)
    (h : (s.blankFrom 0 q v).head?.any isWordChar = false) : v.head?.any isWordChar = false := by
  rcases head_blankFrom s q v with hsame | ⟨-, y, t, r, rfl, hread⟩
  · rwa [hsame] at h
  · exact not_isWordChar_of_reads hs hq hread

/-- A word that no aside begins with is kept. -/
theorem blankFrom_word (hs : s ∈ kinds) (hw : ∀ x ∈ w, isWordChar x = true)
    (hfirst : q.any isWordChar = true ∨ w.head?.any isOpening = false) :
    s.blankFrom 0 q (w ++ v) = w ++ s.blankFrom 0 (w.getLast?.or q) v := by
  induction w generalizing q with
  | nil => rfl
  | cons x w ih =>
    obtain ⟨hx, hlater⟩ := List.forall_mem_cons.1 hw
    have hnone : s ⟨q, x :: (w ++ v)⟩ = none := by
      rcases hfirst with hq | hopens
      · cases hread : s ⟨q, x :: (w ++ v)⟩ with
        | none => rfl
        | some r =>
          rw [not_isWordChar_of_reads hs hq hread] at hx
          cases hx
      · exact opens_of_mem_kinds hs _ hopens
    rw [List.cons_append, blankFrom, hnone]
    simp only
    rw [ih (q := some x) hlater (.inl hx), getLast?_cons_or, List.cons_append]

theorem measureWord : ∀ w ∈ Distance.metreWords ++ ["x".toList],
    w ≠ [] ∧ (∀ x ∈ w, isWordChar x = true) ∧ w.head?.any isOpening = false := by
  decide +kernel

/-- **A measure that follows is kept.** -/
theorem measureFollows_of_blankFrom (hs : s ∈ kinds)
    (h : Fails (s.blankFrom 0 q v) measureFollows) : Fails v measureFollows := by
  intro q'
  refine Option.eq_none_iff_forall_ne_some.2 fun found hfound => ?_
  obtain ⟨_, ⟨q₁, r⟩, hskip, hfollows⟩ := bind_eq_some.1 hfound
  obtain ⟨b, hb, hreads, -⟩ := skip_eq_some.1 hskip
  obtain rfl : v = b ++ r := hreads.rest
  rw [blankFrom_of_failsThrough (failsThrough_blank hb hs r)] at h
  obtain ⟨_, hmem, hread⟩ := oneOf_eq_some hfollows
  rcases List.mem_pair.1 hmem with rfl | rfl
  · obtain ⟨w, hw, hr, hedge⟩ := wholeWord_eq_some hread
    obtain ⟨hne, hall, hopens⟩ := measureWord w hw
    have hlast := hall _ (List.getLast_mem hne)
    have hlast? := List.getLast?_eq_some_getLast hne
    obtain rfl : r = w ++ found.2.rest := hr.rest
    rw [blankFrom_word hs hall (.inr hopens)] at h
    have hblank (v : Text) : (w ++ v).head?.any isBlank = false := by
      obtain ⟨y, w, rfl⟩ := List.exists_cons_of_ne_nil hne
      refine Bool.eq_false_iff.2 fun hy => ?_
      have hword := hall y List.mem_cons_self
      rw [not_isWordChar_of_isBlank hy] at hword
      cases hword
    have hnone := ((measureFollows_eq_none (skip_append hb (hblank _) q')).1 (h q')).1 w hw
      ⟨_, _⟩ ⟨rfl, rfl⟩
    rw [(Shape.atWordEdge_of_reads ⟨rfl, rfl⟩ hlast hlast?).2
      (head_blankFrom_of_not_word ((Shape.atWordEdge_of_reads hr hlast hlast?).1 hedge))] at hnone
    cases hnone
  · obtain ⟨x, hx, hr⟩ := one_eq_some.1 hread
    obtain rfl : x = '*' := beq_iff_eq.1 hx
    obtain rfl : r = '*' :: found.2.rest := hr.rest
    have hnothing : s ⟨b.getLast?.or q, '*' :: found.2.rest⟩ = none :=
      opens_of_mem_kinds hs _ (show isOpening '*' = false by decide +kernel)
    rw [blankFrom, hnothing] at h
    have hnone := ((measureFollows_eq_none (skip_append hb rfl q')).1 (h q')).2
    cases hnone

theorem Shape.tail_of_blankFrom {k : Shape} (hs : s ∈ kinds) (hq : q.any isWordChar = true)
    (h : k.Tail (s.blankFrom 0 q v)) : k.Tail v := by
  cases k with
  | restAt | restThenTime | note => trivial
  | timeThenRest | duration | clock => exact not_word_of_blankFrom hs hq h
  | lanes => exact ⟨not_word_of_blankFrom hs hq h.1, measureFollows_of_blankFrom hs h.2⟩

end Behind

/-! ## Asides that are left -/

/-- What is left where asides of some kinds are taken out, one kind after another. -/
def cutAll (ks : List (Scanner Unit)) (m : Marked) : Marked :=
  ks.foldl (fun m kind => kind.cutOut m) m

theorem cutFrom_onSpaces {s : Scanner Unit} {n : Nat} {q : Option Char} {m : Marked}
    (hm : m.OnSpaces) : Marked.OnSpaces (s.cutFrom n q m) := by
  induction m generalizing n q with
  | nil => cases n <;> exact hm
  | cons y r ih =>
    obtain ⟨hy, hr⟩ := List.forall_mem_cons.1 hm
    cases n with
    | succ n => exact ih hr
    | zero =>
      rw [cutFrom]
      split
      · exact List.forall_mem_cons.2 ⟨hy, ih hr⟩
      · exact List.forall_mem_cons.2 ⟨fun _ => rfl, ih hr⟩

theorem cutAll_onSpaces (ks : List (Scanner Unit)) {m : Marked} (hm : m.OnSpaces) :
    (cutAll ks m).OnSpaces := by
  induction ks generalizing m with
  | nil => exact hm
  | cons s ks ih => exact ih (cutFrom_onSpaces hm)

/-- What is left of the text where all asides are taken out. -/
def remains (t : Text) : Marked := cutAll kinds (.ofText t)

theorem text_cutAll (ks : List (Scanner Unit)) (m : Marked) :
    (cutAll ks m).text = blankAll ks m.text := by
  induction ks generalizing m with
  | nil => rfl
  | cons s ks ih => exact (ih _).trans (congrArg (blankAll ks) (text_cutFrom s 0 none m))

/-- Without its marks it is the text with the asides made spaces. -/
theorem text_remains (t : Text) : (remains t).text = blankAll kinds t := by
  rw [remains, text_cutAll, Marked.text_ofText]

theorem remains_onSpaces (t : Text) : (remains t).OnSpaces := by
  refine cutAll_onSpaces kinds fun x hx hmark => ?_
  obtain ⟨c, -, rfl⟩ := List.mem_map.1 hx
  cases hmark

namespace Shape

variable {k : Shape} {s : Scanner Unit} {m u c v u' v' : Marked}

/-- The core of an aside stands between `u` and `v`, without a mark in it. A rest in words does not
start right behind a mark. -/
structure StandsIn (k : Shape) (u c v : Marked) : Prop where
  plain : c.Plain
  stands : k.Stands u.text.getLast? c.text v.text
  clear : k.turn = 1 → ∀ x ∈ u.getLast?, x.2 = false

/-- No word ran into the core before the kind was taken out. If an aside ended there, it was no
rest, and no other aside ends inside a word. -/
theorem front_of_alongside (hs : s ∈ kinds.drop k.turn) (h : k.StandsIn u' c v')
    (hside : Alongside s none u u' (c ++ v)) (hk : k.StartsWord) :
    u.text.getLast?.any isWordChar = false := by
  have hlast (m : Marked) : m.text.getLast? = m.getLast?.map (·.1) := List.getLast?_map
  rcases hside with hsame | ⟨⟨x, hx, hmark⟩, e, f, a, d, rfl, hne, hread, hrest⟩
  · rw [hlast, hsame, ← hlast]
    exact h.stands.front hk
  · obtain ⟨j, hj, hread⟩ := exists_of_mem_drop hs hread
    have hturn : 2 ≤ k.turn := by
      have hworded : k.turn ≠ 1 := fun hk => by simp [h.clear hk x hx] at hmark
      have hfirst : k.turn ≠ 0 := by
        cases k with
        | restAt => exact hk.elim
        | _ => decide
      omega
    obtain ⟨c₁, w, ht, -, hends⟩ := j.sound _ _ _ _ hread
    rw [hrest, Marked.text_append, ← List.append_assoc] at ht
    have hf := List.append_cancel_right ht
    rcases hends (endsClear_of_le (hturn.trans hj)) with hhead | hend
    · obtain ⟨y, z, hc, hy⟩ := h.stands.core.exists_first
      rw [hrest, Marked.text_append, hc] at hhead
      simp [hy.1 hk] at hhead
    · have hsome : f.text ≠ [] := fun h => hne (List.map_eq_nil_iff.1 h)
      rw [← hf, List.getLast?_eq_some_getLast hsome] at hend
      rw [Marked.text_append, List.getLast?_append, List.getLast?_eq_some_getLast hsome]
      exact hend

/-- **What is left stood there before,** and the kind that was taken out did not find it. -/
theorem StandsIn.of_cutOut (hs : s ∈ kinds.drop k.turn) (h : k.StandsIn u' c v')
    (hm : s.cutOut m = u' ++ (c ++ v')) : ∃ u v, m = u ++ (c ++ v) ∧ k.StandsIn u c v ∧
      s ⟨u.text.getLast?, (c ++ v).text⟩ = none := by
  have hkind : s ∈ kinds := List.mem_of_mem_drop hs
  have hne : c ≠ [] := by
    rintro rfl
    obtain ⟨x, w, hc, -⟩ := h.stands.core.exists_first
    cases hc
  obtain ⟨u, r, rfl, hr, hside⟩ := exists_of_cutFrom (consumes_of_mem_kinds hkind) hm
  obtain ⟨v, rfl, rfl, hnone⟩ := plain_of_cutFrom h.plain hr.symm
  rw [Option.or_none] at hnone
  refine ⟨u, v, rfl, ⟨h.plain, ⟨h.stands.core, front_of_alongside hs h hside, ?_⟩, ?_⟩, hnone hne⟩
  · have htail := h.stands.tail
    rw [text_cutFrom] at htail
    rcases h.stands.core.exists_last with hall | ⟨x, hx, hlast⟩
    · exact hall _
    · refine tail_of_blankFrom hkind ?_ htail
      rw [hlast]
      exact hx
  · intro hk x hx
    rcases hside with hsame | ⟨⟨y, hy, hmark⟩, -⟩
    · exact h.clear hk x (hsame ▸ hx)
    · rw [h.clear hk y hy] at hmark
      cases hmark

theorem StandsIn.of_cutAll {ks : List (Scanner Unit)} (hks : ks ⊆ kinds.drop k.turn)
    (h : k.StandsIn u' c v') (hm : cutAll ks m = u' ++ (c ++ v')) :
    ∃ u v, m = u ++ (c ++ v) ∧ k.StandsIn u c v := by
  induction ks generalizing m with
  | nil => exact ⟨u', v', hm, h⟩
  | cons s ks ih =>
    obtain ⟨hs, hlater⟩ := List.cons_subset.1 hks
    obtain ⟨u, v, hcut, hstands⟩ := ih hlater hm
    obtain ⟨u, v, rfl, hstands, -⟩ := hstands.of_cutOut hs hcut
    exact ⟨u, v, rfl, hstands⟩

/-- **No aside is left without a mark:** its own kind would have found it. -/
theorem not_standsIn {t : Text} (hm : remains t = u ++ (c ++ v)) : ¬ k.StandsIn u c v := by
  intro h
  have hsplit : remains t = cutAll (kinds.drop (k.turn + 1))
      (k.kind.cutOut (cutAll (kinds.take k.turn) (.ofText t))) := by
    cases k <;> rfl
  have hdrop : kinds.drop (k.turn + 1) ⊆ kinds.drop k.turn := by
    rw [drop_turn]
    exact List.subset_cons_self ..
  obtain ⟨u, v, hcut, hlater⟩ := h.of_cutAll hdrop (hsplit ▸ hm)
  obtain ⟨u, v, -, hbefore, hnone⟩ :=
    hlater.of_cutOut (by rw [drop_turn]; exact List.mem_cons_self) hcut
  rw [Marked.text_append] at hnone
  obtain ⟨r, hr⟩ := k.complete _ _ _ hbefore.stands
  obtain ⟨r, hr⟩ := kind_succeeds hr
  rw [hnone] at hr
  cases hr

/-- **What is read in what is left goes over a gap,** or starts behind one. -/
theorem gap_of_reads {t : Text} (hm : remains t = u ++ v) {a : Unit} {d : Cursor}
    (hread : k.scanner ⟨u.text.getLast?, v.text⟩ = some (a, d)) :
    ∃ c w, v = c ++ w ∧ k.Core c.text ∧ d.rest <:+ w.text ∧
      ((∃ x ∈ c, x.2 = true) ∨ k.turn = 1 ∧ ∃ x ∈ u.getLast?, x.2 = true) := by
  obtain ⟨c₀, w₀, ht, hstands, -⟩ := k.sound _ _ _ _ hread
  obtain ⟨c, w, rfl, rfl, hw⟩ := List.map_eq_append_iff.1 ht
  have hw : Marked.text w = w₀ ++ d.rest := hw
  refine ⟨c, w, rfl, hstands.core, ⟨w₀, hw.symm⟩, ?_⟩
  by_contra hgap
  rw [not_or, not_and] at hgap
  refine not_standsIn hm ⟨fun x hx => ?_, hw ▸ hstands, fun hk x hx => ?_⟩
  · exact Bool.eq_false_iff.2 fun hmark => hgap.1 ⟨x, hx, hmark⟩
  · exact Bool.eq_false_iff.2 fun hmark => hgap.2 hk ⟨x, hx, hmark⟩

end Shape

end SwimSets
