import Mathlib.Data.List.TakeWhile
import Mathlib.Tactic.SplitIfs
import SwimSets.Proofs.Characters
import SwimSets.Proofs.Failing
import SwimSets.Proofs.Words

/-!
# Scanning across a seam

What a scanner makes of two texts put together, told from what it makes of each.

**Stopping at a seam** (`Scanner.StopsAt`). In front of the second text the scanner reads as it
would at the end of the first one. A scanner stops if each of its parts does. Blanks may run on into
the second text, if what the scanner looks for behind them is not found there
(`Scanner.StopsAt.skip_bind`). At a single place, blanks that end before the seam are enough
(`Scanner.AlikeAt.skip_bind`).

**Starting afresh** (`Scanner.StartsAfresh`). Behind a character that stands in no word the scanner
reads as at the start of a text.

**A text set apart** (`Apart`). What is written behind a line starts with a blank and goes on with a
sign that no measure and no word goes on with, so the scanners stop there.
-/

namespace SwimSets

/-- The place with a text put behind all that comes after it. -/
def Cursor.before (c : Cursor) (v : Text) : Cursor := ⟨c.prev, c.rest ++ v⟩

theorem Cursor.advance_before (c : Cursor) (v : Text) {n : Nat} (h : n ≤ c.rest.length) :
    (c.before v).advance n = (c.advance n).before v := by
  simp only [advance, before, List.take_append_of_le_length h, List.drop_append_of_le_length h]

/-- As much is read with `v` behind the text. -/
theorem Cursor.length_sub_before (r v : Text) (d : Cursor) :
    (r ++ v).length - (d.before v).rest.length = r.length - d.rest.length := by
  simp only [before, List.length_append]
  omega

namespace Scanner

variable {α β : Type} {p : Char → Bool} {v t : Text}

/-! ## Stopping at a seam -/

/-- At the place the scanner reads alike with `v` behind the text and without it. -/
def AlikeAt (v : Text) (s : Scanner α) (c : Cursor) : Prop :=
  s (c.before v) = (s c).map fun r => (r.1, r.2.before v)

/-- In front of `v` the scanner reads as at the end of a text. -/
def StopsAt (v : Text) (s : Scanner α) : Prop := ∀ c, AlikeAt v s c

theorem length_takeWhile_le (p : Char → Bool) (r : Text) : (r.takeWhile p).length ≤ r.length :=
  (List.takeWhile_prefix p).length_le

namespace AlikeAt

variable {c : Cursor}

theorem eq {s : Scanner α} (h : AlikeAt v s c) :
    s (c.before v) = (s c).map fun r => (r.1, r.2.before v) := h

theorem bind {s : Scanner α} {f : α → Scanner β} (hs : AlikeAt v s c)
    (hf : ∀ a d, s c = some (a, d) → AlikeAt v (f a) d) : AlikeAt v (s >>= f) c := by
  show (s (c.before v)).bind _ = ((s c).bind _).map _
  rw [hs.eq]
  cases hc : s c with
  | none => rfl
  | some r => exact hf r.1 r.2 hc

theorem oneOf {ss : List (Scanner α)} (h : ∀ s ∈ ss, AlikeAt v s c) :
    AlikeAt v (Scanner.oneOf ss) c := by
  induction ss with
  | nil => rfl
  | cons s ss ih =>
    obtain ⟨hs, hss⟩ := List.forall_mem_cons.1 h
    simp only [AlikeAt, Scanner.oneOf, hs.eq, (ih hss).eq]
    cases s c <;> rfl

theorem either {s s' : Scanner α} (h : AlikeAt v s c) (h' : AlikeAt v s' c) :
    AlikeAt v (Scanner.oneOf [s, s']) c :=
  oneOf (List.forall_mem_cons.2 ⟨h, List.forall_mem_singleton.2 h'⟩)

/-- What is skipped ends before the seam if something else stands there. -/
theorem skip_bind {f : Unit → Scanner β} (hf : StopsAt v (f ()))
    (hc : ¬ ∀ x ∈ c.rest, p x = true) : AlikeAt v (skip p >>= f) c := by
  have htake : (c.rest ++ v).takeWhile p = c.rest.takeWhile p := by
    rw [List.takeWhile_append, if_neg]
    intro hlen
    have heq := (List.takeWhile_prefix p).eq_of_length hlen
    exact hc (List.takeWhile_eq_self_iff.1 heq)
  show f () ((c.before v).advance ((c.rest ++ v).takeWhile p).length) =
    (f () (c.advance (c.rest.takeWhile p).length)).map _
  rw [htake, Cursor.advance_before c v (length_takeWhile_le p c.rest)]
  exact hf _

end AlikeAt

/-- After the first blank the rest is skipped. -/
theorem blanks1_bind_cons (f : Unit → Scanner β) (q : Option Char) (x : Char) (r : Text) :
    (blanks1 >>= f) ⟨q, x :: r⟩ = if isBlank x then (skip isBlank >>= f) ⟨some x, r⟩ else none := by
  show ((Scanner.one isBlank ⟨q, x :: r⟩).bind _).bind _ = _
  simp only [Scanner.one]
  split_ifs <;> rfl

theorem AlikeAt.blanks1_bind {f : Unit → Scanner β} (hf : StopsAt v (f ())) {c : Cursor}
    (hc : ¬ ∀ x ∈ c.rest, isBlank x = true) : AlikeAt v (blanks1 >>= f) c := by
  obtain ⟨q, r⟩ := c
  cases r with
  | nil => simp at hc
  | cons x r =>
    simp only [AlikeAt, Cursor.before, List.cons_append, blanks1_bind_cons]
    split_ifs with hx
    · exact AlikeAt.skip_bind (c := ⟨some x, r⟩) hf fun h => hc (List.forall_mem_cons.2 ⟨hx, h⟩)
    · rfl

namespace StopsAt

theorem pure (a : α) : StopsAt v (Pure.pure a : Scanner α) := fun _ => rfl

theorem bind {s : Scanner α} {f : α → Scanner β} (hs : StopsAt v s) (hf : ∀ a, StopsAt v (f a)) :
    StopsAt v (s >>= f) := fun c => (hs c).bind fun a d _ => hf a d

theorem guarded (b : Prop) [Decidable b] : StopsAt v (guard b : Scanner Unit) := by
  intro c
  unfold guard
  split_ifs <;> rfl

theorem wordEdge (h : v.head?.any isWordChar = false) : StopsAt v wordEdge := by
  intro c
  have he : (c.before v).atWordEdge = c.atWordEdge := by
    obtain ⟨q, r⟩ := c
    cases r with
    | nil => simp [Cursor.before, Cursor.atWordEdge, h]
    | cons x r => rfl
  simp only [AlikeAt, Scanner.wordEdge, he]
  split_ifs <;> rfl

theorem one (h : v.head?.any p = false) : StopsAt v (one p) := by
  rintro ⟨q, r⟩
  cases r with
  | nil => exact Fails.one h q
  | cons x r =>
    simp only [AlikeAt, Scanner.one, Cursor.before, List.cons_append]
    split_ifs <;> rfl

theorem run (h : v.head?.any p = false) : StopsAt v (run p) := by
  intro c
  have htake : (c.before v).rest.takeWhile p = c.rest.takeWhile p :=
    takeWhile_append_of_stop h c.rest
  simp only [AlikeAt, Scanner.run, htake]
  split_ifs
  · rfl
  · rw [Cursor.advance_before c v (length_takeWhile_le p c.rest)]
    rfl

/-- A word of which no end could stand behind the seam. -/
theorem word {w : Text} (h : ∀ b, b <:+ w → b ≠ [] → ¬ b <+: v) : StopsAt v (word w) := by
  intro c
  have hiff : w <+: c.rest ++ v ↔ w <+: c.rest := by
    refine ⟨fun hw => ?_, fun hw => hw.trans (List.prefix_append ..)⟩
    rcases Nat.le_total w.length c.rest.length with hlen | hlen
    · exact List.prefix_of_prefix_length_le hw (List.prefix_append ..) hlen
    · obtain ⟨b, rfl⟩ := List.prefix_of_prefix_length_le (List.prefix_append ..) hw hlen
      by_cases hb : b = []
      · simp [hb]
      · exact absurd ((List.prefix_append_right_inj _).1 hw) (h b (List.suffix_append ..) hb)
  simp only [AlikeAt, Scanner.word, Cursor.before, List.isPrefixOf_iff_prefix, hiff]
  split_ifs with hw
  · rw [← Cursor.before, Cursor.advance_before c v hw.length_le]
    rfl
  · rfl

theorem maybe {s : Scanner α} (hs : StopsAt v s) : StopsAt v (maybe s) := by
  intro c
  simp only [AlikeAt, Scanner.maybe, (hs c).eq]
  cases s c <;> rfl

theorem oneOf {ss : List (Scanner α)} (h : ∀ s ∈ ss, StopsAt v s) : StopsAt v (oneOf ss) :=
  fun c => .oneOf fun s hs => h s hs c

theorem either {s s' : Scanner α} (h : StopsAt v s) (h' : StopsAt v s') :
    StopsAt v (Scanner.oneOf [s, s']) := fun c => (h c).either (h' c)

theorem notHere {s : Scanner α} (hs : StopsAt v s) : StopsAt v (notHere s) := by
  intro c
  simp only [AlikeAt, Scanner.notHere, (hs c).eq]
  cases s c <;> rfl

/-- A word none of whose characters is the one behind the seam. -/
theorem word_of_head {w : Text} (h : v.head?.any (· ∈ w) = false) :
    StopsAt v (Scanner.word w) := by
  refine word fun b hb hne hpre => ?_
  obtain ⟨y, b, rfl⟩ := List.exists_cons_of_ne_nil hne
  obtain ⟨r, rfl⟩ := hpre
  simp [hb.subset List.mem_cons_self] at h

/-- What is skipped may go on behind the seam, if neither there nor at the end what is to come
after it is found. -/
theorem skip_bind {f : Unit → Scanner β} (hf : StopsAt v (f ())) (hend : Fails [] (f ()))
    (hv : Fails (v.dropWhile p) (f ())) : StopsAt v (skip p >>= f) := by
  intro c
  by_cases hall : ∀ x ∈ c.rest, p x = true
  · have hc : (skip p >>= f) c = none := by
      refine Fails.skip_bind (t := c.rest) ?_ c.prev
      rwa [List.dropWhile_eq_nil_iff.2 hall]
    have hcv : (skip p >>= f) (c.before v) = none := by
      refine Fails.skip_bind (t := c.rest ++ v) ?_ c.prev
      rwa [List.dropWhile_append_of_pos hall]
    rw [AlikeAt, hc, hcv]
    rfl
  · exact .skip_bind hf hall

/-- Blanks may go on behind the seam likewise. -/
theorem blanks1_bind {f : Unit → Scanner β} (hf : StopsAt v (f ())) (hend : Fails [] (f ()))
    (hv : Fails (v.dropWhile isBlank) (f ())) : StopsAt v (blanks1 >>= f) := by
  rintro ⟨q, r⟩
  cases r with
  | cons x r =>
    simp only [AlikeAt, Cursor.before, List.cons_append, blanks1_bind_cons]
    split_ifs
    · exact skip_bind hf hend hv ⟨some x, r⟩
    · rfl
  | nil =>
    show (blanks1 >>= f) ⟨q, v⟩ = none
    cases v with
    | nil => rfl
    | cons x v =>
      rw [blanks1_bind_cons]
      split_ifs with hx
      · rw [List.dropWhile_cons_of_pos hx] at hv
        exact Fails.skip_bind hv _
      · rfl

theorem wholeWord {ws : List Text} (hv : v.head?.any isWordChar = false)
    (h : ∀ w ∈ ws, StopsAt v (Scanner.word w)) : StopsAt v (wholeWord ws) := by
  refine oneOf fun s hs => ?_
  obtain ⟨w, hw, rfl⟩ := List.mem_map.1 hs
  exact (h w hw).bind fun _ => wordEdge hv

theorem anyWord {ws : List Text} (h : ∀ w ∈ ws, StopsAt v (Scanner.word w)) :
    StopsAt v (anyWord ws) := by
  refine oneOf fun s hs => ?_
  obtain ⟨w, hw, rfl⟩ := List.mem_map.1 hs
  exact h w hw

end StopsAt

/-! ## Repetition -/

/-- From as many turns on as there are characters, more make no difference. -/
theorem upTo_eq {s : Scanner Unit} (hs : Shrinks s) {n m : Nat} {c : Cursor}
    (hn : c.rest.length ≤ n) (hm : c.rest.length ≤ m) : upTo s n c = upTo s m c := by
  induction n generalizing m c with
  | zero =>
    cases m with
    | zero => rfl
    | succ m =>
      show some ((), c) = upTo s (m + 1) c
      rw [upTo]
      dsimp only
      split
      · rename_i d hd
        have := hs c () d hd
        omega
      · rfl
  | succ n ih =>
    rw [upTo]
    dsimp only
    split
    · rename_i d hd
      have hlt := hs c () d hd
      obtain ⟨m, rfl⟩ : ∃ k, m = k + 1 := ⟨m - 1, by omega⟩
      rw [upTo]
      dsimp only
      rw [hd]
      exact ih (by omega) (by omega)
    · rename_i hnone
      cases m with
      | zero => rfl
      | succ m =>
        rw [upTo]
        dsimp only
        rw [hnone]

theorem StopsAt.upTo {s : Scanner Unit} (hs : StopsAt v s) (n : Nat) : StopsAt v (upTo s n) := by
  induction n with
  | zero => exact StopsAt.pure ()
  | succ n ih =>
    intro c
    simp only [AlikeAt, Scanner.upTo, (hs c).eq]
    cases s c with
    | none => rfl
    | some r => exact ih r.2

theorem StopsAt.many {s : Scanner Unit} (hs : StopsAt v s) (h : Shrinks s) :
    StopsAt v (many s) := by
  intro c
  show Scanner.upTo s (c.rest ++ v).length (c.before v) =
    (Scanner.upTo s c.rest.length c).map _
  rw [hs.upTo _ c, upTo_eq h (by simp) le_rfl]

/-! ## Starting afresh -/

/-- What the scanner reads does not depend on what comes before. -/
def LooksAhead (s : Scanner α) : Prop := ∀ q t, s ⟨q, t⟩ = s ⟨none, t⟩

/-- Behind a character that stands in no word the scanner reads as at the start of a text. -/
def StartsAfresh (s : Scanner α) : Prop :=
  ∀ q t, q.any isWordChar = false → s ⟨q, t⟩ = s ⟨none, t⟩

namespace LooksAhead

theorem one (p : Char → Bool) : LooksAhead (one p) := by
  intro q t
  cases t <;> rfl

theorem word {w : Text} (hw : w ≠ []) : LooksAhead (word w) := by
  intro q t
  simp only [Scanner.word]
  split_ifs with h
  · obtain ⟨x, w, rfl⟩ := List.exists_cons_of_ne_nil hw
    obtain ⟨v, rfl⟩ := List.isPrefixOf_iff_prefix.1 h
    simp [place_cons]
  · rfl

theorem run (p : Char → Bool) : LooksAhead (run p) := by
  intro q t
  simp only [Scanner.run]
  cases ht : t.takeWhile p with
  | nil => rfl
  | cons x w =>
    obtain ⟨v, hv⟩ := List.takeWhile_prefix (l := t) p
    rw [ht] at hv
    rw [← hv, List.cons_append, List.length_cons, place_cons, place_cons]

theorem bind {s : Scanner α} (h : LooksAhead s) (f : α → Scanner β) : LooksAhead (s >>= f) := by
  intro q t
  show (s ⟨q, t⟩).bind _ = (s ⟨none, t⟩).bind _
  rw [h q t]

theorem oneOf {ss : List (Scanner α)} (h : ∀ s ∈ ss, LooksAhead s) : LooksAhead (oneOf ss) := by
  induction ss with
  | nil => exact fun q t => rfl
  | cons s ss ih =>
    intro q t
    simp only [Scanner.oneOf, h s List.mem_cons_self q t,
      ih (fun s' hs' => h s' (List.mem_cons_of_mem s hs')) q t]

theorem anyWord {ws : List Text} (h : ∀ w ∈ ws, w ≠ []) : LooksAhead (anyWord ws) := by
  refine oneOf fun s hs => ?_
  obtain ⟨w, hw, rfl⟩ := List.mem_map.1 hs
  exact word (h w hw)

theorem startsAfresh {s : Scanner α} (h : LooksAhead s) : StartsAfresh s := fun q t _ => h q t

end LooksAhead

namespace StartsAfresh

theorem bind {s : Scanner α} (h : StartsAfresh s) (f : α → Scanner β) :
    StartsAfresh (s >>= f) := by
  intro q t hq
  show (s ⟨q, t⟩).bind _ = (s ⟨none, t⟩).bind _
  rw [h q t hq]

theorem wordEdge_bind {f : Unit → Scanner β} (h : LooksAhead (f ())) :
    StartsAfresh (wordEdge >>= f) := by
  intro q t hq
  have he : Cursor.atWordEdge ⟨q, t⟩ = Cursor.atWordEdge ⟨none, t⟩ := by
    simp [Cursor.atWordEdge, hq]
  show (wordEdge ⟨q, t⟩).bind _ = (wordEdge ⟨none, t⟩).bind _
  simp only [wordEdge, he]
  split_ifs
  · exact h q t
  · rfl

theorem oneOf {ss : List (Scanner α)} (h : ∀ s ∈ ss, StartsAfresh s) :
    StartsAfresh (oneOf ss) := by
  induction ss with
  | nil => exact fun q t _ => rfl
  | cons s ss ih =>
    intro q t hq
    simp only [Scanner.oneOf, h s List.mem_cons_self q t hq,
      ih (fun s' hs' => h s' (List.mem_cons_of_mem s hs')) q t hq]

end StartsAfresh

end Scanner

/-! ## Texts set apart -/

open Scanner

theorem last_of_blank {b : Text} (hb : ∀ x ∈ b, isBlank x = true) :
    b.getLast?.any isWordChar = false :=
  (Option.any_eq_false _ _).2 fun x hx => not_isWordChar_of_isBlank (hb x (List.mem_of_getLast? hx))

/-- What is written behind a line: nothing, or a blank and after the blanks a sign or letter with
which nothing goes on that is looked for. -/
structure Apart (v : Text) : Prop where
  blank : ∀ x ∈ v.head?, isBlank x = true
  next : ∀ x ∈ (v.dropWhile isBlank).head?, x ∈ ['@', '(', 'r']

/-- Behind each blank of the word there is a letter or digit, though no r. -/
def goesOn : Text → Bool
  | [] => true
  | x :: r => (!isBlank x || r.head?.any fun y => isWordChar y && y != 'r') && goesOn r

theorem goesOn_head {x : Char} {r : Text} (h : goesOn (x :: r) = true) (hx : isBlank x = true) :
    (r.head?.any fun y => isWordChar y && y != 'r') = true := by
  simpa [goesOn, hx] using (Bool.and_eq_true_iff.1 h).1

theorem goesOn_suffix {b w : Text} (h : b <:+ w) (hw : goesOn w = true) : goesOn b = true := by
  obtain ⟨a, rfl⟩ := h
  induction a with
  | nil => exact hw
  | cons x a ih => exact ih (Bool.and_eq_true_iff.1 hw).2

namespace Apart

variable {α : Type} {v : Text}

theorem of_blank {b : Text} (h : ∀ x ∈ b, isBlank x = true) : Apart b where
  blank := fun x hx => h x (List.mem_of_mem_head? hx)
  next := by simp [List.dropWhile_eq_nil_iff.2 h]

theorem of_space {x : Char} (hx : x ∈ ['@', '(', 'r']) (r : Text) : Apart (' ' :: x :: r) where
  blank := by simp [show isBlank ' ' = true from rfl]
  next := by
    have hb : ∀ x ∈ ['@', '(', 'r'], isBlank x = false := by decide
    simp [show isBlank ' ' = true from rfl, hb x hx] at hx ⊢
    exact hx

theorem head_of_blank (h : Apart v) {p : Char → Bool} (hp : ∀ x, isBlank x = true → p x = false) :
    v.head?.any p = false :=
  (Option.any_eq_false _ _).2 fun x hx => hp x (h.blank x hx)

theorem head (h : Apart v) {p : Char → Bool} (hp : blankCodes.all fun n => !p (Char.ofNat n)) :
    v.head?.any p = false :=
  h.head_of_blank fun _ hx => by simpa using forall_blank (p := fun x => !p x) hp hx

theorem edge (h : Apart v) : v.head?.any isWordChar = false :=
  h.head_of_blank fun _ => not_isWordChar_of_isBlank

/-- A scanner that does not start with such a sign fails after the blanks. -/
theorem fails (h : Apart v) {p : Char → Bool} {s : Scanner α} (ho : OpensWith p s)
    (hp : ∀ x ∈ ['@', '(', 'r'], p x = false) : Fails (v.dropWhile isBlank) s :=
  ho.fails ((Option.any_eq_false _ _).2 fun x hx => hp x (h.next x hx))

theorem blanks_bind (h : Apart v) {p : Char → Bool} {f : Unit → Scanner α}
    (hf : StopsAt v (f ())) (ho : OpensWith p (f ())) (hp : ∀ x ∈ ['@', '(', 'r'], p x = false) :
    StopsAt v (blanks >>= f) :=
  .skip_bind hf (ho.fails rfl) (h.fails ho hp)

/-- A word each of whose blanks has a letter or digit behind it, though no r. -/
theorem word (h : Apart v) {w : Text} (hw : goesOn w = true) : StopsAt v (Scanner.word w) := by
  refine .word fun b hb hne hpre => ?_
  obtain ⟨x, b, rfl⟩ := List.exists_cons_of_ne_nil hne
  obtain ⟨r, rfl⟩ := hpre
  have hx : isBlank x = true := h.blank x rfl
  have hnext := goesOn_head (goesOn_suffix hb hw) hx
  cases b with
  | nil => simp at hnext
  | cons y b =>
    simp only [List.head?_cons, Option.any_some, Bool.and_eq_true] at hnext
    have hy : isBlank y = false := by
      by_contra hy
      simp [not_isWordChar_of_isBlank (Bool.of_not_eq_false hy)] at hnext
    have hmem := h.next y (by simp [hx, hy])
    have hno : ∀ y ∈ ['@', '(', 'r'], ¬ (isWordChar y = true ∧ (y != 'r') = true) := by decide
    exact hno y hmem hnext

/-- Words without blanks. -/
theorem anyWord (h : Apart v) {ws : List Text} (hw : ∀ w ∈ ws, goesOn w = true) :
    StopsAt v (anyWord ws) := .anyWord fun w hmem => h.word (hw w hmem)

theorem wholeWord (h : Apart v) {ws : List Text} (hw : ∀ w ∈ ws, goesOn w = true) :
    StopsAt v (wholeWord ws) := .wholeWord h.edge fun w hmem => h.word (hw w hmem)

end Apart

end SwimSets
