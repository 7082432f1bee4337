import SwimSets.Proofs.Scanning

/-!
# Where scanners fail

**By the text that is left** (`Scanner.Fails`). Parts of a scanner that read a known text are gone
through one after another.

**By the next character** (`Scanner.OpensWith`). Most scanners succeed only in front of a few
characters.

**For want of a character** (`Scanner.FailsWithout`). A scanner that has to read a number fails in a
text without digits, since it only ever goes forward (`Scanner.Forward`). A scanner that reads at
least one character leaves less than there was (`Scanner.Shrinks`).
-/

namespace SwimSets

namespace Scanner

variable {α β : Type} {p : Char → Bool} {t : Text}

/-! ## Failing -/

/-- The scanner fails at the start of the text, whatever comes before it. -/
def Fails (t : Text) (s : Scanner α) : Prop := ∀ q, s ⟨q, t⟩ = none

namespace Fails

theorem one (h : t.head?.any p = false) : Fails t (one p) := by
  intro q
  cases t with
  | nil => rfl
  | cons x t => simp [Scanner.one, show p x = false by simpa using h]

theorem run (h : t.head?.any p = false) : Fails t (run p) := by
  intro q
  cases t with
  | nil => rfl
  | cons x t => simp [Scanner.run, show p x = false by simpa using h]

theorem word {w : Text} (h : ¬ w <+: t) : Fails t (word w) := by
  intro q
  simp [Scanner.word, h]

theorem bind {s : Scanner α} (h : Fails t s) (f : α → Scanner β) : Fails t (s >>= f) := by
  intro q
  show (s ⟨q, t⟩).bind _ = none
  rw [h q]
  rfl

theorem wordEdge_bind {f : Unit → Scanner β} (h : Fails t (f ())) :
    Fails t (wordEdge >>= f) := by
  intro q
  show (wordEdge ⟨q, t⟩).bind _ = none
  unfold wordEdge
  split_ifs
  · exact h q
  · rfl

theorem run_bind {f : Text → Scanner β} (h : ∀ w, Fails (t.dropWhile p) (f w)) :
    Fails t (Scanner.run p >>= f) := by
  intro q
  show (Scanner.run p ⟨q, t⟩).bind _ = none
  simp only [Scanner.run]
  split_ifs
  · rfl
  · show f _ (Cursor.advance ⟨q, t⟩ (t.takeWhile p).length) = none
    have hrest := rest_advance_takeWhile ⟨q, t⟩ p
    generalize Cursor.advance ⟨q, t⟩ (t.takeWhile p).length = d at hrest ⊢
    obtain ⟨q', r⟩ := d
    obtain rfl : r = t.dropWhile p := hrest
    exact h _ q'

theorem skip_bind {f : Unit → Scanner β} (h : Fails (t.dropWhile p) (f ())) :
    Fails t (skip p >>= f) := by
  intro q
  show f () (Cursor.advance ⟨q, t⟩ (t.takeWhile p).length) = none
  have hrest := rest_advance_takeWhile ⟨q, t⟩ p
  generalize Cursor.advance ⟨q, t⟩ (t.takeWhile p).length = d at hrest ⊢
  obtain ⟨q', r⟩ := d
  obtain rfl : r = t.dropWhile p := hrest
  exact h q'

theorem guard_bind {b : Prop} [Decidable b] {f : Unit → Scanner β} (h : Fails t (f ())) :
    Fails t (guard b >>= f) := by
  intro q
  unfold guard
  split_ifs
  · exact h q
  · rfl

theorem maybe_bind {s : Scanner α} {f : Unit → Scanner β} (hs : Fails t s)
    (h : Fails t (f ())) : Fails t (maybe s >>= f) := by
  intro q
  show (maybe s ⟨q, t⟩).bind _ = none
  unfold maybe
  rw [hs q]
  exact h q

theorem oneOf {ss : List (Scanner α)} (h : ∀ s ∈ ss, Fails t s) : Fails t (oneOf ss) := by
  induction ss with
  | nil => exact fun q => rfl
  | cons s ss ih =>
    intro q
    simp only [Scanner.oneOf, h s List.mem_cons_self q]
    exact ih (fun s' hs' => h s' (List.mem_cons_of_mem s hs')) q

theorem anyWord {ws : List Text} (h : ∀ w ∈ ws, Fails t (Scanner.word w)) :
    Fails t (anyWord ws) := by
  refine oneOf fun s hs => ?_
  obtain ⟨w, hw, rfl⟩ := List.mem_map.1 hs
  exact h w hw

end Fails

/-- What is left of a text behind a run that ends before `x`. -/
theorem dropWhile_append_cons {x : Char} (hx : p x = false) (t r : Text) :
    ∃ s, s <:+ t ∧ (t ++ x :: r).dropWhile p = s ++ x :: r := by
  refine ⟨t.dropWhile p, List.dropWhile_suffix p, ?_⟩
  rw [List.dropWhile_append]
  split_ifs with h
  · rw [List.isEmpty_iff.1 h, List.dropWhile_cons_of_neg (by simp [hx])]
    rfl
  · rfl

/-! ## First characters -/

/-- The scanner succeeds only where the next character satisfies `p`. -/
def OpensWith (p : Char → Bool) (s : Scanner α) : Prop :=
  ∀ c, c.rest.head?.any p = false → s c = none

namespace OpensWith

theorem fails {s : Scanner α} (h : OpensWith p s) (ht : t.head?.any p = false) : Fails t s :=
  fun q => h ⟨q, t⟩ ht

theorem mono {p' : Char → Bool} {s : Scanner α} (h : OpensWith p s)
    (hp : ∀ x, p x = true → p' x = true) : OpensWith p' s := by
  intro c hc
  refine h c ?_
  refine (Option.any_eq_false _ _).2 fun x hx => Bool.eq_false_iff.2 fun hpx => ?_
  simp [hx, hp x hpx] at hc

theorem one (p : Char → Bool) : OpensWith p (one p) := fun c hc => Fails.one hc c.prev

theorem run (p : Char → Bool) : OpensWith p (run p) := fun c hc => Fails.run hc c.prev

theorem word {w : Text} (h : w.head?.any p = true) : OpensWith p (word w) := by
  intro c hc
  refine Fails.word (fun hw => ?_) c.prev
  obtain ⟨v, hv⟩ := hw
  cases w with
  | nil => simp at h
  | cons x w =>
    rw [← hv] at hc
    exact absurd h (by simpa using hc)

theorem bind {s : Scanner α} (h : OpensWith p s) (f : α → Scanner β) :
    OpensWith p (s >>= f) := by
  intro c hc
  show (s c).bind _ = none
  rw [h c hc]
  rfl

theorem wordEdge_bind {f : Unit → Scanner β} (h : OpensWith p (f ())) :
    OpensWith p (wordEdge >>= f) :=
  fun c hc => Fails.wordEdge_bind (t := c.rest) (fun q => h ⟨q, c.rest⟩ hc) c.prev

theorem skip_bind {p' : Char → Bool} {f : Unit → Scanner β} (h : OpensWith p (f ()))
    (hp : ∀ x, p' x = true → p x = true) : OpensWith p (skip p' >>= f) := by
  intro c hc
  have hnil : c.rest.takeWhile p' = [] := by
    cases hr : c.rest with
    | nil => rfl
    | cons x r =>
      rw [hr] at hc
      exact List.takeWhile_cons_of_neg fun hx => by simp [hp x hx] at hc
  show f () (c.advance (c.rest.takeWhile p').length) = none
  rw [hnil]
  exact h c hc

theorem maybe_bind {s : Scanner α} {f : Unit → Scanner β} (hs : OpensWith p s)
    (h : OpensWith p (f ())) : OpensWith p (maybe s >>= f) := by
  intro c hc
  show (maybe s c).bind _ = none
  unfold maybe
  rw [hs c hc]
  exact h c hc

theorem oneOf {ss : List (Scanner α)} (h : ∀ s ∈ ss, OpensWith p s) : OpensWith p (oneOf ss) :=
  fun c hc => Fails.oneOf (t := c.rest) (fun s hs q => h s hs ⟨q, c.rest⟩ hc) c.prev

theorem either {s s' : Scanner α} (h : OpensWith p s) (h' : OpensWith p s') :
    OpensWith p (Scanner.oneOf [s, s']) :=
  oneOf (List.forall_mem_cons.2 ⟨h, List.forall_mem_singleton.2 h'⟩)

theorem anyWord {ws : List Text} (h : ∀ w ∈ ws, w.head?.any p = true) :
    OpensWith p (anyWord ws) := by
  refine oneOf fun s hs => ?_
  obtain ⟨w, hw, rfl⟩ := List.mem_map.1 hs
  exact word (h w hw)

theorem wholeWord {ws : List Text} (h : ∀ w ∈ ws, w.head?.any p = true) :
    OpensWith p (wholeWord ws) := by
  refine oneOf fun s hs => ?_
  obtain ⟨w, hw, rfl⟩ := List.mem_map.1 hs
  exact (word (h w hw)).bind _

end OpensWith

/-! ## Going forward -/

/-- What is left to read comes last in what was left before. -/
def Forward (s : Scanner α) : Prop := ∀ c a d, s c = some (a, d) → d.rest <:+ c.rest

namespace Forward

theorem of_reads {s : Scanner α} (h : ∀ c a d, s c = some (a, d) → ∃ w, c.Reads w d) :
    Forward s := by
  intro c a d hd
  obtain ⟨w, hw⟩ := h c a d hd
  exact ⟨w, hw.rest.symm⟩

theorem wordEdge : Forward wordEdge := fun c a d h => by
  obtain ⟨-, rfl⟩ := wordEdge_eq_some.1 h
  exact List.suffix_rfl

theorem one (p : Char → Bool) : Forward (one p) := of_reads fun c a d h => by
  obtain ⟨x, -, hr⟩ := one_eq_some.1 h
  exact ⟨_, hr⟩

theorem skip (p : Char → Bool) : Forward (skip p) := of_reads fun c a d h => by
  obtain ⟨w, -, hr, -⟩ := skip_eq_some.1 h
  exact ⟨_, hr⟩

theorem word (w : Text) : Forward (word w) := of_reads fun _ _ _ h => ⟨w, word_eq_some.1 h⟩

theorem run (p : Char → Bool) : Forward (run p) := of_reads fun _ w _ h =>
  ⟨w, (run_eq_some.1 h).2.2.1⟩

theorem bind {s : Scanner α} {f : α → Scanner β} (hs : Forward s) (hf : ∀ a, Forward (f a)) :
    Forward (s >>= f) := by
  intro c b e h
  obtain ⟨a, d, hd, he⟩ := bind_eq_some.1 h
  exact (hf a d b e he).trans (hs c a d hd)

theorem maybe {s : Scanner α} (hs : Forward s) : Forward (maybe s) := by
  intro c a d h
  obtain ⟨b, hb⟩ | ⟨-, rfl⟩ := maybe_eq_some h
  · exact hs c b d hb
  · exact List.suffix_rfl

theorem oneOf {ss : List (Scanner α)} (h : ∀ s ∈ ss, Forward s) : Forward (oneOf ss) := by
  intro c a d hd
  obtain ⟨s, hs, hsd⟩ := oneOf_eq_some hd
  exact h s hs c a d hsd

theorem either {s s' : Scanner α} (h : Forward s) (h' : Forward s') :
    Forward (Scanner.oneOf [s, s']) :=
  oneOf (List.forall_mem_cons.2 ⟨h, List.forall_mem_singleton.2 h'⟩)

theorem notHere (s : Scanner α) : Forward (notHere s) := fun c a d h => by
  obtain ⟨-, rfl⟩ := notHere_eq_some.1 h
  exact List.suffix_rfl

theorem anyWord (ws : List Text) : Forward (anyWord ws) := by
  refine oneOf fun s hs => ?_
  obtain ⟨w, -, rfl⟩ := List.mem_map.1 hs
  exact word w

theorem wholeWord (ws : List Text) : Forward (wholeWord ws) := of_reads fun c a d h => by
  obtain ⟨w, -, hr, -⟩ := wholeWord_eq_some h
  exact ⟨w, hr⟩

end Forward

/-- The scanner fails where no character that satisfies `p` is left. -/
def FailsWithout (p : Char → Bool) (s : Scanner α) : Prop :=
  ∀ c, (∀ x ∈ c.rest, p x = false) → s c = none

namespace FailsWithout

theorem run (p : Char → Bool) : FailsWithout p (run p) := by
  intro c hc
  refine Fails.run (t := c.rest) ?_ c.prev
  exact (Option.any_eq_false _ _).2 fun x hx => hc x (List.mem_of_mem_head? hx)

theorem bind {s : Scanner α} (h : FailsWithout p s) (f : α → Scanner β) :
    FailsWithout p (s >>= f) := by
  intro c hc
  show (s c).bind _ = none
  rw [h c hc]
  rfl

theorem after {s : Scanner α} {f : α → Scanner β} (hs : Forward s)
    (h : ∀ a, FailsWithout p (f a)) : FailsWithout p (s >>= f) := by
  intro c hc
  show (s c).bind _ = none
  cases hd : s c with
  | none => rfl
  | some r => exact h r.1 r.2 fun x hx => hc x ((hs c r.1 r.2 hd).subset hx)

theorem either {s s' : Scanner α} (h : FailsWithout p s) (h' : FailsWithout p s') :
    FailsWithout p (Scanner.oneOf [s, s']) := by
  intro c hc
  simp only [Scanner.oneOf, h c hc, h' c hc]

theorem failsThrough {s : Scanner α} (h : FailsWithout p s) (ht : ∀ x ∈ t, p x = false) :
    ∀ b, b <:+ t → b ≠ [] → Fails (b ++ []) s :=
  fun b hb _ q => h ⟨q, b ++ []⟩ fun x hx => ht x (hb.subset (by simpa using hx))

end FailsWithout

/-- The scanner does not succeed without reading. -/
def Shrinks (s : Scanner α) : Prop :=
  ∀ c a d, s c = some (a, d) → d.rest.length < c.rest.length

namespace Shrinks

theorem run (p : Char → Bool) : Shrinks (run p) := by
  intro c w d h
  obtain ⟨hne, -, hr, -⟩ := run_eq_some.1 h
  rw [hr.rest, List.length_append]
  exact Nat.lt_add_of_pos_left (List.length_pos_iff.2 hne)

theorem bind {s : Scanner α} {f : α → Scanner β} (hs : Shrinks s) (hf : ∀ a, Forward (f a)) :
    Shrinks (s >>= f) := by
  intro c b e h
  obtain ⟨a, d, hd, he⟩ := bind_eq_some.1 h
  exact ((hf a d b e he).length_le).trans_lt (hs c a d hd)

theorem after {s : Scanner α} {f : α → Scanner β} (hs : Forward s) (hf : ∀ a, Shrinks (f a)) :
    Shrinks (s >>= f) := by
  intro c b e h
  obtain ⟨a, d, hd, he⟩ := bind_eq_some.1 h
  exact (hf a d b e he).trans_le (hs c a d hd).length_le

end Shrinks

end Scanner

end SwimSets
