import SwimSets.Proofs.Scanning
import SwimSets.Toml.Reader

/-!
# What readers make of written text

A reader takes a piece off the front of a text and looks at nothing before it, so what it makes of
a written piece is an equation that holds whatever text follows: `s (w ++ r) = some (a, r)`. The
lemmas here say for each way of putting readers together how the equations of the parts give that
of the whole.

**Rounds** (`Reader.Rounds`). Reading as often as possible is counted down from the length of the
text. A series of rounds is what it comes to: each round takes something off, and after the last
one the reader fails. The count is never used up before that (`Rounds.many`).
-/

namespace SwimSets.Toml.Reader

variable {α β : Type} {s : Reader α} {t r : Text}

/-! ## One reader after another -/

theorem bind_exactly {f : Unit → Reader β} (w r : Text) : (exactly w >>= f) (w ++ r) = f () r := by
  refine bind_of_some ?_
  rw [exactly, if_pos (by simp), List.drop_left]

/-! ## Single characters and runs -/

variable {p : Char → Bool}

theorem char_of_pos {c : Char} (h : p c = true) : char p (c :: r) = some (c, r) := if_pos h

theorem char_of_neg {c : Char} (h : p c = false) : char p (c :: r) = none := by simp [char, h]

theorem char_of_head (h : t.head?.any p = false) : char p t = none := by
  cases t with
  | nil => rfl
  | cons c r => exact char_of_neg h

theorem exactly_of_ne {c d : Char} {w : Text} (h : c ≠ d) : exactly (c :: w) (d :: r) = none := by
  simp [exactly, h]

theorem exactly_cons_of_none {c : Char} {w : Text} (h : exactly w t = none) :
    exactly (c :: w) (c :: t) = none := by
  have hw : ¬ w <+: t := by simpa [exactly] using h
  simp [exactly, hw]

theorem run_append {w : Text} (hw : ∀ c ∈ w, p c = true) (hr : r.head?.any p = false) :
    run p (w ++ r) = some (w, r) := by
  have htake : (w ++ r).takeWhile p = w := by
    rw [takeWhile_append_of_stop hr, List.takeWhile_eq_self_iff.2 hw]
  have hdrop : w ++ (w ++ r).dropWhile p = w ++ r := by
    simpa only [htake] using List.takeWhile_append_dropWhile (p := p) (l := w ++ r)
  rw [run, htake, List.append_cancel_left hdrop]

theorem run_nothing (hr : r.head?.any p = false) : run p r = some ([], r) :=
  run_append (w := []) (fun _ hc => absurd hc List.not_mem_nil) hr

/-! ## Choices -/

theorem oneOf_of_some {ss : List (Reader α)} {x : α × Text} (h : s t = some x) :
    oneOf (s :: ss) t = some x := by
  simp only [oneOf, h]

theorem oneOf_of_none {ss : List (Reader α)} (h : s t = none) : oneOf (s :: ss) t = oneOf ss t := by
  simp only [oneOf, h]

theorem maybe_of_some {a : α} (h : s t = some (a, r)) : maybe s t = some (some a, r) := by
  simp only [maybe, h]

theorem maybe_of_none (h : s t = none) : maybe s t = some (none, t) := by
  simp only [maybe, h]

/-! ## Reading as often as possible -/

/-- Read on `t` as often as it succeeds, the reader gives the list and leaves the last text. -/
inductive Rounds (s : Reader α) : List α → Text → Text → Prop
  | stop {t : Text} (h : s t = none) : Rounds s [] t t
  | more {a : α} {as : List α} {t r u : Text} (h : s t = some (a, r))
    (shorter : r.length < t.length) (rest : Rounds s as r u) : Rounds s (a :: as) t u

theorem Rounds.upTo {as : List α} {u : Text} (h : Rounds s as t u) {n : Nat} (hn : t.length ≤ n) :
    upTo s n t = some (as, u) := by
  induction h generalizing n with
  | @stop t h =>
    cases n with
    | zero => rfl
    | succ n => simp only [Reader.upTo, h]
  | @more a as t r u h shorter _ ih =>
    cases n with
    | zero => omega
    | succ n => simp only [Reader.upTo, h, ih (by omega : r.length ≤ n), Option.map_some]

theorem Rounds.many {as : List α} {u : Text} (h : Rounds s as t u) : many s t = some (as, u) :=
  h.upTo (Nat.le_refl _)

/-- Pieces that are read one by one are read one after another. -/
theorem rounds_pieces {ι : Type} (xs : List ι) {text : ι → Text} {f : ι → α}
    (hx : ∀ x ∈ xs, text x ≠ [] ∧ ∀ r, s (text x ++ r) = some (f x, r)) (hr : s r = none) :
    Rounds s (xs.map f) (xs.flatMap text ++ r) r := by
  induction xs with
  | nil => exact .stop hr
  | cons x xs ih =>
    obtain ⟨⟨hne, hread⟩, hxs⟩ := List.forall_mem_cons.1 hx
    have hlen : 0 < (text x).length := List.length_pos_iff.2 hne
    rw [List.map_cons, List.flatMap_cons, List.append_assoc]
    refine .more (hread _) ?_ (ih hxs)
    simp only [List.length_append]
    omega

end SwimSets.Toml.Reader
