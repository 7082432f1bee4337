import SwimSets.Scan.Cursor

/-!
# Searching a text

Where in a text a scanner succeeds. The search goes from left to right; at each place where the
scanner succeeds the piece it read is an occurrence, and the search goes on after that piece, so
occurrences never overlap.

`hits` lists the occurrences, `firstHit` is the leftmost, and `blankOut` puts one space in the
place of each. All three walk the text once, character by character, and count down the length of
the piece that is still to be passed over.

Occurrences are not empty and lie inside the text (`mem_hits`), and each ends before the next
starts (`hits_pairwise`).
-/

namespace SwimSets

/-- A stretch of a text, from position `start` up to, not including, `stop`. -/
structure Span where
  start : Nat
  stop : Nat
  deriving DecidableEq, Repr

namespace Span

/-- The two stretches share a position. -/
def overlaps (a b : Span) : Bool := a.start < b.stop && b.start < a.stop

/-- The stretch of the text that the span names. -/
def of (s : Span) (t : Text) : Text := t.slice s.start s.stop

/-- The text with the stretch replaced by one space. -/
def blank (s : Span) (t : Text) : Text := t.take s.start ++ ' ' :: t.drop s.stop

end Span

/-- An occurrence: what the scanner made of it, and where it stands. -/
structure Hit (α : Type) where
  value : α
  span : Span
  deriving Repr

namespace Scanner

variable {α : Type}

/-- The occurrences in the text at position `pos`, after passing over `skip` characters. -/
def hitsFrom (s : Scanner α) (pos skip : Nat) (prev : Option Char) : Text → List (Hit α)
  | [] => []
  | c :: r =>
    match skip with
    | n + 1 => hitsFrom s (pos + 1) n (some c) r
    | 0 =>
      match s ⟨prev, c :: r⟩ with
      | none => hitsFrom s (pos + 1) 0 (some c) r
      | some (a, d) =>
        let n := r.length - d.rest.length
        ⟨a, pos, pos + n + 1⟩ :: hitsFrom s (pos + 1) n (some c) r

/-- Every occurrence in the text, from left to right. -/
def hits (s : Scanner α) (t : Text) : List (Hit α) := hitsFrom s 0 0 none t

theorem mem_hitsFrom {s : Scanner α} {t : Text} {pos skip : Nat} {prev : Option Char} {h : Hit α}
    (m : h ∈ hitsFrom s pos skip prev t) :
    pos + skip ≤ h.span.start ∧ h.span.start < h.span.stop ∧ h.span.stop ≤ pos + t.length := by
  induction t generalizing pos skip prev with
  | nil => simp [hitsFrom] at m
  | cons c r ih =>
    rw [List.length_cons]
    cases skip with
    | succ n =>
      have := ih (by simpa [hitsFrom] using m)
      omega
    | zero =>
      rw [hitsFrom] at m
      split at m
      · have := ih m
        omega
      · rcases List.mem_cons.1 m with rfl | m
        · simp only
          omega
        · have := ih m
          omega

theorem hitsFrom_pairwise (s : Scanner α) (t : Text) (pos skip : Nat) (prev : Option Char) :
    (hitsFrom s pos skip prev t).Pairwise fun a b => a.span.stop ≤ b.span.start := by
  induction t generalizing pos skip prev with
  | nil => simp [hitsFrom]
  | cons c r ih =>
    cases skip with
    | succ n => simpa [hitsFrom] using ih (pos + 1) n (some c)
    | zero =>
      rw [hitsFrom]
      split
      · exact ih ..
      · refine List.Pairwise.cons (fun h m => ?_) (ih ..)
        have := mem_hitsFrom m
        simp only
        omega

/-- An occurrence is not empty and lies inside the text. -/
theorem mem_hits {s : Scanner α} {t : Text} {h : Hit α} (m : h ∈ s.hits t) :
    h.span.start < h.span.stop ∧ h.span.stop ≤ t.length := by
  have := mem_hitsFrom m
  omega

/-- Each occurrence ends before the next starts. -/
theorem hits_pairwise (s : Scanner α) (t : Text) :
    (s.hits t).Pairwise fun a b => a.span.stop ≤ b.span.start := hitsFrom_pairwise ..

/-- The leftmost occurrence in the text. -/
def firstHit (s : Scanner α) (t : Text) : Option (Hit α) := (s.hits t).head?

/-- The scanner succeeds somewhere in the text. -/
def occursIn (s : Scanner α) (t : Text) : Bool := !(s.hits t).isEmpty

/-- The text with each occurrence made one space, after passing over `skip` characters. -/
def blankFrom (s : Scanner α) (skip : Nat) (prev : Option Char) : Text → Text
  | [] => []
  | c :: r =>
    match skip with
    | n + 1 => blankFrom s n (some c) r
    | 0 =>
      match s ⟨prev, c :: r⟩ with
      | none => c :: blankFrom s 0 (some c) r
      | some (_, d) => ' ' :: blankFrom s (r.length - d.rest.length) (some c) r

/-- The text with each occurrence made one space. -/
def blankOut (s : Scanner α) (t : Text) : Text := blankFrom s 0 none t

end Scanner

end SwimSets
