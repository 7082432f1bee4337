import Mathlib.Data.List.DropRight
import SwimSets.Rule.Repeat

/-!
# What a repeat stands for

The search of a repeat goes upwards line by line, passing over lines before it has found one and
ending for one of three reasons. What it finds can be told without a search.

**The parts of the lines above.** Only the lines below the last layout line count (`sinceLayout`).
They end with lines that were not understood (`unreadEnd`), perhaps with none; what stands above
those (`heard`) is empty or ends with a run of parsed lines (`lastRun`).

**Theorem (`repeat_stands_for_last_run`).** There is nothing to repeat exactly if no line of `heard`
is parsed, that is, if all lines since the layout line are unread. Otherwise the repeat stands for
the last two lines of the run, or the only one, with their contributions in order.

The search sees the lines nearest first. It does not look behind a layout line
(`collect_takeWhile_content`), drops the unread lines it meets first (`collect_dropWhile_unread`)
and then takes from the run until the window is full (`collect_run`).
-/

namespace SwimSets

namespace Repeat

variable {D : Type}

/-! ## The parts of the lines above -/

/-- The lines below the last layout line. -/
def sinceLayout (previous : List (ParsedLine D)) : List (ParsedLine D) :=
  previous.rtakeWhile (!·.isLayout)

/-- The unparsed lines at the end of these, as many as there are. -/
def unreadEnd (previous : List (ParsedLine D)) : List (ParsedLine D) :=
  (sinceLayout previous).rtakeWhile (!·.parsed)

/-- The lines since the last layout line without the unparsed ones at their end. -/
def heard (previous : List (ParsedLine D)) : List (ParsedLine D) :=
  (sinceLayout previous).rdropWhile (!·.parsed)

/-- The run of parsed lines that these end with, as long as it is. -/
def lastRun (previous : List (ParsedLine D)) : List (ParsedLine D) :=
  (heard previous).rtakeWhile (·.parsed)

variable {previous : List (ParsedLine D)}

theorem heard_append_unreadEnd (previous : List (ParsedLine D)) :
    heard previous ++ unreadEnd previous = sinceLayout previous :=
  List.rdropWhile_append_rtakeWhile

/-- What is heard ends with a parsed line. -/
theorem parsed_getLast_heard (h : heard previous ≠ []) :
    ((heard previous).getLast h).parsed = true := by
  have hlast := List.rdropWhile_last_not (fun l : ParsedLine D => !l.parsed) _ h
  simp only [Bool.not_eq_true', Bool.not_eq_false] at hlast
  exact hlast

theorem heard_eq_nil_iff : heard previous = [] ↔ ∀ l ∈ heard previous, l.parsed = false := by
  constructor
  · intro h
    simp [h]
  · intro h
    by_contra hne
    have hlast := h _ (List.getLast_mem hne)
    rw [parsed_getLast_heard hne] at hlast
    cases hlast

theorem lastRun_eq_nil_iff : lastRun previous = [] ↔ heard previous = [] := by
  constructor
  · intro h
    by_contra hne
    exact List.rtakeWhile_eq_nil_iff.1 h hne (parsed_getLast_heard hne)
  · intro h
    rw [lastRun, h, List.rtakeWhile_nil]

theorem heard_eq_nil_iff_unread :
    heard previous = [] ↔ sinceLayout previous = unreadEnd previous := by
  rw [← heard_append_unreadEnd, List.append_left_eq_self]

/-! ## The search, nearest line first -/

section

variable {found above : List (ParsedLine D)}

/-- **Nothing above a layout line counts.** -/
theorem collect_takeWhile_content (found above : List (ParsedLine D)) :
    collect found (above.takeWhile (!·.isLayout)) = collect found above := by
  induction above generalizing found with
  | nil => rfl
  | cons l above ih =>
    cases hl : l.isLayout with
    | true => simp [collect, hl]
    | false =>
      rw [List.takeWhile_cons_of_pos (by simp [hl]), collect, collect, ih, ih]

/-- Unread lines are passed over while nothing has been found. -/
theorem collect_dropWhile_unread (content : ∀ l ∈ above, l.isLayout = false) :
    collect [] (above.dropWhile (!·.parsed)) = collect [] above := by
  induction above with
  | nil => rfl
  | cons l above ih =>
    obtain ⟨hl, habove⟩ := List.forall_mem_cons.1 content
    cases hp : l.parsed with
    | true => rw [List.dropWhile_cons_of_neg (by simp [hp])]
    | false =>
      rw [List.dropWhile_cons_of_pos (by simp [hp]), ih habove, collect, hl, hp]
      rfl

/-- Once a line has been found, the search goes on through parsed lines until the window is
full. -/
theorem collect_run (content : ∀ l ∈ above, l.isLayout = false) (hne : found ≠ [])
    (room : found.length < window) :
    collect found above =
      ((above.takeWhile (·.parsed)).take (window - found.length)).reverse ++ found := by
  induction above generalizing found with
  | nil => simp [collect]
  | cons l above ih =>
    obtain ⟨hl, habove⟩ := List.forall_mem_cons.1 content
    obtain ⟨k, hk⟩ : ∃ k, window - found.length = k + 1 := ⟨window - found.length - 1, by omega⟩
    cases hp : l.parsed with
    | false => simp [collect, hl, hp, hne]
    | true =>
      rw [List.takeWhile_cons_of_pos hp, hk, List.take_succ_cons, List.reverse_cons, collect, hl,
        hp]
      by_cases hfull : found.length + 1 = window
      · have hk0 : k = 0 := by omega
        simp [hfull, hk0]
      · have hk' : window - (l :: found).length = k := by
          rw [List.length_cons]
          omega
        have hrest := ih habove (List.cons_ne_nil l found) (by rw [List.length_cons]; omega)
        rw [hk'] at hrest
        simp [hfull, hrest]

/-- The search finds the first lines of the run behind the unread ones. -/
theorem collect_eq (content : ∀ l ∈ above, l.isLayout = false) :
    collect [] above =
      (((above.dropWhile (!·.parsed)).takeWhile (·.parsed)).take window).reverse := by
  rw [← collect_dropWhile_unread content]
  cases h : above.dropWhile (!·.parsed) with
  | nil => rfl
  | cons l r =>
    have hp : l.parsed = true := by
      have := List.head?_dropWhile_not (!·.parsed) above
      simpa [h] using this
    have hmem : ∀ m ∈ l :: r, m.isLayout = false := fun m hm =>
      content m ((List.dropWhile_suffix _).subset (h ▸ hm))
    obtain ⟨hl, hr⟩ := List.forall_mem_cons.1 hmem
    have hrun := collect_run hr (List.cons_ne_nil l []) (Nat.lt_succ_self 1)
    rw [List.takeWhile_cons_of_pos hp, collect, hl, hp]
    simpa [window] using hrun

end

/-- **The lines that a repeat finds** are the last ones of the last run. -/
theorem collect_lastRun (previous : List (ParsedLine D)) :
    collect [] previous.reverse = (lastRun previous).rtake window := by
  have content : ∀ l ∈ previous.reverse.takeWhile (!·.isLayout), l.isLayout = false := by
    intro l hl
    simpa using List.mem_takeWhile_imp hl
  rw [← collect_takeWhile_content, collect_eq content, List.rtake_eq_reverse_take_reverse]
  simp [lastRun, heard, sinceLayout, List.rtakeWhile, List.rdropWhile]

end Repeat

open Repeat

variable {D : Type}

/-- **What a repeat stands for.** It stands for nothing exactly if, without the unparsed lines at
the end, no line since the last layout line is parsed, that is, if all of these are unparsed.
Otherwise it stands for the last two lines, or the only one, of the run of parsed lines that comes
then, with their contributions in order. So nothing up to the last layout line counts. -/
theorem repeat_stands_for_last_run (previous : List (ParsedLine D)) :
    (resolve previous = none ↔ ∀ l ∈ heard previous, l.parsed = false) ∧
    (resolve previous = none ↔ sinceLayout previous = unreadEnd previous) ∧
    (∀ cs count, resolve previous = some (cs, count) ↔
      (∃ l ∈ heard previous, l.parsed = true) ∧ count = min 2 (lastRun previous).length ∧
        cs = ((lastRun previous).drop ((lastRun previous).length - count)).flatMap
          (·.contributions)) ∧
    resolve previous = resolve (sinceLayout previous) := by
  have hlen : ((lastRun previous).rtake window).length = min 2 (lastRun previous).length := by
    simp [List.rtake_eq_reverse_take_reverse, window]
  have hlast : (lastRun previous).drop ((lastRun previous).length -
      min 2 (lastRun previous).length) = (lastRun previous).rtake window := by
    rw [List.rtake, window]
    congr 1
    omega
  have hnil : (lastRun previous).rtake window = [] ↔ heard previous = [] := by
    rw [← List.length_eq_zero_iff, hlen, ← lastRun_eq_nil_iff, ← List.length_eq_zero_iff]
    omega
  have hnone : resolve previous = none ↔ heard previous = [] := by
    rw [resolve, collect_lastRun, ← hnil]
    simp
  refine ⟨hnone.trans heard_eq_nil_iff, hnone.trans heard_eq_nil_iff_unread, fun cs count => ?_, ?_⟩
  · have hsome : (∃ l ∈ heard previous, l.parsed = true) ↔ ¬ heard previous = [] := by
      rw [heard_eq_nil_iff]
      simp
    rw [hsome, ← hnil, resolve, collect_lastRun]
    by_cases h : (lastRun previous).rtake window = []
    · simp [h]
    · simp only [List.isEmpty_iff, h, if_false, Option.some.injEq, Prod.mk.injEq, hlen,
        not_false_eq_true, true_and]
      constructor
      · rintro ⟨rfl, rfl⟩
        exact ⟨rfl, by rw [hlast]⟩
      · rintro ⟨rfl, rfl⟩
        exact ⟨by rw [hlast], rfl⟩
  · have hrun : lastRun (sinceLayout previous) = lastRun previous := by
      simp only [lastRun, heard, sinceLayout, List.rtakeWhile_idempotent]
    rw [resolve, resolve, collect_lastRun, collect_lastRun, hrun]

end SwimSets
