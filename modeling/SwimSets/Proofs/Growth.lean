import Mathlib.Algebra.Order.Ring.Rat
import Mathlib.Data.Nat.Fib.Basic
import SwimSets.Proofs.Blocks
import SwimSets.Proofs.Characters

/-!
# Repeats of repeats

A repeat is a parsed line like any other, so a repeat below it takes it in again. Below one line
that is understood the first repeat finds that line alone, and each later one the two lines just
above it (`Repeat.resolve_echo`). So the lines grow as the Fibonacci numbers do: `echo first k` is
what the line `k` lines below the first comes to, and one more repeat leads from each of these
sessions to the next (`Tally.lines_echo`).

Main result: `repeats_grow`.
-/

namespace SwimSets

variable {D : Type}

/-! ## What a repeat finds -/

namespace Repeat

variable {l m : ParsedLine D}

/-- A repeat below the only line takes it. -/
theorem resolve_one (parsed : l.parsed = true) (content : l.isLayout = false) :
    resolve [l] = some (l.contributions, 1) := by
  simp [resolve, collect, window, parsed, content]

/-- A repeat takes the two lines just above it. -/
theorem resolve_two (above : List (ParsedLine D)) (hl : l.parsed = true)
    (hm : m.parsed = true) (content : l.isLayout = false) (content' : m.isLayout = false) :
    resolve (above ++ [l, m]) = some (l.contributions ++ m.contributions, 2) := by
  simp [resolve, collect, window, hl, hm, content, content']

end Repeat

/-- What the line `k` lines below the first comes to, if all below it are repeats. -/
def echo (first : ParsedLine D) : Nat → ParsedLine D
  | 0 => first
  | k + 1 => .accepted (k + 2) "Repeat"
      (List.replicate (Nat.fib (k + 2)) first.contributions).flatten
      [.repeated (if k = 0 then 1 else 2)]

theorem contributions_echo (first : ParsedLine D) (k : Nat) : (echo first k).contributions =
    (List.replicate (Nat.fib (k + 1)) first.contributions).flatten := by
  cases k with
  | zero => simp [echo]
  | succ k => rfl

/-- The first repeat stands for one line, each later one for two. -/
theorem warningText_echo (first : ParsedLine D) (k : Nat) : (echo first (k + 1)).warningText =
    some (Warning.repeated (if k = 0 then 1 else 2)).message := by
  simp [echo, ParsedLine.accepted, ParsedLine.warningText, ParsedLine.hasWarning, Text.join]

section

variable {first : ParsedLine D} (parsed : first.parsed = true) (content : first.isLayout = false)
include parsed

theorem parsed_echo (k : Nat) : (echo first k).parsed = true := by
  cases k with
  | zero => exact parsed
  | succ k => rfl

omit parsed
include content

theorem content_echo (k : Nat) : (echo first k).isLayout = false := by
  cases k with
  | zero => exact content
  | succ k => rfl

include parsed

/-- What a repeat finds below them. -/
theorem Repeat.resolve_echo (n : Nat) :
    resolve ((List.range (n + 1)).map (echo first)) =
      some ((List.replicate (Nat.fib (n + 2)) first.contributions).flatten,
        if n = 0 then 1 else 2) := by
  cases n with
  | zero => simpa [echo] using resolve_one parsed content
  | succ n =>
    have hlines : (List.range (n + 2)).map (echo first) =
        (List.range n).map (echo first) ++ [echo first n, echo first (n + 1)] := by
      simp [List.range_succ]
    rw [hlines, resolve_two _ (parsed_echo parsed _) (parsed_echo parsed _)
      (content_echo content _) (content_echo content _), contributions_echo, contributions_echo,
      ← List.flatten_append, List.replicate_append_replicate, ← Nat.fib_add_two]
    rfl

end

/-! ## Sizes -/

/-- A settled line that is understood contributes something and is no layout. -/
theorem ParsedLine.Settled.of_parsed {l : ParsedLine D} (h : l.Settled) (parsed : l.parsed = true) :
    l.contributions ≠ [] ∧ l.isLayout = false := by
  rcases h.2 with ⟨-, hne, hreason⟩ | ⟨hp, -⟩
  · exact ⟨hne, by simp [isLayout, hreason]⟩
  · rw [parsed] at hp
    cases hp

/-- Fibonacci numbers double every two steps at least. -/
theorem two_pow_le_fib (k : Nat) : 2 ^ (k / 2) ≤ Nat.fib (k + 1) := by
  induction k using Nat.twoStepInduction with
  | zero | one => decide
  | more k ih =>
    have hmono : Nat.fib (k + 1) ≤ Nat.fib (k + 1 + 1) := Nat.fib_le_fib_succ
    have hhalf : (k + 2) / 2 = k / 2 + 1 := by omega
    rw [hhalf, Nat.pow_succ, Nat.fib_add_two]
    omega

/-- The sum of repeated contributions, in whatever way the distances are read. -/
theorem sum_flatten_replicate (metres : D → Rat) (n : Nat) (cs : List (Contribution D)) :
    ((List.replicate n cs).flatten.map fun c => metres c.distance).sum =
      n * (cs.map fun c => metres c.distance).sum := by
  induction n with
  | zero => simp
  | succ n ih =>
    rw [List.replicate_succ, List.flatten_cons, List.map_append, List.sum_append, ih]
    push_cast
    ring

/-! ## Reading repeats -/

variable [Metres D]

theorem parseLine_repeat [Speller] (number : Nat) {previous : List (ParsedLine D)}
    {cs : List (Contribution D)} {count : Nat} (h : Repeat.resolve previous = some (cs, count)) :
    parseLine number "Repeat" previous = .accepted number "Repeat" cs [.repeated count] := by
  have hkind : LineKind.of "Repeat" = .content := by decide +kernel
  have hasked : Repeat.isAsked (LineView.of "Repeat").normalized = true := by
    show Repeat.isAsked (normalize "Repeat") = true
    rw [normalize_of_plain (by decide)]
    decide +kernel
  simp only [parseLine, hkind, parseContent, hasked, if_true, h]

/-- **One more repeat.** -/
theorem Tally.lines_echo [Speller] {first : ParsedLine D} (parsed : first.parsed = true)
    (content : first.isLayout = false) {t : Tally D} {n : Nat}
    (ht : t.lines = (List.range (n + 1)).map (echo first)) :
    (t.read "Repeat").lines = (List.range (n + 2)).map (echo first) := by
  have hnumber : t.lines.length + 1 = n + 2 := by simp [ht]
  have hlines : (List.range (n + 2)).map (echo first) =
      (List.range (n + 1)).map (echo first) ++ [echo first (n + 1)] := by
    simp [List.range_succ]
  rw [lines_read, hnumber, ht, hlines, parseLine_repeat _ (Repeat.resolve_echo parsed content n)]
  rfl

/-- Repeats below a line that is understood. -/
theorem Tally.lines_echoes [Speller] {first : ParsedLine D} (parsed : first.parsed = true)
    (content : first.isLayout = false) {t : Tally D} (ht : t.lines = [first]) (n : Nat) :
    ((List.replicate n "Repeat".toList).foldl read t).lines =
      (List.range (n + 1)).map (echo first) := by
  induction n with
  | zero => simpa [echo] using ht
  | succ n ih =>
    rw [List.replicate_succ', List.foldl_append]
    exact lines_echo parsed content ih

/-- **The session of a line and repeats**, line by line. -/
theorem lines_parse_repeats [Speller] {raw text : Text} {n : Nat}
    (written : text.lines = raw :: List.replicate n "Repeat".toList)
    (parsed : (parseLine (D := D) 1 raw []).parsed = true) :
    (parse text : Tally D).lines = (List.range (n + 1)).map (echo (parseLine 1 raw [])) := by
  have settled := (parseLine_verdict (D := D) 1 raw []).settled (by simp)
  rw [parse, written, List.foldl_cons]
  exact Tally.lines_echoes parsed (settled.of_parsed parsed).2 rfl n

/-- **Repeats of repeats grow as the Fibonacci numbers do.** Below a line that is understood stand
any number of repeats. All lines are understood, and the line `k` lines below the first has its
contributions as often as the Fibonacci number `k + 1` says, so its exact distance is that many
times as long. The first repeat stands for one line and each later one for two. The number of
contributions doubles at least with every second line. -/
theorem repeats_grow [Speller] {raw text : Text} {n : Nat}
    (written : text.lines = raw :: List.replicate n "Repeat".toList)
    (parsed : (parseLine (D := D) 1 raw []).parsed = true) :
    let first : ParsedLine D := parseLine 1 raw []
    let lines := (parse text : Tally D).lines
    lines.length = n + 1 ∧ ∀ k l, lines[k]? = some l →
      l.parsed = true ∧
      l.contributions = (List.replicate (Nat.fib (k + 1)) first.contributions).flatten ∧
      l.contributions.length = Nat.fib (k + 1) * first.contributions.length ∧
      (∀ metres : D → Rat, (l.contributions.map fun c => metres c.distance).sum =
        Nat.fib (k + 1) * (first.contributions.map fun c => metres c.distance).sum) ∧
      2 ^ (k / 2) ≤ l.contributions.length ∧
      (k = 1 → l.warningText = some "Repeated previous 1 line(s)".toList) ∧
      (2 ≤ k → l.warningText = some "Repeated previous 2 line(s)".toList) := by
  intro first lines
  have settled : first.Settled := (parseLine_verdict 1 raw []).settled (by simp)
  have hlines : lines = (List.range (n + 1)).map (echo first) := lines_parse_repeats written parsed
  refine ⟨by simp [hlines], fun k l hl => ?_⟩
  obtain rfl : echo first k = l := by
    rw [hlines, List.getElem?_map, Option.map_eq_some_iff] at hl
    obtain ⟨i, hi, hl⟩ := hl
    obtain ⟨hlt, rfl⟩ := List.getElem?_eq_some_iff.1 hi
    simpa using hl
  have hcs := contributions_echo first k
  have hlength : (echo first k).contributions.length =
      Nat.fib (k + 1) * first.contributions.length := by
    simp [hcs]
  refine ⟨parsed_echo parsed k, hcs, hlength, fun metres => ?_, ?_, ?_, ?_⟩
  · rw [hcs, sum_flatten_replicate]
  · rw [hlength]
    have hpos := List.length_pos_iff.2 (settled.of_parsed parsed).1
    exact (two_pow_le_fib k).trans (Nat.le_mul_of_pos_right _ hpos)
  · intro hk
    rw [hk, warningText_echo]
    rfl
  · intro hk
    obtain ⟨j, rfl⟩ := Nat.exists_eq_add_of_le' hk
    rw [warningText_echo, if_neg (Nat.succ_ne_zero j)]
    rfl

theorem repeats_grow_hundreds :
    let raw : Text := "100m bk"
    let text : Text := "100m bk\nRepeat\nRepeat\nRepeat"
    let lines := (parse text : Tally Rat).lines
    text.lines = raw :: List.replicate 3 "Repeat".toList ∧
      (parseLine (D := Rat) 1 raw []).parsed = true ∧ lines.length = 4 ∧
      ∀ l, lines[3]? = some l → l.parsed = true ∧
        l.contributions = (List.replicate (Nat.fib 4) [⟨.backstroke, .swim, 100⟩]).flatten := by
  intro raw text lines
  have written : text.lines = raw :: List.replicate 3 "Repeat".toList := by decide +kernel
  have parsed : (parseLine (D := Rat) 1 raw []).parsed = true := by decide +kernel
  have hraw : (parseLine (D := Rat) 1 raw []).contributions = [⟨.backstroke, .swim, 100⟩] := by
    decide +kernel
  obtain ⟨hlength, hlines⟩ := repeats_grow written parsed
  refine ⟨written, parsed, hlength, fun l hl => ?_⟩
  obtain ⟨hl, hcs, -⟩ := hlines 3 l hl
  rw [hraw] at hcs
  exact ⟨hl, hcs⟩

end SwimSets
