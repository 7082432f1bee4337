import SwimSets.Proofs.Figures

/-!
# Starts and readings

Two functions look for distances without repetitions. One lists where they start, the other reads
the first of them. Both go by the same figures, those with a measure and the whole lengths
(`Figure.IsDistance`), and they part at a figure with a measure whose number is too large to hold:
its start is listed, since nobody looks at the number, but no distance is read from it.

**Theorem (`starts_and_reading`).** What is read starts at one of the listed starts. The two agree
on whether there is a distance exactly if the leftmost figure with a measure can be held, or there
is none. A figure that cannot be held is listed exactly if it has a measure.

So a number that cannot be held counts as a start, and hides the other distances of the text
(`starts_without_reading`). Without a measure it does neither: whole lengths are looked at before
they count.
-/

namespace SwimSets

open Scanner

variable {t : Text}

namespace Distance

/-- **What is read without repetitions.** The leftmost figure with a measure, and where there is
none the leftmost that is whole lengths. -/
theorem readBare_eq_some_iff {d : Nat × Span} :
    readBare t = some d ↔
      (∃ f : Figure t, f.Leftmost Figure.IsMeasured ∧ readNumber f.digits = some d.1 ∧
        d.2 = (f.hit (measureOf f.after)).span) ∨
      (∀ f : Figure t, ¬ f.IsMeasured) ∧ ∃ f : Figure t, f.Leftmost Figure.IsLengths ∧
        readNumber f.digits = some d.1 ∧ d.2 = (f.hit f.after.firstWord).span := by
  obtain ⟨n, span⟩ := d
  rw [readBare]
  cases hm : measured.firstHit t with
  | none =>
    have hnone := measured_readsFigures.firstHit_eq_none_iff.1 hm
    rw [wholeLengths_head?_iff]
    constructor
    · exact fun h => .inr ⟨hnone, h⟩
    · rintro (⟨f, hf, -⟩ | ⟨-, h⟩)
      · exact absurd hf.1 (hnone f)
      · exact h
  | some h =>
    obtain ⟨f, hf, rfl⟩ := measured_readsFigures.firstHit_eq_some_iff.1 hm
    simp only [Option.map_eq_some_iff, Prod.mk.injEq]
    constructor
    · rintro ⟨k, hk, rfl, rfl⟩
      exact .inl ⟨f, hf, hk, rfl⟩
    · rintro (⟨g, hg, hn, rfl⟩ | ⟨hnone, -⟩)
      · obtain rfl := hf.eq hg
        exact ⟨n, hn, rfl, rfl⟩
      · exact absurd hf.1 (hnone f)

/-- What is read is one of the distances of the text. -/
theorem exists_of_readBare {d : Nat × Span} (h : readBare t = some d) :
    ∃ f : Figure t, f.IsDistance ∧ f.start = d.2.start ∧ readNumber f.digits = some d.1 := by
  rcases readBare_eq_some_iff.1 h with ⟨f, hf, hn, hspan⟩ | ⟨-, f, hf, hn, hspan⟩
  · exact ⟨f, .inl hf.1, (congrArg Span.start hspan).symm, hn⟩
  · exact ⟨f, .inr hf.1, (congrArg Span.start hspan).symm, hn⟩

/-- **Where nothing is read without repetitions.** There is no distance, or the leftmost figure with
a measure cannot be held. -/
theorem readBare_eq_none_iff :
    readBare t = none ↔
      (∃ f : Figure t, f.Leftmost Figure.IsMeasured ∧ readNumber f.digits = none) ∨
      ∀ f : Figure t, ¬ f.IsDistance := by
  rw [readBare]
  cases hm : measured.firstHit t with
  | none =>
    have hnone := measured_readsFigures.firstHit_eq_none_iff.1 hm
    rw [List.head?_eq_none_iff, List.eq_nil_iff_forall_not_mem]
    constructor
    · intro h
      refine .inr fun f => not_or.2 ⟨hnone f, ?_⟩
      rintro ⟨hf, n, hn, hlengths⟩
      exact h (n, _) (mem_wholeLengths_iff.2 ⟨f, hf, hn, hlengths, rfl⟩)
    · rintro (⟨f, hf, -⟩ | h) d hd
      · exact hnone f hf.1
      · obtain ⟨f, hf, hn, hlengths, -⟩ := mem_wholeLengths_iff.1 hd
        exact h f (.inr ⟨hf, d.1, hn, hlengths⟩)
  | some h =>
    obtain ⟨f, hf, rfl⟩ := measured_readsFigures.firstHit_eq_some_iff.1 hm
    rw [Option.map_eq_none_iff]
    constructor
    · exact fun hn => .inl ⟨f, hf, hn⟩
    · rintro (⟨g, hg, hn⟩ | hnone)
      · rwa [hf.eq hg]
      · exact absurd (.inl hf.1) (hnone f)

theorem starts_ne_nil_iff : starts t ≠ [] ↔ ∃ f : Figure t, f.IsDistance := by
  rw [Ne, List.eq_nil_iff_forall_not_mem, not_forall]
  simp only [not_not, mem_starts_iff]
  exact ⟨fun ⟨_, f, hf, _⟩ => ⟨f, hf⟩, fun ⟨f, hf⟩ => ⟨_, f, hf, rfl⟩⟩

end Distance

/-- **Theorem (starts and readings).** What is read starts at a listed start. Start list and
reading agree on whether the text has a distance exactly if the leftmost figure with a measure, if
there is one, can be held. And a figure that cannot be held is listed exactly if it has a
measure. -/
theorem starts_and_reading (t : Text) :
    (∀ d, Distance.readBare t = some d → d.2.start ∈ Distance.starts t) ∧
    ((Distance.starts t ≠ [] ↔ ∃ d, Distance.readBare t = some d) ↔
      ∀ f : Figure t, f.Leftmost Figure.IsMeasured → ∃ n, readNumber f.digits = some n) ∧
    ∀ f : Figure t, readNumber f.digits = none →
      (f.start ∈ Distance.starts t ↔ f.IsMeasured) := by
  have listed {d : Nat × Span} (h : Distance.readBare t = some d) :
      d.2.start ∈ Distance.starts t := by
    obtain ⟨f, hf, hstart, -⟩ := Distance.exists_of_readBare h
    exact Distance.mem_starts_iff.2 ⟨f, hf, hstart⟩
  refine ⟨fun _ => listed, ?_, fun f hf => ?_⟩
  · rw [Distance.starts_ne_nil_iff]
    constructor
    · intro agree f hf
      refine Option.ne_none_iff_exists'.1 fun hnone => ?_
      obtain ⟨d, hd⟩ := agree.1 ⟨f, .inl hf.1⟩
      rw [Distance.readBare_eq_none_iff.2 (.inl ⟨f, hf, hnone⟩)] at hd
      cases hd
    · intro fits
      constructor
      · rintro ⟨f, hf⟩
        refine Option.ne_none_iff_exists'.1 fun hnone => ?_
        rcases Distance.readBare_eq_none_iff.1 hnone with ⟨g, hg, hnone⟩ | hnone
        · obtain ⟨n, hn⟩ := fits g hg
          rw [hnone] at hn
          cases hn
        · exact hnone f hf
      · rintro ⟨d, hd⟩
        exact Distance.starts_ne_nil_iff.1 (List.ne_nil_of_mem (listed hd))
  · rw [Distance.mem_starts_iff]
    constructor
    · rintro ⟨g, hg, hstart⟩
      obtain rfl := Figure.eq_of_start hstart
      refine hg.resolve_right ?_
      rintro ⟨-, n, hn, -⟩
      rw [hf] at hn
      cases hn
    · exact fun h => ⟨f, .inl h, rfl⟩

/-- A number that is too large is listed as a start, and hides the distance behind it. -/
theorem starts_without_reading :
    (Distance.starts "99999999999m" = [0] ∧ Distance.readBare "99999999999m" = none) ∧
    Distance.starts "99999999999m then 50m" = [0, 18] ∧
    Distance.readBare "99999999999m then 50m" = none ∧
    Distance.readBare "50m" = some (50, ⟨0, 3⟩) := by
  decide +kernel

end SwimSets
