import Mathlib.Data.List.Pairwise
import SwimSets.Proofs.CheckedKeywords
import SwimSets.Proofs.Keywords

/-!
# Which occurrences of a keyword are found

**Places.** The characters of a keyword stand at some places of a text (`Keyword.OccursAt`), and at
some of these neither edge runs on (`Keyword.StandsAt`). The search does not look at all of the
former: it takes the leftmost, goes on behind it, and so on (`Keyword.looked`). Of the places where
it looks it finds those where the keyword stands (`Keyword.mem_find_iff`).

**Hidden places** (`Keyword.Hidden`). A place is passed over exactly if the search looked at an
earlier one that reaches into it (`Keyword.mem_looked_iff`). The edges do not matter for that, so a
place that is looked at and dropped can hide one where the keyword does stand.

**Tangled keywords** (`Keyword.Tangled`). This takes a keyword that ends as it begins, and whose
first edge is clear inside of itself. Of the words for strokes and activities that is "3-3-3" alone
(`Keyword.tangled_iff_of_mem_words`).

Main results: `keyword_found_iff`, and `keyword_hidden_threes` for a text with a hidden place.
-/

namespace SwimSets

open Scanner

namespace Span

theorem overlaps_eq_false_iff {a b : Span} :
    a.overlaps b = false ↔ a.stop ≤ b.start ∨ b.stop ≤ a.start := by
  simp only [overlaps, Bool.and_eq_false_iff, decide_eq_false_iff_not, Nat.not_lt]
  exact or_comm

theorem overlaps_comm (a b : Span) : a.overlaps b = b.overlaps a := Bool.and_comm ..

instance : Std.Symm fun a b : Span => a.overlaps b = false :=
  ⟨fun a b h => (overlaps_comm b a).trans h⟩

end Span

namespace Keyword

variable {w t : Text} {r s : Span}

/-! ## Places -/

/-- The characters of the word stand at that place of the text. -/
structure OccursAt (w t : Text) (s : Span) : Prop where
  stop : s.stop = s.start + w.length
  reads : w <+: t.drop s.start

/-- They stand there, and neither the first nor the last of them runs on. -/
structure StandsAt (w t : Text) (s : Span) : Prop extends OccursAt w t s where
  before : ∀ c ∈ w.head?, edgeClear c (t.take s.start).getLast? = true
  after : ∀ c ∈ w.getLast?, edgeClear c (t.drop s.stop).head? = true

/-- A condition on an edge is tried on the character there, if there is one. -/
instance decidableForallEdge {p : Char → Prop} [DecidablePred p] (o : Option Char) :
    Decidable (∀ c ∈ o, p c) :=
  Option.decidableForallMem o

/-- The places at which the search for the word looks. -/
def looked (w t : Text) : List Span := ((word w).hits t).map (·.span)

/-- The search has looked at an earlier place that reaches into this one. -/
def Hidden (w t : Text) (s : Span) : Prop :=
  ∃ r ∈ looked w t, r.start < s.start ∧ s.start < r.stop

theorem OccursAt.cursor_reads (h : OccursAt w t s) :
    (Cursor.place t s.start).Reads w (Cursor.place t s.stop) := by
  obtain ⟨v, hv⟩ := h.reads
  rw [h.stop, ← Cursor.place_advance]
  exact Cursor.reads_advance hv.symm

theorem OccursAt.start_lt (hw : w ≠ []) (h : OccursAt w t s) : s.start < t.length := by
  have hlen := h.reads.length_le
  have := List.length_pos_iff.2 hw
  rw [List.length_drop] at hlen
  omega

/-! ## The search -/

/-- What the search reads at a place where it looks. -/
theorem mem_hits_occurrence {x y : Char} {h : Hit Bool} (hw : w ≠ [])
    (m : h ∈ (occurrence x y w).hits t) :
    OccursAt w t h.span ∧ h.value = (edgeClear x (t.take h.span.start).getLast? &&
      edgeClear y (t.drop h.span.stop).head?) := by
  obtain ⟨d, hd, hstop⟩ := eq_some_of_mem_hits m
  obtain ⟨hr, hv⟩ := occurrence_eq_some.1 hd
  have hstop := hstop w hw hr
  rw [hr.eq_place, ← hstop] at hv
  exact ⟨⟨hstop, d.rest, hr.rest.symm⟩, hv⟩

theorem mem_looked {x y : Char} :
    s ∈ looked w t ↔ ∃ h ∈ (occurrence x y w).hits t, h.span = s := by
  rw [looked, hits_word x y, List.mem_map]

theorem OccursAt.of_looked (hw : w ≠ []) (h : s ∈ looked w t) : OccursAt w t s := by
  obtain ⟨g, hg, rfl⟩ := (mem_looked (x := w.head hw) (y := w.getLast hw)).1 h
  exact (mem_hits_occurrence hw hg).1

/-- Every occurrence starts inside of one that is looked at. -/
theorem exists_looked (hw : w ≠ []) (h : OccursAt w t s) :
    ∃ r ∈ looked w t, r.start ≤ s.start ∧ s.start < r.stop := by
  obtain ⟨g, hg, hle, hlt⟩ :=
    mem_hits_of_reads (h.start_lt hw) (word_eq_some (u := ()) |>.2 h.cursor_reads)
  exact ⟨g.span, List.mem_map_of_mem hg, hle, hlt⟩

theorem looked_pairwise (w t : Text) :
    (looked w t).Pairwise fun a b => a.stop ≤ b.start :=
  List.pairwise_map.2 (hits_pairwise _ t)

/-- No two places at which the search looks overlap. -/
theorem apart_of_looked (hr : r ∈ looked w t) (hs : s ∈ looked w t) (hne : r ≠ s) :
    r.overlaps s = false :=
  ((looked_pairwise w t).imp fun h => Span.overlaps_eq_false_iff.2 (.inl h)).forall hr hs hne

/-- **The search looks at an occurrence unless it is hidden.** -/
theorem mem_looked_iff (hw : w ≠ []) : s ∈ looked w t ↔ OccursAt w t s ∧ ¬ Hidden w t s := by
  constructor
  · intro h
    refine ⟨.of_looked hw h, ?_⟩
    rintro ⟨r, hr, hlt, hin⟩
    have hne : r ≠ s := by
      rintro rfl
      exact Nat.lt_irrefl _ hlt
    have := Span.overlaps_eq_false_iff.1 (apart_of_looked hr h hne)
    have := (OccursAt.of_looked hw h).stop
    omega
  · rintro ⟨h, hfree⟩
    obtain ⟨r, hr, hle, hlt⟩ := exists_looked hw h
    have hstart : r.start = s.start := by
      by_contra hne
      exact hfree ⟨r, hr, by omega, hlt⟩
    have hstop : r.stop = s.stop := by
      rw [(OccursAt.of_looked hw hr).stop, h.stop, hstart]
    obtain rfl : r = s := by
      cases r
      cases s
      simp_all
    exact hr

/-- **The search finds the keyword where it looks and the keyword stands.** -/
theorem mem_find_iff (hw : w ≠ []) : s ∈ find w t ↔ s ∈ looked w t ∧ StandsAt w t s := by
  have hfind : s ∈ find w t ↔
      ∃ h ∈ (occurrence (w.head hw) (w.getLast hw) w).hits t, h.value = true ∧ h.span = s := by
    simp [find, List.head?_eq_some_head hw, List.getLast?_eq_some_getLast hw]
  have hclear {g : Hit Bool} (hg : g ∈ (occurrence (w.head hw) (w.getLast hw) w).hits t) :
      g.value = true ↔ StandsAt w t g.span := by
    obtain ⟨ho, hv⟩ := mem_hits_occurrence hw hg
    rw [hv, Bool.and_eq_true]
    constructor
    · rintro ⟨hbefore, hafter⟩
      refine ⟨ho, ?_, ?_⟩
      · rw [List.head?_eq_some_head hw]
        rintro c ⟨⟩
        exact hbefore
      · rw [List.getLast?_eq_some_getLast hw]
        rintro c ⟨⟩
        exact hafter
    · intro h
      exact ⟨h.before _ (List.head?_eq_some_head hw), h.after _ (List.getLast?_eq_some_getLast hw)⟩
  rw [hfind, mem_looked (x := w.head hw) (y := w.getLast hw)]
  constructor
  · rintro ⟨g, hg, hv, rfl⟩
    exact ⟨⟨g, hg, rfl⟩, (hclear hg).1 hv⟩
  · rintro ⟨⟨g, hg, rfl⟩, h⟩
    exact ⟨g, hg, (hclear hg).2 h, rfl⟩

theorem isIn_iff_exists_mem_find : isIn w t = true ↔ ∃ s, s ∈ find w t := by
  rw [isIn, Bool.not_eq_true', List.isEmpty_eq_false_iff_exists_mem]

/-! ## Keywords that hide themselves -/

/-- Shifted by some of its characters the word agrees with itself, and its first edge is clear
there. -/
def Tangled (w : Text) : Prop :=
  ∃ k < w.length, 0 < k ∧ w.drop k <+: w ∧ ∀ c ∈ w.head?, edgeClear c (w.take k).getLast? = true

instance (w : Text) : Decidable (Tangled w) := inferInstanceAs (Decidable (∃ k < w.length, _))

/-- A place where a keyword stands is hidden only if the keyword is tangled. -/
theorem tangled_of_hidden (hw : w ≠ []) (hs : StandsAt w t s) (h : Hidden w t s) : Tangled w := by
  obtain ⟨r, hr, hlt, hin⟩ := h
  obtain ⟨v, hv⟩ := (OccursAt.of_looked hw hr).reads
  have hstop := (OccursAt.of_looked hw hr).stop
  obtain ⟨k, hk⟩ : ∃ k, s.start = r.start + k := ⟨s.start - r.start, by omega⟩
  have hkw : k < w.length := by omega
  have hdrop : t.drop s.start = w.drop k ++ v := by
    rw [hk, ← List.drop_drop, ← hv, List.drop_append_of_le_length hkw.le]
  have htake : t.take s.start = t.take r.start ++ w.take k := by
    rw [hk, List.take_add, ← hv, List.take_append_of_le_length hkw.le]
  refine ⟨k, hkw, by omega, ?_, fun c hc => ?_⟩
  · have hself : w <+: w.drop k ++ v := hdrop ▸ hs.reads
    exact List.prefix_of_prefix_length_le (List.prefix_append ..) hself (by simp)
  · have hne : w.take k ≠ [] := by
      rw [← List.length_pos_iff, List.length_take]
      omega
    have hclear := hs.before c hc
    rwa [htake, List.getLast?_append, List.getLast?_eq_some_getLast hne, Option.some_or,
      ← List.getLast?_eq_some_getLast hne] at hclear

/-- For a tangled keyword there is a text with a hidden place. -/
theorem exists_hidden (hw : w ≠ []) (h : Tangled w) : ∃ t s, StandsAt w t s ∧ Hidden w t s := by
  obtain ⟨k, hk, hpos, hself, hclear⟩ := h
  have hlen : (w.take k).length = k := List.length_take_of_le hk.le
  -- The word stands behind its own first characters, and it can be read from the start as well.
  have hfirst : OccursAt w (w.take k ++ w) ⟨0, w.length⟩ := by
    refine ⟨(Nat.zero_add _).symm, ?_⟩
    have := (List.prefix_append_right_inj (w.take k)).2 hself
    rwa [List.take_append_drop] at this
  obtain ⟨r, hr, hle, hlt⟩ := exists_looked hw hfirst
  have hstart : r.start = 0 := Nat.le_zero.1 hle
  have hstop : r.stop = w.length := by rw [(OccursAt.of_looked hw hr).stop, hstart, Nat.zero_add]
  refine ⟨w.take k ++ w, ⟨k, k + w.length⟩, ⟨⟨rfl, ?_⟩, fun c hc => ?_, fun c hc => ?_⟩, r, hr, ?_⟩
  · rw [List.drop_append_of_le_length hlen.ge, List.drop_of_length_le hlen.le, List.nil_append]
  · rw [List.take_append_of_le_length hlen.ge, List.take_take, Nat.min_self]
    exact hclear c hc
  · rw [List.drop_of_length_le (by simp [hlen])]
    rfl
  · show r.start < k ∧ k < r.stop
    omega

/-- The words that make a stroke or an activity known. -/
def words : List Text := strokeWords.map (·.1) ++ drillWords ++ activityWords.map (·.1)

/-- Of all these words one can hide itself. -/
theorem tangled_iff_of_mem_words : ∀ w ∈ words, Tangled w ↔ w = "3-3-3".toList := by
  decide +kernel

end Keyword

open Keyword

/-- **Which occurrences are found.** A keyword is found only where it stands, one place ending
before the next starts. A place where it stands is found unless it is hidden, so the keyword is in
the text exactly if it stands somewhere unhidden; and a place where it stands is found or overlaps
one that is, unless it is hidden and stands at no place overlapping it that was looked at. A
keyword is found wherever it stands, in every text, exactly if it is not tangled. -/
theorem keyword_found_iff {w : Text} (hw : w ≠ []) (t : Text) :
    (∀ s ∈ find w t, StandsAt w t s) ∧
    (find w t).Pairwise (fun a b => a.stop ≤ b.start) ∧
    (∀ s, StandsAt w t s → (s ∈ find w t ↔ ¬ Hidden w t s)) ∧
    (isIn w t = true ↔ ∃ s, StandsAt w t s ∧ ¬ Hidden w t s) ∧
    (∀ s, StandsAt w t s → ((s ∈ find w t ∨ ∃ r ∈ find w t, r.overlaps s = true) ↔
      (Hidden w t s → ∃ r ∈ looked w t, StandsAt w t r ∧ r.overlaps s = true))) ∧
    ((∀ u s, StandsAt w u s → s ∈ find w u) ↔ ¬ Tangled w) := by
  have hfound {u : Text} {s : Span} (hs : StandsAt w u s) : s ∈ find w u ↔ ¬ Hidden w u s := by
    rw [mem_find_iff hw, mem_looked_iff hw]
    exact ⟨fun h => h.1.2, fun h => ⟨⟨hs.toOccursAt, h⟩, hs⟩⟩
  refine ⟨fun s h => ((mem_find_iff hw).1 h).2, find_pairwise w t, fun s => hfound, ?_,
    fun s hs => ?_, ?_⟩
  · rw [isIn_iff_exists_mem_find]
    refine exists_congr fun s => ⟨fun h => ?_, fun h => (hfound h.1).2 h.2⟩
    have hs := ((mem_find_iff hw).1 h).2
    exact ⟨hs, (hfound hs).1 h⟩
  · simp only [hfound hs, mem_find_iff hw, and_assoc]
    exact (Classical.or_iff_not_imp_left).trans (by rw [not_not])
  · constructor
    · rintro h htangled
      obtain ⟨u, s, hs, hhidden⟩ := exists_hidden hw htangled
      exact (hfound hs).1 (h u s hs) hhidden
    · exact fun h u s hs => (hfound hs).2 fun hhidden => h (tangled_of_hidden hw hs hhidden)

/-- A drill that stands in a text, and one that is hidden there. -/
theorem keyword_found_threes :
    let w : Text := "3-3-3"
    let t : Text := "50m fc 3-3-3, 50m bk 13-3-3-3"
    w ≠ [] ∧ (∀ s ∈ find w t, StandsAt w t s) ∧
      (∀ s, StandsAt w t s → (s ∈ find w t ↔ ¬ Hidden w t s)) ∧
      (isIn w t = true ↔ ∃ s, StandsAt w t s ∧ ¬ Hidden w t s) ∧
      ¬ ∀ u s, StandsAt w u s → s ∈ find w u :=
  ⟨by decide, (keyword_found_iff (by decide) _).1, (keyword_found_iff (by decide) _).2.2.1,
    (keyword_found_iff (by decide) _).2.2.2.1,
    fun h => (keyword_found_iff (by decide) []).2.2.2.2.2.1 h (by decide)⟩

/-- Behind a digit the first three threes of a chain are no keyword. They hide the last three,
which are. -/
theorem keyword_hidden_threes :
    StandsAt "3-3-3" "13-3-3-3" ⟨3, 8⟩ ∧ isIn "3-3-3" "13-3-3-3" = false :=
  ⟨⟨⟨rfl, by decide⟩, by decide, by decide⟩, by decide⟩

end SwimSets
