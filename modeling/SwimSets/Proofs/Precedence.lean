import Mathlib.Data.List.Induction
import Mathlib.Data.List.Pairwise
import SwimSets.Proofs.Occurrences
import SwimSets.Proofs.Strokes

/-!
# Which words for strokes are mentions

The words for strokes are tried in the order of their table, and a word is passed over where one
that was tried before has taken its place. Two readers of a text ask for strokes: one for all
mentions, the other for the first word of the table that is in the text.

**Taking places.** Words found in one text by one search keep no place from each other, so what the
words of the table before an entry have taken decides which of its words are mentions
(`Mention.mem_foldl_addTo_iff`). Each word found is a mention, or overlaps one of a word earlier in
the table (`mem_mentions_or_overlaps`).

**Theorem (`mentions_take_precedence`).** Mentions are in order and apart, each is found as one word
of the table, and a word found that is no mention overlaps a stronger one. The strokes of a text are
listed by first mention, and the stroke of the line is that of the strongest mention, so it is among
them.
-/

namespace SwimSets

open Keyword

/-! ## Taking places -/

namespace Mention

variable {m n : Mention} {ms taken : List Mention}

/-- The place of the mention is free. -/
def Free (taken : List Mention) (m : Mention) : Prop := ∀ n ∈ taken, n.span.overlaps m.span = false

theorem mem_addTo : n ∈ addTo taken m ↔ n ∈ taken ∨ n = m ∧ Free taken m := by
  have hfree : (taken.all fun k => !k.span.overlaps m.span) = true ↔ Free taken m := by
    simp [Free]
  unfold addTo
  split_ifs with h
  · rw [mem_insert, and_iff_left (hfree.1 h)]
    exact or_comm
  · rw [hfree] at h
    simp [h]

theorem mem_foldl_addTo (h : n ∈ taken) (ms : List Mention) : n ∈ ms.foldl addTo taken := by
  induction ms generalizing taken with
  | nil => exact h
  | cons m ms ih => exact ih (mem_addTo.2 (.inl h))

theorem mem_of_mem_foldl_addTo (h : n ∈ ms.foldl addTo taken) : n ∈ taken ∨ n ∈ ms := by
  induction ms generalizing taken with
  | nil => exact .inl h
  | cons m ms ih =>
    rcases ih h with h | h
    · rcases mem_addTo.1 h with h | ⟨rfl, -⟩
      · exact .inl h
      · exact .inr List.mem_cons_self
    · exact .inr (List.mem_cons_of_mem m h)

/-- **Mentions that are apart take their places where these were free before.** -/
theorem mem_foldl_addTo_iff (apart : ms.Pairwise fun a b => a.span.overlaps b.span = false) :
    n ∈ ms.foldl addTo taken ↔ n ∈ taken ∨ n ∈ ms ∧ Free taken n := by
  induction ms generalizing taken with
  | nil => simp
  | cons m ms ih =>
    obtain ⟨hm, hms⟩ := List.pairwise_cons.1 apart
    have hfree (h : n ∈ ms) : Free (addTo taken m) n ↔ Free taken n := by
      refine ⟨fun hf k hk => hf k (mem_addTo.2 (.inl hk)), fun hf k hk => ?_⟩
      rcases mem_addTo.1 hk with hk | ⟨rfl, -⟩
      · exact hf k hk
      · exact hm n h
    rw [List.foldl_cons, ih hms, mem_addTo, List.mem_cons, or_assoc]
    refine or_congr_right ?_
    constructor
    · rintro (⟨rfl, hf⟩ | ⟨h, hf⟩)
      · exact ⟨.inl rfl, hf⟩
      · exact ⟨.inr h, (hfree h).1 hf⟩
    · rintro ⟨rfl | h, hf⟩
      · exact .inl ⟨rfl, hf⟩
      · exact .inr ⟨h, (hfree h).2 hf⟩

end Mention

/-! ## Mentions of a word -/

/-- Where an entry of the table is found in the text. -/
def ofEntry (t : Text) (entry : Text × Stroke) : List Mention :=
  (find entry.1 t).map fun span => ⟨entry.2, span⟩

/-- The mention is found as the word at that place of the table. -/
def Mention.IsOf (m : Mention) (t : Text) (i : Nat) : Prop :=
  ∃ entry, strokeWords[i]? = some entry ∧ m ∈ ofEntry t entry

variable {t : Text} {i j : Nat} {m n : Mention}

theorem candidates_eq_flatMap (t : Text) : candidates t = strokeWords.flatMap (ofEntry t) := rfl

theorem ofEntry_pairwise (t : Text) (entry : Text × Stroke) :
    (ofEntry t entry).Pairwise fun a b => a.span.overlaps b.span = false :=
  List.pairwise_map.2 <| (find_pairwise entry.1 t).imp fun h =>
    Span.overlaps_eq_false_iff.2 (.inl h)

/-- The text names no word but the one that stands there. -/
theorem eq_slice_of_mem_find {w : Text} (hw : w ≠ []) {s : Span} (h : s ∈ find w t) :
    w = s.of t := by
  have hs := ((mem_find_iff hw).1 h).2
  obtain ⟨v, hv⟩ := hs.reads
  rw [Span.of, Text.slice, List.drop_take, hs.stop, Nat.add_sub_cancel_left, ← hv,
    List.take_left]

/-- A mention is found as one word only. -/
theorem Mention.IsOf.unique (hi : m.IsOf t i) (hj : m.IsOf t j) : i = j := by
  have word {k : Nat} (h : m.IsOf t k) : (strokeWords.map (·.1))[k]? = some (m.span.of t) := by
    obtain ⟨entry, he, hm⟩ := h
    obtain ⟨s, hs, rfl⟩ := List.mem_map.1 hm
    have hne := (unbordered_strokeWords entry (List.mem_of_getElem? he)).1
    rw [List.getElem?_map, he, Option.map_some, ← eq_slice_of_mem_find hne hs]
  have hnodup : (strokeWords.map (·.1)).Nodup := by decide +kernel
  obtain ⟨hlt, -⟩ := List.getElem?_eq_some_iff.1 (word hi)
  exact (List.getElem?_inj hlt hnodup).1 ((word hi).trans (word hj).symm)

theorem Mention.IsOf.isIn (h : m.IsOf t i) :
    ∃ entry, strokeWords[i]? = some entry ∧ Keyword.isIn entry.1 t = true := by
  obtain ⟨entry, he, hm⟩ := h
  obtain ⟨s, hs, -⟩ := List.mem_map.1 hm
  exact ⟨entry, he, isIn_iff_exists_mem_find.2 ⟨s, hs⟩⟩

theorem exists_isOf_of_mem_mentions (h : m ∈ mentions t) : ∃ i, m.IsOf t i := by
  have hm := mem_candidates_of_mem_mentions h
  rw [candidates_eq_flatMap] at hm
  obtain ⟨entry, he, hm⟩ := List.mem_flatMap.1 hm
  obtain ⟨i, hi⟩ := List.mem_iff_getElem?.1 he
  exact ⟨i, entry, hi, hm⟩

/-- **A word that is found is a mention, or overlaps one of a word earlier in the table.** -/
theorem mem_mentions_or_overlaps (h : m.IsOf t i) : m ∈ mentions t ∨
    ∃ j < i, ∃ n ∈ mentions t, n.IsOf t j ∧ n.span.overlaps m.span = true := by
  obtain ⟨entry, he, hm⟩ := h
  obtain ⟨above, below, htable, hlen⟩ :
      ∃ above below, strokeWords = above ++ entry :: below ∧ above.length = i := by
    obtain ⟨hlt, rfl⟩ := List.getElem?_eq_some_iff.1 he
    refine ⟨strokeWords.take i, strokeWords.drop (i + 1), ?_, List.length_take_of_le hlt.le⟩
    rw [List.getElem_cons_drop, List.take_append_drop]
  have hmentions : mentions t = (below.flatMap (ofEntry t)).foldl Mention.addTo
      ((ofEntry t entry).foldl Mention.addTo
        ((above.flatMap (ofEntry t)).foldl Mention.addTo [])) := by
    rw [mentions, candidates_eq_flatMap, htable, List.flatMap_append, List.flatMap_cons,
      List.foldl_append, List.foldl_append]
  rw [hmentions]
  generalize htaken : (above.flatMap (ofEntry t)).foldl Mention.addTo [] = taken
  by_cases hfree : Mention.Free taken m
  · have hentry : m ∈ (ofEntry t entry).foldl Mention.addTo taken :=
      (Mention.mem_foldl_addTo_iff (ofEntry_pairwise t entry)).2 (.inr ⟨hm, hfree⟩)
    exact .inl (Mention.mem_foldl_addTo hentry _)
  · right
    simp only [Mention.Free, not_forall, Bool.not_eq_false] at hfree
    obtain ⟨n, hn, hover⟩ := hfree
    -- What has taken the place was found as a word above the entry.
    have habove : n ∈ above.flatMap (ofEntry t) :=
      (Mention.mem_of_mem_foldl_addTo (htaken ▸ hn)).resolve_left List.not_mem_nil
    obtain ⟨entry', he', hn'⟩ := List.mem_flatMap.1 habove
    obtain ⟨j, hj⟩ := List.mem_iff_getElem?.1 he'
    have hlt : j < above.length := (List.getElem?_eq_some_iff.1 hj).1
    have hj' : strokeWords[j]? = some entry' := by rw [htable, List.getElem?_append_left hlt, hj]
    exact ⟨j, hlen ▸ hlt, n, Mention.mem_foldl_addTo (Mention.mem_foldl_addTo hn _) _,
      ⟨entry', hj', hn'⟩, hover⟩

/-! ## The stroke of a text -/

/-- The mention is one of the text, found as the word at that place of the table, and none is found
as a word before that. -/
structure Mention.Strongest (m : Mention) (t : Text) (i : Nat) : Prop where
  mem : m ∈ mentions t
  isOf : m.IsOf t i
  least : ∀ j, ∀ n ∈ mentions t, n.IsOf t j → i ≤ j

theorem Mention.IsOf.stroke_eq (hm : m.IsOf t i) (hn : n.IsOf t i) : m.stroke = n.stroke := by
  obtain ⟨entry, he, hm⟩ := hm
  obtain ⟨_, he', hn⟩ := hn
  obtain rfl := Option.some.inj (he.symm.trans he')
  obtain ⟨_, -, rfl⟩ := List.mem_map.1 hm
  obtain ⟨_, -, rfl⟩ := List.mem_map.1 hn
  rfl

/-- **The stroke of a text is that of its strongest mention.** -/
theorem exists_strongest {s : Stroke} (h : strokeOf t = some s) :
    ∃ (i : Nat) (m : Mention), m.Strongest t i ∧ m.stroke = s := by
  obtain ⟨entry, hfind, rfl⟩ := Option.map_eq_some_iff.1 h
  obtain ⟨hin, i, hi, rfl, hfirst⟩ := List.find?_eq_some_iff_getElem.1 hfind
  have he := List.getElem?_eq_getElem hi
  have least : ∀ j, ∀ n ∈ mentions t, n.IsOf t j → i ≤ j := by
    intro j n _ hn
    by_contra hlt
    obtain ⟨entry, he', hin'⟩ := hn.isIn
    obtain ⟨hj, rfl⟩ := List.getElem?_eq_some_iff.1 he'
    have := hfirst j (Nat.lt_of_not_le hlt)
    rw [hin'] at this
    cases this
  -- The word that is found first takes its place, for no earlier one is found.
  obtain ⟨span, hspan⟩ := isIn_iff_exists_mem_find.1 hin
  have hof : Mention.IsOf ⟨strokeWords[i].2, span⟩ t i := ⟨_, he, List.mem_map_of_mem hspan⟩
  rcases mem_mentions_or_overlaps hof with hm | ⟨j, hj, n, hn, hnj, -⟩
  · exact ⟨i, _, ⟨hm, hof, least⟩, rfl⟩
  · exact absurd (least j n hn hnj) (Nat.not_le_of_lt hj)

theorem strokeOf_ne_none (h : m ∈ mentions t) : strokeOf t ≠ none := by
  obtain ⟨i, hi⟩ := exists_isOf_of_mem_mentions h
  obtain ⟨entry, he, hin⟩ := hi.isIn
  rw [strokeOf, lookUp, ne_eq, Option.map_eq_none_iff, List.find?_eq_none]
  exact fun hnone => hnone entry (List.mem_of_getElem? he) hin

theorem strokeOf_eq_none_iff : strokeOf t = none ↔ mentions t = [] := by
  constructor
  · intro h
    exact List.eq_nil_iff_forall_not_mem.2 fun m hm => strokeOf_ne_none hm h
  · intro h
    rw [Option.eq_none_iff_forall_ne_some]
    intro s hs
    obtain ⟨_, m, hm, -⟩ := exists_strongest hs
    exact List.not_mem_nil (h ▸ hm.mem)

theorem strokeOf_eq_some_iff {s : Stroke} :
    strokeOf t = some s ↔ ∃ (i : Nat) (m : Mention), m.Strongest t i ∧ m.stroke = s := by
  refine ⟨exists_strongest, ?_⟩
  rintro ⟨i, m, hm, rfl⟩
  obtain ⟨s, hs⟩ := Option.ne_none_iff_exists'.1 (strokeOf_ne_none hm.mem)
  obtain ⟨j, n, hn, rfl⟩ := exists_strongest hs
  obtain rfl : i = j := Nat.le_antisymm (hm.least j n hn.mem hn.isOf) (hn.least i m hm.mem hm.isOf)
  rw [hs, hm.isOf.stroke_eq hn.isOf]

/-! ## All strokes of a text -/

/-- The strokes of the mentions, each where it comes first. -/
def strokesOfAll (ms : List Mention) : List Stroke :=
  ms.foldl (fun seen m => if seen.contains m.stroke then seen else seen ++ [m.stroke]) []

/-- The place of the first of the mentions that name the stroke. -/
def firstMention (ms : List Mention) (s : Stroke) : Nat := (ms.map (·.stroke)).idxOf s

theorem strokesOf_eq (t : Text) : strokesOf t = strokesOfAll (mentions t) := rfl

theorem strokesOfAll_append (ms : List Mention) (m : Mention) :
    strokesOfAll (ms ++ [m]) = if (strokesOfAll ms).contains m.stroke then strokesOfAll ms
      else strokesOfAll ms ++ [m.stroke] := by
  rw [strokesOfAll, List.foldl_append]
  rfl

theorem mem_strokesOfAll_iff {ms : List Mention} {s : Stroke} :
    s ∈ strokesOfAll ms ↔ s ∈ ms.map (·.stroke) := by
  induction ms using List.reverseRecOn with
  | nil => simp [strokesOfAll]
  | append_singleton ms m ih =>
    rw [strokesOfAll_append, List.map_append, List.mem_append, ← ih]
    split_ifs with h
    · have hm := List.contains_iff_mem.1 h
      simp only [List.map_cons, List.map_nil, List.mem_singleton]
      exact ⟨.inl, fun h => h.elim id fun h => h ▸ hm⟩
    · simp

/-- **Strokes are listed by first mention.** -/
theorem strokesOfAll_pairwise (ms : List Mention) :
    (strokesOfAll ms).Pairwise fun a b => firstMention ms a < firstMention ms b := by
  induction ms using List.reverseRecOn with
  | nil => exact .nil
  | append_singleton ms m ih =>
    -- A mention at the end leaves the places of the strokes before it as they were.
    have hold {s : Stroke} (h : s ∈ strokesOfAll ms) :
        firstMention (ms ++ [m]) s = firstMention ms s := by
      rw [firstMention, List.map_append, List.idxOf_append_of_mem (mem_strokesOfAll_iff.1 h)]
      rfl
    have ih : (strokesOfAll ms).Pairwise fun a b =>
        firstMention (ms ++ [m]) a < firstMention (ms ++ [m]) b :=
      ih.imp_of_mem fun ha hb h => by rwa [hold ha, hold hb]
    rw [strokesOfAll_append]
    split_ifs with h
    · exact ih
    · have hnew : m.stroke ∉ ms.map (·.stroke) := by
        rwa [← mem_strokesOfAll_iff, ← List.contains_iff_mem]
      refine List.pairwise_append.2 ⟨ih, List.pairwise_singleton _ _, fun a ha b hb => ?_⟩
      obtain rfl := List.mem_singleton.1 hb
      rw [hold ha, firstMention, firstMention, List.map_append, List.idxOf_append_of_notMem hnew]
      exact Nat.lt_add_right _ (List.idxOf_lt_length_of_mem (mem_strokesOfAll_iff.1 ha))

/-- **Theorem (precedence of words for strokes).** Mentions are in order and apart, and each is
found as one word of the table. A word found is a mention, or overlaps one of a word earlier in the
table. The strokes of a text are those mentioned, each once, by first mention; the stroke of the
text is that of the mention whose word comes first in the table, and is among them. -/
theorem mentions_take_precedence (t : Text) :
    ((mentions t).Pairwise fun m n =>
      m.span.start < n.span.start ∧ m.span.overlaps n.span = false) ∧
    (∀ m ∈ mentions t, ∃! i, m.IsOf t i) ∧
    (∀ i m, m.IsOf t i → m ∈ mentions t ∨
      ∃ j < i, ∃ n ∈ mentions t, n.IsOf t j ∧ n.span.overlaps m.span = true) ∧
    ((strokesOf t).Nodup ∧
      ((strokesOf t).Pairwise fun a b =>
        firstMention (mentions t) a < firstMention (mentions t) b) ∧
      ∀ s, s ∈ strokesOf t ↔ ∃ m ∈ mentions t, m.stroke = s) ∧
    (strokeOf t = none ↔ mentions t = []) ∧
    (∀ s, strokeOf t = some s ↔ ∃ (i : Nat) (m : Mention), m.Strongest t i ∧ m.stroke = s) ∧
    ∀ s, strokeOf t = some s → s ∈ strokesOf t := by
  have listed (s : Stroke) : s ∈ strokesOf t ↔ ∃ m ∈ mentions t, m.stroke = s := by
    rw [strokesOf_eq, mem_strokesOfAll_iff, List.mem_map]
  have ordered := strokesOfAll_pairwise (mentions t)
  refine ⟨?_, fun m hm => ?_, fun i m h => mem_mentions_or_overlaps h,
    ⟨?_, ordered, listed⟩, strokeOf_eq_none_iff, fun s => strokeOf_eq_some_iff, fun s h => ?_⟩
  · refine (mentions_pairwise t).imp_of_mem fun hm _ hmn => ?_
    exact ⟨(mentions_within hm).1.trans_le hmn, Span.overlaps_eq_false_iff.2 (.inl hmn)⟩
  · obtain ⟨i, hi⟩ := exists_isOf_of_mem_mentions hm
    exact ⟨i, hi, fun j hj => hj.unique hi⟩
  · exact ordered.imp fun h => ne_of_apply_ne _ h.ne
  · obtain ⟨i, m, hm, rfl⟩ := exists_strongest h
    exact (listed _).2 ⟨m, hm.mem, rfl⟩

end SwimSets
