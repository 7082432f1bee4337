import SwimSets.Proofs.Gaps
import SwimSets.Proofs.Remains

/-!
# Stripping a text again

Each kind of aside is searched for once. Where a piece is taken out, what stood apart comes to stand
together, and may be an aside of a kind that has had its turn.

**Ink** (`Text.ink`). The characters that are no blanks. Taking out an aside lowers their number, so
a stripped text stays as it is exactly if no aside is left in it (`stripAsides_stripAsides_iff`).

**Gaps** (`Aside.ReadsAtGap`). What is left of a text has a mark on each space that was put in the
place of an aside (`remains`). An aside that goes over no mark was found when its kind was searched
for. Only a rest in words may instead start at a mark: a rest can end inside a word, and the next
one starts there only once the first is gone.

**Theorem (`stripped_again_iff`).** Stripping a stripped text again changes nothing exactly if no
aside occurs in it. Those that do are read at a gap. A clock time holds no space, so none is left.
-/

namespace SwimSets

open Scanner Aside

/-! ## Ink -/

namespace Text

/-- The number of characters that are no blanks. -/
def ink (t : Text) : Nat := t.countP fun c => !isBlank c

theorem ink_cons (c : Char) (t : Text) : ink (c :: t) = ink t + if isBlank c then 0 else 1 := by
  rw [ink, List.countP_cons]
  cases isBlank c <;> rfl

theorem ink_space (t : Text) : ink (' ' :: t) = ink t := ink_cons ' ' t

theorem ink_gap (t : Text) : ink (gap t) = ink t := by
  cases t with
  | nil => rfl
  | cons c t =>
    rw [gap]
    split_ifs
    · rfl
    · rw [ink_space]

theorem ink_squeeze (t : Text) : ink (squeeze t) = ink t := by
  induction t with
  | nil => rfl
  | cons c t ih =>
    rw [squeeze]
    split_ifs with hc
    · rw [ink_gap, ih, ink_cons, if_pos hc, Nat.add_zero]
    · rw [ink_cons, ink_cons, ih]

theorem ink_trimStart (t : Text) : ink (trimStart t) = ink t := by
  induction t with
  | nil => rfl
  | cons c t ih =>
    rw [trimStart, List.dropWhile_cons]
    split_ifs with hc
    · rw [ink_cons, if_pos hc, Nat.add_zero]
      exact ih
    · rfl

theorem ink_collapse (t : Text) : ink (collapse t) = ink t := by
  rw [collapse, ink_trimStart, ink_squeeze]

theorem ink_blankFrom {α : Type} (s : Scanner α) (t : Text) (k : Nat) (q : Option Char) :
    ink (s.blankFrom k q t) ≤ ink t := by
  induction t generalizing k q with
  | nil => cases k <;> rfl
  | cons c t ih =>
    cases k with
    | succ k =>
      rw [blankFrom, ink_cons]
      exact (ih ..).trans (Nat.le_add_right ..)
    | zero =>
      rw [blankFrom]
      split
      · rw [ink_cons, ink_cons]
        exact Nat.add_le_add_right (ih ..) _
      · rw [ink_space, ink_cons]
        exact (ih ..).trans (Nat.le_add_right ..)

end Text

namespace Aside

variable {kind : Scanner Unit} {ks : List (Scanner Unit)} {t : Text}

/-- **Taking out asides lowers the ink,** and where there are none the text is kept. -/
theorem blankOut_cases (hkind : kind ∈ kinds) (t : Text) :
    kind.occursIn t = false ∧ kind.blankOut t = t ∨
      kind.occursIn t = true ∧ Text.ink (kind.blankOut t) < Text.ink t := by
  have walk (t : Text) (pos : Nat) (q : Option Char) :
      kind.hitsFrom pos 0 q t = [] ∧ kind.blankFrom 0 q t = t ∨
        kind.hitsFrom pos 0 q t ≠ [] ∧ Text.ink (kind.blankFrom 0 q t) < Text.ink t := by
    induction t generalizing pos q with
    | nil => exact .inl ⟨rfl, rfl⟩
    | cons c t ih =>
      rw [hitsFrom, blankFrom]
      cases hc : kind ⟨q, c :: t⟩ with
      | none =>
        simp only
        rw [Text.ink_cons, Text.ink_cons, Nat.add_lt_add_iff_right]
        exact (ih (pos + 1) (some c)).imp_left fun h => ⟨h.1, congrArg (c :: ·) h.2⟩
      | some r =>
        have hink : isBlank c = false := Bool.eq_false_iff.2 fun hb => by
          rw [opens_of_mem_kinds hkind _ (by simp [not_isOpening_of_isBlank hb])] at hc
          cases hc
        refine .inr ⟨List.cons_ne_nil _ _, ?_⟩
        simp only
        rw [Text.ink_space, Text.ink_cons, hink]
        exact Nat.lt_succ_of_le (Text.ink_blankFrom ..)
  refine (walk t 0 none).imp (fun h => ⟨?_, h.2⟩) fun h => ⟨?_, h.2⟩
  · simp [occursIn, hits, h.1]
  · simpa [occursIn, hits] using h.1

theorem ink_blankAll (ks : List (Scanner Unit)) (t : Text) :
    Text.ink (blankAll ks t) ≤ Text.ink t := by
  induction ks generalizing t with
  | nil => exact le_rfl
  | cons kind ks ih => exact (ih _).trans (Text.ink_blankFrom ..)

theorem blankAll_cases (hks : ks ⊆ kinds) (t : Text) :
    (∀ kind ∈ ks, kind.occursIn t = false) ∧ blankAll ks t = t ∨
      (∃ kind ∈ ks, kind.occursIn t = true) ∧ Text.ink (blankAll ks t) < Text.ink t := by
  induction ks with
  | nil => exact .inl ⟨List.forall_mem_nil _, rfl⟩
  | cons kind ks ih =>
    obtain ⟨hkind, hrest⟩ := List.cons_subset.1 hks
    show _ ∧ blankAll ks (kind.blankOut t) = t ∨ _ ∧ Text.ink (blankAll ks (kind.blankOut t)) < _
    rcases blankOut_cases hkind t with ⟨hnone, heq⟩ | ⟨hsome, hlt⟩
    · rw [heq]
      refine (ih hrest).imp (fun h => ⟨List.forall_mem_cons.2 ⟨hnone, h.1⟩, h.2⟩) ?_
      rintro ⟨⟨k, hk, hoccurs⟩, hlt⟩
      exact ⟨⟨k, List.mem_cons_of_mem kind hk, hoccurs⟩, hlt⟩
    · exact .inr ⟨⟨kind, List.mem_cons_self, hsome⟩, (ink_blankAll ks _).trans_lt hlt⟩

end Aside

/-- **A stripped text stays as it is exactly if no aside is left in it.** -/
theorem stripAsides_stripAsides_iff (t : Text) :
    stripAsides (stripAsides t) = stripAsides t ↔
      ∀ kind ∈ kinds, kind.occursIn (blankAll kinds t) = false := by
  have hcollapse : Text.collapse (stripAsides t) = stripAsides t := Text.collapse_collapse _
  have hsame : ∀ kind ∈ kinds, kind.occursIn (stripAsides t) = kind.occursIn (blankAll kinds t) :=
    fun kind h => occursIn_collapse h _
  rw [stripAsides_eq (stripAsides t)]
  rcases blankAll_cases (List.Subset.refl kinds) (stripAsides t) with
    ⟨hnone, heq⟩ | ⟨⟨kind, hkind, hsome⟩, hlt⟩
  · rw [heq, hcollapse]
    exact ⟨fun _ kind h => hsame kind h ▸ hnone kind h, fun _ => rfl⟩
  · constructor
    · intro h
      rw [← Text.ink_collapse, h] at hlt
      exact absurd hlt (lt_irrefl _)
    · intro h
      rw [hsame kind hkind, h kind hkind] at hsome
      cases hsome

/-! ## Gaps -/

/-- The scanner reads over a gap in what is left of the text. A rest in words may also be read right
behind one. -/
def Aside.ReadsAtGap (kind : Scanner Unit) (t : Text) : Prop :=
  ∃ u p v d, remains t = u ++ (p ++ v) ∧
    kind ⟨u.text.getLast?, (p ++ v).text⟩ = some ((), d) ∧ d.rest = v.text ∧
    ((∃ x ∈ p, x.2 = true) ∨ kind = restWorded ∧ ∃ x ∈ u.getLast?, x.2 = true)

/-- An aside occurs in a stripped text where one is read in what the kinds have left. -/
theorem occursIn_stripAsides {kind : Scanner Unit} (hkind : kind ∈ kinds) (t : Text) :
    kind.occursIn (stripAsides t) = true ↔
      ∃ u v d, remains t = u ++ v ∧ kind ⟨u.text.getLast?, v.text⟩ = some ((), d) := by
  rw [stripAsides_eq, occursIn_collapse hkind, ← text_remains, occursIn_iff]
  constructor
  · rintro ⟨u₀, x, v₀, ht, ⟨⟨⟩, d⟩, hd⟩
    obtain ⟨u, v, huv, rfl, hv⟩ := List.map_eq_append_iff.1 ht
    refine ⟨u, v, d, huv, ?_⟩
    rw [← hv] at hd
    exact hd
  · rintro ⟨u, v, d, huv, hd⟩
    cases v with
    | nil =>
      rw [Marked.text_nil, opens_of_mem_kinds hkind _ rfl] at hd
      cases hd
    | cons x v => exact ⟨u.text, x.1, Marked.text v, by rw [huv, Marked.text_append]; rfl, _, hd⟩

/-- **An aside that occurs in a stripped text goes over a gap.** -/
theorem readsAtGap_iff {kind : Scanner Unit} (hkind : kind ∈ kinds) (t : Text) :
    kind.occursIn (stripAsides t) = true ↔ ReadsAtGap kind t := by
  rw [occursIn_stripAsides hkind]
  constructor
  · rintro ⟨u, r, d, huv, hd⟩
    obtain ⟨i, hi⟩ := List.mem_iff_getElem?.1 hkind
    obtain ⟨k, rfl, hk⟩ := Shape.exists_of_turn hi hd
    obtain ⟨c, w, rfl, -, ⟨w₀, hw⟩, hgap⟩ := Shape.gap_of_reads huv hk
    obtain ⟨w, v, rfl, -, hv⟩ := List.map_eq_append_iff.1 hw.symm
    have hr : c ++ (w ++ v) = c ++ w ++ v := (List.append_assoc ..).symm
    refine ⟨u, c ++ w, v, d, hr ▸ huv, hr ▸ hd, hv.symm, ?_⟩
    rcases hgap with ⟨x, hx, hmark⟩ | ⟨hturn, hbehind⟩
    · exact .inl ⟨x, List.mem_append_left w hx, hmark⟩
    · rw [hturn] at hi
      exact .inr ⟨(Option.some.inj hi).symm, hbehind⟩
  · rintro ⟨u, p, v, d, huv, hd, -, -⟩
    exact ⟨u, p ++ v, d, huv, hd⟩

/-- **No clock time is left:** there is no gap in one. -/
theorem not_occursIn_clock (t : Text) : clock.occursIn (stripAsides t) = false := by
  refine Bool.eq_false_iff.2 fun h => ?_
  obtain ⟨u, v, d, huv, hd⟩ := (occursIn_stripAsides (by simp [kinds]) t).1 h
  obtain ⟨c, w, rfl, ⟨n, y, z, hn, -, hy, hz, hc⟩, -, hgap⟩ :=
    Shape.gap_of_reads (k := .clock) huv hd
  obtain ⟨x, hx, hmark⟩ := hgap.resolve_right fun h => absurd h.1 (by decide)
  have hspace : x.1 = ' ' :=
    remains_onSpaces t x (huv ▸ List.mem_append_right _ (List.mem_append_left _ hx)) hmark
  have hmem : x.1 ∈ n ++ [':', y, z] := hc ▸ List.mem_map_of_mem hx
  have hdigit : isDecimal ' ' = false := by decide +kernel
  rw [hspace, List.mem_append] at hmem
  simp only [List.mem_cons, List.not_mem_nil, or_false] at hmem
  rcases hmem with hmem | hmem | rfl | rfl
  · simp [hn.2 _ hmem] at hdigit
  · cases hmem
  · simp [hy] at hdigit
  · simp [hz] at hdigit

/-- **Stripping again changes a text exactly if an aside goes over a gap.** No clock time does. -/
theorem stripped_again_iff (t : Text) :
    (stripAsides (stripAsides t) = stripAsides t ↔
      ∀ kind ∈ kinds, kind.occursIn (stripAsides t) = false) ∧
    (∀ kind ∈ kinds, kind.occursIn (stripAsides t) = true ↔ ReadsAtGap kind t) ∧
    clock.occursIn (stripAsides t) = false := by
  refine ⟨?_, fun kind h => readsAtGap_iff h t, not_occursIn_clock t⟩
  rw [stripAsides_stripAsides_iff]
  exact forall₂_congr fun kind h => by rw [stripAsides_eq, occursIn_collapse h]

/-- Without the note the rest has its time behind it, and the time is read as a distance. -/
theorem rest_joined_over_note :
    let t : Text := "bk rest (easy) 50"
    normalize t = t ∧ stripAsides t = "bk rest 50".toList ∧
      stripAsides (stripAsides t) = "bk".toList ∧
      parseLine (D := Rat) 1 t [] = .accepted 1 t [⟨.backstroke, .swim, 50⟩] [] := by
  decide +kernel

/-- A rest at the end of another is left. -/
example : stripAsides "bk rest 10rest 50" = "bk rest 50".toList := by
  decide +kernel

/-- A note around a note is left. -/
example : stripAsides "400m fc (kick (fins) easy)" = "400m fc (kick easy)".toList := by
  decide +kernel

end SwimSets
