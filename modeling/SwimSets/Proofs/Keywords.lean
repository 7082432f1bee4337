import Mathlib.Tactic.SplitIfs
import SwimSets.Keyword
import SwimSets.Proofs.Characters
import SwimSets.Proofs.Scanning

/-!
# Where keywords stand

**Stretches** (`Keyword.Stands`). A stretch of a text stands in it when neither of its edges runs on
into the character outside. A stretch of such a stretch stands in the text as well
(`Keyword.Stands.trans`).

**Keywords.** The search for a keyword goes over the text without overlaps and looks at the edges
afterwards. For a keyword that does not end as it begins that makes no difference: it is found
exactly where it stands (`Keyword.isIn_iff`).

**Parts of a text.** So what a part of a text names, the text names too, if the part is cut out
where no word runs on: at word edges (`Keyword.stands_slice`), at signs (`stands_of_mem_splitAt`)
and at blanks (`stands_trim`).

**Mentions.** Which mentions of strokes are taken depends on the order and the overlaps of their
places only (`Mention.KeepsPlaces.foldl_addTo`).
-/

namespace SwimSets

open Scanner

namespace Keyword

/-! ## Edges -/

/-- A character that stands in no word does not run on. -/
theorem edgeClear_of_not_wordChar {c : Char} (h : isWordChar c = false) (o : Option Char) :
    edgeClear c o = true := by
  have hl : isAsciiLetter c = false := by
    by_contra hl
    simp [isWordChar_of_isAsciiLetter (Bool.of_not_eq_false hl)] at h
  have hd : isAsciiDigit c = false := by
    by_contra hd
    simp [isWordChar_of_isDecimal (isDecimal_of_isAsciiDigit (Bool.of_not_eq_false hd))] at h
  cases o <;> simp [edgeClear, hl, hd]

/-- Nothing runs on into a character that stands in no word. -/
theorem edgeClear_outside {o : Option Char} (h : o.any isWordChar = false) (c : Char) :
    edgeClear c o = true := by
  cases o with
  | none => rfl
  | some x =>
    have hx : isWordChar x = false := by simpa using h
    have hl : isAsciiLetter x = false := by
      by_contra hl
      simp [isWordChar_of_isAsciiLetter (Bool.of_not_eq_false hl)] at hx
    have hd : isAsciiDigit x = false := by
      by_contra hd
      simp [isWordChar_of_isDecimal (isDecimal_of_isAsciiDigit (Bool.of_not_eq_false hd))] at hx
    simp [edgeClear, hl, hd]

/-- What comes after the place does not run on into what comes before it. -/
def ClearBefore (c : Cursor) : Prop := ∀ x ∈ c.rest.head?, edgeClear x c.prev = true

/-- What comes before the place does not run on into what comes after it. -/
def ClearAfter (c : Cursor) : Prop := ∀ x ∈ c.prev, edgeClear x c.rest.head? = true

theorem clearBefore_of_prev {c : Cursor} (h : c.prev.any isWordChar = false) : ClearBefore c :=
  fun x _ => edgeClear_outside h x

theorem clearBefore_of_wordEdge {c : Cursor} (h : c.atWordEdge = true) : ClearBefore c := by
  intro x hx
  cases hp : c.prev.any isWordChar with
  | false => exact edgeClear_outside hp x
  | true =>
    simp only [Cursor.atWordEdge, hp, Option.mem_def.1 hx, Option.any_some] at h
    exact edgeClear_of_not_wordChar (by simpa using h) _

theorem clearAfter_of_wordEdge {c : Cursor} (h : c.atWordEdge = true) : ClearAfter c := by
  intro x hx
  cases hr : c.rest.head?.any isWordChar with
  | false => exact edgeClear_outside hr x
  | true =>
    simp only [Cursor.atWordEdge, hr, Option.mem_def.1 hx, Option.any_some] at h
    exact edgeClear_of_not_wordChar (by simpa using h) _

/-! ## Stretches -/

/-- The stretch `s` is in the text `t`, and neither of its edges runs on there. -/
def Stands (s t : Text) : Prop :=
  ∃ a b, t = a ++ (s ++ b) ∧ (∀ c ∈ s.head?, edgeClear c a.getLast? = true) ∧
    ∀ c ∈ s.getLast?, edgeClear c b.head? = true

theorem Stands.nil (t : Text) : Stands [] t := ⟨[], t, rfl, by simp, by simp⟩

theorem Stands.trans {w s t : Text} (h : Stands w s) (h' : Stands s t) : Stands w t := by
  obtain ⟨u, v, rfl, hu, hv⟩ := h
  obtain ⟨a, b, rfl, ha, hb⟩ := h'
  refine ⟨a ++ u, v ++ b, by simp, ?_, ?_⟩
  · cases u with
    | nil =>
      intro c hc
      rw [List.append_nil]
      refine ha c ?_
      rw [List.nil_append, List.head?_append, Option.mem_def.1 hc]
      rfl
    | cons x u =>
      rw [List.getLast?_append, List.getLast?_eq_some_getLast (List.cons_ne_nil x u)] at *
      exact hu
  · cases v with
    | nil =>
      intro c hc
      refine hb c ?_
      rw [List.append_nil, List.getLast?_append, Option.mem_def.1 hc]
      rfl
    | cons x v => exact hv

/-- The stretch between two places at which no word runs on. -/
theorem stands_slice {t : Text} {i j : Nat} (hi : ClearBefore (.place t i))
    (hj : ClearAfter (.place t j)) : Stands (t.slice i j) t := by
  by_cases hs : t.slice i j = []
  · rw [hs]
    exact .nil t
  have hij : i ≤ j := by
    by_contra h
    refine hs (List.drop_eq_nil_of_le ?_)
    rw [List.length_take]
    omega
  have htake : t.take j = t.take i ++ t.slice i j := by
    rw [Text.slice, ← Nat.min_eq_left hij, ← List.take_take, Nat.min_eq_left hij,
      List.take_append_drop]
  have hdrop : t.drop i = t.slice i j ++ t.drop j := by
    rw [Text.slice, List.drop_take, ← Nat.add_sub_cancel' hij, ← List.drop_drop,
      Nat.add_sub_cancel_left, List.take_append_drop]
  refine ⟨t.take i, t.drop j, ?_, fun c hc => hi c ?_, fun c hc => hj c ?_⟩
  · rw [← hdrop, List.take_append_drop]
  · show (t.drop i).head? = some c
    rw [hdrop, List.head?_append, Option.mem_def.1 hc]
    rfl
  · show (t.take j).getLast? = some c
    rw [htake, List.getLast?_append, Option.mem_def.1 hc]
    rfl

theorem stands_take {t : Text} {j : Nat} (hj : ClearAfter (.place t j)) : Stands (t.take j) t :=
  stands_slice (i := 0) (clearBefore_of_prev rfl) hj

theorem stands_drop {t : Text} {i : Nat} (hi : ClearBefore (.place t i)) :
    Stands (t.drop i) t := by
  have h : Stands (t.slice i t.length) t := stands_slice hi fun c _ => by
    simp [Cursor.place, edgeClear]
  rwa [Text.slice, List.take_length] at h

/-- The text behind a character that stands in no word. -/
theorem stands_cons {c : Char} (h : isWordChar c = false) (t : Text) : Stands t (c :: t) :=
  stands_drop (i := 1) (clearBefore_of_prev (by simpa [Cursor.place] using h))

theorem stands_trimStart (t : Text) : Stands t.trimStart t := by
  induction t with
  | nil => exact .nil _
  | cons c r ih =>
    rw [Text.trimStart, List.dropWhile_cons]
    split_ifs with h
    · exact ih.trans (stands_cons (not_isWordChar_of_isBlank h) r)
    · exact stands_drop (i := 0) (clearBefore_of_prev rfl)

theorem trimEnd_append (t : Text) : ∃ b, t = t.trimEnd ++ b ∧ ∀ c ∈ b, isBlank c = true := by
  induction t with
  | nil => exact ⟨[], rfl, by simp⟩
  | cons c r ih =>
    obtain ⟨b, hr, hb⟩ := ih
    rw [Text.trimEnd]
    split
    · rename_i h
      rw [h] at hr
      split_ifs with hc
      · exact ⟨c :: b, by rw [hr]; rfl, List.forall_mem_cons.2 ⟨hc, hb⟩⟩
      · exact ⟨b, by rw [hr]; rfl, hb⟩
    · rename_i d s h
      rw [h] at hr
      exact ⟨b, by rw [hr]; rfl, hb⟩

/-- A text without the blanks at its ends. -/
theorem stands_trim (t : Text) : Stands t.trim t := by
  refine .trans ?_ (stands_trimStart t)
  obtain ⟨b, ht, hb⟩ := trimEnd_append t.trimStart
  refine ⟨[], b, ht, fun c _ => rfl, fun c _ => edgeClear_outside ?_ c⟩
  cases b with
  | nil => rfl
  | cons x b => simpa using not_isWordChar_of_isBlank (hb x List.mem_cons_self)

/-- A piece of a text between signs has a sign or an end of the text on either side. -/
theorem exists_of_mem_splitAt {p : Char → Bool} {t l : Text} (h : l ∈ t.splitAt p) :
    ∃ a b, t = a ++ (l ++ b) ∧ (∀ x ∈ a.getLast?, p x = true) ∧ ∀ x ∈ b.head?, p x = true := by
  -- The first piece starts the text, and before each of the others there is a sign.
  have key : ∃ f ls, t.splitAt p = f :: ls ∧
      (∃ b, t = f ++ b ∧ ∀ x ∈ b.head?, p x = true) ∧ ∀ l ∈ ls, ∃ a x b,
        t = a ++ x :: (l ++ b) ∧ p x = true ∧ ∀ y ∈ b.head?, p y = true := by
    clear h
    induction t with
    | nil => exact ⟨[], [], rfl, ⟨[], rfl, by simp⟩, by simp⟩
    | cons c r ih =>
      obtain ⟨f, ls, hs, ⟨b, hr, hb⟩, hls⟩ := ih
      rw [Text.splitAt, hs]
      split_ifs with hc
      · refine ⟨[], f :: ls, rfl, ⟨c :: r, rfl, by simpa using hc⟩, ?_⟩
        rintro l (_ | ⟨_, hl⟩)
        · exact ⟨[], c, b, by rw [hr]; rfl, hc, hb⟩
        · obtain ⟨a, x, b, rfl, hx, hb⟩ := hls l hl
          exact ⟨c :: a, x, b, rfl, hx, hb⟩
      · refine ⟨c :: f, ls, rfl, ⟨b, by rw [hr]; rfl, hb⟩, fun l hl => ?_⟩
        obtain ⟨a, x, b, rfl, hx, hb⟩ := hls l hl
        exact ⟨c :: a, x, b, rfl, hx, hb⟩
  obtain ⟨f, ls, hs, ⟨b, hf, hb⟩, hls⟩ := key
  rw [hs] at h
  rcases List.mem_cons.1 h with rfl | hl
  · exact ⟨[], b, hf, by simp, hb⟩
  · obtain ⟨a, x, b, rfl, hx, hb⟩ := hls l hl
    exact ⟨a ++ [x], b, by simp, by simpa using hx, hb⟩

/-- The pieces of a text between signs that stand in no word. -/
theorem stands_of_mem_splitAt {p : Char → Bool} (hp : ∀ c, p c = true → isWordChar c = false)
    {t l : Text} (h : l ∈ t.splitAt p) : Stands l t := by
  obtain ⟨a, b, ht, ha, hb⟩ := exists_of_mem_splitAt h
  have outside {o : Option Char} (ho : ∀ x ∈ o, p x = true) : o.any isWordChar = false :=
    (Option.any_eq_false _ _).2 fun x hx => hp x (ho x hx)
  exact ⟨a, b, ht, fun c _ => edgeClear_outside (outside ha) c,
    fun c _ => edgeClear_outside (outside hb) c⟩

/-! ## Keywords -/

/-- No end of the word is also a beginning of it, the whole word aside. -/
def Unbordered (w : Text) : Prop := w ≠ [] ∧ ∀ k < w.length, 0 < k → ¬ w.drop k <+: w

instance (w : Text) : Decidable (Unbordered w) := inferInstanceAs (Decidable (_ ∧ _))

theorem occurrence_eq_some {x y : Char} {w : Text} {c d : Cursor} {b : Bool} :
    occurrence x y w c = some (b, d) ↔
      c.Reads w d ∧ b = (edgeClear x c.prev && edgeClear y d.rest.head?) := by
  unfold occurrence
  cases h : word w c with
  | none =>
    simp only [reduceCtorEq, false_iff, not_and]
    intro hr
    rw [word_eq_some (u := ()) |>.2 hr] at h
    cases h
  | some r =>
    obtain ⟨u, e⟩ := r
    have hr := word_eq_some.1 h
    simp only [Option.some.injEq, Prod.mk.injEq]
    constructor
    · rintro ⟨rfl, rfl⟩
      exact ⟨hr, rfl⟩
    · rintro ⟨hr', rfl⟩
      obtain rfl : e = d := hr.eq_advance.trans hr'.eq_advance.symm
      exact ⟨rfl, rfl⟩

theorem isIn_iff_exists_hit {w : Text} (hw : w ≠ []) {t : Text} :
    isIn w t = true ↔
      ∃ h ∈ (occurrence (w.head hw) (w.getLast hw) w).hits t, h.value = true := by
  simp [isIn, find, List.head?_eq_some_head hw, List.getLast?_eq_some_getLast hw,
    List.filterMap_eq_nil_iff]

/-- A keyword that is found stands there. -/
theorem stands_of_isIn {w t : Text} (hw : w ≠ []) (h : isIn w t = true) : Stands w t := by
  obtain ⟨h, hm, hv⟩ := (isIn_iff_exists_hit hw).1 h
  obtain ⟨d, hd, -⟩ := eq_some_of_mem_hits hm
  obtain ⟨hr, he⟩ := occurrence_eq_some.1 hd
  rw [hv, eq_comm, Bool.and_eq_true] at he
  refine ⟨t.take h.span.start, d.rest, ?_, ?_, ?_⟩
  · rw [← hr.rest]
    exact (List.take_append_drop _ _).symm
  · rw [List.head?_eq_some_head hw]
    rintro c ⟨⟩
    exact he.1
  · rw [List.getLast?_eq_some_getLast hw]
    rintro c ⟨⟩
    exact he.2

/-- **A keyword is found exactly where it stands**, if it does not end as it begins. -/
theorem isIn_iff {w : Text} (hw : Unbordered w) {t : Text} : isIn w t = true ↔ Stands w t := by
  refine ⟨stands_of_isIn hw.1, ?_⟩
  rintro ⟨a, b, rfl, ha, hb⟩
  rw [isIn_iff_exists_hit hw.1]
  have hs : occurrence (w.head hw.1) (w.getLast hw.1) w (.place (a ++ (w ++ b)) a.length) =
      some (true, ⟨w.getLast?.or a.getLast?, b⟩) := by
    rw [Cursor.place_length, occurrence_eq_some]
    refine ⟨⟨rfl, rfl⟩, ?_⟩
    rw [ha _ (List.head?_eq_some_head hw.1), hb _ (List.getLast?_eq_some_getLast hw.1)]
    rfl
  have hlen := List.length_pos_iff.2 hw.1
  obtain ⟨h, hm, hle, hlt⟩ :=
    mem_hits_of_reads (i := a.length) (by simp only [List.length_append]; omega) hs
  obtain ⟨d, hd, hstop⟩ := eq_some_of_mem_hits hm
  have hr := (occurrence_eq_some.1 hd).1
  have hstop := hstop w hw.1 hr
  -- An occurrence that starts earlier would overlap this one.
  have hstart : h.span.start = a.length := by
    by_contra hne
    refine hw.2 (a.length - h.span.start) (by omega) (by omega) ?_
    have hk : h.span.start + (a.length - h.span.start) = a.length := by omega
    have hdrop : w ++ b = w.drop (a.length - h.span.start) ++ d.rest :=
      calc w ++ b = (a ++ (w ++ b)).drop a.length := List.drop_left.symm
        _ = ((a ++ (w ++ b)).drop h.span.start).drop (a.length - h.span.start) := by
          rw [List.drop_drop, hk]
        _ = (w ++ d.rest).drop (a.length - h.span.start) := congrArg _ hr.rest
        _ = _ := List.drop_append_of_le_length (by omega)
    have hend : w.drop (a.length - h.span.start) <+: w ++ b := ⟨_, hdrop.symm⟩
    exact List.prefix_of_prefix_length_le hend (List.prefix_append w b) (by simp)
  rw [hstart, hs] at hd
  exact ⟨h, hm, (congrArg Prod.fst (Option.some.inj hd)).symm⟩

/-- A word that a table has for a text is in the table and stands in the text. -/
theorem exists_of_lookUp {α : Type} {table : List (Text × α)} {t : Text} {a : α}
    (h : lookUp table t = some a) : ∃ w, (w, a) ∈ table ∧ isIn w t = true := by
  obtain ⟨e, he, rfl⟩ := Option.map_eq_some_iff.1 h
  have hin : isIn e.1 t = true := by simpa using List.find?_some he
  exact ⟨e.1, List.mem_of_find?_eq_some he, hin⟩

end Keyword

/-! ## Mentions -/

namespace Mention

theorem mem_insert {m n : Mention} {ms : List Mention} : n ∈ insert m ms ↔ n = m ∨ n ∈ ms := by
  induction ms with
  | nil => simp [insert]
  | cons x ms ih =>
    rw [insert]
    split_ifs
    · simp only [List.mem_cons, ih]
      exact or_left_comm
    · exact List.mem_cons

theorem mem_of_mem_addTo {m n : Mention} {ms : List Mention} (h : n ∈ addTo ms m) :
    n ∈ ms ∨ n = m := by
  unfold addTo at h
  split_ifs at h
  · exact (mem_insert.1 h).symm
  · exact .inl h

/-- The places that `f` gives to the mentions with `P` have the order and the overlaps of those
that they had. -/
structure KeepsPlaces (P : Mention → Prop) (f : Mention → Mention) : Prop where
  start_le : ∀ {m n}, P m → P n →
    ((f m).span.start ≤ (f n).span.start ↔ m.span.start ≤ n.span.start)
  overlaps : ∀ {m n}, P m → P n → (f m).span.overlaps (f n).span = m.span.overlaps n.span

namespace KeepsPlaces

variable {P : Mention → Prop} {f : Mention → Mention} {m : Mention} {ms taken : List Mention}

theorem insert (hf : KeepsPlaces P f) (hm : P m) (hms : ∀ n ∈ ms, P n) :
    (f m).insert (ms.map f) = (m.insert ms).map f := by
  induction ms with
  | nil => rfl
  | cons n ms ih =>
    obtain ⟨hn, hms⟩ := List.forall_mem_cons.1 hms
    rw [List.map_cons, Mention.insert, Mention.insert]
    simp only [hf.start_le hn hm]
    split_ifs
    · rw [ih hms, List.map_cons]
    · rfl

theorem addTo (hf : KeepsPlaces P f) (hm : P m) (htaken : ∀ n ∈ taken, P n) :
    Mention.addTo (taken.map f) (f m) = (Mention.addTo taken m).map f := by
  have hall : ((taken.map f).all fun n => !n.span.overlaps (f m).span) =
      taken.all fun n => !n.span.overlaps m.span := by
    rw [List.all_map, Bool.eq_iff_iff, List.all_eq_true, List.all_eq_true]
    refine forall₂_congr fun n hn => ?_
    rw [Function.comp_apply, hf.overlaps (htaken n hn) hm]
  unfold Mention.addTo
  rw [hall, hf.insert hm htaken]
  split_ifs <;> rfl

/-- So the same mentions are taken. -/
theorem foldl_addTo (hf : KeepsPlaces P f) (hms : ∀ m ∈ ms, P m) (htaken : ∀ n ∈ taken, P n) :
    (ms.map f).foldl Mention.addTo (taken.map f) = (ms.foldl Mention.addTo taken).map f := by
  induction ms generalizing taken with
  | nil => rfl
  | cons m ms ih =>
    obtain ⟨hm, hms⟩ := List.forall_mem_cons.1 hms
    rw [List.map_cons, List.foldl_cons, List.foldl_cons, hf.addTo hm htaken]
    refine ih hms fun n hn => ?_
    rcases mem_of_mem_addTo hn with hn | rfl
    · exact htaken n hn
    · exact hm

end KeepsPlaces

end Mention

end SwimSets
