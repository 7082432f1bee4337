import SwimSets.Proofs.Offsets

/-!
# Keywords found by cutting

A keyword is looked for the way a program does it that keeps positions in bytes: wherever its
characters stand, the text is cut before and behind them, and the characters at the cuts say whether
the edges are clear (`Checked.find`). Strokes and activities are found with that.

**Result.** No cut fails, and what is found is what the search over characters finds
(`Checked.find_eq`), with places in bytes. So the same strokes and activities are named
(`Checked.strokeOf_eq`, `Checked.activityOf_eq`), and the same mentions taken
(`Checked.mentions_eq`): in bytes, places come in the same order and overlap just where they did
(`Mention.keepsPlaces_bytes`).
-/

namespace SwimSets

open Scanner

/-- A list is computed without a fault when each of its elements is. -/
theorem mapM_eq_pure {ε α β : Type} {f : α → Except ε β} {g : α → β} {as : List α}
    (h : ∀ a ∈ as, f a = pure (g a)) : as.mapM f = pure (as.map g) := by
  induction as with
  | nil => rfl
  | cons a as ih =>
    obtain ⟨ha, has⟩ := List.forall_mem_cons.mp h
    rw [List.mapM_cons, ha, ih has, pure_bind, pure_bind, List.map_cons]

/-! ## Places in bytes -/

theorem Text.byteOffset_le_iff {t : Text} {i j : Nat} (hi : i ≤ t.length) :
    t.byteOffset i ≤ t.byteOffset j ↔ i ≤ j := by
  refine ⟨fun h => ?_, t.byteOffset_mono⟩
  by_contra hij
  exact Nat.not_lt.mpr h (Text.byteOffset_strictMono (Nat.lt_of_not_le hij) hi)

theorem Text.byteOffset_lt_iff {t : Text} {i j : Nat} (hj : j ≤ t.length) :
    t.byteOffset i < t.byteOffset j ↔ i < j := by
  rw [← not_le, ← not_le, Text.byteOffset_le_iff hj]

/-- The mention, with its place in bytes. -/
def Mention.bytes (t : Text) (m : Mention) : Mention := ⟨m.stroke, m.span.bytes t⟩

theorem Mention.keepsPlaces_bytes (t : Text) : KeepsPlaces (·.span.Within t) (·.bytes t) where
  start_le hm _ := Text.byteOffset_le_iff hm.start_le
  overlaps hm hn := by
    show (decide (t.byteOffset _ < t.byteOffset _) && decide (t.byteOffset _ < t.byteOffset _)) = _
    rw [decide_eq_decide.mpr (Text.byteOffset_lt_iff hn.inside),
      decide_eq_decide.mpr (Text.byteOffset_lt_iff hm.inside)]
    rfl

/-! ## Where the characters of a keyword stand -/

theorem hits_word (first last : Char) (w t : Text) :
    ((word w).hits t).map (·.span) = ((Keyword.occurrence first last w).hits t).map (·.span) := by
  have from_ (t : Text) (pos skip : Nat) (q : Option Char) :
      ((word w).hitsFrom pos skip q t).map (·.span) =
        ((Keyword.occurrence first last w).hitsFrom pos skip q t).map (·.span) := by
    induction t generalizing pos skip q with
    | nil => rfl
    | cons c r ih =>
      cases skip with
      | succ n => exact ih ..
      | zero =>
        rw [hitsFrom, hitsFrom, Keyword.occurrence]
        cases word w ⟨q, c :: r⟩ with
        | none => exact ih ..
        | some d => exact congrArg (_ :: ·) (ih ..)
  exact from_ ..

/-! ## Keywords -/

namespace Checked

/-- The keyword that stands from byte `start` on, if both of its edges are clear there. -/
def place (keyword : Text) (first last : Char) (t : Text) (start : Nat) :
    Except Fault (Option Span) := do
  let stop := start + keyword.byteLength
  let before ← t.cut 0 start
  let after ← t.cut stop t.byteLength
  return if Keyword.edgeClear first before.getLast? && Keyword.edgeClear last after.head? then
    some ⟨start, stop⟩ else none

/-- Where the keyword stands in the text with both edges clear, in bytes. -/
def find (keyword t : Text) : Except Fault (List Span) :=
  match keyword.head?, keyword.getLast? with
  | some first, some last => do
    let places ← (((word keyword).hits t).map (·.span)).mapM fun span =>
      place keyword first last t (t.byteOffset span.start)
    return places.filterMap id
  | _, _ => return []

def isIn (keyword t : Text) : Except Fault Bool := return !(← find keyword t).isEmpty

def lookUp {α : Type} (table : List (Text × α)) (t : Text) : Except Fault (Option α) :=
  return (← table.findM? fun entry => isIn entry.1 t).map (·.2)

def strokeOf (t : Text) : Except Fault (Option Stroke) := lookUp strokeWords t

def activityOf (t : Text) : Except Fault (Option Activity) := do
  if ← drillWords.anyM fun w => isIn w t then return some .drill
  else lookUp activityWords t

def candidates (t : Text) : Except Fault (List Mention) := do
  let found ← strokeWords.mapM fun entry =>
    return (← find entry.1 t).map fun span => Mention.mk entry.2 span
  return found.flatten

def mentions (t : Text) : Except Fault (List Mention) :=
  return (← candidates t).foldl Mention.addTo []

def strokesOf (t : Text) : Except Fault (List Stroke) :=
  return (← mentions t).foldl
    (fun seen m => if seen.contains m.stroke then seen else seen ++ [m.stroke]) []

/-! ## No fault -/

theorem place_eq {first last : Char} {keyword t : Text} {h : Hit Bool}
    (m : h ∈ (Keyword.occurrence first last keyword).hits t) (hne : keyword ≠ []) :
    place keyword first last t (t.byteOffset h.span.start) =
      pure (if h.value then some (h.span.bytes t) else none) := by
  have hw := Span.within_of_mem_hits m
  obtain ⟨d, hd, hstop⟩ := eq_some_of_mem_hits m
  obtain ⟨hr, hv⟩ := Keyword.occurrence_eq_some.mp hd
  obtain ⟨rfl, -, hslice⟩ := place_of_reads hr hw.start_le
  rw [← hstop keyword hne hr] at hv hslice
  have hbyte : t.byteOffset h.span.start + keyword.byteLength = t.byteOffset h.span.stop := by
    rw [Text.byteOffset_eq_add t (Nat.le_of_lt hw.forward), hslice]
  simp only [place, hbyte, Text.cut_to hw.start_le, Text.cut_from hw.inside]
  rw [hv]
  rfl

theorem find_eq (keyword t : Text) :
    find keyword t = pure ((Keyword.find keyword t).map (·.bytes t)) := by
  unfold find Keyword.find
  cases hfirst : keyword.head? with
  | none => rfl
  | some first =>
    cases keyword.getLast? with
    | none => rfl
    | some last =>
      have hne : keyword ≠ [] := by
        rintro rfl
        cases hfirst
      simp only [hits_word first last, List.mapM_map, Function.comp_def]
      rw [mapM_eq_pure fun h m => place_eq m hne, pure_bind, List.filterMap_map, List.map_filterMap]
      refine congrArg pure (congrArg (List.filterMap · _) (funext fun h => ?_))
      show (if h.value then some (h.span.bytes t) else none) = _
      split_ifs <;> rfl

theorem isIn_eq (keyword t : Text) : isIn keyword t = pure (Keyword.isIn keyword t) := by
  simp [isIn, Keyword.isIn, find_eq]

theorem lookUp_eq {α : Type} (table : List (Text × α)) (t : Text) :
    lookUp table t = pure (Keyword.lookUp table t) := by
  simp only [lookUp, isIn_eq, List.findM?_pure, pure_bind]
  rfl

/-- **The same strokes are named.** -/
theorem strokeOf_eq (t : Text) : strokeOf t = pure (SwimSets.strokeOf t) := lookUp_eq ..

/-- **The same activities are named.** -/
theorem activityOf_eq (t : Text) : activityOf t = pure (SwimSets.activityOf t) := by
  simp only [activityOf, isIn_eq, List.anyM_pure, pure_bind, lookUp_eq, SwimSets.activityOf]
  split_ifs <;> rfl

theorem candidates_eq (t : Text) :
    candidates t = pure ((SwimSets.candidates t).map (·.bytes t)) := by
  simp only [candidates, find_eq, pure_bind, List.mapM_pure, SwimSets.candidates, List.flatMap_def,
    List.map_flatten, List.map_map, Function.comp_def]
  rfl

/-- **The same mentions are taken,** with their places in bytes. -/
theorem mentions_eq (t : Text) : mentions t = pure ((SwimSets.mentions t).map (·.bytes t)) := by
  rw [mentions, candidates_eq, pure_bind]
  exact congrArg pure ((Mention.keepsPlaces_bytes t).foldl_addTo
    (fun m hm => candidates_within hm) (List.forall_mem_nil _))

theorem strokesOf_eq (t : Text) : strokesOf t = pure (SwimSets.strokesOf t) := by
  rw [strokesOf, mentions_eq, pure_bind, List.foldl_map]
  rfl

end Checked

end SwimSets
