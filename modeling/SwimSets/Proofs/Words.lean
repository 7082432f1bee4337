import Mathlib.Data.List.TakeWhile
import Mathlib.Tactic.SplitIfs
import SwimSets.Text.Basic

/-!
# Runs and words of a text

**A run** at the start of a text ends where something else stands, whatever follows.

**Words** (`Text.words`). The pieces of a text between blanks. A text is cut at each of its blanks,
and the empty pieces between blanks next to each other are left out.

**A word** (`Text.IsWord`) has characters and no blanks, so as a text it is its only word, and
before a blank it is the first.
-/

namespace SwimSets

/-- A run does not go on into a text that starts with something else. -/
theorem takeWhile_append_of_stop {p : Char → Bool} {v : Text} (h : v.head?.any p = false)
    (r : Text) : (r ++ v).takeWhile p = r.takeWhile p := by
  have hv : v.takeWhile p = [] := by
    cases v with
    | nil => rfl
    | cons x v => simp [show p x = false by simpa using h]
  rw [List.takeWhile_append, hv, List.append_nil]
  split_ifs with hl
  · exact (List.takeWhile_prefix p).eq_of_length hl |>.symm
  · rfl

namespace Text

theorem splitAt_ne_nil (p : Char → Bool) (t : Text) : splitAt p t ≠ [] := by
  cases t with
  | nil => simp [splitAt]
  | cons c t =>
    unfold splitAt
    split_ifs
    · exact List.cons_ne_nil _ _
    · split <;> exact List.cons_ne_nil _ _

/-- What stands before the first separator belongs to the first piece. -/
theorem splitAt_append {p : Char → Bool} {w : Text} (hw : ∀ c ∈ w, p c = false) (t : Text) :
    splitAt p (w ++ t) = (w ++ (splitAt p t).headD []) :: (splitAt p t).tail := by
  induction w with
  | nil =>
    cases hs : splitAt p t with
    | nil => exact absurd hs (splitAt_ne_nil p t)
    | cons l ls => simp [hs]
  | cons c w ih =>
    rw [List.forall_mem_cons] at hw
    simp [splitAt, hw.1, ih hw.2]

theorem join_cons_cons (sep : Text) (c : Char) (t : Text) (ts : List Text) :
    join sep ((c :: t) :: ts) = c :: join sep (t :: ts) := by
  cases ts <;> rfl

/-- The words of a text: the pieces between blanks, the empty ones left out. -/
def words (t : Text) : List Text := (splitAt isBlank t).filter fun w => !w.isEmpty

theorem words_cons_of_isBlank {c : Char} (h : isBlank c = true) (t : Text) :
    words (c :: t) = words t := by
  simp [words, splitAt, h]

theorem words_replicate_append (n : Nat) (t : Text) :
    words (List.replicate n ' ' ++ t) = words t := by
  induction n with
  | zero => rfl
  | succ n ih => rw [List.replicate_succ, List.cons_append, words_cons_of_isBlank (by decide), ih]

/-- A word has characters, none of which is blank. -/
structure IsWord (w : Text) : Prop where
  ne_nil : w ≠ []
  noBlank : ∀ c ∈ w, isBlank c = false

theorem IsWord.append {v w : Text} (hv : IsWord v) (hw : IsWord w) : IsWord (v ++ w) where
  ne_nil := List.append_ne_nil_of_left_ne_nil hv.ne_nil w
  noBlank := fun c hc => (List.mem_append.mp hc).elim (hv.noBlank c) (hw.noBlank c)

theorem IsWord.words_eq {w : Text} (h : IsWord w) : words w = [w] := by
  have hs := splitAt_append h.noBlank []
  rw [List.append_nil] at hs
  simp [words, hs, splitAt, h.ne_nil]

theorem IsWord.words_append {w : Text} (h : IsWord w) {c : Char} (hc : isBlank c = true)
    (t : Text) : words (w ++ c :: t) = w :: words t := by
  simp [words, splitAt_append h.noBlank, splitAt, hc, h.ne_nil]

theorem not_isBlank_of_mem_splitAt {w : Text} {t : Text} (h : w ∈ splitAt isBlank t) :
    ∀ c ∈ w, isBlank c = false := by
  induction t generalizing w with
  | nil =>
    rw [splitAt, List.mem_singleton] at h
    rw [h]
    exact List.forall_mem_nil _
  | cons c t ih =>
    unfold splitAt at h
    split_ifs at h with hc
    · rcases List.mem_cons.mp h with rfl | h
      · exact List.forall_mem_nil _
      · exact ih h
    · cases hs : splitAt isBlank t with
      | nil => exact absurd hs (splitAt_ne_nil _ t)
      | cons l ls =>
        rw [hs] at h ih
        rcases List.mem_cons.mp h with rfl | h
        · exact List.forall_mem_cons.mpr ⟨Bool.of_not_eq_true hc, ih List.mem_cons_self⟩
        · exact ih (List.mem_cons_of_mem l h)

theorem isWord_of_mem_words {w t : Text} (h : w ∈ words t) : IsWord w := by
  obtain ⟨hw, hne⟩ := List.mem_filter.mp h
  exact ⟨by simpa using hne, not_isBlank_of_mem_splitAt hw⟩

/-- A character before a word belongs to it. -/
theorem exists_words_cons {c d : Char} (hc : isBlank c = false) (hd : isBlank d = false)
    (r : Text) : ∃ w ws, words (d :: r) = w :: ws ∧ words (c :: d :: r) = (c :: w) :: ws := by
  cases hs : splitAt isBlank r with
  | nil => exact absurd hs (splitAt_ne_nil _ r)
  | cons l ls =>
    refine ⟨d :: l, ls.filter fun w => !w.isEmpty, ?_, ?_⟩
    · simp [words, splitAt, hd, hs]
    · simp [words, splitAt, hc, hd, hs]

end Text

end SwimSets
