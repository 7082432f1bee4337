import Mathlib.Data.List.Chain
import SwimSets.Proofs.Joined
import SwimSets.Proofs.Keywords
import SwimSets.Session.Parse

/-!
# What a line says in words

**The words** (`lookedFor`). Strokes, activities and the ways to split are looked for by a fixed
list of words, and so are repeats and odd or even lanes. What a line says in words is settled by
where these words are found in it.

**The same words** (`SameWords`). Two texts say the same if the words are found in the one as they
are in the other, a number of places further on (`SameWords.stroke`, `SameWords.strokes`).

**More before or behind.** A text in which no such word is found may be written behind a line if it
is set apart (`sameWords_before`), or before it if it ends where no word does
(`sameWords_behind`). It changes nothing of what the line says.
-/

namespace SwimSets

open Scanner

/-! ## Finding a keyword in two texts -/

namespace Keyword

variable {first last : Char} {w u v : Text}

theorem occurrence_fails (h : Fails u (word w)) : Fails u (occurrence first last w) := by
  intro q
  unfold occurrence
  rw [h q]

theorem occurrence_failsThrough (h : FailsThrough u v (word w)) :
    FailsThrough u v (occurrence first last w) :=
  fun b hb hne => occurrence_fails (h b hb hne)

theorem occurrence_startsAfresh (hw : w ≠ []) : StartsAfresh (occurrence first last w) := by
  intro q t hq
  have hedge : edgeClear first q = edgeClear first none := by
    rw [edgeClear_outside hq, edgeClear_outside rfl]
  unfold occurrence
  rw [LooksAhead.word hw q t]
  cases word w ⟨none, t⟩ with
  | none => rfl
  | some r => simp only [hedge]

theorem occurrence_stopsAt (hv : v.head?.any isWordChar = false) (h : StopsAt v (word w)) :
    StopsAt v (occurrence first last w) := by
  intro c
  have hedge (d : Cursor) :
      edgeClear last (d.before v).rest.head? = edgeClear last d.rest.head? := by
    obtain ⟨q, r⟩ := d
    cases r with
    | nil =>
      show edgeClear last v.head? = edgeClear last none
      rw [edgeClear_outside hv, edgeClear_outside rfl]
    | cons x r => rfl
  unfold AlikeAt occurrence
  rw [(h c).eq]
  cases word w c with
  | none => rfl
  | some r =>
    simp only [Option.map_some, hedge]
    rfl

/-- Behind a text in which the word is not found it is found further on. -/
theorem find_behind (hu : u.getLast?.any isWordChar = false) (hf : FailsThrough u v (word w)) :
    find w (u ++ v) = (find w v).map (·.moved u.length) := by
  cases w with
  | nil => rfl
  | cons x w =>
    unfold find
    cases h : (x :: w).getLast? with
    | none => rfl
    | some y =>
      simp only [List.head?_cons]
      rw [hits_behind (occurrence_startsAfresh (List.cons_ne_nil x w)) hu
        (occurrence_failsThrough hf), List.filterMap_map, List.map_filterMap]
      refine congrArg (List.filterMap · _) (funext fun h => ?_)
      show (if h.value = true then some (h.span.moved u.length) else none) = _
      split_ifs <;> rfl

/-- Before a text in which the word is not found it is found as ever. -/
theorem find_before (hv : v.head?.any isWordChar = false) (hs : StopsAt v (word w))
    (hf : FailsThrough v [] (word w)) (u : Text) : find w (u ++ v) = find w u := by
  unfold find
  cases w.head? with
  | none => rfl
  | some x =>
    cases w.getLast? with
    | none => rfl
    | some y => simp only [hits_before (occurrence_stopsAt hv hs) (occurrence_failsThrough hf)]

/-- A word is found on either side of a sign that is not in it. -/
theorem find_across {x : Char} (hx : isWordChar x = false) (hw : x ∉ w) (u v : Text) :
    find w (u ++ x :: v) = find w u ++ (find w v).map (·.moved (u.length + 1)) := by
  cases w with
  | nil => rfl
  | cons y w =>
    unfold find
    cases h : (y :: w).getLast? with
    | none => rfl
    | some z =>
      simp only [List.head?_cons]
      have hstops : StopsAt (x :: v) (occurrence y z (y :: w)) :=
        occurrence_stopsAt (by simpa using hx) (.word_of_head (by simpa using hw))
      have hfails : Fails (x :: v) (occurrence y z (y :: w)) := by
        refine occurrence_fails (.word fun hpre => ?_)
        exact hw ((List.cons_prefix_cons.1 hpre).1 ▸ List.mem_cons_self)
      have hhits : (occurrence y z (y :: w)).hits (u ++ x :: v) =
          (occurrence y z (y :: w)).hits u ++
            ((occurrence y z (y :: w)).hits v).map (·.moved (u.length + 1)) := by
        rw [hits, hitsFrom_append 0 (Nat.zero_le _) fun i _ => hstops _, hitsFrom, hfails]
        dsimp only
        rw [hitsFrom_afresh (q := some x) (occurrence_startsAfresh (List.cons_ne_nil y w)) hx,
          Nat.add_assoc, hitsFrom_moved]
        rfl
      rw [hhits, List.filterMap_append, List.filterMap_map, List.map_filterMap]
      refine congrArg (_ ++ List.filterMap · _) (funext fun h => ?_)
      show (if h.value = true then some (h.span.moved _) else none) = _
      split_ifs <;> rfl

theorem isIn_eq_of_find {t : Text} {k : Nat} (h : find w t = (find w u).map (·.moved k)) :
    isIn w t = isIn w u := by
  simp [isIn, h]

theorem lookUp_congr {α : Type} {table : List (Text × α)} {t : Text}
    (h : ∀ e ∈ table, isIn e.1 t = isIn e.1 u) : lookUp table t = lookUp table u := by
  unfold lookUp
  congr 1
  induction table with
  | nil => rfl
  | cons e table ih =>
    obtain ⟨he, htable⟩ := List.forall_mem_cons.1 h
    rw [List.find?_cons, List.find?_cons, he, ih htable]

end Keyword

open Keyword

/-! ## Strokes -/

/-- The words for strokes are found in `t` as they are in `u`, `k` places further on. -/
def SameStrokes (k : Nat) (t u : Text) : Prop :=
  ∀ e ∈ strokeWords, find e.1 t = (find e.1 u).map (·.moved k)

/-- The mention, `k` places further on. -/
def Mention.moved (m : Mention) (k : Nat) : Mention := ⟨m.stroke, m.span.moved k⟩

theorem Span.overlaps_moved (a b : Span) (k : Nat) :
    (a.moved k).overlaps (b.moved k) = a.overlaps b := by
  simp [overlaps, moved]

theorem Mention.keepsPlaces_moved (k : Nat) : KeepsPlaces (fun _ => True) (·.moved k) where
  start_le _ _ := Nat.add_le_add_iff_right
  overlaps _ _ := Span.overlaps_moved _ _ k

namespace SameStrokes

variable {k : Nat} {t u : Text} (h : SameStrokes k t u)
include h

theorem candidates : candidates t = (candidates u).map (·.moved k) := by
  unfold SwimSets.candidates
  rw [List.map_flatMap, List.flatMap_def, List.flatMap_def]
  refine congrArg List.flatten (List.map_congr_left fun e he => ?_)
  rw [h e he, List.map_map, List.map_map]
  rfl

theorem mentions : mentions t = (mentions u).map (·.moved k) := by
  unfold SwimSets.mentions
  rw [h.candidates]
  exact (Mention.keepsPlaces_moved k).foldl_addTo (fun _ _ => trivial) (List.forall_mem_nil _)

theorem strokesOf : strokesOf t = strokesOf u := by
  unfold SwimSets.strokesOf
  rw [h.mentions, List.foldl_map]
  rfl

theorem strokeOf : strokeOf t = strokeOf u :=
  lookUp_congr fun e he => isIn_eq_of_find (h e he)

end SameStrokes

/-! ## Words -/

/-- The words by which a line is given to odd or even lanes. -/
def parityWords : List Text := ["odds", "odd", "evens", "even"]

/-- The words that the rules look for, strokes and activities aside. -/
def ruleWords : List Text := 
  parityWords ++ (["per stroke", "per-stroke", "repeat", "alt"] : List Text)

/-- The two texts say the same in words, activities aside. -/
structure SameWords (t u : Text) : Prop where
  stroke : strokeOf t = strokeOf u
  strokes : strokesOf t = strokesOf u
  perStroke : Split.saysPerStroke t = Split.saysPerStroke u
  asked : Repeat.isAsked t = Repeat.isAsked u
  parity : laneConditional.occursIn t = laneConditional.occursIn u
  alternating : Split.altLengths.occursIn t = Split.altLengths.occursIn u

namespace SameWords

/-- The words that no line may gain or lose if it is to say the same. -/
def words : List Text := strokeWords.map (·.1) ++ ruleWords

theorem symm {t u : Text} (h : SameWords t u) : SameWords u t :=
  ⟨h.stroke.symm, h.strokes.symm, h.perStroke.symm, h.asked.symm, h.parity.symm,
    h.alternating.symm⟩

theorem trans {t u v : Text} (h : SameWords t u) (h' : SameWords u v) : SameWords t v :=
  ⟨h.stroke.trans h'.stroke, h.strokes.trans h'.strokes, h.perStroke.trans h'.perStroke,
    h.asked.trans h'.asked, h.parity.trans h'.parity, h.alternating.trans h'.alternating⟩

end SameWords

/-- The words that name an activity. -/
def namingActivity : List Text := activityWords.map (·.1) ++ drillWords

/-- All the words that are looked for in a line. -/
def lookedFor : List Text := SameWords.words ++ namingActivity

/-- Behind each blank in a word a letter or digit goes on, though no r. -/
theorem goesOn_of_mem_lookedFor : ∀ w ∈ lookedFor, goesOn w = true := by decide +kernel

/-- The activity that a text names is settled by the words for activities. -/
theorem activityOf_congr {t u : Text} (h : ∀ w ∈ namingActivity, isIn w t = isIn w u) :
    activityOf t = activityOf u := by
  have hdrill : (drillWords.any fun w => isIn w t) = drillWords.any fun w => isIn w u := by
    rw [Bool.eq_iff_iff, List.any_eq_true, List.any_eq_true]
    exact exists_congr fun w => and_congr_right fun hw => by rw [h w (List.mem_append_right _ hw)]
  have hlook : lookUp activityWords t = lookUp activityWords u :=
    lookUp_congr fun e he => h e.1 (List.mem_append_left _ (List.mem_map_of_mem he))
  rw [activityOf, activityOf, hdrill, hlook]

/-! ## More before or behind -/

section

variable {u v : Text}

theorem laneConditional_failsThrough (h : ∀ w ∈ parityWords, FailsThrough u v (word w)) :
    FailsThrough u v laneConditional :=
  fun b hb hne => .wordEdge_bind (.bind (.anyWord fun w hw => h w hw b hb hne) _)

theorem laneConditional_startsAfresh : StartsAfresh laneConditional :=
  .wordEdge_bind (.bind (.anyWord (by decide)) _)

theorem laneConditional_stopsAt (hv : Apart v) : StopsAt v laneConditional := by
  refine .bind (.wordEdge hv.edge) fun _ => .bind (hv.anyWord (by decide)) fun _ => ?_
  refine hv.blanks_bind (p := fun x => x == 'l' || (x == ':' || x == '/' || x == '-' || x == '='))
    ?_ ?_ (by decide)
  · exact .either (hv.wholeWord (by decide)) (.one (hv.head (by decide)))
  · exact .either (.wholeWord (by decide)) ((OpensWith.one _).mono fun x hx => by simp [hx])

theorem altLengths_failsThrough (h : FailsThrough u v (word "alt")) :
    FailsThrough u v Split.altLengths :=
  fun b hb hne => .wordEdge_bind (.bind (h b hb hne) _)

theorem altLengths_startsAfresh : StartsAfresh Split.altLengths :=
  .wordEdge_bind (.bind (.word (by decide)) _)

theorem altLengths_stopsAt (hv : Apart v) : StopsAt v Split.altLengths := by
  refine .bind (.wordEdge hv.edge) fun _ => .bind (hv.word (by decide)) fun _ =>
    .bind (.maybe (hv.anyWord (by decide))) fun _ => ?_
  exact hv.blanks_bind (hv.wholeWord (by decide)) (.wholeWord (p := (· == 'l')) (by decide))
    (by decide)

/-- What ends where no word does, and holds none of the words, may stand before a text. -/
theorem sameWords_behind (hu : u.getLast?.any isWordChar = false)
    (h : ∀ w ∈ SameWords.words, FailsThrough u v (word w)) : SameWords (u ++ v) v := by
  have hstrokes : SameStrokes u.length (u ++ v) v := fun e he =>
    find_behind hu (h e.1 (List.mem_append_left _ (List.mem_map_of_mem he)))
  have hrule {w : Text} (hw : w ∈ ruleWords) : FailsThrough u v (word w) :=
    h w (List.mem_append_right _ hw)
  have hin {w : Text} (hw : w ∈ ruleWords) : isIn w (u ++ v) = isIn w v :=
    isIn_eq_of_find (find_behind hu (hrule hw))
  refine ⟨hstrokes.strokeOf, hstrokes.strokesOf, ?_, ?_, ?_, ?_⟩
  · rw [Split.saysPerStroke, hin (by decide), hin (by decide), Split.saysPerStroke]
  · exact occursIn_behind (LooksAhead.word (by decide)).startsAfresh hu (hrule (by decide))
  · exact occursIn_behind laneConditional_startsAfresh hu
      (laneConditional_failsThrough fun w hw => hrule (List.mem_append_left _ hw))
  · exact occursIn_behind altLengths_startsAfresh hu (altLengths_failsThrough (hrule (by decide)))

/-- What stands apart, and holds none of the words, may stand behind a text. -/
theorem sameWords_before (hv : Apart v) (h : ∀ w ∈ SameWords.words, FailsThrough v [] (word w))
    (u : Text) : SameWords (u ++ v) u := by
  have hgo : ∀ w ∈ SameWords.words, goesOn w = true :=
    fun w hw => goesOn_of_mem_lookedFor w (List.mem_append_left _ hw)
  have hfind {w : Text} (hw : w ∈ SameWords.words) :
      find w (u ++ v) = (find w u).map (·.moved 0) :=
    (find_before hv.edge (hv.word (hgo w hw)) (h w hw) u).trans (List.map_id _).symm
  have hstrokes : SameStrokes 0 (u ++ v) u := fun e he =>
    hfind (List.mem_append_left _ (List.mem_map_of_mem he))
  have hrule {w : Text} (hw : w ∈ ruleWords) : FailsThrough v [] (word w) :=
    h w (List.mem_append_right _ hw)
  have hin {w : Text} (hw : w ∈ ruleWords) : isIn w (u ++ v) = isIn w u :=
    isIn_eq_of_find (hfind (List.mem_append_right _ hw))
  refine ⟨hstrokes.strokeOf, hstrokes.strokesOf, ?_, ?_, ?_, ?_⟩
  · rw [Split.saysPerStroke, hin (by decide), hin (by decide), Split.saysPerStroke]
  · exact occursIn_before (hv.word (by decide)) (hrule (by decide)) u
  · exact occursIn_before (laneConditional_stopsAt hv)
      (laneConditional_failsThrough fun w hw => hrule (List.mem_append_left _ hw)) u
  · exact occursIn_before (altLengths_stopsAt hv) (altLengths_failsThrough (hrule (by decide))) u

/-- The activity does not change either. -/
theorem activityOf_before (hv : Apart v)
    (h : ∀ w ∈ namingActivity, FailsThrough v [] (word w)) (u : Text) :
    activityOf (u ++ v) = activityOf u := by
  have hgo : ∀ w ∈ namingActivity, goesOn w = true :=
    fun w hw => goesOn_of_mem_lookedFor w (List.mem_append_right _ hw)
  refine activityOf_congr fun w hw => ?_
  unfold isIn
  rw [find_before hv.edge (hv.word (hgo w hw)) (h w hw)]

theorem activityOf_behind (hu : u.getLast?.any isWordChar = false)
    (h : ∀ w ∈ namingActivity, FailsThrough u v (word w)) :
    activityOf (u ++ v) = activityOf v :=
  activityOf_congr fun w hw => isIn_eq_of_find (find_behind hu (h w hw))

end

/-! ## Texts that hold no word -/

section

variable {l p v w : Text}

/-- A word that is not in the text is found nowhere in it. -/
theorem failsThrough_of_not_infix (h : ¬ w <:+: v) : FailsThrough v [] (word w) := by
  intro b hb _
  refine .word fun hw => h ?_
  rw [List.append_nil] at hw
  exact hw.isInfix.trans hb.isInfix

/-- A word that is not in the list before the comma is found neither there nor across it. -/
theorem failsThrough_comma (hw : w.head?.any (!isBlank ·) = true) (hc : ',' ∉ w)
    (hp : ∀ x ∈ p, x = ',' ∨ isBlank x = true) (hl : l = [] ∨ p.head? = some ',') (hin : ¬ w <:+: l)
    (v : Text) : FailsThrough (l ++ p) v (word w) := by
  intro b hb hne
  refine .word fun hpre => ?_
  obtain ⟨a, ha⟩ := hb
  -- What starts behind the list starts with a comma or a blank.
  have behind {b : Text} (hne : b ≠ []) (hb : ∀ x ∈ b, x = ',' ∨ isBlank x = true)
      (hpre : w <+: b ++ v) : False := by
    obtain ⟨x, b, rfl⟩ := List.exists_cons_of_ne_nil hne
    cases w with
    | nil => simp at hw
    | cons y w =>
      obtain ⟨rfl, -⟩ := List.cons_prefix_cons.1 hpre
      rcases hb y List.mem_cons_self with rfl | hy
      · exact hc List.mem_cons_self
      · simp [hy] at hw
  rcases List.append_eq_append_iff.1 ha with ⟨as, hl', rfl⟩ | ⟨bs, -, rfl⟩
  · by_cases has : as = []
    · subst has
      exact behind hne hp hpre
    · have hcomma : p.head? = some ',' := hl.resolve_left fun h => by simp [h, has] at hl'
      obtain ⟨r, rfl⟩ := List.head?_eq_some_iff.1 hcomma
      rcases Nat.lt_or_ge as.length w.length with hlen | hlen
      · have hmem : as ++ [','] <+: w := by
          refine List.prefix_of_prefix_length_le ⟨r ++ v, by simp⟩ hpre ?_
          rw [List.length_append]
          exact hlen
        exact hc (hmem.subset (by simp))
      · have hwas : w <+: as :=
          List.prefix_of_prefix_length_le hpre (by simp [List.append_assoc]) hlen
        exact hin (hwas.isInfix.trans (hl' ▸ (List.suffix_append a as).isInfix))
  · exact behind hne (fun x hx => hp x (List.mem_append_right _ hx)) hpre

/-- Each word starts with no blank, and none has a comma. -/
theorem head_of_mem_lookedFor (hw : w ∈ lookedFor) :
    w.head?.any (!isBlank ·) = true ∧ ',' ∉ w := by
  have hall : ∀ w ∈ lookedFor, w.head?.any (!isBlank ·) = true ∧ ',' ∉ w := by decide +kernel
  exact hall w hw

theorem failsThrough_blank (hp : ∀ x ∈ p, isBlank x = true) (hw : w ∈ lookedFor) (v : Text) :
    FailsThrough p v (word w) := by
  obtain ⟨hhead, hcomma⟩ := head_of_mem_lookedFor hw
  refine failsThrough_comma (l := []) hhead hcomma (fun x hx => .inr (hp x hx)) (.inl rfl)
    (fun h => ?_) v
  simp [List.eq_nil_of_infix_nil h] at hhead

/-- Blanks at the start say nothing. -/
theorem sameWords_blank (hp : ∀ x ∈ p, isBlank x = true) (t : Text) : SameWords (p ++ t) t :=
  sameWords_behind (last_of_blank hp) fun _ hw =>
    failsThrough_blank hp (List.mem_append_left _ hw) _

theorem activityOf_blank (hp : ∀ x ∈ p, isBlank x = true) (t : Text) :
    activityOf (p ++ t) = activityOf t :=
  activityOf_behind (last_of_blank hp) fun _ hw =>
    failsThrough_blank hp (List.mem_append_right _ hw) _

theorem sameWords_trimStart (t : Text) : SameWords t.trimStart t := by
  have h := sameWords_blank (p := t.takeWhile isBlank) (fun x hx => List.mem_takeWhile_imp hx)
    t.trimStart
  rw [Text.trimStart, List.takeWhile_append_dropWhile] at h
  exact h.symm

theorem activityOf_trimStart (t : Text) : activityOf t.trimStart = activityOf t := by
  have h := activityOf_blank (p := t.takeWhile isBlank) (fun x hx => List.mem_takeWhile_imp hx)
    t.trimStart
  rw [Text.trimStart, List.takeWhile_append_dropWhile] at h
  exact h.symm

/-- The words that asides are written with. -/
def asideWords : List Text := (["lanes", "and", "to", "rest"] : List Text) ++ Aside.timeUnits

/-- A letter or a full stop. -/
def isLettering (c : Char) : Bool := isAsciiLetter c || c == '.'

/-- The characters may stand side by side in an aside: if both are lettering, they do so in one of
its words. -/
def Joined (x y : Char) : Prop :=
  isLettering x = true → isLettering y = true → (x, y) ∈ asideWords.flatMap fun w => w.zip w.tail

instance (x y : Char) : Decidable (Joined x y) := inferInstanceAs (Decidable (_ → _ → _))

theorem isChain_of_not_lettering (h : ∀ c ∈ v, isLettering c = false) : v.IsChain Joined := by
  induction v with
  | nil => exact .nil
  | cons x r ih =>
    obtain ⟨hx, hr⟩ := List.forall_mem_cons.1 h
    refine List.isChain_cons.2 ⟨fun y _ hx' => ?_, ih hr⟩
    rw [hx] at hx'
    cases hx'

/-- Texts may be put together where one of them has no lettering. -/
theorem isChain_append (hl : l.IsChain Joined) (hv : v.IsChain Joined)
    (h : l.getLast?.any isLettering = false ∨ v.head?.any isLettering = false) :
    (l ++ v).IsChain Joined := by
  refine List.isChain_append.2 ⟨hl, hv, fun x hx y hy hlx hly => ?_⟩
  rcases h with h | h
  · simp [Option.mem_def.1 hx, hlx] at h
  · simp [Option.mem_def.1 hy, hly] at h

/-- The one word that is looked for and has no letters. -/
def threes : Text := "3-3-3"

/-- **No word is found in an aside**, but for the drill that is written in digits. -/
theorem not_infix_of_isChain (h : v.IsChain Joined) (hw : w ∈ lookedFor) (hne : w ≠ threes) :
    ¬ w <:+: v := by
  have hall : ∀ w ∈ lookedFor, w ≠ threes → ¬ w.IsChain Joined := by decide +kernel
  exact fun hin => hall w hw hne <| List.IsChain.infix h hin

end

end SwimSets
