import SwimSets.Proofs.Asides
import SwimSets.Proofs.Spacing

/-!
# Asides do not see how wide a gap is

Between the words of an aside there may be blanks, and each kind of aside reads all that are there.
So it reads a text as it reads the text in which each run of blanks is one space.

**Gaps closed up** (`Squeezed`). From a place in a text to the place in the squeezed text: what is
left is squeezed, and the character before is a word character or none as it was. A scanner that
keeps to that does not see the width of a gap (`Scanner.Unspaced`). Blanks at the end are lost, so
after blanks something has to be read (`Scanner.Unspaced.skip_bind`).

**Result (`occursIn_collapse`).** A kind of aside occurs in the collapsed text exactly if it occurs
in the text.
-/

namespace SwimSets

namespace Text

variable {p : Char → Bool} {t : Text}

/-- A run of what no blank is ends where it ends in the squeezed text. -/
theorem takeWhile_squeeze (hp : ∀ c, isBlank c = true → p c = false) (t : Text) :
    (squeeze t).takeWhile p = t.takeWhile p := by
  have hspace : p ' ' = false := hp ' ' rfl
  induction t with
  | nil => rfl
  | cons c t ih =>
    by_cases hc : isBlank c = true
    · rw [squeeze, if_pos hc, List.takeWhile_cons_of_neg (by simp [hp c hc])]
      cases squeeze t with
      | nil => rfl
      | cons d s =>
        rw [gap]
        split_ifs with hd
        · rw [hd, List.takeWhile_cons_of_neg (by simp [hspace])]
        · rw [List.takeWhile_cons_of_neg (by simp [hspace])]
    · rw [squeeze, if_neg hc, List.takeWhile_cons, List.takeWhile_cons, ih]

theorem dropWhile_squeeze (hp : ∀ c, isBlank c = true → p c = false) (t : Text) :
    (squeeze t).dropWhile p = squeeze (t.dropWhile p) := by
  have hspace : p ' ' = false := hp ' ' rfl
  induction t with
  | nil => rfl
  | cons c t ih =>
    by_cases hc : isBlank c = true
    · rw [List.dropWhile_cons_of_neg (by simp [hp c hc]), squeeze, if_pos hc]
      cases squeeze t with
      | nil => rfl
      | cons d s =>
        rw [gap]
        split_ifs with hd
        · rw [hd, List.dropWhile_cons_of_neg (by simp [hspace])]
        · rw [List.dropWhile_cons_of_neg (by simp [hspace])]
    · rw [squeeze, if_neg hc, List.dropWhile_cons, List.dropWhile_cons, ih]
      split_ifs
      · rfl
      · rw [squeeze, if_neg hc]

/-- A run that takes blanks with it is dropped from the squeezed text alike. -/
theorem dropWhile_squeeze_of_blank (hp : ∀ c, isBlank c = true → p c = true) (t : Text) :
    (squeeze t).dropWhile p = squeeze (t.dropWhile p) := by
  have hspace : p ' ' = true := hp ' ' rfl
  induction t with
  | nil => rfl
  | cons c t ih =>
    by_cases hc : isBlank c = true
    · rw [List.dropWhile_cons_of_pos (hp c hc), ← ih, squeeze, if_pos hc]
      cases squeeze t with
      | nil => rfl
      | cons d s =>
        rw [gap]
        split_ifs
        · rfl
        · rw [List.dropWhile_cons_of_pos hspace]
    · rw [squeeze, if_neg hc, List.dropWhile_cons, List.dropWhile_cons, ih]
      split_ifs
      · rfl
      · rw [squeeze, if_neg hc]

/-- What comes before a character that is no blank, in the text and in the squeezed text. -/
theorem exists_squeeze_append {y : Char} (hy : isBlank y = false) (g s : Text) :
    ∃ g', squeeze (g ++ y :: s) = g' ++ y :: squeeze s ∧ (∀ x ∈ g', x = ' ' ∨ x ∈ g) ∧
      ∀ q q' : Option Char, q'.any isWordChar = q.any isWordChar →
        (g'.getLast?.or q').any isWordChar = (g.getLast?.or q).any isWordChar := by
  induction g with
  | nil => exact ⟨[], by simp [squeeze, hy], by simp, fun q q' h => h⟩
  | cons c g ih =>
    obtain ⟨g', hsq, hmem, hlast⟩ := ih
    by_cases hc : isBlank c = true
    · have hword := not_isWordChar_of_isBlank hc
      have hspace (q : Option Char) : (g'.getLast?.or (some ' ')).any isWordChar =
          ((c :: g).getLast?.or q).any isWordChar := by
        rw [Scanner.getLast?_cons_or]
        exact hlast (some c) (some ' ') (by simp [hword, show isWordChar ' ' = false by decide])
      rw [List.cons_append, squeeze, if_pos hc, hsq]
      cases g' with
      | nil =>
        refine ⟨[' '], by simp [gap_cons hy], by simp, fun q q' _ => hspace q⟩
      | cons d g' =>
        by_cases hd : d = ' '
        · refine ⟨d :: g', by simp [gap, hd], fun x hx => (hmem x hx).imp_right (.tail c), ?_⟩
          intro q q' _
          rw [← hspace q, List.getLast?_cons, Option.some_or, Option.some_or]
        · refine ⟨' ' :: d :: g', by simp [gap, hd], ?_, fun q q' _ => ?_⟩
          · exact List.forall_mem_cons.2 ⟨.inl rfl, fun x hx => (hmem x hx).imp_right (.tail c)⟩
          · rw [Scanner.getLast?_cons_or]
            exact hspace q
    · rw [List.cons_append, squeeze, if_neg hc, hsq]
      refine ⟨c :: g', rfl, ?_, fun q q' _ => ?_⟩
      · exact List.forall_mem_cons.2
          ⟨.inr List.mem_cons_self, fun x hx => (hmem x hx).imp_right (.tail c)⟩
      · rw [Scanner.getLast?_cons_or, Scanner.getLast?_cons_or]
        exact hlast (some c) (some c) rfl

theorem prefix_squeeze_iff {w : Text} (hw : ∀ x ∈ w, isBlank x = false) :
    w <+: squeeze t ↔ w <+: t := by
  induction w generalizing t with
  | nil => simp
  | cons x w ih =>
    obtain ⟨hx, hw⟩ := List.forall_mem_cons.1 hw
    cases t with
    | nil => rfl
    | cons c t =>
      by_cases hc : isBlank c = true
      · have hne : x ≠ c := fun h => by simp [h, hc] at hx
        have hspace : x ≠ ' ' := fun h => by simp [h, show isBlank ' ' = true from rfl] at hx
        rw [squeeze, if_pos hc]
        cases squeeze t with
        | nil => simp [gap, List.cons_prefix_cons, hne]
        | cons d s =>
          rw [gap]
          split_ifs with hd <;> simp [List.cons_prefix_cons, hne, hspace, hd]
      · rw [squeeze, if_neg hc, List.cons_prefix_cons, List.cons_prefix_cons, ih hw]

end Text

open Scanner Aside

/-- A place in a text and the place in the text with its gaps closed up. -/
structure Squeezed (c c' : Cursor) : Prop where
  rest : c'.rest = Text.squeeze c.rest
  prev : c'.prev.any isWordChar = c.prev.any isWordChar

namespace Squeezed

variable {c c' : Cursor} {p : Char → Bool}

/-- What both have read is the same text, and what is left of the one is squeezed in the other. -/
theorem advance {w v : Text} (h : Squeezed c c') (hr : c.rest = w ++ v)
    (hr' : c'.rest = w ++ Text.squeeze v) :
    Squeezed (c.advance w.length) (c'.advance w.length) := by
  constructor
  · rw [Cursor.advance, Cursor.advance, hr, hr', List.drop_left, List.drop_left]
  · rw [Cursor.advance, Cursor.advance, hr, hr', List.take_left, List.take_left]
    cases w.getLast? with
    | none => exact h.prev
    | some x => rfl

theorem head (h : Squeezed c c') (hp : ∀ x, isBlank x = true → p x = false) :
    c'.rest.head?.any p = c.rest.head?.any p := by
  rw [h.rest]
  cases c.rest with
  | nil => rfl
  | cons x r =>
    by_cases hx : isBlank x = true
    · rw [Text.squeeze, if_pos hx]
      cases Text.squeeze r with
      | nil => simp [Text.gap, hp x hx]
      | cons y s =>
        rw [Text.gap]
        split_ifs with hy <;> simp [hp x hx, hy, hp ' ' rfl]
    · rw [Text.squeeze, if_neg hx]
      rfl

end Squeezed

namespace Scanner

variable {α β : Type} {p : Char → Bool} {c c' d d' : Cursor}

/-- The scanner does not see how wide a gap is. -/
def Unspaced (s : Scanner α) : Prop :=
  ∀ c c', Squeezed c c' → s c = none ∧ s c' = none ∨
    ∃ a d d', s c = some (a, d) ∧ s c' = some (a, d') ∧ Squeezed d d'

/-- At least one blank is skipped, if there is one. -/
theorem blanks1_bind_eq (f : Unit → Scanner β) (c : Cursor) :
    (blanks1 >>= f) c = if c.rest.head?.any isBlank then (skip isBlank >>= f) c else none := by
  obtain ⟨q, r⟩ := c
  cases r with
  | nil => rfl
  | cons x r =>
    rw [blanks1_bind_cons, List.head?_cons, Option.any_some]
    split_ifs with hx
    · show f () (Cursor.advance ⟨some x, r⟩ (r.takeWhile isBlank).length) =
        f () (Cursor.advance ⟨q, x :: r⟩ ((x :: r).takeWhile isBlank).length)
      rw [List.takeWhile_cons_of_pos hx, List.length_cons, place_cons]
    · rfl

namespace Unspaced

theorem pure (a : α) : Unspaced (Pure.pure a : Scanner α) :=
  fun c c' h => .inr ⟨a, c, c', rfl, rfl, h⟩

theorem bind {s : Scanner α} {f : α → Scanner β} (hs : Unspaced s) (hf : ∀ a, Unspaced (f a)) :
    Unspaced (s >>= f) := by
  intro c c' h
  rcases hs c c' h with ⟨hc, hc'⟩ | ⟨a, d, d', hc, hc', hd⟩
  · exact .inl ⟨bind_of_none hc, bind_of_none hc'⟩
  · rw [bind_of_some hc, bind_of_some hc']
    exact hf a d d' hd

theorem guarded (b : Prop) [Decidable b] : Unspaced (guard b : Scanner Unit) := by
  unfold guard
  split_ifs
  · exact pure ()
  · exact fun c c' _ => .inl ⟨rfl, rfl⟩

theorem wordEdge : Unspaced wordEdge := by
  intro c c' h
  have hedge : c'.atWordEdge = c.atWordEdge := by
    rw [Cursor.atWordEdge, Cursor.atWordEdge, h.prev,
      h.head fun x hx => not_isWordChar_of_isBlank hx]
  simp only [Scanner.wordEdge, hedge]
  split_ifs
  · exact .inr ⟨(), c, c', rfl, rfl, h⟩
  · exact .inl ⟨rfl, rfl⟩

theorem run (hp : ∀ x, isBlank x = true → p x = false) : Unspaced (run p) := by
  intro c c' h
  have htake : c'.rest.takeWhile p = c.rest.takeWhile p := by
    rw [h.rest, Text.takeWhile_squeeze hp]
  simp only [Scanner.run, htake]
  split_ifs
  · exact .inl ⟨rfl, rfl⟩
  · refine .inr ⟨_, _, _, rfl, rfl, h.advance List.takeWhile_append_dropWhile.symm ?_⟩
    rw [← Text.dropWhile_squeeze hp, ← h.rest, ← htake, List.takeWhile_append_dropWhile]

theorem word {w : Text} (hw : ∀ x ∈ w, isBlank x = false) : Unspaced (word w) := by
  intro c c' h
  have hiff : w <+: c'.rest ↔ w <+: c.rest := by rw [h.rest, Text.prefix_squeeze_iff hw]
  simp only [Scanner.word, List.isPrefixOf_iff_prefix, hiff]
  split_ifs with hpre
  · obtain ⟨v, hv⟩ := hpre
    refine .inr ⟨(), _, _, rfl, rfl, h.advance hv.symm ?_⟩
    rw [h.rest, ← hv, Text.squeeze_append_of_nonblank hw]
  · exact .inl ⟨rfl, rfl⟩

theorem one (hp : ∀ x, isBlank x = true → p x = false) : Unspaced (one p) := by
  rintro ⟨q, r⟩ ⟨q', r'⟩ ⟨rfl, hprev⟩
  cases r with
  | nil => exact .inl ⟨rfl, rfl⟩
  | cons x r =>
    by_cases hx : isBlank x = true
    · refine .inl ⟨by simp [Scanner.one, hp x hx], ?_⟩
      have := Squeezed.head (c := ⟨q, x :: r⟩) ⟨rfl, hprev⟩ hp
      exact Fails.one (by simpa [hp x hx] using this) q'
    · have hsq : Text.squeeze (x :: r) = x :: Text.squeeze r := by rw [Text.squeeze, if_neg hx]
      simp only [Scanner.one, hsq]
      split_ifs
      · exact .inr ⟨(), _, _, rfl, rfl, rfl, rfl⟩
      · exact .inl ⟨rfl, rfl⟩

theorem maybe {s : Scanner α} (hs : Unspaced s) : Unspaced (maybe s) := by
  intro c c' h
  unfold Scanner.maybe
  rcases hs c c' h with ⟨hc, hc'⟩ | ⟨a, d, d', hc, hc', hd⟩
  · rw [hc, hc']
    exact .inr ⟨(), c, c', rfl, rfl, h⟩
  · rw [hc, hc']
    exact .inr ⟨(), d, d', rfl, rfl, hd⟩

theorem notHere {s : Scanner α} (hs : Unspaced s) : Unspaced (notHere s) := by
  intro c c' h
  unfold Scanner.notHere
  rcases hs c c' h with ⟨hc, hc'⟩ | ⟨a, d, d', hc, hc', hd⟩
  · rw [hc, hc']
    exact .inr ⟨(), c, c', rfl, rfl, h⟩
  · rw [hc, hc']
    exact .inl ⟨rfl, rfl⟩

theorem oneOf {ss : List (Scanner α)} (h : ∀ s ∈ ss, Unspaced s) : Unspaced (oneOf ss) := by
  induction ss with
  | nil => exact fun c c' _ => .inl ⟨rfl, rfl⟩
  | cons s ss ih =>
    obtain ⟨hs, hss⟩ := List.forall_mem_cons.1 h
    intro c c' hc
    simp only [Scanner.oneOf]
    rcases hs c c' hc with ⟨hn, hn'⟩ | ⟨a, d, d', hd, hd', hsq⟩
    · rw [hn, hn']
      exact ih hss c c' hc
    · rw [hd, hd']
      exact .inr ⟨a, d, d', rfl, rfl, hsq⟩

theorem either {s s' : Scanner α} (h : Unspaced s) (h' : Unspaced s') :
    Unspaced (Scanner.oneOf [s, s']) :=
  oneOf (List.forall_mem_cons.2 ⟨h, List.forall_mem_singleton.2 h'⟩)

theorem anyWord {ws : List Text} (hw : ∀ w ∈ ws, ∀ x ∈ w, isBlank x = false) :
    Unspaced (anyWord ws) := by
  refine oneOf fun s hs => ?_
  obtain ⟨w, hmem, rfl⟩ := List.mem_map.1 hs
  exact word (hw w hmem)

theorem wholeWord {ws : List Text} (hw : ∀ w ∈ ws, ∀ x ∈ w, isBlank x = false) :
    Unspaced (wholeWord ws) := by
  refine oneOf fun s hs => ?_
  obtain ⟨w, hmem, rfl⟩ := List.mem_map.1 hs
  exact (word (hw w hmem)).bind fun _ => wordEdge

/-- What is skipped takes blanks with it, and something has to be read behind it. -/
theorem skip_bind {f : Unit → Scanner β} (hp : ∀ x, isBlank x = true → p x = true)
    (hf : Unspaced (f ())) (hend : Fails [] (f ())) : Unspaced (skip p >>= f) := by
  rintro ⟨q, r⟩ ⟨q', r'⟩ ⟨rfl, hprev⟩
  have hr : r = r.takeWhile p ++ r.dropWhile p := List.takeWhile_append_dropWhile.symm
  cases hd : r.dropWhile p with
  | nil =>
    refine .inl ⟨Fails.skip_bind (by rwa [hd]) q, Fails.skip_bind ?_ q'⟩
    rwa [Text.dropWhile_squeeze_of_blank hp, hd]
  | cons y s =>
    have hpy : p y = false := by
      have := List.head?_dropWhile_not p r
      simpa [hd] using this
    have hy : isBlank y = false := Bool.eq_false_iff.2 fun hb => by simp [hp y hb] at hpy
    obtain ⟨g', hsq, hmem, hlast⟩ := Text.exists_squeeze_append hy (r.takeWhile p) s
    rw [hd] at hr
    rw [← hr] at hsq
    have hall : ∀ x ∈ r.takeWhile p, p x = true := fun x hx => List.mem_takeWhile_imp hx
    have hall' : ∀ x ∈ g', p x = true := fun x hx =>
      (hmem x hx).elim (fun h => h ▸ hp ' ' rfl) (hall x)
    have hskip := skip_append hall (r := y :: s) (by simp [hpy]) q
    have hskip' := skip_append hall' (r := y :: Text.squeeze s) (by simp [hpy]) q'
    rw [← hr] at hskip
    rw [← hsq] at hskip'
    rw [bind_of_some hskip, bind_of_some hskip']
    exact hf _ _ ⟨by simp [Text.squeeze, hy], hlast q q' hprev⟩

/-- One gap at least has to be there, and something behind it. -/
theorem blanks1_bind {f : Unit → Scanner β} (hf : Unspaced (f ())) (hend : Fails [] (f ())) :
    Unspaced (blanks1 >>= f) := by
  intro c c' h
  rw [blanks1_bind_eq, blanks1_bind_eq]
  cases hr : c.rest with
  | nil =>
    have hr' : c'.rest = [] := by rw [h.rest, hr, Text.squeeze]
    simp [hr']
  | cons x r =>
    by_cases hx : isBlank x = true
    · rw [List.head?_cons, Option.any_some, if_pos hx]
      rcases skip_bind (fun _ hb => hb) hf hend c c' h with ⟨hn, hn'⟩ | ⟨a, d, d', hd, hd', hsq⟩
      · rw [hn, hn']
        exact .inl ⟨rfl, by split_ifs <;> rfl⟩
      · have hhead : c'.rest.head?.any isBlank = true := by
          rw [h.rest, hr, Text.squeeze, if_pos hx]
          cases hs : Text.squeeze r with
          | nil =>
            -- Nothing is left behind the gap, and there nothing is read.
            have hnil : c'.rest = [] := by rw [h.rest, hr, Text.squeeze, if_pos hx, hs, Text.gap]
            have hfails := Fails.skip_bind (p := isBlank) (t := c'.rest) (by rwa [hnil]) c'.prev
            rw [hd'] at hfails
            cases hfails
          | cons y s =>
            rw [Text.gap]
            split_ifs with hy
            · rw [hy]
              rfl
            · rfl
        rw [hhead, if_pos rfl, hd, hd']
        exact .inr ⟨a, d, d', rfl, rfl, hsq⟩
    · have hr' : c'.rest = x :: Text.squeeze r := by rw [h.rest, hr, Text.squeeze, if_neg hx]
      simp [hr', hx]

theorem upTo {s : Scanner Unit} (hs : Unspaced s) (n : Nat) : Unspaced (upTo s n) := by
  induction n with
  | zero => exact pure ()
  | succ n ih =>
    intro c c' h
    simp only [Scanner.upTo]
    rcases hs c c' h with ⟨hc, hc'⟩ | ⟨a, d, d', hc, hc', hd⟩
    · rw [hc, hc']
      exact .inr ⟨(), c, c', rfl, rfl, h⟩
    · rw [hc, hc']
      exact ih d d' hd

theorem many {s : Scanner Unit} (hs : Unspaced s) (hshrinks : Shrinks s) : Unspaced (many s) := by
  intro c c' h
  have hlen (d : Cursor) (hd : d.rest.length ≤ c.rest.length + c'.rest.length) :
      Scanner.many s d = Scanner.upTo s (c.rest.length + c'.rest.length) d :=
    upTo_eq hshrinks le_rfl hd
  rw [hlen c (Nat.le_add_right ..), hlen c' (Nat.le_add_left ..)]
  exact hs.upTo _ c c' h

end Unspaced

end Scanner

/-! ## The kinds of aside -/

namespace Aside

theorem digits_unspaced : Unspaced digits := .run fun _ h => not_isDecimal_of_isBlank h

theorem digit_unspaced : Unspaced (one isDecimal) := .one fun _ h => not_isDecimal_of_isBlank h

/-- A sign that is no blank. -/
theorem sign_unspaced {p : Char → Bool} (hp : blankCodes.all fun n => !p (Char.ofNat n)) :
    Unspaced (one p) :=
  .one fun x hx => by simpa using forall_blank (p := fun x => !p x) hp hx

theorem blanks_unspaced {p : Char → Bool} {f : Unit → Scanner Unit} (hf : Unspaced (f ()))
    (ho : OpensWith p (f ())) : Unspaced (blanks >>= f) :=
  .skip_bind (fun _ h => h) hf (ho.fails rfl)

theorem colonPair_unspaced : Unspaced colonPair :=
  .bind (sign_unspaced (by decide)) fun _ => .bind digit_unspaced fun _ => digit_unspaced

theorem time_unspaced : Unspaced time := .bind digits_unspaced fun _ => .maybe colonPair_unspaced

theorem timeUnit_unspaced : Unspaced timeUnit :=
  .maybe (blanks_unspaced (.wholeWord (by decide))
    (.wholeWord (p := fun x => x == 's' || x == 'm') (by decide)))

/-- What comes after the sign or word of a rest. -/
theorem timeAfter_unspaced {sign : Char} (hs : isBlank sign = false) :
    Unspaced (do blanks; maybe (one (· == sign)); blanks; time; timeUnit) := by
  have htime : Unspaced (do time; timeUnit) := time_unspaced.bind fun _ => timeUnit_unspaced
  have hend : Fails [] (do time; timeUnit) := (time_opens.bind _).fails rfl
  have hrest : Unspaced (do blanks; time; timeUnit) := .skip_bind (fun _ h => h) htime hend
  have hsign : Unspaced (one (· == sign)) := .one fun x hx => beq_eq_false_iff_ne.2 fun h => by
    simp [h, hs] at hx
  refine .skip_bind (fun _ h => h) (hsign.maybe.bind fun _ => hrest) ?_
  exact Fails.maybe_bind (Fails.one rfl) (Fails.skip_bind hend)

theorem restAt_unspaced : Unspaced restAt :=
  (sign_unspaced (by decide)).bind fun _ => timeAfter_unspaced (by decide)

theorem restThenTime_unspaced : Unspaced restThenTime :=
  Unspaced.wordEdge.bind fun _ => (Unspaced.word (by decide)).bind fun _ =>
    timeAfter_unspaced (by decide)

theorem timeThenRest_unspaced : Unspaced timeThenRest := by
  have hrest : Unspaced (do word "rest"; wordEdge) :=
    (Unspaced.word (by decide)).bind fun _ => Unspaced.wordEdge
  have hopens : OpensWith (· == 'r') (do word "rest"; wordEdge) := .bind (.word (by decide)) _
  refine Unspaced.wordEdge.bind fun _ => time_unspaced.bind fun _ => ?_
  refine blanks_unspaced (p := fun x => x == 's' || x == 'm') ?_ (.bind (.anyWord (by decide)) _)
  exact (Unspaced.anyWord (by decide)).bind fun _ => .blanks1_bind hrest (hopens.fails rfl)

theorem duration_unspaced : Unspaced duration := by
  refine Unspaced.wordEdge.bind fun _ => digits_unspaced.bind fun _ => ?_
  exact blanks_unspaced (.wholeWord (by decide))
    (.wholeWord (p := fun x => x == 's' || x == 'm') (by decide))

theorem clock_unspaced : Unspaced clock :=
  Unspaced.wordEdge.bind fun _ => digits_unspaced.bind fun _ => (Unspaced.guarded _).bind fun _ =>
    colonPair_unspaced.bind fun _ => Unspaced.wordEdge

theorem measureFollows_unspaced : Unspaced measureFollows := by
  refine blanks_unspaced (p := fun x => x == 'm' || x == 'x' || x == '*') ?_ ?_
  · exact .either (.wholeWord (by decide)) (sign_unspaced (by decide))
  · exact .either (.wholeWord (by decide)) ((OpensWith.one _).mono fun x hx => by simp [hx])

/-- A number that is a word up to its end. -/
theorem number_unspaced : Unspaced (do let _ ← digits; wordEdge) :=
  digits_unspaced.bind fun _ => Unspaced.wordEdge

theorem laneHead_unspaced : Unspaced laneHead := by
  refine Unspaced.wordEdge.bind fun _ => (Unspaced.word (by decide)).bind fun _ => ?_
  refine (sign_unspaced (by decide)).maybe.bind fun _ => ?_
  exact blanks_unspaced number_unspaced (.bind (.run _) _)

theorem laneMore_unspaced : Unspaced laneMore := by
  refine blanks_unspaced (p := fun x => x == 'a' || x == 't' || (x == '-' || x == '/' || x == '&'))
    ?_ ?_
  · refine (Unspaced.either (sign_unspaced (by decide)) (.wholeWord (by decide))).bind fun _ => ?_
    exact blanks_unspaced number_unspaced (.bind (.run _) _)
  · exact .bind (.either ((OpensWith.one _).mono fun x hx => by simp [hx])
      (.wholeWord (by decide))) _

theorem lanes_unspaced : Unspaced lanes := by
  refine laneHead_unspaced.bind fun _ => measureFollows_unspaced.notHere.bind fun _ => ?_
  exact .many (laneMore_unspaced.bind fun _ => measureFollows_unspaced.notHere) laneTurn_shrinks

theorem note_unspaced : Unspaced note := by
  refine (sign_unspaced (by decide)).bind fun _ => .skip_bind ?_ (sign_unspaced (by decide)) ?_
  · exact fun x hx => forall_blank (p := inNote) (by decide) hx
  · exact Fails.one rfl

/-- **No kind of aside sees how wide a gap is.** -/
theorem unspaced_of_mem_kinds {kind : Scanner Unit} (h : kind ∈ kinds) : Unspaced kind := by
  simp only [kinds, List.mem_cons, List.not_mem_nil, or_false] at h
  rcases h with rfl | rfl | rfl | rfl | rfl | rfl
  · exact restAt_unspaced
  · exact .either restThenTime_unspaced timeThenRest_unspaced
  · exact duration_unspaced
  · exact clock_unspaced
  · exact lanes_unspaced
  · exact note_unspaced

end Aside

theorem Scanner.occursIn_iff {α : Type} {s : Scanner α} {t : Text} : s.occursIn t = true ↔
    ∃ u x v, t = u ++ x :: v ∧ ∃ r, s ⟨u.getLast?, x :: v⟩ = some r := by
  constructor
  · intro h
    obtain ⟨g, hg⟩ : ∃ g, g ∈ s.hits t := List.exists_mem_of_ne_nil _ (by simpa [occursIn] using h)
    obtain ⟨d, hd, -⟩ := eq_some_of_mem_hits hg
    obtain ⟨hlt, hle⟩ := mem_hits hg
    have hdrop := List.drop_eq_getElem_cons (hlt.trans_le hle)
    refine ⟨t.take g.span.start, t[g.span.start], t.drop (g.span.start + 1), ?_, (g.value, d), ?_⟩
    · rw [← hdrop, List.take_append_drop]
    · rw [← hdrop]
      exact hd
  · rintro ⟨u, x, v, rfl, r, hr⟩
    rw [← Cursor.place_length] at hr
    obtain ⟨g, hg, -⟩ := mem_hits_of_reads (by simp) hr
    simpa [occursIn] using List.ne_nil_of_mem hg

/-- Each character of the squeezed text that is no blank is one of the text. -/
theorem Text.exists_of_squeeze_eq {x : Char} (hx : isBlank x = false) {t g r : Text}
    (h : squeeze t = g ++ x :: r) : ∃ u v, t = u ++ x :: v ∧ squeeze v = r := by
  induction t generalizing g with
  | nil => simp [squeeze] at h
  | cons c t ih =>
    have later {g : Text} (h : squeeze t = g ++ x :: r) :
        ∃ u v, c :: t = u ++ x :: v ∧ squeeze v = r := by
      obtain ⟨u, v, rfl, hv⟩ := ih h
      exact ⟨c :: u, v, rfl, hv⟩
    have hspace : ' ' ≠ x := fun h => by simp [← h, show isBlank ' ' = true from rfl] at hx
    rw [squeeze] at h
    split_ifs at h with hc
    · cases hs : squeeze t with
      | nil => simp [hs, gap] at h
      | cons d s =>
        rw [hs, gap] at h
        split_ifs at h
        · exact later (hs.trans h)
        · cases g with
          | nil => exact absurd (List.cons.inj h).1 hspace
          | cons y g => exact later (hs.trans (List.cons.inj h).2)
    · cases g with
      | nil =>
        obtain ⟨rfl, hr⟩ := List.cons.inj h
        exact ⟨[], t, rfl, hr⟩
      | cons y g => exact later (List.cons.inj h).2

theorem occursIn_squeeze {kind : Scanner Unit} (h : kind ∈ kinds) (t : Text) :
    kind.occursIn (Text.squeeze t) = kind.occursIn t := by
  have nonblank {q : Option Char} {x : Char} {v : Text} {r : Unit × Cursor}
      (hr : kind ⟨q, x :: v⟩ = some r) : isBlank x = false := Bool.eq_false_iff.2 fun hb => by
    have hnone := opens_of_mem_kinds h ⟨q, x :: v⟩ (by simp [not_isOpening_of_isBlank hb])
    rw [hnone] at hr
    cases hr
  have squeezed {u : Text} {x : Char} (hx : isBlank x = false) (v : Text) :
      ∃ g, Text.squeeze (u ++ x :: v) = g ++ x :: Text.squeeze v ∧
        Squeezed ⟨u.getLast?, x :: v⟩ ⟨g.getLast?, x :: Text.squeeze v⟩ := by
    obtain ⟨g, hg, -, hlast⟩ := Text.exists_squeeze_append hx u v
    exact ⟨g, hg, by simp [Text.squeeze, hx], by simpa using hlast none none rfl⟩
  rw [Bool.eq_iff_iff, occursIn_iff, occursIn_iff]
  constructor
  · rintro ⟨g, x, r, hg, found, hfound⟩
    have hx := nonblank hfound
    obtain ⟨u, v, rfl, rfl⟩ := Text.exists_of_squeeze_eq hx hg
    obtain ⟨g', hg', hsq⟩ := squeezed hx v
    obtain rfl : g' = g := (List.append_inj' (hg'.symm.trans hg) rfl).1
    rcases unspaced_of_mem_kinds h _ _ hsq with ⟨-, hn⟩ | ⟨a, d, d', hd, -⟩
    · rw [hn] at hfound
      cases hfound
    · exact ⟨u, x, v, rfl, _, hd⟩
  · rintro ⟨u, x, v, rfl, found, hfound⟩
    obtain ⟨g, hg, hsq⟩ := squeezed (nonblank hfound) v
    rcases unspaced_of_mem_kinds h _ _ hsq with ⟨hn, -⟩ | ⟨a, d, d', -, hd', -⟩
    · rw [hn] at hfound
      cases hfound
    · exact ⟨g, x, _, hg, _, hd'⟩

/-- **Asides occur in the collapsed text exactly if they occur in the text.** -/
theorem occursIn_collapse {kind : Scanner Unit} (h : kind ∈ kinds) (t : Text) :
    kind.occursIn (Text.collapse t) = kind.occursIn t := by
  have hlead : ∀ x ∈ t.takeWhile isBlank, isBlank x = true := fun x hx => List.mem_takeWhile_imp hx
  have htrim := occursIn_behind (v := t.trimStart) (startsAfresh_of_mem_kinds h)
    (last_of_blank hlead) (failsThrough_blank hlead h _)
  rw [Text.trimStart, List.takeWhile_append_dropWhile] at htrim
  rw [Text.collapse_eq_squeeze, occursIn_squeeze h, htrim, Text.trimStart]

end SwimSets
