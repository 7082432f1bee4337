import SwimSets.Proofs.Joined
import SwimSets.Proofs.Normalizing

/-!
# Asides next to other text

**Where asides begin and end.** Each kind of aside begins with a sign, a letter or a number
(`Aside.opens_of_mem_kinds`), so none begins with a blank. At a text set apart each kind stops
(`Aside.restAt_stopsAt` and its fellows), but for a time that the word "rest" follows.

**Blanks at the ends.** Removing asides goes on in the same way if there are blanks before or
behind the text, and the blanks are dropped in the end (`stripAsides_trimStart`). So what one kind
of aside makes blank behind a text is as if it were not there (`stripAsides_append`).
-/

namespace SwimSets

open Scanner

/-! ## Reading a known text -/

namespace Scanner

variable {α β : Type} {p : Char → Bool} {w r : Text}

theorem wordEdge_bind {c : Cursor} (h : c.atWordEdge = true) (f : Unit → Scanner β) :
    (wordEdge >>= f) c = f () c :=
  bind_of_some (wordEdge_eq_some.2 ⟨h, rfl⟩)

theorem notHere_bind {s : Scanner α} {c : Cursor} (h : s c = none) (f : Unit → Scanner β) :
    (notHere s >>= f) c = f () c :=
  bind_of_some (notHere_eq_some.2 ⟨h, rfl⟩)

theorem one_cons {x : Char} (hx : p x = true) (r : Text) (q : Option Char) :
    one p ⟨q, x :: r⟩ = some ((), ⟨some x, r⟩) := one_eq_some.2 ⟨x, hx, rfl, rfl⟩

theorem run_append (hne : w ≠ []) (hw : ∀ x ∈ w, p x = true) (hr : r.head?.any p = false)
    (q : Option Char) : run p ⟨q, w ++ r⟩ = some (w, ⟨w.getLast?.or q, r⟩) :=
  run_eq_some.2 ⟨hne, hw, ⟨rfl, rfl⟩, hr⟩

theorem skip_append (hw : ∀ x ∈ w, p x = true) (hr : r.head?.any p = false) (q : Option Char) :
    skip p ⟨q, w ++ r⟩ = some ((), ⟨w.getLast?.or q, r⟩) :=
  skip_eq_some.2 ⟨w, hw, ⟨rfl, rfl⟩, hr⟩

theorem blanks_nothing (hr : r.head?.any isBlank = false) (q : Option Char) :
    blanks ⟨q, r⟩ = some ((), ⟨q, r⟩) := skip_append (w := []) (by simp) hr q

theorem blanks_space (hr : r.head?.any isBlank = false) (q : Option Char) :
    blanks ⟨q, ' ' :: r⟩ = some ((), ⟨some ' ', r⟩) :=
  skip_append (w := [' ']) (List.forall_mem_singleton.2 rfl) hr q

theorem blanks1_append (hne : w ≠ []) (hw : ∀ x ∈ w, isBlank x = true)
    (hr : r.head?.any isBlank = false) (q : Option Char) :
    ∃ q', blanks1 ⟨q, w ++ r⟩ = some ((), ⟨q', r⟩) := by
  obtain ⟨x, w, rfl⟩ := List.exists_cons_of_ne_nil hne
  obtain ⟨hx, hw⟩ := List.forall_mem_cons.1 hw
  exact ⟨_, (bind_of_some (one_cons hx (w ++ r) q)).trans (skip_append hw hr (some x))⟩

theorem word_append (w r : Text) (q : Option Char) :
    word w ⟨q, w ++ r⟩ = some ((), ⟨w.getLast?.or q, r⟩) := word_eq_some.2 ⟨rfl, rfl⟩

theorem maybe_of_fails {s : Scanner α} (h : Fails r s) (q : Option Char) :
    maybe s ⟨q, r⟩ = some ((), ⟨q, r⟩) := by
  unfold maybe
  rw [h q]

theorem maybe_of_some {s : Scanner α} {c d : Cursor} {a : α} (h : s c = some (a, d)) :
    maybe s c = some ((), d) := by
  unfold maybe
  rw [h]

end Scanner

namespace Aside

variable {v : Text}

/-! ## Where they begin -/

theorem restAt_opens : OpensWith (· == '@') restAt := .bind (.one _) _

theorem restThenTime_opens : OpensWith (· == 'r') restThenTime :=
  .wordEdge_bind (.bind (.word (by decide)) _)

theorem time_opens : OpensWith isDecimal time := .bind (.run _) _

theorem timeThenRest_opens : OpensWith isDecimal timeThenRest :=
  .wordEdge_bind (.bind time_opens _)

theorem restWorded_opens : OpensWith (fun x => x == 'r' || isDecimal x) restWorded :=
  .either (restThenTime_opens.mono fun x hx => by simp [hx])
    (timeThenRest_opens.mono fun x hx => by simp [hx])

theorem duration_opens : OpensWith isDecimal duration := .wordEdge_bind (.bind (.run _) _)

theorem clock_opens : OpensWith isDecimal clock := .wordEdge_bind (.bind (.run _) _)

theorem laneHead_opens : OpensWith (· == 'l') laneHead :=
  .wordEdge_bind (.bind (.word (by decide)) _)

theorem lanes_opens : OpensWith (· == 'l') lanes := .bind laneHead_opens _

theorem note_opens : OpensWith (· == '(') note := .bind (.one _) _

/-- What an aside may begin with. -/
def isOpening (x : Char) : Bool := x == '@' || x == 'r' || x == 'l' || x == '(' || isDecimal x

/-- **No aside begins with anything else**, a blank least of all. -/
theorem opens_of_mem_kinds {kind : Scanner Unit} (h : kind ∈ kinds) : OpensWith isOpening kind := by
  simp only [kinds, List.mem_cons, List.not_mem_nil, or_false] at h
  rcases h with rfl | rfl | rfl | rfl | rfl | rfl
  · exact restAt_opens.mono fun x hx => by simp [isOpening, hx]
  · refine restWorded_opens.mono fun x hx => ?_
    rcases Bool.or_eq_true_iff.1 hx with hx | hx <;> simp [isOpening, hx]
  · exact duration_opens.mono fun x hx => by simp [isOpening, hx]
  · exact clock_opens.mono fun x hx => by simp [isOpening, hx]
  · exact lanes_opens.mono fun x hx => by simp [isOpening, hx]
  · exact note_opens.mono fun x hx => by simp [isOpening, hx]

theorem not_isOpening_of_isBlank {x : Char} (h : isBlank x = true) : isOpening x = false := by
  have hsign := forall_blank (p := fun x => !(x == '@' || x == 'r' || x == 'l' || x == '('))
    (by decide) h
  rw [isOpening, not_isDecimal_of_isBlank h, Bool.or_false]
  simpa using hsign

theorem failsThrough_blank {b : Text} (hb : ∀ x ∈ b, isBlank x = true) {kind : Scanner Unit}
    (h : kind ∈ kinds) (t : Text) : FailsThrough b t kind :=
  (opens_of_mem_kinds h).failsThrough (fun x hx => not_isOpening_of_isBlank (hb x hx)) t

theorem startsAfresh_of_mem_kinds {kind : Scanner Unit} (h : kind ∈ kinds) : StartsAfresh kind := by
  simp only [kinds, List.mem_cons, List.not_mem_nil, or_false] at h
  rcases h with rfl | rfl | rfl | rfl | rfl | rfl
  · exact ((LooksAhead.one _).bind _).startsAfresh
  · refine .oneOf (List.forall_mem_cons.2 ⟨?_, List.forall_mem_singleton.2 ?_⟩)
    · exact .wordEdge_bind (.bind (.word (by decide)) _)
    · exact .wordEdge_bind (.bind (.bind (.run _) _) _)
  · exact .wordEdge_bind (.bind (.run _) _)
  · exact .wordEdge_bind (.bind (.run _) _)
  · exact .bind (.wordEdge_bind (.bind (.word (by decide)) _)) _
  · exact ((LooksAhead.one _).bind _).startsAfresh

/-! ## What they need -/

theorem time_needs : FailsWithout isDecimal time := .bind (.run _) _

theorem timeAfter_needs (sign : Char) : FailsWithout isDecimal
    (do blanks; maybe (one (· == sign)); blanks; time; timeUnit) :=
  .after (.skip _) fun _ => .after (.maybe (.one _)) fun _ => .after (.skip _) fun _ =>
    .bind time_needs _

/-- **Each kind but the notes needs a digit.** -/
theorem needs_digit {kind : Scanner Unit} (h : kind ∈ kinds.dropLast) :
    FailsWithout isDecimal kind := by
  simp only [kinds, List.dropLast, List.mem_cons, List.not_mem_nil, or_false] at h
  rcases h with rfl | rfl | rfl | rfl | rfl
  · exact .after (.one _) fun _ => timeAfter_needs '+'
  · exact .either
      (.after .wordEdge fun _ => .after (.word _) fun _ => timeAfter_needs ':')
      (.after .wordEdge fun _ => .bind time_needs _)
  · exact .after .wordEdge fun _ => .bind (.run _) _
  · exact .after .wordEdge fun _ => .bind (.run _) _
  · exact .bind (.after .wordEdge fun _ => .after (.word _) fun _ => .after (.maybe (.one _))
      fun _ => .after (.skip _) fun _ => .bind (.run _) _) _

/-! ## Where they end -/

/-- A further number of a list is not empty. -/
theorem laneTurn_shrinks : Shrinks (do laneMore; notHere measureFollows) := by
  refine .bind ?_ fun _ => .notHere _
  refine .after (.skip _) fun _ => .after (.either (.one _) (.wholeWord _)) fun _ =>
    .after (.skip _) fun _ => .bind (.run _) fun _ => .wordEdge

/-- The signs that may come behind a seam are no digits. -/
theorem not_isDecimal_of_sign : ∀ x ∈ ['@', '(', 'r'], isDecimal x = false := by decide +kernel

section

variable (hv : Apart v)
include hv

theorem digits_stopsAt : StopsAt v digits :=
  .run (hv.head_of_blank fun _ => not_isDecimal_of_isBlank)

theorem colonPair_stopsAt : StopsAt v colonPair := by
  have hdigit : v.head?.any isDecimal = false :=
    hv.head_of_blank fun _ => not_isDecimal_of_isBlank
  exact .bind (.one (hv.head (by decide))) fun _ => .bind (.one hdigit) fun _ => .one hdigit

theorem time_stopsAt : StopsAt v time :=
  .bind (digits_stopsAt hv) fun _ => .maybe (colonPair_stopsAt hv)

theorem timeUnit_stopsAt : StopsAt v timeUnit :=
  .maybe (hv.blanks_bind (hv.wholeWord (by decide))
    (.wholeWord (p := fun x => x == 's' || x == 'm') (by decide)) (by decide))

/-- What comes after the sign or word of a rest: a time, and before it perhaps another sign. -/
theorem timeAfter_stopsAt {sign : Char} (hs : blankCodes.all fun n => !(Char.ofNat n == sign))
    (hs' : ∀ x ∈ ['@', '(', 'r'], (x == sign) = false) :
    StopsAt v (do blanks; maybe (one (· == sign)); blanks; time; timeUnit) := by
  have hrest : StopsAt v (do blanks; time; timeUnit) :=
    hv.blanks_bind (.bind (time_stopsAt hv) fun _ => timeUnit_stopsAt hv) (time_opens.bind _)
      not_isDecimal_of_sign
  have hopen : ∀ x ∈ ['@', '(', 'r'], (x == sign || isBlank x || isDecimal x) = false := by
    intro x hx
    have hblank : ∀ x ∈ ['@', '(', 'r'], isBlank x = false := by decide
    rw [hs' x hx, hblank x hx, not_isDecimal_of_sign x hx]
    rfl
  refine hv.blanks_bind (.bind (.maybe (.one (hv.head hs))) fun _ => hrest) ?_ hopen
  refine .maybe_bind ((OpensWith.one _).mono fun x hx => by simp [hx]) ?_
  exact .skip_bind ((time_opens.bind _).mono fun x hx => by simp [hx]) fun x hx => by simp [hx]

theorem restAt_stopsAt : StopsAt v restAt :=
  .bind (.one (hv.head (by decide))) fun _ =>
    timeAfter_stopsAt hv (by decide) (by decide)

theorem restThenTime_stopsAt : StopsAt v restThenTime :=
  .bind (.wordEdge hv.edge) fun _ => .bind (hv.word (by decide)) fun _ =>
    timeAfter_stopsAt hv (by decide) (by decide)

/-- A time stops where the word "rest" does not follow. -/
theorem timeThenRest_stopsAt (hr : (v.dropWhile isBlank).head? ≠ some 'r') :
    StopsAt v timeThenRest := by
  have hrest : Fails (v.dropWhile isBlank) (do word "rest"; wordEdge) := by
    refine OpensWith.fails (p := (· == 'r')) (.bind (.word (by decide)) _) ?_
    refine (Option.any_eq_false _ _).2 fun x hx => beq_eq_false_iff_ne.2 ?_
    rintro rfl
    exact hr hx
  refine .bind (.wordEdge hv.edge) fun _ => .bind (time_stopsAt hv) fun _ => ?_
  refine hv.blanks_bind (p := fun x => x == 's' || x == 'm') ?_ (.bind (.anyWord (by decide)) _)
    (by decide)
  refine .bind (hv.anyWord (by decide)) fun _ => .blanks1_bind ?_ ?_ hrest
  · exact .bind (hv.word (by decide)) fun _ => .wordEdge hv.edge
  · exact OpensWith.fails (p := (· == 'r')) (.bind (.word (by decide)) _) rfl

theorem restWorded_stopsAt (hr : (v.dropWhile isBlank).head? ≠ some 'r') :
    StopsAt v restWorded :=
  .either (restThenTime_stopsAt hv) (timeThenRest_stopsAt hv hr)

theorem duration_stopsAt : StopsAt v duration :=
  .bind (.wordEdge hv.edge) fun _ => .bind (digits_stopsAt hv) fun _ =>
    hv.blanks_bind (hv.wholeWord (by decide))
      (.wholeWord (p := fun x => x == 's' || x == 'm') (by decide)) (by decide)

theorem clock_stopsAt : StopsAt v clock :=
  .bind (.wordEdge hv.edge) fun _ => .bind (digits_stopsAt hv) fun _ =>
    .bind (.guarded _) fun _ => .bind (colonPair_stopsAt hv) fun _ => .wordEdge hv.edge

theorem measureFollows_stopsAt : StopsAt v measureFollows := by
  refine hv.blanks_bind (p := fun x => x == 'm' || x == 'x' || x == '*') ?_ ?_ (by decide)
  · exact .either (hv.wholeWord (by decide)) (.one (hv.head (by decide)))
  · exact .either (.wholeWord (by decide)) ((OpensWith.one _).mono fun x hx => by simp [hx])

theorem laneHead_stopsAt : StopsAt v laneHead := by
  refine .bind (.wordEdge hv.edge) fun _ => .bind (hv.word (by decide)) fun _ =>
    .bind (.maybe (.one (hv.head (by decide)))) fun _ => ?_
  exact hv.blanks_bind (.bind (digits_stopsAt hv) fun _ => .wordEdge hv.edge)
    (.bind (.run _) _) not_isDecimal_of_sign

theorem laneMore_stopsAt : StopsAt v laneMore := by
  refine hv.blanks_bind (p := fun x => x == 'a' || x == 't' || (x == '-' || x == '/' || x == '&'))
    ?_ ?_ (by decide)
  · refine .bind (.either (.one (hv.head (by decide))) (hv.wholeWord (by decide))) fun _ => ?_
    exact hv.blanks_bind (.bind (digits_stopsAt hv) fun _ => .wordEdge hv.edge)
      (.bind (.run _) _) not_isDecimal_of_sign
  · exact .bind (.either ((OpensWith.one _).mono fun x hx => by simp [hx])
      (.wholeWord (by decide))) _

theorem lanes_stopsAt : StopsAt v lanes := by
  refine .bind (laneHead_stopsAt hv) fun _ =>
    .bind (.notHere (measureFollows_stopsAt hv)) fun _ => .many ?_ laneTurn_shrinks
  exact .bind (laneMore_stopsAt hv) fun _ => .notHere (measureFollows_stopsAt hv)

/-- A character that a note may hold. -/
def inNote (c : Char) : Bool := !(c == '(' || c == ')' || isAsciiDigit c)

/-- A note that has begun does not end behind the seam if another character ends it there. -/
theorem note_stopsAt (hn : (v.dropWhile inNote).head? ≠ some ')') : StopsAt v note := by
  refine .bind (.one (hv.head (by decide))) fun _ => .skip_bind (.one (hv.head (by decide)))
    (Fails.one rfl) (Fails.one ?_)
  refine (Option.any_eq_false _ _).2 fun x hx => beq_eq_false_iff_ne.2 ?_
  rintro rfl
  exact hn hx

/-- **All kinds stop** at a text set apart in which no "rest" comes next, and which ends no note. -/
theorem stopsAt_of_mem_kinds (hr : (v.dropWhile isBlank).head? ≠ some 'r')
    (hn : (v.dropWhile inNote).head? ≠ some ')') {kind : Scanner Unit} (h : kind ∈ kinds) :
    StopsAt v kind := by
  simp only [kinds, List.mem_cons, List.not_mem_nil, or_false] at h
  rcases h with rfl | rfl | rfl | rfl | rfl | rfl
  · exact restAt_stopsAt hv
  · exact restWorded_stopsAt hv hr
  · exact duration_stopsAt hv
  · exact clock_stopsAt hv
  · exact lanes_stopsAt hv
  · exact note_stopsAt hv hn

end

/-! ## Blanks at the ends -/

/-- Each kind of aside stops before blanks at the end of a text. -/
theorem stopsAt_blank {b : Text} (hb : ∀ x ∈ b, isBlank x = true) {kind : Scanner Unit}
    (h : kind ∈ kinds) : StopsAt b kind := by
  have hnil : b.dropWhile isBlank = [] := List.dropWhile_eq_nil_iff.2 hb
  have hnote : b.dropWhile inNote = [] := List.dropWhile_eq_nil_iff.2 fun x hx =>
    forall_blank (p := inNote) (by decide) (hb x hx)
  exact stopsAt_of_mem_kinds (.of_blank hb) (by simp [hnil]) (by simp [hnote]) h

/-- The text with the asides of some kinds made spaces. -/
def blankAll (kinds : List (Scanner Unit)) (t : Text) : Text :=
  kinds.foldl (fun u kind => kind.blankOut u) t

theorem blankAll_append_blank {ks : List (Scanner Unit)} (hks : ks ⊆ kinds) {b : Text}
    (hb : ∀ x ∈ b, isBlank x = true) (t : Text) : blankAll ks (t ++ b) = blankAll ks t ++ b := by
  induction ks generalizing t with
  | nil => rfl
  | cons kind ks ih =>
    have hkind : kind ∈ kinds := hks List.mem_cons_self
    show blankAll ks (kind.blankOut (t ++ b)) = _
    rw [blankOut_before (stopsAt_blank hb hkind) (failsThrough_blank hb hkind []),
      ih fun k hk => hks (List.mem_cons_of_mem kind hk)]
    rfl

/-- Behind a text in which the kinds find nothing they find what they find without it. -/
theorem blankAll_behind {ks : List (Scanner Unit)} (hks : ks ⊆ kinds) {u : Text}
    (hu : u.getLast?.any isWordChar = false) (h : ∀ k ∈ ks, ∀ t, FailsThrough u t k) (t : Text) :
    blankAll ks (u ++ t) = u ++ blankAll ks t := by
  induction ks generalizing t with
  | nil => rfl
  | cons kind ks ih =>
    obtain ⟨hk, hrest⟩ := List.forall_mem_cons.1 h
    show blankAll ks (kind.blankOut (u ++ t)) = _
    rw [blankOut_behind (startsAfresh_of_mem_kinds (hks List.mem_cons_self)) hu (hk t),
      ih (fun k hk => hks (List.mem_cons_of_mem kind hk)) hrest]
    rfl

theorem blankAll_blank_append {b : Text} (hb : ∀ x ∈ b, isBlank x = true) (t : Text) :
    blankAll kinds (b ++ t) = b ++ blankAll kinds t :=
  blankAll_behind (List.Subset.refl _) (last_of_blank hb) (fun _ hk => failsThrough_blank hb hk) t

end Aside

open Aside

theorem stripAsides_eq (t : Text) : stripAsides t = Text.collapse (blankAll kinds t) := rfl

/-- Blanks at the start change nothing. -/
theorem stripAsides_blank_append {b : Text} (hb : ∀ x ∈ b, isBlank x = true) (t : Text) :
    stripAsides (b ++ t) = stripAsides t := by
  rw [stripAsides_eq, blankAll_blank_append hb, Text.collapse_blank_append hb,
    stripAsides_eq]

theorem stripAsides_trimStart (t : Text) : stripAsides t.trimStart = stripAsides t := by
  have h := stripAsides_blank_append (b := t.takeWhile isBlank)
    (fun x hx => List.mem_takeWhile_imp hx) t.trimStart
  rw [Text.trimStart, List.takeWhile_append_dropWhile] at h
  exact h.symm

/-- **A text behind a line that one kind of aside makes blank.** The kinds before that one leave it
as it is, and those after it find blanks there. -/
theorem stripAsides_append (before : List (Scanner Unit)) (kind : Scanner Unit)
    (after : List (Scanner Unit)) (hkinds : kinds = before ++ kind :: after) {t v b : Text}
    (hbefore : ∀ k ∈ before, ∀ u, k.blankOut (u ++ v) = k.blankOut u ++ v)
    (hkind : kind.blankOut (blankAll before t ++ v) = kind.blankOut (blankAll before t) ++ b)
    (hb : ∀ x ∈ b, isBlank x = true) : stripAsides (t ++ v) = stripAsides t := by
  have hsplit (u : Text) :
      blankAll kinds u = blankAll after (kind.blankOut (blankAll before u)) := by
    rw [hkinds, blankAll, List.foldl_append]
    rfl
  have hall : blankAll before (t ++ v) = blankAll before t ++ v := by
    clear hkinds hkind hsplit
    induction before generalizing t with
    | nil => rfl
    | cons k ks ih =>
      obtain ⟨hk, hks⟩ := List.forall_mem_cons.1 hbefore
      show blankAll ks (k.blankOut (t ++ v)) = _
      rw [hk t, ih hks]
      rfl
  have hafter : after ⊆ kinds := fun k hk => by
    rw [hkinds]
    exact List.mem_append_right _ (List.mem_cons_of_mem kind hk)
  rw [stripAsides_eq, stripAsides_eq, hsplit, hsplit, hall, hkind, blankAll_append_blank hafter hb,
    Text.collapse_append_blank _ hb]

end SwimSets
