import SwimSets.Proofs.Splits
import SwimSets.Proofs.Views
import SwimSets.Proofs.Wording

/-!
# Lines that are read alike

**Commas in front** (`Commas`). Where an aside is taken out of the start of a line, a comma and a
space may stay behind. Numbers, clauses and strokes are found behind them as they are without them,
so the rules read the same from the text.

**Alike** (`LineView.Alike`). Two lines whose normalized texts say the same in words, and whose
measurable texts are the same but for commas in front, come to the same (`parseLine_alike`). The
activity is kept apart. Whether another one shows depends on the rule that decides the line: a
breakdown and the split "as" name activities of their own, and a repeat takes those of the lines
above it (`readsActivity`). Where the rule takes the activity from the line, all contributions are
in the other one; else they stay as they are (`parseLine_activity`).
-/

namespace SwimSets

open Scanner

/-! ## Commas in front -/

/-- Commas and blanks only. -/
def Commas (p : Text) : Prop := ∀ x ∈ p, x = ',' ∨ isBlank x = true

/-- The distance, with its place `k` characters further on. -/
def Distance.moved (d : Distance) (k : Nat) : Distance := { d with span := d.span.moved k }

namespace Commas

variable {α : Type} {p : Text} (hp : Commas p)
include hp

/-- What no comma and no blank is. -/
theorem forall_mem {q : Char → Bool} (hcomma : q ',' = false)
    (hblank : ∀ x, isBlank x = true → q x = false) : ∀ x ∈ p, q x = false := by
  intro x hx
  rcases hp x hx with rfl | h
  · exact hcomma
  · exact hblank x h

theorem not_mem {q : Char → Bool} (hq : (44 :: blankCodes).all fun n => !q (Char.ofNat n)) :
    ∀ x ∈ p, q x = false := by
  obtain ⟨hc, hb⟩ := Bool.and_eq_true_iff.1 hq
  refine hp.forall_mem (by simpa using hc) fun x hx => ?_
  simpa using forall_blank (p := fun x => !q x) hb hx

theorem not_isDecimal : ∀ x ∈ p, isDecimal x = false :=
  hp.forall_mem rfl fun _ => not_isDecimal_of_isBlank

theorem last : p.getLast?.any isWordChar = false := by
  refine (Option.any_eq_false _ _).2 fun x hx => ?_
  exact hp.forall_mem rfl (fun _ => not_isWordChar_of_isBlank) x (List.mem_of_getLast? hx)

omit hp in
theorem head {q : Char → Bool} (hq : ∀ x ∈ p, q x = false) : p.head?.any q = false :=
  (Option.any_eq_false _ _).2 fun x hx => hq x (List.mem_of_mem_head? hx)

/-! ### Numbers -/

/-- What starts with a number at a word edge is found further on. -/
theorem hits_number {f : Text → Scanner α} (t : Text) :
    (wordEdge >>= fun _ => digits >>= f).hits (p ++ t) =
      ((wordEdge >>= fun _ => digits >>= f).hits t).map (·.moved p.length) :=
  hits_behind (.wordEdge_bind ((LooksAhead.run _).bind f)) hp.last
    ((OpensWith.wordEdge_bind ((OpensWith.run _).bind f)).failsThrough hp.not_isDecimal t)

theorem countMultipliers (t : Text) :
    Distance.countMultipliers (p ++ t) = Distance.countMultipliers t := by
  have h : Distance.multiplier.hits (p ++ t) =
      (Distance.multiplier.hits t).map (·.moved p.length) :=
    hp.hits_number t
  rw [Distance.countMultipliers, h, List.length_map]
  rfl

theorem wholeLengths (t : Text) : Distance.wholeLengths (p ++ t) =
    (Distance.wholeLengths t).map fun d => (d.1, d.2.moved p.length) := by
  have h : Distance.bareNumber.hits (p ++ t) =
      (Distance.bareNumber.hits t).map (·.moved p.length) :=
    hp.hits_number t
  unfold Distance.wholeLengths
  rw [h, List.filterMap_map, List.map_filterMap]
  refine congrArg (List.filterMap · _) (funext fun h => ?_)
  dsimp only [Function.comp_apply, Hit.moved]
  cases readNumber h.value with
  | none => rfl
  | some n =>
    dsimp only
    split_ifs <;> rfl

theorem readBare (t : Text) : Distance.readBare (p ++ t) =
    (Distance.readBare t).map fun d => (d.1, d.2.moved p.length) := by
  have h : Distance.measured.hits (p ++ t) = (Distance.measured.hits t).map (·.moved p.length) :=
    hp.hits_number t
  unfold Distance.readBare firstHit
  rw [h, hp.wholeLengths, List.head?_map, List.head?_map]
  cases (Distance.measured.hits t).head? with
  | none => rfl
  | some h =>
    show (readNumber h.value).map _ = ((readNumber h.value).map _).map _
    rw [Option.map_map]
    rfl

theorem read (t : Text) :
    Distance.read (p ++ t) = (Distance.read t).map (·.moved p.length) := by
  have h : Distance.repsTimes.hits (p ++ t) = (Distance.repsTimes.hits t).map (·.moved p.length) :=
    hp.hits_number t
  unfold Distance.read firstHit
  rw [h, hp.readBare, List.head?_map]
  cases (Distance.repsTimes.hits t).head? with
  | none =>
    show ((Distance.readBare t).map _).map _ = ((Distance.readBare t).map _).map _
    rw [Option.map_map, Option.map_map]
    rfl
  | some h =>
    dsimp only [Option.map_some, Hit.moved]
    cases readNumber h.value.1 with
    | none => rfl
    | some reps => cases readNumber h.value.2 <;> rfl

/-! ### Clauses and strokes -/

theorem sameStrokes (t : Text) : SameStrokes p.length (p ++ t) t := by
  intro e he
  obtain ⟨hhead, hcomma⟩ := head_of_mem_lookedFor
    (List.mem_append_left _ (List.mem_append_left _ (List.mem_map_of_mem he)))
  refine Keyword.find_behind hp.last ?_
  refine failsThrough_comma (l := []) hhead hcomma hp (.inl rfl) (fun h => ?_) t
  simp [List.eq_nil_of_infix_nil h] at hhead

omit hp in
theorem take_moved (t : Text) (i : Nat) : (p ++ t).take (i + p.length) = p ++ t.take i := by
  rw [Nat.add_comm, List.take_length_add_append]

omit hp in
theorem drop_moved (t : Text) (i : Nat) : (p ++ t).drop (i + p.length) = t.drop i := by
  rw [Nat.add_comm, List.drop_length_add_append]

theorem splitClause (t : Text) : Breakdown.splitClause (p ++ t) =
    (Breakdown.splitClause t).map fun c => (p ++ c.1, c.2) := by
  have h : Breakdown.asWord.hits (p ++ t) = (Breakdown.asWord.hits t).map (·.moved p.length) :=
    hits_behind (.wordEdge_bind ((LooksAhead.word (by decide)).bind _)) hp.last
      (OpensWith.failsThrough (p := (· == 'a'))
        (.wordEdge_bind ((OpensWith.word (by decide)).bind _)) (hp.not_mem (by decide)) t)
  unfold Breakdown.splitClause firstHit
  rw [h, List.head?_map]
  cases (Breakdown.asWord.hits t).head? with
  | none => rfl
  | some h =>
    simp only [Option.map_some, Hit.moved, Span.moved, take_moved, drop_moved]
    split_ifs <;> rfl

theorem hits_activityAs (t : Text) :
    Split.activityAs.hits (p ++ t) = (Split.activityAs.hits t).map (·.moved p.length) := by
  refine hits_behind (.wordEdge_bind (.bind (.oneOf fun s hs => ?_) _)) hp.last
    (OpensWith.failsThrough (p := fun x => x ∈ ['d', 'k', 'p', 's'])
      (.wordEdge_bind (.bind (.oneOf fun s hs => ?_) _)) (hp.not_mem (by decide)) t)
  all_goals
    simp only [List.map_cons, List.map_nil, List.mem_cons, List.not_mem_nil, or_false] at hs
    rcases hs with rfl | rfl | rfl | rfl <;> exact .bind (.word (by decide)) _

/-- The digits at the end of a text. -/
theorem trailingDigits (t : Text) : Split.trailingDigits (p ++ t) = Split.trailingDigits t := by
  have hrev : Commas p.reverse := fun x hx => hp x (List.mem_reverse.1 hx)
  have hdec := head hrev.not_isDecimal
  simp only [Split.trailingDigits, List.reverse_append]
  by_cases hb : (t.reverse.dropWhile isBlank).isEmpty = true
  · -- Before blanks there is no number, and among commas there is none.
    have hdrop : Commas (p.reverse.dropWhile isBlank) :=
      fun x hx => hrev x (List.dropWhile_subset isBlank hx)
    have htake := takeWhile_append_of_stop (head hdrop.not_isDecimal) []
    rw [List.nil_append] at htake
    rw [List.dropWhile_append, if_pos hb, htake, List.isEmpty_iff.1 hb]
    simp
  · rw [List.dropWhile_append, if_neg hb]
    generalize t.reverse.dropWhile isBlank = back
    have hdrop : p.reverse.dropWhile isDecimal = p.reverse := by
      have htake := takeWhile_append_of_stop hdec []
      have := List.takeWhile_append_dropWhile (p := isDecimal) (l := p.reverse)
      rwa [show p.reverse.takeWhile isDecimal = [] from htake] at this
    have hlet := head (q := fun c => 'a' ≤ c && c ≤ 'z') (hrev.not_mem (by decide))
    have hhead : (((back ++ p.reverse).dropWhile isDecimal).head?.any fun c =>
        'a' ≤ c && c ≤ 'z') = ((back.dropWhile isDecimal).head?.any fun c =>
        'a' ≤ c && c ≤ 'z') := by
      rw [List.dropWhile_append, hdrop]
      cases back.dropWhile isDecimal with
      | nil => exact hlet
      | cons x r => rfl
    rw [takeWhile_append_of_stop hdec, hhead]

theorem weights (t : Text) (default : Option Nat) :
    Split.weights (p ++ t) default = Split.weights t default := by
  unfold Split.weights
  rw [(hp.sameStrokes t).mentions, List.foldlM_map]
  simp only [Mention.moved, Span.moved, take_moved, Split.trailingCount,
    hp.trailingDigits]

end Commas

/-! ## Rules -/

/-- The rules read the same of both lines: the words are the same, and so are the numbers but for
commas in front. -/
structure LineContext.Alike (ctx' ctx : LineContext) : Prop where
  words : SameWords ctx'.normalized ctx.normalized
  numbers : ∃ p, Commas p ∧ ctx'.measurable = p ++ ctx.measurable ∧
    ctx'.distance = ctx.distance.moved p.length
  stroke : ctx'.stroke = ctx.stroke
  activity : ctx'.activity = ctx.activity

namespace LineContext.Alike

variable {D : Type} [Metres D] {ctx' ctx : LineContext} (h : ctx'.Alike ctx)
include h

theorem perRep : ctx'.perRep (D := D) = ctx.perRep := by
  obtain ⟨p, -, -, hd⟩ := h.numbers
  rw [LineContext.perRep, hd]
  rfl

theorem reps : ctx'.distance.reps = ctx.distance.reps := by
  obtain ⟨p, -, -, hd⟩ := h.numbers
  rw [hd]
  rfl

theorem total : ctx'.total (D := D) = ctx.total := by
  rw [LineContext.total, h.perRep, h.reps, LineContext.total]

theorem activityOrAssumed : ctx'.activityOrAssumed = ctx.activityOrAssumed := by
  rw [LineContext.activityOrAssumed, h.activity, LineContext.activityOrAssumed]

theorem breakdown : Breakdown.read (D := D) ctx' = Breakdown.read ctx := by
  obtain ⟨p, hp, hm, hd⟩ := h.numbers
  unfold Breakdown.read
  rw [hm, hp.splitClause, hd]
  cases Breakdown.splitClause ctx.measurable with
  | none => rfl
  | some c =>
    simp only [Option.map_some, (hp.sameStrokes c.1).strokeOf]
    rfl

theorem alternating : Split.splitAlternating (D := D) ctx' = Split.splitAlternating ctx := by
  simp only [Split.splitAlternating, h.words.strokes, h.words.alternating, h.total,
    h.activityOrAssumed]

theorem medley : Split.splitMedley (D := D) ctx' = Split.splitMedley ctx := by
  simp only [Split.splitMedley, h.words.perStroke, h.stroke, h.total, h.activityOrAssumed]

theorem halves : Split.splitHalves (D := D) ctx' = Split.splitHalves ctx := by
  obtain ⟨p, hp, hm, -⟩ := h.numbers
  have hfirst : Split.activityAs.firstHit ctx'.measurable =
      (Split.activityAs.firstHit ctx.measurable).map (·.moved p.length) := by
    rw [hm, firstHit, hp.hits_activityAs, List.head?_map, firstHit]
  have hclause (a : Hit Activity) : ctx'.measurable.drop (a.moved p.length).span.stop =
      ctx.measurable.drop a.span.stop := by
    rw [hm]
    exact Commas.drop_moved ..
  refine Option.ext fun cs => ?_
  simp only [Split.splitHalves_eq_some, hfirst, Option.map_eq_some_iff, h.total]
  constructor
  · rintro ⟨_, ws, sum, ⟨a, ha, rfl⟩, hw, hrest⟩
    exact ⟨a, ws, sum, ha, hclause a ▸ hw, hrest⟩
  · rintro ⟨a, ws, sum, ha, hw, hrest⟩
    exact ⟨_, ws, sum, ⟨a, ha, rfl⟩, (hclause a).symm ▸ hw, hrest⟩

theorem counted : Split.splitCounted (D := D) ctx' = Split.splitCounted ctx := by
  obtain ⟨p, hp, hm, hd⟩ := h.numbers
  have hblank : ctx'.distance.span.blank ctx'.measurable =
      p ++ ctx.distance.span.blank ctx.measurable := by
    simp only [hm, hd, Span.blank, Distance.moved, Span.moved, Commas.take_moved,
      Commas.drop_moved, List.append_assoc]
  have hexplicit : ctx'.distance.explicitReps = ctx.distance.explicitReps := by
    rw [hd]
    rfl
  refine Option.ext fun cs => ?_
  simp only [Split.splitCounted_eq_some, hblank, hexplicit, hp.weights, h.reps, h.perRep,
    h.activityOrAssumed]

theorem apply (s : Split) : Split.apply (D := D) ctx' s = Split.apply ctx s := by
  cases s with
  | alternating => exact h.alternating
  | medley => exact h.medley
  | halves => exact h.halves
  | counted => exact h.counted

theorem choose : Split.choose (D := D) ctx' = Split.choose ctx := by
  simp only [Split.choose, h.apply]

theorem parseMeasured (number : Nat) (raw : Text) :
    parseMeasured (D := D) number raw ctx' = parseMeasured number raw ctx := by
  unfold SwimSets.parseMeasured plainLine
  rw [h.breakdown, h.choose, h.stroke, h.activityOrAssumed, h.total]

end LineContext.Alike

/-! ## The activity -/

variable {D : Type}

/-- The contribution in another activity. -/
def Contribution.withActivity (c : Contribution D) (a : Activity) : Contribution D :=
  { c with activity := a }

/-- What the line came to, all of it in another activity. -/
def ParsedLine.withActivity (l : ParsedLine D) (a : Activity) : ParsedLine D :=
  { l with contributions := l.contributions.map (·.withActivity a) }

variable [Metres D]

namespace Split

variable (ctx : LineContext) (a : Activity)

theorem alternating_activity : splitAlternating (D := D) { ctx with activity := some a } =
    (splitAlternating ctx).map (List.map (·.withActivity a)) := by
  simp only [splitAlternating]
  split_ifs
  · simp only [Option.map_some, List.map_map]
    rfl
  · rfl

theorem medley_activity : splitMedley (D := D) { ctx with activity := some a } =
    (splitMedley ctx).map (List.map (·.withActivity a)) := by
  simp only [splitMedley]
  split_ifs
  · simp only [Option.map_some, List.map_map]
    rfl
  · rfl

theorem counted_activity : splitCounted (D := D) { ctx with activity := some a } =
    (splitCounted ctx).map (List.map (·.withActivity a)) := by
  refine Option.ext fun cs => ?_
  simp only [Option.map_eq_some_iff, splitCounted_eq_some]
  constructor
  · rintro ⟨ws, he, hw, hn, hs, rfl⟩
    exact ⟨_, ⟨ws, he, hw, hn, hs, rfl⟩, List.map_map⟩
  · rintro ⟨_, ⟨ws, he, hw, hn, hs, rfl⟩, rfl⟩
    exact ⟨ws, he, hw, hn, hs, List.map_map⟩

/-- The splits take their activity from the line, but for the one that names an activity itself. -/
theorem choose_activity : choose (D := D) { ctx with activity := some a } =
    (choose ctx).map fun r =>
      (r.1, if r.1 = halves then r.2 else r.2.map (·.withActivity a)) := by
  have happly (s : Split) : apply (D := D) { ctx with activity := some a } s =
      (apply ctx s).map fun cs => if s = halves then cs else cs.map (·.withActivity a) := by
    cases s with
    | alternating => exact alternating_activity ctx a
    | medley => exact medley_activity ctx a
    | halves => exact (Option.map_id' ..).symm
    | counted => exact counted_activity ctx a
  unfold choose
  rw [List.map_findSome?]
  refine congrArg (List.findSome? · all) (funext fun s => ?_)
  rw [happly, Option.map_map, Function.comp_apply, Option.map_map]
  rfl

end Split

/-- All that a split gives is in the activity of the line, but for the one that names an activity
itself. -/
theorem Split.activity_of_apply {ctx : LineContext} {cs : List (Contribution D)} {s : Split}
    (hs : s ≠ halves) (h : s.apply ctx = some cs) :
    ∀ c ∈ cs, c.activity = ctx.activityOrAssumed := by
  have hmap {α : Type} {xs : List α} {f : α → Contribution D}
      (hf : ∀ x, (f x).activity = ctx.activityOrAssumed) :
      ∀ c ∈ xs.map f, c.activity = ctx.activityOrAssumed := by
    intro c hc
    obtain ⟨x, -, rfl⟩ := List.mem_map.1 hc
    exact hf x
  cases s with
  | alternating =>
    obtain ⟨-, -, rfl⟩ := splitAlternating_eq_some.1 h
    exact hmap fun _ => rfl
  | medley =>
    obtain ⟨-, -, rfl⟩ := splitMedley_eq_some.1 h
    exact hmap fun _ => rfl
  | halves => exact absurd rfl hs
  | counted =>
    obtain ⟨_, -, -, -, -, rfl⟩ := splitCounted_eq_some.1 h
    exact hmap fun _ => rfl

namespace LineContext

variable (D) in
/-- The rule that decides the line takes the activity from it. It is neither a breakdown nor the
split that names an activity itself, and the line is not refused. -/
def readsActivity (ctx : LineContext) : Bool :=
  match Breakdown.read (D := D) ctx with
  | .parts _ _ => false
  | .noDistances => (Split.choose (D := D) ctx).any fun r => r.1 != .halves
  | .notApplicable => (Split.choose (D := D) ctx).all fun r => r.1 != .halves

variable (number : Nat) (raw : Text) (ctx : LineContext)

/-- **Another activity** shows where the rule that decides the line reads it, and nowhere else. -/
theorem parseMeasured_activity (a : Activity) :
    parseMeasured (D := D) number raw { ctx with activity := some a } =
      if ctx.readsActivity D then (parseMeasured number raw ctx).withActivity a
      else parseMeasured number raw ctx := by
  have hread : Breakdown.read (D := D) { ctx with activity := some a } = Breakdown.read ctx := rfl
  unfold parseMeasured readsActivity
  rw [hread, Split.choose_activity]
  cases Breakdown.read (D := D) ctx with
  | parts => rfl
  | noDistances =>
    cases Split.choose (D := D) ctx with
    | none => rfl
    | some r =>
      by_cases hr : r.1 = .halves
      · simp [hr]
      · simp only [Option.map_some, if_neg hr, Option.any_some, bne_iff_ne.2 hr, if_true]
        rfl
  | notApplicable =>
    cases Split.choose (D := D) ctx with
    | none => rfl
    | some r =>
      by_cases hr : r.1 = .halves
      · simp [hr]
      · simp only [Option.map_some, if_neg hr, Option.all_some, bne_iff_ne.2 hr, if_true]
        rfl

/-- Where the activity of the line is read, there are contributions, and all are in it. -/
theorem contributions_of_readsActivity (h : ctx.readsActivity D = true) :
    (parseMeasured (D := D) number raw ctx).contributions ≠ [] ∧
      ∀ c ∈ (parseMeasured (D := D) number raw ctx).contributions,
        c.activity = ctx.activityOrAssumed := by
  have hsplit {r : Split × List (Contribution D)} (hr : Split.choose ctx = some r)
      (hne : r.1 ≠ .halves) : r.2 ≠ [] ∧ ∀ c ∈ r.2, c.activity = ctx.activityOrAssumed :=
    have happly := Split.apply_of_choose hr
    ⟨Split.ne_nil_of_apply happly, Split.activity_of_apply hne happly⟩
  unfold readsActivity at h
  unfold parseMeasured
  cases hb : Breakdown.read (D := D) ctx with
  | parts => simp [hb] at h
  | noDistances =>
    cases hc : Split.choose (D := D) ctx with
    | none => simp [hb, hc] at h
    | some r => exact hsplit hc (by simpa [hb, hc] using h)
  | notApplicable =>
    cases hc : Split.choose (D := D) ctx with
    | none => exact ⟨List.cons_ne_nil _ _, List.forall_mem_singleton.2 rfl⟩
    | some r => exact hsplit hc (by simpa [hb, hc] using h)

end LineContext

/-! ## Lines -/

theorem LineView.normalized_of [Speller] (raw : Text) :
    (LineView.of raw).normalized = normalize raw := rfl

theorem LineView.measurable_of [Speller] (raw : Text) :
    (LineView.of raw).measurable = stripAsides (normalize raw) := rfl

/-- The views are alike: the words are the same, and so are the numbers but for commas in front. -/
structure LineView.Alike (view' view : LineView) : Prop where
  words : SameWords view'.normalized view.normalized
  numbers : ∃ p, Commas p ∧ view'.measurable = p ++ view.measurable

/-- The distance of a line that is neither a repeat nor refused before one is read. -/
def LineView.distance (view : LineView) : Option Distance :=
  if Repeat.isAsked view.normalized then none
  else if laneConditional.occursIn view.normalized then none
  else if 1 < Distance.countMultipliers view.measurable then none
  else Distance.read view.measurable

variable (D) in
/-- The line has a distance, and the rule that decides it takes the activity from the line. -/
def LineView.readsActivity (view : LineView) : Bool :=
  view.distance.any fun d => (LineContext.of view d).readsActivity D

variable {number : Nat} {raw : Text} {view' view : LineView} {previous : List (ParsedLine D)}

/-- A line with a distance comes to what the rules for distances make of it. -/
theorem parseContent_of_distance {d : Distance} (h : view.distance = some d) :
    parseContent number raw view previous = parseMeasured number raw (LineContext.of view d) := by
  unfold LineView.distance at h
  unfold parseContent
  split_ifs at h ⊢
  rw [h]

/-- Lines whose views are alike come to what they come to with the same distance, in the activity
that each names. -/
theorem parseContent_rel {R : ParsedLine D → ParsedLine D → Prop} (h : view'.Alike view)
    (same : view.distance = none → ∀ l, R l l)
    (measured : ∀ d, view.distance = some d → R
      (parseMeasured number raw
        { LineContext.of view d with activity := activityOf view'.normalized })
      (parseMeasured number raw (LineContext.of view d))) :
    R (parseContent number raw view' previous) (parseContent number raw view previous) := by
  obtain ⟨p, hp, hm⟩ := h.numbers
  unfold LineView.distance at same measured
  unfold parseContent
  rw [h.words.asked, h.words.parity, hm, hp.countMultipliers, hp.read]
  split_ifs at same measured ⊢
  · exact same rfl _
  · exact same rfl _
  · exact same rfl _
  · cases hd : Distance.read view.measurable with
    | none => exact same hd _
    | some d =>
      have hctx : (LineContext.of view' (d.moved p.length)).Alike
          { LineContext.of view d with activity := activityOf view'.normalized } :=
        ⟨h.words, ⟨p, hp, hm, rfl⟩, h.words.stroke, rfl⟩
      show R (parseMeasured number raw (LineContext.of view' (d.moved p.length))) _
      rw [hctx.parseMeasured]
      exact measured d hd

/-- **Lines that are alike and name the same activity come to the same.** -/
theorem parseContent_alike (h : view'.Alike view)
    (activity : activityOf view'.normalized = activityOf view.normalized) :
    parseContent number raw view' previous = parseContent number raw view previous := by
  refine parseContent_rel h (fun _ l => rfl) fun d _ => ?_
  rw [activity]
  rfl

/-- Lines that are alike come to the same but for the activity, if that is read. -/
theorem parseContent_activity (h : view'.Alike view) {a : Activity}
    (activity : activityOf view'.normalized = some a) :
    parseContent number raw view' previous =
      if view.readsActivity D then (parseContent number raw view previous).withActivity a
      else parseContent number raw view previous := by
  refine parseContent_rel
    (R := fun l' l => l' = if view.readsActivity D then l.withActivity a else l) h
    (fun hd l => ?_) fun d hd => ?_
  · simp [LineView.readsActivity, hd]
  · rw [activity, LineContext.parseMeasured_activity, LineView.readsActivity, hd, Option.any_some]

/-! ## Lines as written -/

section

variable [Speller] {raw' : Text} (content' : LineKind.of raw' = .content)
  (content : LineKind.of raw = .content) (h : (LineView.of raw').Alike (LineView.of raw))
  (number : Nat) (previous : List (ParsedLine D))
include content

/-- Where the activity of a line is read, it contributes something, and all of it is in that
activity. -/
theorem contributions_of_readsActivity (reads : (LineView.of raw).readsActivity D = true) :
    (parseLine number raw previous).contributions ≠ [] ∧
      ∀ c ∈ (parseLine number raw previous).contributions,
        c.activity = (activityOf (normalize raw)).getD assumedActivity := by
  obtain ⟨d, hd, hreads⟩ := (Option.any_eq_true _ _).1 reads
  have hline : parseLine number raw previous =
      parseMeasured number raw (LineContext.of (LineView.of raw) d) := by
    rw [parseLine, content]
    exact parseContent_of_distance hd
  rw [hline]
  exact LineContext.contributions_of_readsActivity number raw _ hreads

include content' h

/-- **Two lines of content that are alike and name the same activity come to the same.** -/
theorem parseLine_alike (activity : activityOf (normalize raw') = activityOf (normalize raw)) :
    parseLine number raw' previous = (parseLine number raw previous).labelled number raw' := by
  unfold parseLine
  rw [content', content]
  show parseContent _ _ _ _ = (parseContent _ _ _ _).labelled _ _
  rw [parseContent_labelled number number raw raw' _ rfl, parseContent_alike h activity]

/-- **If the one names an activity,** they come to the same but for that, and only where the rule
that decides the line reads it. -/
theorem parseLine_activity {a : Activity} (activity : activityOf (normalize raw') = some a) :
    parseLine number raw' previous =
      (if (LineView.of raw).readsActivity D then (parseLine number raw previous).withActivity a
        else parseLine number raw previous).labelled number raw' := by
  unfold parseLine
  rw [content', content]
  show parseContent _ _ _ _ =
    (if (LineView.of raw).readsActivity D then (parseContent _ _ _ _).withActivity a
      else parseContent _ _ _ _).labelled _ _
  rw [parseContent_activity h activity, ← parseContent_labelled number number raw raw' _ rfl]
  split_ifs <;> rfl

end

end SwimSets
