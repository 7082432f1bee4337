import SwimSets.Proofs.CheckedKeywords
import SwimSets.Proofs.LaneLoop
import SwimSets.Proofs.Weights
import SwimSets.Session.Parse

/-!
# No text makes the reader fault

A reader of lines that is careful with every step (`Checked`): positions are bytes, text is cut out
with `Text.cut`, which faults at a place inside of a character, and shares are taken with
`Checked.divide`, which faults at a division by zero. Apart from that each definition does what its
namesake does.

**Theorem (`reading_never_faults`).** The careful reader never faults, and makes of every line, with
whatever lines above it, what the reader of characters makes of it. Every place that it finds lies
inside of the text in which it is found and between characters (`PlacesInside`), so that all it cuts
out is there (`CutsMade`), and weights are added up exactly (`WeightsExact`).

**Which text a place belongs to.** A place says nothing of any text but its own. So each cut is
answered by the search that found the place in the very text that is cut: the distance of a line in
its measurable view (`Checked.blank_eq`), mentions in what is left of that or in the clause
(`Checked.counts_eq`), distances in a piece of the clause (`Checked.cutAtDistances_eq`), the word
before the clause in the measurable view (`Checked.splitClause_eq`), and lanes in the text without
times (`stripLanes_eq`).
-/

namespace SwimSets

open Scanner

variable {D : Type} [Metres D]

namespace LineContext

/-- The context of a line, with the place of its distance in bytes. -/
def bytes (ctx : LineContext) : LineContext :=
  { ctx with distance := { ctx.distance with span := ctx.distance.span.bytes ctx.measurable } }

@[simp] theorem reps_bytes (ctx : LineContext) : ctx.bytes.distance.reps = ctx.distance.reps := rfl

@[simp] theorem explicitReps_bytes (ctx : LineContext) :
    ctx.bytes.distance.explicitReps = ctx.distance.explicitReps := rfl

@[simp] theorem perRep_bytes (ctx : LineContext) :
    ctx.bytes.perRep (D := D) = ctx.perRep := rfl

@[simp] theorem activityOrAssumed_bytes (ctx : LineContext) :
    ctx.bytes.activityOrAssumed = ctx.activityOrAssumed := rfl

end LineContext

namespace Checked

/-! ## What is known of a line -/

def contextOf (view : LineView) (distance : Distance) : Except Fault LineContext :=
  return ⟨view.normalized, view.measurable,
    { distance with span := distance.span.bytes view.measurable },
    ← strokeOf view.normalized, ← activityOf view.normalized⟩

theorem contextOf_eq (view : LineView) (distance : Distance) :
    contextOf view distance = pure (LineContext.of view distance).bytes := by
  rw [contextOf, strokeOf_eq, activityOf_eq]
  rfl

/-! ## Splits -/

/-- The share of each of `n`. -/
def divide (x : D) (n : Nat) : Except Fault D :=
  if n = 0 then throw .divisionByZero else return x / (n : D)

/-- The text with a space in the place of some of its bytes. -/
def blank (s : Span) (t : Text) : Except Fault Text := do
  let before ← t.cut 0 s.start
  let after ← t.cut s.stop t.byteLength
  return before ++ ' ' :: after

/-- The counts that the mentions of the text have, each with its stroke. -/
def counts (t : Text) (default : Option Nat) : Except Fault (List (Stroke × Nat)) := do
  let found ← (← mentions t).mapM fun m => do
    let before ← t.cut 0 m.span.start
    return ((Split.trailingCount before).or default).map fun n => (m.stroke, n)
  return found.filterMap id

def weights (t : Text) (default : Option Nat) : Except Fault (Option (List (Stroke × Nat))) :=
  return Split.addAll [] (← counts t default)

def splitAlternating (ctx : LineContext) : Except Fault (Option (List (Contribution D))) := do
  let strokes ← strokesOf ctx.normalized
  if Split.altLengths.occursIn ctx.normalized && 2 ≤ strokes.length then
    let share ← divide ctx.total strokes.length
    return some (strokes.map fun s => ⟨s, ctx.activityOrAssumed, share⟩)
  else return none

def splitMedley (ctx : LineContext) : Except Fault (Option (List (Contribution D))) := do
  let asked := (← isIn "per stroke" ctx.normalized) || (← isIn "per-stroke" ctx.normalized)
  if ctx.stroke = some .individualMedley && asked then
    let quarter ← divide ctx.total 4
    return some (Stroke.medley.map fun s => ⟨s, ctx.activityOrAssumed, quarter⟩)
  else return none

def splitHalves (ctx : LineContext) : Except Fault (Option (List (Contribution D))) := do
  match Split.activityAs.firstHit ctx.measurable with
  | none => return none
  | some h =>
    let clause ← ctx.measurable.cut (h.span.bytes ctx.measurable).stop ctx.measurable.byteLength
    match ← weights clause (some 1) with
    | none => return none
    | some ws =>
      match Split.weightSum ws with
      | none => return none
      | some sum =>
        if 2 ≤ ws.length && sum ≠ 0 then
          let shares ← ws.mapM fun w =>
            return ⟨w.1, h.value, ← divide (ctx.total * (w.2 : D)) sum⟩
          return some shares
        else return none

def splitCounted (ctx : LineContext) : Except Fault (Option (List (Contribution D))) := do
  if ctx.distance.explicitReps then
    let around ← blank ctx.distance.span ctx.measurable
    match ← weights around none with
    | none => return none
    | some ws =>
      if 2 ≤ ws.length && Split.weightSum ws = some ctx.distance.reps then
        return some (ws.map fun w => ⟨w.1, ctx.activityOrAssumed, (w.2 : D) * ctx.perRep⟩)
      else return none
  else return none

def apply (ctx : LineContext) : Split → Except Fault (Option (List (Contribution D)))
  | .alternating => splitAlternating ctx
  | .medley => splitMedley ctx
  | .halves => splitHalves ctx
  | .counted => splitCounted ctx

def choose (ctx : LineContext) : Except Fault (Option (Split × List (Contribution D))) :=
  Split.all.findSomeM? fun s => return (← apply ctx s).map fun cs => (s, cs)

theorem divide_eq (x : D) {n : Nat} (h : n ≠ 0) : divide x n = pure (x / (n : D)) := if_neg h

theorem blank_eq {s : Span} {t : Text} (h : s.Within t) :
    blank (s.bytes t) t = pure (s.blank t) := by
  simp only [blank, Span.bytes, Text.cut_to h.start_le, Text.cut_from h.inside]
  rfl

theorem counts_eq (t : Text) (default : Option Nat) :
    counts t default = pure (Split.counts t default) := by
  have count : ∀ m ∈ SwimSets.mentions t, (t.cut 0 (t.byteOffset m.span.start) >>= fun before =>
      pure (((Split.trailingCount before).or default).map fun n => (m.stroke, n))) =
      (pure (((Split.trailingCount (t.take m.span.start)).or default).map fun n => (m.stroke, n)) :
        Except Fault _) := by
    intro m hm
    rw [Text.cut_to (mentions_within hm).start_le, ok_bind]
  rw [counts, mentions_eq, pure_bind, List.mapM_map]
  refine (congrArg (· >>= _) (mapM_eq_pure count)).trans ?_
  rw [pure_bind, List.filterMap_map]
  rfl

theorem weights_eq (t : Text) (default : Option Nat) :
    weights t default = pure (Split.weights t default) := by
  rw [weights, counts_eq, pure_bind, Split.weights_eq]

theorem splitAlternating_eq (ctx : LineContext) :
    splitAlternating (D := D) ctx = pure (Split.splitAlternating ctx) := by
  rw [splitAlternating, strokesOf_eq, pure_bind, Split.splitAlternating]
  dsimp only
  split_ifs with h
  · have hne : (SwimSets.strokesOf ctx.normalized).length ≠ 0 := by
      simp only [Bool.and_eq_true, decide_eq_true_eq] at h
      omega
    rw [divide_eq _ hne, pure_bind]
  · rfl

theorem splitMedley_eq (ctx : LineContext) :
    splitMedley (D := D) ctx = pure (Split.splitMedley ctx) := by
  rw [splitMedley, isIn_eq, isIn_eq, pure_bind, pure_bind, Split.splitMedley, Split.saysPerStroke]
  dsimp only
  split_ifs with h
  · rw [divide_eq _ (by decide), pure_bind]
  · rfl

theorem splitHalves_eq (ctx : LineContext) :
    splitHalves (D := D) ctx = pure (Split.splitHalves ctx) := by
  unfold splitHalves Split.splitHalves
  cases hh : Split.activityAs.firstHit ctx.measurable with
  | none => rfl
  | some h =>
    have hw := Span.within_of_mem_hits (mem_hits_of_firstHit hh)
    simp only [Span.bytes, Text.cut_from hw.inside, ok_bind, weights_eq, pure_bind,
      Option.bind_eq_bind, Option.bind_some]
    cases Split.weights (ctx.measurable.drop h.span.stop) (some 1) with
    | none => rfl
    | some ws =>
      simp only [Option.bind_some]
      cases Split.weightSum ws with
      | none => simp
      | some sum =>
        simp only [Option.bind_some]
        by_cases hn : 2 ≤ ws.length
        · by_cases h0 : sum = 0
          · simp [h0]
          · simp [hn, h0, divide_eq]
        · simp [hn]

theorem splitCounted_eq {ctx : LineContext} (h : ctx.distance.span.Within ctx.measurable) :
    splitCounted (D := D) ctx.bytes = pure (Split.splitCounted ctx) := by
  have hblank : blank ctx.bytes.distance.span ctx.bytes.measurable =
      pure (ctx.distance.span.blank ctx.measurable) := blank_eq h
  unfold splitCounted Split.splitCounted
  rw [hblank, LineContext.explicitReps_bytes]
  simp only [weights_eq, pure_bind]
  cases ctx.distance.explicitReps with
  | false => rfl
  | true =>
    cases Split.weights (ctx.distance.span.blank ctx.measurable) none with
    | none => rfl
    | some ws =>
      by_cases hn : 2 ≤ ws.length
      · cases hs : Split.weightSum ws with
        | none => simp [hs]
        | some sum => by_cases hr : sum = ctx.distance.reps <;> simp [hs, hn, hr]
      · simp [hn]

theorem apply_eq {ctx : LineContext} (h : ctx.distance.span.Within ctx.measurable) (s : Split) :
    apply (D := D) ctx.bytes s = pure (s.apply ctx) := by
  cases s with
  | alternating => exact splitAlternating_eq ctx.bytes
  | medley => exact splitMedley_eq ctx.bytes
  | halves => exact splitHalves_eq ctx.bytes
  | counted => exact splitCounted_eq h

theorem choose_eq {ctx : LineContext} (h : ctx.distance.span.Within ctx.measurable) :
    choose (D := D) ctx.bytes = pure (Split.choose ctx) := by
  simp only [choose, apply_eq h, pure_bind, List.findSomeM?_pure]
  rfl

/-! ## Breakdowns -/

/-- The pieces of a text from byte `start` on, cut at the given bytes. -/
def pieces (t : Text) (start : Nat) : List Nat → Except Fault (List Text)
  | [] => return [← t.cut start t.byteLength]
  | cut :: cuts => return (← t.cut start cut) :: (← pieces t cut cuts)

def cutAtDistances (t : Text) : Except Fault (List Text) :=
  pieces t 0 ((Distance.starts t).map t.byteOffset).tail

def clauseParts (clause : Text) : Except Fault (List Text) := do
  let found ← (clause.splitAt fun c => c == '/' || c == ',').mapM cutAtDistances
  return (found.flatten.map Text.trim).filter fun p => !p.isEmpty

def splitClause (measurable : Text) : Except Fault (Option (Text × List Text)) := do
  match Breakdown.asWord.firstHit measurable with
  | none => return none
  | some h =>
    let span := h.span.bytes measurable
    let clause ← measurable.cut span.stop measurable.byteLength
    if clause.any fun c => isAsciiDigit c || c == '/' then
      let head ← measurable.cut 0 span.start
      return some (head, ← clauseParts clause)
    else return none

def readPart (headStroke : Option Stroke) (t : Text) : Except Fault (Option Breakdown.Part) := do
  match Distance.readBare t with
  | none => return none
  | some d =>
    return some ⟨d.1, (← strokeOf t).or headStroke, (← activityOf t).getD assumedActivity⟩

def readBreakdown (ctx : LineContext) : Except Fault (Breakdown D) := do
  match ← splitClause ctx.measurable with
  | none => return .notApplicable
  | some (head, texts) =>
    let headStroke ← strokeOf head
    let parts := (← texts.mapM (readPart headStroke)).filterMap id
    if parts.isEmpty then return .noDistances
    else
      return .parts (parts.map (Breakdown.Part.contribution ctx.distance.reps))
        (Breakdown.warningsFor parts (texts.length - parts.length) ctx.distance.perRep)

/-- Cuts in increasing order are made without a fault. -/
theorem pieces_eq {t : Text} (start : Nat) {cuts : List Nat}
    (hsorted : (start :: cuts).Pairwise (· ≤ ·)) (hlen : ∀ c ∈ start :: cuts, c ≤ t.length) :
    pieces t (t.byteOffset start) (cuts.map t.byteOffset) =
      pure (Breakdown.pieces t start cuts) := by
  induction cuts generalizing start with
  | nil =>
    rw [List.map_nil, pieces, Text.cut_from (hlen start List.mem_cons_self), ok_bind]
    rfl
  | cons cut cuts ih =>
    obtain ⟨hle, hsorted⟩ := List.pairwise_cons.mp hsorted
    have hlen' := (List.forall_mem_cons.mp hlen).2
    rw [List.map_cons, pieces, Text.cut_byteOffset (hle cut List.mem_cons_self)
      (hlen' cut List.mem_cons_self), ok_bind, ih cut hsorted hlen', pure_bind]
    rfl

theorem cutAtDistances_eq (t : Text) :
    cutAtDistances t = pure (Breakdown.cutAtDistances t) := by
  have htail {c : Nat} (h : c ∈ (Distance.starts t).tail) : c ≤ t.length :=
    Nat.le_of_lt (Distance.lt_length_of_mem_starts (List.mem_of_mem_tail h))
  rw [cutAtDistances, ← List.map_tail]
  refine pieces_eq 0 (List.pairwise_cons.mpr ⟨fun c _ => Nat.zero_le c, ?_⟩)
    (List.forall_mem_cons.mpr ⟨Nat.zero_le _, fun c => htail⟩)
  exact (Distance.starts_sorted t).tail.imp Nat.le_of_lt

theorem clauseParts_eq (clause : Text) :
    clauseParts clause = pure (Breakdown.clauseParts clause) := by
  rw [clauseParts, mapM_eq_pure fun piece _ => cutAtDistances_eq piece, pure_bind,
    Breakdown.clauseParts, List.flatMap_def]

theorem splitClause_eq (measurable : Text) :
    splitClause measurable = pure (Breakdown.splitClause measurable) := by
  unfold splitClause Breakdown.splitClause
  cases hh : Breakdown.asWord.firstHit measurable with
  | none => rfl
  | some h =>
    have hw := Span.within_of_mem_hits (mem_hits_of_firstHit hh)
    simp only [Span.bytes, Text.cut_from hw.inside, Text.cut_to hw.start_le, ok_bind,
      clauseParts_eq, pure_bind]
    split_ifs <;> rfl

theorem readPart_eq (headStroke : Option Stroke) (t : Text) :
    readPart headStroke t = pure (Breakdown.Part.read headStroke t) := by
  unfold readPart Breakdown.Part.read
  cases Distance.readBare t with
  | none => rfl
  | some d => simp only [strokeOf_eq, activityOf_eq, pure_bind, Option.map_some]

theorem readBreakdown_eq (ctx : LineContext) :
    readBreakdown (D := D) ctx = pure (Breakdown.read ctx) := by
  unfold readBreakdown Breakdown.read
  rw [splitClause_eq, pure_bind]
  cases Breakdown.splitClause ctx.measurable with
  | none => rfl
  | some found =>
    dsimp only
    rw [strokeOf_eq, pure_bind, mapM_eq_pure fun text _ => readPart_eq _ text, pure_bind,
      List.filterMap_map, Function.id_comp]
    split_ifs <;> rfl

/-! ## Lines -/

def stripAsides (t : Text) : Except Fault Text := do
  let timeless := [Aside.restAt, Aside.restWorded, Aside.duration, Aside.clock].foldl
    (fun u kind => kind.blankOut u) t
  let laneless ← stripLanes timeless
  return Text.collapse (Aside.note.blankOut laneless)

def viewOf [Speller] (raw : Text) : Except Fault LineView :=
  return ⟨normalize raw, ← stripAsides (normalize raw)⟩

def parseMeasured (number : Nat) (raw : Text) (ctx : LineContext) :
    Except Fault (ParsedLine D) := do
  match ← readBreakdown ctx with
  | .parts contributions warnings => return ParsedLine.accepted number raw contributions warnings
  | .noDistances =>
    match ← choose ctx with
    | some (_, contributions) => return ParsedLine.accepted number raw contributions []
    | none => return ParsedLine.refused number raw .breakdownWithoutDistances
  | .notApplicable =>
    match ← choose ctx with
    | some (_, contributions) => return ParsedLine.accepted number raw contributions []
    | none => return plainLine number raw ctx

def parseContent (number : Nat) (raw : Text) (view : LineView) (previous : List (ParsedLine D)) :
    Except Fault (ParsedLine D) := do
  if Repeat.isAsked view.normalized then
    match Repeat.resolve previous with
    | some (contributions, count) =>
      return ParsedLine.accepted number raw contributions [.repeated count]
    | none => return ParsedLine.refused number raw .noRepeatSource
  else if laneConditional.occursIn view.normalized then
    return ParsedLine.refused number raw .laneConditional
  else if 1 < Distance.countMultipliers view.measurable then
    return ParsedLine.refused number raw .nestedMultiplier
  else
    match Distance.read view.measurable with
    | none => return ParsedLine.refused number raw .noDistance
    | some distance => parseMeasured number raw (← contextOf view distance)

def parseLine [Speller] (number : Nat) (raw : Text) (previous : List (ParsedLine D)) :
    Except Fault (ParsedLine D) := do
  match LineKind.of raw with
  | .blank => return ParsedLine.refused number raw .blank
  | .separator => return ParsedLine.refused number raw .separator
  | .content => parseContent number raw (← viewOf raw) previous

theorem stripAsides_eq (t : Text) : stripAsides t = pure (SwimSets.stripAsides t) := by
  rw [stripAsides, stripLanes_eq]
  rfl

theorem viewOf_eq [Speller] (raw : Text) : viewOf raw = pure (LineView.of raw) := by
  rw [viewOf, stripAsides_eq]
  rfl

theorem parseMeasured_eq (number : Nat) (raw : Text) {ctx : LineContext}
    (h : ctx.distance.span.Within ctx.measurable) :
    parseMeasured (D := D) number raw ctx.bytes =
      pure (SwimSets.parseMeasured number raw ctx) := by
  have hread : readBreakdown (D := D) ctx.bytes = pure (Breakdown.read ctx) :=
    readBreakdown_eq ctx.bytes
  unfold parseMeasured SwimSets.parseMeasured
  rw [hread, pure_bind]
  cases Breakdown.read (D := D) ctx with
  | parts contributions warnings => rfl
  | noDistances =>
    simp only [choose_eq h, pure_bind]
    cases Split.choose (D := D) ctx <;> rfl
  | notApplicable =>
    simp only [choose_eq h, pure_bind]
    cases Split.choose (D := D) ctx <;> rfl

theorem parseContent_eq (number : Nat) (raw : Text) (view : LineView)
    (previous : List (ParsedLine D)) :
    parseContent number raw view previous =
      pure (SwimSets.parseContent number raw view previous) := by
  unfold parseContent SwimSets.parseContent
  split_ifs
  · cases Repeat.resolve previous <;> rfl
  · rfl
  · rfl
  · cases hd : Distance.read view.measurable with
    | none => rfl
    | some distance =>
      simp only [contextOf_eq, pure_bind]
      exact parseMeasured_eq number raw (Distance.read_within hd)

/-- **No line makes the reader fault.** -/
theorem parseLine_eq [Speller] (number : Nat) (raw : Text) (previous : List (ParsedLine D)) :
    parseLine number raw previous = pure (SwimSets.parseLine number raw previous) := by
  unfold parseLine SwimSets.parseLine
  cases LineKind.of raw with
  | blank => rfl
  | separator => rfl
  | content => simp only [viewOf_eq, pure_bind, parseContent_eq]

/-! ## Sessions -/

def readLine [Speller] (t : Tally D) (raw : Text) : Except Fault (Tally D) :=
  return t.push (← parseLine (t.lines.length + 1) raw t.lines)

def parse [Speller] (text : Text) : Except Fault (Tally D) := text.lines.foldlM readLine Tally.empty

theorem parse_eq [Speller] (text : Text) : parse (D := D) text = pure (SwimSets.parse text) := by
  have hread : readLine (D := D) = fun t raw => pure (t.read raw) := by
    funext t raw
    rw [readLine, parseLine_eq, pure_bind]
    rfl
  rw [parse, hread, List.foldlM_pure]
  rfl

end Checked

/-! ## The theorem -/

/-- Stretches that can be cut out of the text, in strictly increasing order of where they start. -/
structure Span.Listed (ss : List Span) (t : Text) : Prop where
  cuttable : ∀ s ∈ ss, s.Cuttable t
  sorted : ss.Pairwise fun a b => a.start < b.start

/-- Stretches of which each ends before the next starts are listed in bytes. -/
theorem Span.listed_bytes {ss : List Span} {t : Text} (hw : ∀ s ∈ ss, s.Within t)
    (h : ss.Pairwise fun a b => a.stop ≤ b.start) : Listed (ss.map (·.bytes t)) t where
  cuttable := List.forall_mem_map.mpr fun s hs => (hw s hs).bytes
  sorted := by
    refine List.pairwise_map.mpr (h.imp_of_mem fun {a b} ha hb hab => ?_)
    exact Text.byteOffset_strictMono (Nat.lt_of_lt_of_le (hw a ha).forward hab) (hw b hb).start_le

/-- Every place, in bytes, that is found in the text lies inside of it and between characters. -/
structure PlacesInside (t : Text) : Prop where
  distance : ∀ d, Distance.read t = some d → d.span.Within t ∧ (d.span.bytes t).Cuttable t
  bareDistance : ∀ d, Distance.readBare t = some d → d.2.Within t ∧ (d.2.bytes t).Cuttable t
  starts : ∀ i ∈ Distance.starts t,
    i < t.length ∧ t.byteOffset i < t.byteLength ∧ t.atByte (t.byteOffset i) = some i
  starts_sorted : ((Distance.starts t).map t.byteOffset).Pairwise (· < ·)
  keyword : ∀ w, ∃ ss, Checked.find w t = .ok ss ∧ Span.Listed ss t
  mentions : ∃ ms, Checked.mentions t = .ok ms ∧ Span.Listed (ms.map (·.span)) t
  laneHeads : Span.Listed ((Aside.laneHead.hits t).map fun h => h.span.bytes t) t
  /-- The inner loop over a lane list moves on. -/
  laneNext : ∀ stop next, laneNext t stop = .ok (some next) → (Span.mk stop next).Cuttable t

/-- Nothing that is cut out of the text fails to be. -/
structure CutsMade (t : Text) : Prop where
  blank : ∀ d, Distance.read t = some d → Checked.blank (d.span.bytes t) t = .ok (d.span.blank t)
  counts : ∀ default, Checked.counts t default = .ok (Split.counts t default)
  distances : Checked.cutAtDistances t = .ok (Breakdown.cutAtDistances t)
  clause : Checked.splitClause t = .ok (Breakdown.splitClause t)
  lanes : stripLanes t = .ok (Aside.lanes.blankOut t)

/-- The weights of the text are added up exactly, or come to more than can be held. -/
structure WeightsExact (t : Text) (default : Option Nat) : Prop where
  weights : ∀ ws, Split.weights t default = some ws → Split.Exact (Split.counts t default) ws
  tooLarge : Split.weights t default = none →
    ∃ s, numberBound ≤ Split.totalOf s (Split.counts t default)

theorem placesInside (t : Text) : PlacesInside t where
  distance _ h := ⟨Distance.read_within h, (Distance.read_within h).bytes⟩
  bareDistance _ h := ⟨Distance.readBare_within h, (Distance.readBare_within h).bytes⟩
  starts i hi := by
    have hlt := Distance.lt_length_of_mem_starts hi
    refine ⟨hlt, ?_, Text.atByte_byteOffset (Nat.le_of_lt hlt)⟩
    rw [← Text.byteOffset_length]
    exact Text.byteOffset_strictMono hlt le_rfl
  starts_sorted := List.pairwise_map.mpr <|
    (Distance.starts_sorted t).imp_of_mem fun _ hj hij =>
      Text.byteOffset_strictMono hij (Nat.le_of_lt (Distance.lt_length_of_mem_starts hj))
  keyword w := ⟨_, Checked.find_eq w t,
    Span.listed_bytes (fun _ hs => Keyword.find_within hs) (Keyword.find_pairwise w t)⟩
  mentions := by
    have hlisted : Span.Listed (((SwimSets.mentions t).map (·.span)).map (·.bytes t)) t :=
      Span.listed_bytes (List.forall_mem_map.mpr fun _ hm => mentions_within hm)
        (List.pairwise_map.mpr (mentions_pairwise t))
    rw [List.map_map] at hlisted
    refine ⟨_, Checked.mentions_eq t, ?_⟩
    rwa [List.map_map]
  laneHeads := by
    have hlisted : Span.Listed (((Aside.laneHead.hits t).map (·.span)).map (·.bytes t)) t :=
      Span.listed_bytes (List.forall_mem_map.mpr fun _ hm => Span.within_of_mem_hits hm)
        (List.pairwise_map.mpr (hits_pairwise _ t))
    rwa [List.map_map] at hlisted
  laneNext _ _ h := laneNext_forward h

theorem cutsMade (t : Text) : CutsMade t where
  blank _ h := Checked.blank_eq (Distance.read_within h)
  counts := Checked.counts_eq t
  distances := Checked.cutAtDistances_eq t
  clause := Checked.splitClause_eq t
  lanes := stripLanes_eq t

theorem weightsExact (t : Text) {default : Option Nat} (hd : ∀ n ∈ default, n < numberBound) :
    WeightsExact t default where
  weights _ h := Split.weights_exact hd h
  tooLarge h := Split.weights_eq_none hd h

/-- **No text makes the reader fault.** The weights are those of a clause, where a stroke without a
count has one, and of a line around its distance, where it has none. -/
theorem reading_never_faults [Speller] {D : Type} [Metres D] :
    (∀ t, PlacesInside t) ∧ (∀ t, CutsMade t) ∧
      (∀ t, WeightsExact t none ∧ WeightsExact t (some 1)) ∧
      (∀ ws n, Split.weightSum ws = some n ↔ (ws.map (·.2)).sum = n ∧ n < numberBound) ∧
      (∀ ctx, Checked.splitHalves (D := D) ctx = .ok (Split.splitHalves ctx)) ∧
      (∀ number raw previous, Checked.parseLine (D := D) number raw previous =
        .ok (parseLine number raw previous)) ∧
      ∀ text, Checked.parse (D := D) text = .ok (parse text) :=
  ⟨placesInside, cutsMade,
    fun t => ⟨weightsExact t (by simp), weightsExact t (by decide)⟩,
    fun _ _ => Split.weightSum_eq_some_iff,
    Checked.splitHalves_eq, Checked.parseLine_eq, Checked.parse_eq⟩

end SwimSets
