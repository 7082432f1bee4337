import SwimSets.Proofs.Conservation
import SwimSets.Proofs.Windows

/-!
# The distances of a clause

A clause is cut at signs into parts, and each part again at its distances. The pieces are read one
by one, each on its own. No distance gets lost on the way, and none is counted twice.

**Parts** (`Breakdown.sections`). A part stands between slashes and commas, so it is a window of the
clause.

**Pieces.** A part is cut where a distance starts, and there no word runs on and no measure stands.
So each piece is a window of its part (`Breakdown.exists_window_of_mem_pieces`), with the one
distance that starts in it (`Breakdown.startsOf_pieces`).

**Theorem (`breakdown_accounts`).** The pieces make up the parts, with one distance each. A
breakdown contributes once for each distance of the parts, in the order of the text, and counts all
other pieces as ignored.
-/

namespace SwimSets

open Scanner

namespace Breakdown

variable {t u : Text}

/-! ## Parts -/

/-- The parts of a clause between slashes and commas. -/
def sections (clause : Text) : List Text := clause.splitAt fun c => c == '/' || c == ','

theorem exists_window_of_mem_sections {clause p : Text} (h : p ∈ sections clause) :
    Nonempty (Window clause p) := by
  obtain ⟨a, b, ht, ha, hb⟩ := Keyword.exists_of_mem_splitAt h
  have sign {c : Char} (hc : (c == '/' || c == ',') = true) :
      isWordChar c = false ∧ isBlank c = false := by
    rcases Bool.or_eq_true_iff.1 hc with hc | hc <;> rw [eq_of_beq hc] <;> decide
  refine ⟨⟨a, b, ht, ?_, .inl ?_, ?_⟩⟩
  · exact (Option.any_eq_false _ _).2 fun x hx => (sign (ha x hx)).1
  · exact (Option.any_eq_false _ _).2 fun x hx => (sign (hb x hx)).1
  · cases b with
    | nil => decide
    | cons x b =>
      obtain ⟨hword, hblank⟩ := sign (hb x rfl)
      have hnone : Text.firstWord (x :: b) = [] := Text.firstWord_eq_nil_iff.2 hword
      rw [HasMeasure, Text.nextWord_cons hblank, hnone]
      decide

/-! ## Pieces -/

/-- Where the distances of the pieces start in the text that they make up from a position on. -/
def startsOf (offset : Nat) : List Text → List (List Nat)
  | [] => []
  | u :: us => (Distance.starts u).map (offset + ·) :: startsOf (offset + u.length) us

/-- No word runs on at the position. -/
def Opens (t : Text) (i : Nat) : Prop := (t.take i).getLast?.any isWordChar = false

theorem opens_of_mem_starts {i : Nat} (h : i ∈ Distance.starts t) : Opens t i := by
  obtain ⟨f, -, rfl⟩ := Distance.mem_starts_iff.1 h
  rw [Opens, f.take_start]
  exact f.opens

/-- The last piece. -/
theorem exists_window_drop {i : Nat} (h : Opens t i) (hi : i ≤ t.length) :
    ∃ w : Window t (t.drop i), w.start = i :=
  ⟨⟨t.take i, [], by simp, h, .nil _, by decide⟩, by simpa [Window.start] using hi⟩

/-- A piece before the last. -/
theorem exists_window_slice {i j : Nat} (h : Opens t i) (hij : i < j)
    (hj : j ∈ Distance.starts t) : ∃ w : Window t (t.slice i j), w.start = i := by
  have hlen := Distance.lt_length_of_mem_starts hj
  have hcloses : Closes (t.take j) (t.drop j) := by
    have hopens := opens_of_mem_starts hj
    obtain ⟨c, hc⟩ : ∃ c, (t.take j).getLast? = some c :=
      Option.ne_none_iff_exists'.1 fun hnone => by
        have := congrArg List.length (List.getLast?_eq_none_iff.1 hnone)
        simp only [List.length_take, List.length_nil] at this
        omega
    rw [Opens, hc] at hopens
    exact .inr ⟨c, hc, hopens⟩
  have hfree : ¬ HasMeasure (t.drop j) := by
    obtain ⟨f, -, rfl⟩ := Distance.mem_starts_iff.1 hj
    obtain ⟨x, r, hdigits, hx⟩ := Shape.Number.exists_first ⟨f.nonempty, f.allDigits⟩
    rw [f.drop_start, hdigits]
    exact not_hasMeasure_of_isDecimal hx _
  refine ⟨⟨t.take i, t.drop j, ?_, h, ?_, hfree⟩, by simpa [Window.start] using by omega⟩
  · rw [← Text.drop_eq_slice_append hij.le, List.take_append_drop]
  · refine hcloses.behind (Text.take_eq_append_slice t hij.le) fun hnil => ?_
    have := Text.length_slice (i := i) hlen.le
    rw [hnil, List.length_nil] at this
    omega

/-- The texts are windows that follow one another from a position on. -/
inductive Row (t : Text) : Nat → List Text → Prop where
  | nil (i : Nat) : Row t i []
  | cons {i : Nat} {u : Text} {us : List Text} (w : Window t u) (start : w.start = i)
      (more : Row t (i + u.length) us) : Row t i (u :: us)

theorem Row.exists_window {i : Nat} {us : List Text} (h : Row t i us) (hu : u ∈ us) :
    Nonempty (Window t u) := by
  induction h with
  | nil => cases hu
  | cons w _ more ih =>
    rcases List.mem_cons.1 hu with rfl | hu
    · exact ⟨w⟩
    · exact ih hu

/-- Windows in a row write the numbers that stand in the text where their distances start. -/
theorem Row.numbers {i : Nat} {us : List Text} (h : Row t i us) :
    us.flatMap Distance.numbers = (startsOf i us).flatten.map t.numberAt := by
  induction h with
  | nil => rfl
  | cons w start more ih =>
    rw [List.flatMap_cons, startsOf, List.flatten_cons, List.map_append, ih, w.numbers_eq, start]

/-- Of the starts from a position on, the first lies before the next cut, and from there on are the
others. -/
theorem starts_next {i s c : Nat} {cuts : List Nat}
    (hs : (Distance.starts t).filter (i ≤ ·) = s :: c :: cuts) :
    i ≤ s ∧ s < c ∧ c ∈ Distance.starts t ∧ (Distance.starts t).filter (c ≤ ·) = c :: cuts ∧
      (Distance.starts t).filter (fun k => i ≤ k && k < c) = [s] := by
  have hsorted : (s :: c :: cuts).Pairwise (· < ·) := hs ▸ (Distance.starts_sorted t).filter _
  obtain ⟨hs', hsorted⟩ := List.pairwise_cons.1 hsorted
  have hsc : s < c := hs' c List.mem_cons_self
  have hcuts : ∀ k ∈ cuts, c < k := (List.pairwise_cons.1 hsorted).1
  have hmem : s ∈ (Distance.starts t).filter (i ≤ ·) := by rw [hs]; exact List.mem_cons_self
  have hmem' : c ∈ (Distance.starts t).filter (i ≤ ·) := by rw [hs]; simp
  obtain ⟨-, his⟩ := List.mem_filter.1 hmem
  replace his : i ≤ s := of_decide_eq_true his
  refine ⟨his, hsc, (List.mem_filter.1 hmem').1, ?_, ?_⟩
  · have hfilter : (Distance.starts t).filter (c ≤ ·) =
        ((Distance.starts t).filter (i ≤ ·)).filter (c ≤ ·) := by
      rw [List.filter_filter]
      refine List.filter_congr fun k _ => ?_
      have hic : c ≤ k → i ≤ k := (his.trans hsc.le).trans
      simpa using hic
    rw [hfilter, hs, List.filter_cons_of_neg (by simpa using hsc), List.filter_eq_self]
    exact List.forall_mem_cons.2 ⟨by simp, fun k hk => by simpa using (hcuts k hk).le⟩
  · have hfilter : (Distance.starts t).filter (fun k => i ≤ k && k < c) =
        ((Distance.starts t).filter (i ≤ ·)).filter (· < c) := by
      rw [List.filter_filter]
      exact List.filter_congr fun k _ => Bool.and_comm ..
    rw [hfilter, hs, List.filter_cons_of_pos (by simpa using hsc), List.filter_eq_nil_iff.2]
    exact List.forall_mem_cons.2 ⟨by simp, fun k hk => by simpa using (hcuts k hk).le⟩

/-- **Each piece has the one distance that starts in it,** and the pieces are windows in a row. -/
theorem startsOf_pieces {i s : Nat} {cuts : List Nat} (h : Opens t i) (hi : i ≤ t.length)
    (hs : (Distance.starts t).filter (i ≤ ·) = s :: cuts) :
    startsOf i (pieces t i cuts) = (s :: cuts).map ([·]) ∧ Row t i (pieces t i cuts) := by
  -- The first piece can have text before its distance, each later one starts with it.
  induction cuts generalizing i s with
  | nil =>
    obtain ⟨w, hw⟩ := exists_window_drop h hi
    have hone : (Distance.starts (t.drop i)).map (i + ·) = [s] := by
      have hmap := w.map_starts
      rw [hw, List.length_drop, Nat.add_sub_cancel' hi] at hmap
      rw [hmap, ← hs]
      refine List.filter_congr fun k hk => ?_
      simp [Distance.lt_length_of_mem_starts hk]
    refine ⟨?_, .cons w hw (.nil _)⟩
    rw [pieces, startsOf, startsOf, hone]
    rfl
  | cons c cuts ih =>
    obtain ⟨his, hsc, hc, hnext, hone⟩ := starts_next hs
    have hic := Nat.lt_of_le_of_lt his hsc
    have hlen := (Distance.lt_length_of_mem_starts hc).le
    have hstop : i + (t.slice i c).length = c := by
      rw [Text.length_slice hlen, Nat.add_sub_cancel' hic.le]
    obtain ⟨w, hw⟩ := exists_window_slice h hic hc
    obtain ⟨hrest, hrow⟩ := ih (opens_of_mem_starts hc) hlen hnext
    have hone' : (Distance.starts (t.slice i c)).map (i + ·) = [s] := by
      have hmap := w.map_starts
      rwa [hw, hstop, hone] at hmap
    constructor
    · rw [pieces, startsOf, hstop, hrest, hone']
      rfl
    · refine .cons w hw ?_
      rwa [hstop]

theorem mem_startsOf {i : Nat} {us : List Text} (hu : u ∈ us) :
    ∃ l ∈ startsOf i us, l.length = (Distance.starts u).length := by
  induction us generalizing i with
  | nil => cases hu
  | cons v us ih =>
    rcases List.mem_cons.1 hu with rfl | hu
    · exact ⟨_, List.mem_cons_self, List.length_map _⟩
    · obtain ⟨l, hl, hlen⟩ := ih (i := i + v.length) hu
      exact ⟨l, List.mem_cons_of_mem _ hl, hlen⟩

theorem flatten_pieces {i : Nat} {cuts : List Nat} (h : (i :: cuts).Pairwise (· ≤ ·)) :
    (pieces t i cuts).flatten = t.drop i := by
  induction cuts generalizing i with
  | nil => simp [pieces]
  | cons c cuts ih =>
    obtain ⟨hi, h⟩ := List.pairwise_cons.1 h
    rw [pieces, List.flatten_cons, ih h, ← Text.drop_eq_slice_append (hi c List.mem_cons_self)]

/-- **The pieces make up the part.** -/
theorem flatten_cutAtDistances (p : Text) : (cutAtDistances p).flatten = p := by
  refine flatten_pieces (List.pairwise_cons.2 ⟨fun _ _ => Nat.zero_le _, ?_⟩)
  exact ((Distance.starts_sorted p).tail).imp Nat.le_of_lt

theorem cutAtDistances_of_nil {p : Text} (h : Distance.starts p = []) : cutAtDistances p = [p] := by
  rw [cutAtDistances, h]
  rfl

/-- **Each piece of a part has one of its distances, in order.** A part without a distance is not
cut. -/
theorem startsOf_cutAtDistances {p : Text} (h : Distance.starts p ≠ []) :
    startsOf 0 (cutAtDistances p) = (Distance.starts p).map ([·]) ∧ Row p 0 (cutAtDistances p) := by
  obtain ⟨s, cuts, hs⟩ := List.exists_cons_of_ne_nil h
  have hall : (Distance.starts p).filter (0 ≤ ·) = s :: cuts := by simpa using hs
  rw [cutAtDistances, hs]
  exact startsOf_pieces rfl (Nat.zero_le _) hall

theorem exists_window_of_mem_pieces {p : Text} (hu : u ∈ cutAtDistances p) :
    Nonempty (Window p u) := by
  by_cases h : Distance.starts p = []
  · rw [cutAtDistances_of_nil h, List.mem_singleton] at hu
    obtain ⟨w, -⟩ := exists_window_drop (t := p) (i := 0) rfl (Nat.zero_le _)
    rw [hu]
    exact ⟨w⟩
  · exact (startsOf_cutAtDistances h).2.exists_window hu

theorem length_starts_le_one {p : Text} (hu : u ∈ cutAtDistances p) :
    (Distance.starts u).length ≤ 1 := by
  by_cases h : Distance.starts p = []
  · rw [cutAtDistances_of_nil h, List.mem_singleton] at hu
    simp [hu, h]
  · obtain ⟨l, hl, hlen⟩ := mem_startsOf (i := 0) hu
    rw [(startsOf_cutAtDistances h).1] at hl
    obtain ⟨k, -, rfl⟩ := List.mem_map.1 hl
    exact hlen.ge

/-- **The pieces write the numbers of the part.** -/
theorem numbers_cutAtDistances (p : Text) :
    (cutAtDistances p).flatMap Distance.numbers = Distance.numbers p := by
  by_cases h : Distance.starts p = []
  · rw [cutAtDistances_of_nil h, List.flatMap_singleton]
  · obtain ⟨hstarts, hrow⟩ := startsOf_cutAtDistances h
    have hflatten : ((Distance.starts p).map ([·])).flatten = Distance.starts p := by
      rw [← List.flatMap_def, List.flatMap_singleton']
    rw [hrow.numbers, hstarts, hflatten]
    rfl

/-! ## Clauses -/

/-- The text before the word "as" and the clause behind it. Words with neither a digit nor a slash
are no clause. -/
def clauseOf (measurable : Text) : Option (Text × Text) :=
  match asWord.firstHit measurable with
  | none => none
  | some h =>
    let clause := measurable.drop h.span.stop
    if clause.any fun c => isAsciiDigit c || c == '/' then
      some (measurable.take h.span.start, clause)
    else none

theorem splitClause_eq (measurable : Text) :
    splitClause measurable = (clauseOf measurable).map fun c => (c.1, clauseParts c.2) := by
  unfold splitClause clauseOf
  cases asWord.firstHit measurable with
  | none => rfl
  | some h =>
    dsimp only
    split_ifs <;> rfl

theorem mem_of_mem_clause {measurable head clause : Text}
    (h : clauseOf measurable = some (head, clause)) {c : Char} (hc : c ∈ clause) :
    c ∈ measurable := by
  unfold clauseOf at h
  split at h
  · cases h
  · dsimp only at h
    split_ifs at h
    obtain ⟨-, rfl⟩ := Prod.mk.inj (Option.some.inj h)
    exact List.mem_of_mem_drop hc

/-- All pieces of a clause. -/
def cutClause (clause : Text) : List Text := (sections clause).flatMap cutAtDistances

/-- **The numbers that are read from the parts of a clause are those of its distances.** -/
theorem numbers_clauseParts {clause : Text}
    (ascii : ∀ c ∈ clause, isDecimal c = true → isAsciiDigit c = true) (fits : NumbersFit clause) :
    ((clauseParts clause).filterMap Distance.readBare).map (·.1) =
      (sections clause).flatMap Distance.numbers := by
  have piece {u : Text} (hu : u ∈ cutClause clause) :
      ((Distance.readBare u.trim).map (·.1)).toList = Distance.numbers u := by
    obtain ⟨p, hp, hu⟩ := List.mem_flatMap.1 hu
    obtain ⟨w⟩ := exists_window_of_mem_sections hp
    obtain ⟨w'⟩ := exists_window_of_mem_pieces hu
    obtain ⟨w'', hstarts⟩ := exists_window_trim u
    have hone : (Distance.starts u.trim).length ≤ 1 := by
      have := length_starts_le_one hu
      rwa [← hstarts, List.length_map] at this
    rw [← Distance.numbers_trim u]
    exact Distance.readBare_numbers (fun c hc => ascii c (w.mem (w'.mem (w''.mem hc))))
      (w''.numbersFit (w'.numbersFit (w.numbersFit fits))) hone
  have hempty : ∀ u : Text, (if (!u.isEmpty) = true then Distance.readBare u else none) =
      Distance.readBare u := fun u => by
    cases u with
    | nil => rfl
    | cons c r => rfl
  have hparts : clauseParts clause =
      ((cutClause clause).map Text.trim).filter fun u => !u.isEmpty := rfl
  have hread : (clauseParts clause).filterMap Distance.readBare =
      (cutClause clause).filterMap fun u => Distance.readBare u.trim := by
    rw [hparts, List.filterMap_filter]
    simp only [hempty, List.filterMap_map, Function.comp_def]
  rw [hread, List.map_filterMap, List.filterMap_eq_flatMap_toList,
    List.flatMap_congr fun u hu => piece hu, cutClause, List.flatMap_assoc]
  exact List.flatMap_congr fun p _ => numbers_cutAtDistances p

theorem length_clauseParts (clause : Text) : (clauseParts clause).length =
    (cutClause clause).countP fun u => !u.trim.isEmpty := by
  have hparts : clauseParts clause =
      ((cutClause clause).map Text.trim).filter fun u => !u.isEmpty := rfl
  rw [hparts, ← List.countP_eq_length_filter, List.countP_map]
  rfl

/-! ## The account of a breakdown -/

/-- The message tells of parts that are ignored. -/
def tellsIgnored (message : Text) : Bool := "Ignored ".toList.isPrefixOf message

theorem tellsIgnored_warningsFor (ps : List Part) (ignored perRep : Nat) :
    ((warningsFor ps ignored perRep).map Warning.message).filter tellsIgnored =
      if 0 < ignored then [(Warning.partsIgnored ignored).message] else [] := by
  have assumed : tellsIgnored Warning.strokeAssumed.message = false := by decide +kernel
  have counted (k : Nat) : tellsIgnored (Warning.partsIgnored k).message = true := by
    have h : (Warning.partsIgnored k).message = ("Ignored ".toList ++ Text.ofNat k) ++ _ := rfl
    rw [tellsIgnored, List.isPrefixOf_iff_prefix, h, List.append_assoc]
    exact List.prefix_append _ _
  have disagree (s p : Nat) : tellsIgnored (Warning.partsDisagree s p).message = false := by
    refine Bool.eq_false_iff.2 fun h => ?_
    rw [tellsIgnored, List.isPrefixOf_iff_prefix] at h
    have hprefix := List.prefix_of_prefix_length_le h (Warning.disagreement_isPrefix s p)
      (by decide +kernel)
    exact absurd hprefix (by decide +kernel)
  unfold warningsFor
  split_ifs <;> simp [assumed, counted, disagree]

variable {D : Type} [Metres D]

/-- The parts of a clause that have a distance, with the strokes that hold for them. -/
def partsOf (head clause : Text) : List Part :=
  (clauseParts clause).filterMap (Part.read (strokeOf head))

theorem length_partsOf_le (head clause : Text) :
    (partsOf head clause).length ≤ (clauseParts clause).length := List.length_filterMap_le ..

/-- Where there is no clause there is no breakdown. -/
theorem read_eq_notApplicable_iff {ctx : LineContext} :
    read (D := D) ctx = .notApplicable ↔ clauseOf ctx.measurable = none := by
  rw [read, splitClause_eq]
  cases clauseOf ctx.measurable with
  | none => simp
  | some c =>
    simp only [Option.map_some, reduceCtorEq, iff_false]
    split_ifs <;> simp

/-- Where there is one, its parts are read. -/
theorem read_of_clause {ctx : LineContext} {head clause : Text}
    (h : clauseOf ctx.measurable = some (head, clause)) :
    read (D := D) ctx = if (partsOf head clause).isEmpty then .noDistances
      else .parts ((partsOf head clause).map (Part.contribution ctx.distance.reps))
        (warningsFor (partsOf head clause)
          ((clauseParts clause).length - (partsOf head clause).length) ctx.distance.perRep) := by
  rw [read, splitClause_eq, h]
  rfl

theorem map_distance_contribution (reps : Nat) (ps : List Part) :
    (ps.map (Part.contribution (D := D) reps)).map (·.distance) =
      (ps.map (·.metres)).map fun n : Nat => (n : D) * (reps : D) := by
  rw [List.map_map, List.map_map]
  rfl

section Line

variable [Speller] {raw head clause : Text}
  (has : clauseOf (LineView.of raw).measurable = some (head, clause)) (fits : NumbersFit clause)

include has fits

/-- **The parts of the clause of a line have the numbers of its distances.** -/
theorem metres_partsOf :
    (partsOf head clause).map (·.metres) = (sections clause).flatMap Distance.numbers :=
  (metres_filterMap_read ..).trans (numbers_clauseParts
    (fun _ hc hd => isAsciiDigit_of_mem_measurable (mem_of_mem_clause has hc) hd) fits)

theorem partsOf_eq_nil_iff :
    partsOf head clause = [] ↔ ∀ p ∈ sections clause, Distance.starts p = [] := by
  rw [← List.map_eq_nil_iff (f := (·.metres)), metres_partsOf has fits, List.flatMap_eq_nil_iff]
  simp only [Distance.numbers, List.map_eq_nil_iff]

end Line

/-- What a breakdown makes of the distances of its clause, with the repetitions of the line. -/
structure Accounts (clause : Text) (reps : Nat) (b : Breakdown D) : Prop where
  /-- The pieces of a part make it up. -/
  whole : ∀ p ∈ sections clause, (cutAtDistances p).flatten = p
  /-- Each piece has one of the distances of the part, in order. -/
  apart : ∀ p ∈ sections clause, Distance.starts p ≠ [] →
    startsOf 0 (cutAtDistances p) = (Distance.starts p).map ([·])
  /-- There are no contributions exactly if no part has a distance. -/
  noDistances_iff : b = .noDistances ↔ ∀ p ∈ sections clause, Distance.starts p = []
  /-- Else there is one for each distance, and the other pieces are ignored with a warning. -/
  parts : b ≠ .noDistances → ∃ cs ws k, b = .parts cs ws ∧
    (cs.map (·.distance) = (sections clause).flatMap fun p =>
      (Distance.starts p).map fun i => (p.numberAt i : D) * (reps : D)) ∧
    k + cs.length = (cutClause clause).countP (fun u => !u.trim.isEmpty) ∧
    (ws.map Warning.message).filter tellsIgnored =
      if 0 < k then [(Warning.partsIgnored k).message] else []

end Breakdown

/-- **Theorem (breakdowns account for every distance).** On a line with a clause whose numbers can
all be held, the pieces of each part make it up and have one of its distances each. Without a
distance there is no breakdown; else it contributes the number of each distance once for every
repetition, in the order of the text, and warns of the pieces that are ignored, if there are any. -/
theorem breakdown_accounts [Speller] {D : Type} [Metres D] (raw : Text) (d : Distance)
    {head clause : Text}
    (has : Breakdown.clauseOf (LineView.of raw).measurable = some (head, clause))
    (fits : NumbersFit clause) :
    Breakdown.Accounts clause d.reps
      (Breakdown.read (D := D) (LineContext.of (LineView.of raw) d)) := by
  have hclause : Breakdown.clauseOf (LineContext.of (LineView.of raw) d).measurable =
      some (head, clause) := has
  have hread := Breakdown.read_of_clause (D := D) hclause
  have hnil := Breakdown.partsOf_eq_nil_iff has fits
  refine ⟨fun p _ => Breakdown.flatten_cutAtDistances p,
    fun p _ hp => (Breakdown.startsOf_cutAtDistances hp).1, ?_, fun hne => ?_⟩
  · rw [hread, ← hnil, ← List.isEmpty_iff]
    split_ifs with h <;> simp [h]
  rw [hread] at hne ⊢
  split_ifs at hne ⊢ with h
  · exact absurd rfl hne
  refine ⟨_, _, _, rfl, ?_, ?_, Breakdown.tellsIgnored_warningsFor ..⟩
  · rw [Breakdown.map_distance_contribution, Breakdown.metres_partsOf has fits, List.map_flatMap]
    simp only [Distance.numbers, List.map_map, Function.comp_def]
    rfl
  · rw [List.length_map, Nat.sub_add_cancel (Breakdown.length_partsOf_le ..),
      Breakdown.length_clauseParts]

/-- Four pieces, of which one has no distance. -/
theorem breakdown_accounts_easy :
    let raw : Text := "2 x 100m as easy / 25 fly 25 bk, 50m fc"
    let clause : Text := "easy / 25 fly 25 bk, 50m fc"
    let d : Distance := ⟨2, 100, true, ⟨0, 8⟩⟩
    Breakdown.clauseOf (LineView.of raw).measurable = some ("2 x 100m ".toList, clause) ∧
    NumbersFit clause ∧
    Breakdown.Accounts clause d.reps
      (Breakdown.read (D := Rat) (LineContext.of (LineView.of raw) d)) ∧
    Breakdown.read (D := Rat) (LineContext.of (LineView.of raw) d) =
      .parts [⟨.butterfly, .swim, 50⟩, ⟨.backstroke, .swim, 50⟩, ⟨.frontCrawl, .swim, 100⟩]
        [.partsIgnored 1] :=
  ⟨by decide +kernel, by decide +kernel,
    breakdown_accounts _ _ (show Breakdown.clauseOf _ = some ("2 x 100m ".toList, _) by
      decide +kernel) (by decide +kernel),
    by decide +kernel⟩

end SwimSets
