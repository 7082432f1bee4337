import Mathlib.Data.List.DropRight
import SwimSets.Proofs.Numbers
import SwimSets.Proofs.Weights

/-!
# The counts that a split goes by

**Written counts** (`Split.Count`). The count of a mention is the run of digits at the end of what
comes before it, if no letter runs into the digits and only blanks follow them; behind a digit of
another script a letter does not run into them. As written, it can be of any size
(`Split.writtenCount`). A count that cannot be held reads as none at all
(`Split.trailingCount_eq_filter`), and then the mention is weighed as if nothing were written.

**Adding up** (`Split.Adds`). Weights are exact for the counts that are read
(`Split.weights_exact`). Here that is said of each weight in the list: its stroke is in no other,
and it is the sum of the counts of that stroke.

**Theorem (`split_counts_honoured`).** A split by counts gives each of its strokes once, and shares
the distance out by weights. They add up the counts that are written exactly if none of these is too
large (`Split.adds_written_iff`).
-/

namespace SwimSets

open Scanner

namespace Split

variable {t w : Text} {default : Option Nat}

/-! ## Counts as they are written -/

/-- A text is cut behind its last character that does not satisfy `p`. -/
theorem cut_append {p : Char → Bool} {u v : Text} (hu : u.getLast?.any p = false)
    (hv : ∀ c ∈ v, p c = true) : (u ++ v).rdropWhile p = u ∧ (u ++ v).rtakeWhile p = v := by
  have hself : u.rdropWhile p = u := List.rdropWhile_eq_self_iff.2 fun hl hp => by
    simp [List.getLast?_eq_some_getLast hl, hp] at hu
  have hdrop : (u ++ v).rdropWhile p = u := by
    rw [List.rdropWhile, List.reverse_append,
      List.dropWhile_append_of_pos fun c hc => hv c (List.mem_reverse.1 hc)]
    exact hself
  have happend := List.rdropWhile_append_rtakeWhile (p := p) (l := u ++ v)
  rw [hdrop] at happend
  exact ⟨hdrop, List.append_cancel_left happend⟩

/-- The digits that count what comes behind the text, with only blanks after them. They are a whole
run of digits if no letter runs into it, and else what is behind the first digit of another script
in it. -/
structure Count (t : Text) where
  run : DigitRun t
  skipped : Text
  digits : Text
  text : run.digits = skipped ++ digits
  nonempty : digits ≠ []
  blanks : ∀ c ∈ run.after, isBlank c = true
  whole : (run.before.getLast?.any fun c => 'a' ≤ c && c ≤ 'z') = false → skipped = []
  behindLetter : (run.before.getLast?.any fun c => 'a' ≤ c && c ≤ 'z') = true →
    ∃ u c, skipped = u ++ [c] ∧ (∀ d ∈ u, isAsciiDigit d = true) ∧ isAsciiDigit c = false

/-- Where the digits of the count stand. -/
def Count.span (r : Count t) : Span := ⟨r.run.start + r.skipped.length, r.run.span.stop⟩

theorem trailingDigits_eq (t : Text) :
    trailingDigits t =
      let u := t.rdropWhile isBlank
      let run := u.rtakeWhile isDecimal
      let lettered := (u.rdropWhile isDecimal).getLast?.any fun c => 'a' ≤ c && c ≤ 'z'
      let digits := if lettered then (run.dropWhile isAsciiDigit).tail else run
      if digits.isEmpty then none else some digits := by
  simp only [trailingDigits, List.rdropWhile, List.rtakeWhile, List.reverse_reverse,
    List.getLast?_reverse]

theorem not_isDecimal_rdropWhile (t : Text) :
    (t.rdropWhile isDecimal).getLast?.any isDecimal = false := by
  refine (Option.any_eq_false _ _).2 fun c hc => ?_
  have hl : t.rdropWhile isDecimal ≠ [] := fun hnil => by simp [hnil] at hc
  rw [List.getLast?_eq_some_getLast hl, Option.some.injEq] at hc
  simpa [hc] using List.rdropWhile_last_not isDecimal t hl

/-- What is behind the first character that does not satisfy `p`. -/
theorem tail_dropWhile_eq_iff {p : Char → Bool} {v : Text} (hw : w ≠ []) :
    (v.dropWhile p).tail = w ↔
      ∃ u c, v = u ++ [c] ++ w ∧ (∀ d ∈ u, p d = true) ∧ p c = false := by
  constructor
  · rintro rfl
    have hsplit := List.takeWhile_append_dropWhile (p := p) (l := v)
    cases hd : v.dropWhile p with
    | nil => simp [hd] at hw
    | cons c r =>
      refine ⟨v.takeWhile p, c, ?_, fun d hd => List.mem_takeWhile_imp hd, ?_⟩
      · rw [hd] at hsplit
        simpa using hsplit.symm
      · have := List.head?_dropWhile_not p v
        simpa [hd] using this
  · rintro ⟨u, c, rfl, hu, hc⟩
    rw [List.append_assoc, List.dropWhile_append_of_pos hu, List.singleton_append,
      List.dropWhile_cons_of_neg (by simp [hc]), List.tail_cons]

/-- A run with only blanks behind it is the one that is cut from the end of the text. -/
theorem cut_lastRun (run : DigitRun t) (blanks : ∀ c ∈ run.after, isBlank c = true) :
    (t.rdropWhile isBlank).rdropWhile isDecimal = run.before ∧
      (t.rdropWhile isBlank).rtakeWhile isDecimal = run.digits := by
  have hlast : (run.before ++ run.digits).getLast?.any isBlank = false := by
    refine (Option.any_eq_false _ _).2 fun c hc => Bool.eq_false_iff.2 fun hb => ?_
    rw [List.getLast?_append, List.getLast?_eq_some_getLast run.nonempty, Option.some_or,
      Option.some.injEq] at hc
    have hd := run.allDigits c (hc ▸ List.getLast_mem run.nonempty)
    simp [not_isDecimal_of_isBlank hb] at hd
  have htext : t = (run.before ++ run.digits) ++ run.after := by
    rw [List.append_assoc, ← run.text]
  have hblank : t.rdropWhile isBlank = run.before ++ run.digits :=
    (congrArg (List.rdropWhile isBlank) htext).trans (cut_append hlast blanks).1
  rw [hblank]
  exact cut_append run.edgeBefore run.allDigits

/-- Digits at the end of a text, before blanks, make such a run. -/
theorem exists_lastRun (h : (t.rdropWhile isBlank).rtakeWhile isDecimal ≠ []) :
    ∃ run : DigitRun t, ∀ c ∈ run.after, isBlank c = true := by
  have htext : t = (t.rdropWhile isBlank).rdropWhile isDecimal ++
      ((t.rdropWhile isBlank).rtakeWhile isDecimal ++ t.rtakeWhile isBlank) := by
    rw [← List.append_assoc, List.rdropWhile_append_rtakeWhile, List.rdropWhile_append_rtakeWhile]
  have hafter : (t.rtakeWhile isBlank).head?.any isDecimal = false :=
    (Option.any_eq_false _ _).2 fun c hc =>
      not_isDecimal_of_isBlank (List.mem_rtakeWhile_imp (List.mem_of_mem_head? hc))
  exact ⟨⟨_, _, _, htext, h, fun c hc => List.mem_rtakeWhile_imp hc, not_isDecimal_rdropWhile _,
    hafter⟩, fun c hc => List.mem_rtakeWhile_imp hc⟩

/-- **The digits at the end of a text are a count,** and there is no other. -/
theorem trailingDigits_eq_some_iff :
    trailingDigits t = some w ↔ ∃ r : Count t, r.digits = w := by
  rw [trailingDigits_eq]
  constructor
  · intro h
    simp only [Option.ite_none_left_eq_some, Bool.not_eq_true, List.isEmpty_eq_false_iff,
      Option.some.injEq] at h
    obtain ⟨hne, hw⟩ := h
    rw [hw] at hne
    have hrun : (t.rdropWhile isBlank).rtakeWhile isDecimal ≠ [] := by
      intro hnil
      rw [hnil, List.dropWhile_nil, List.tail_nil, ite_self] at hw
      exact hne hw.symm
    obtain ⟨run, blanks⟩ := exists_lastRun hrun
    rw [(cut_lastRun run blanks).1, (cut_lastRun run blanks).2] at hw
    cases hletter : run.before.getLast?.any fun c => 'a' ≤ c && c ≤ 'z' with
    | false =>
      rw [if_neg (by simpa using hletter)] at hw
      exact ⟨⟨run, [], w, hw, hne, blanks, fun _ => rfl, fun h => by simp [hletter] at h⟩, rfl⟩
    | true =>
      rw [if_pos hletter] at hw
      obtain ⟨u, c, hdigits, hu, hc⟩ := (tail_dropWhile_eq_iff hne).1 hw
      exact ⟨⟨run, u ++ [c], w, hdigits, hne, blanks, fun h => by simp [hletter] at h,
        fun _ => ⟨u, c, rfl, hu, hc⟩⟩, rfl⟩
  · rintro ⟨r, rfl⟩
    obtain ⟨hbefore, hdigits⟩ := cut_lastRun r.run r.blanks
    have hcount : (if (r.run.before.getLast?.any fun c => 'a' ≤ c && c ≤ 'z') = true
        then (r.run.digits.dropWhile isAsciiDigit).tail else r.run.digits) = r.digits := by
      split_ifs with hletter
      · obtain ⟨u, c, hskipped, hu, hc⟩ := r.behindLetter hletter
        exact (tail_dropWhile_eq_iff r.nonempty).2 ⟨u, c, hskipped ▸ r.text, hu, hc⟩
      · rw [r.text, r.whole (Bool.eq_false_iff.2 hletter), List.nil_append]
    simp only [hbefore, hdigits, hcount, List.isEmpty_eq_false_iff.2 r.nonempty,
      Bool.false_eq_true, if_false]

example : trailingDigits "a٣4" = some ['4'] := by decide +kernel

/-- The count that is written at the end of a text, of any size. -/
def writtenCount (t : Text) : Option Nat := (trailingDigits t).map Text.value

/-- **A written count is read if it can be held,** and otherwise as if it were not there. -/
theorem trailingCount_eq_filter (ascii : ∀ c ∈ t, isDecimal c = true → isAsciiDigit c = true) :
    trailingCount t = (writtenCount t).filter (· < numberBound) := by
  rw [trailingCount, writtenCount]
  cases h : trailingDigits t with
  | none => rfl
  | some w =>
    obtain ⟨r, rfl⟩ := trailingDigits_eq_some_iff.1 h
    have hall : r.digits.all isAsciiDigit = true := List.all_eq_true.2 fun c hc =>
      have hrun : c ∈ r.run.digits := r.text ▸ List.mem_append_right _ hc
      ascii c (by rw [r.run.text]; simp [hrun]) (r.run.allDigits c hrun)
    simp [readNumber, hall, Option.filter]

/-- The counts that are written before the mentions of the text, each with its stroke. -/
def written (t : Text) (default : Option Nat) : List (Stroke × Nat) :=
  (mentions t).filterMap fun m =>
    ((writtenCount (t.take m.span.start)).or default).map fun n => (m.stroke, n)

/-- Every count that is written before a mention can be held. -/
def CountsFit (t : Text) : Prop :=
  ∀ m ∈ mentions t, ∀ n ∈ writtenCount (t.take m.span.start), n < numberBound

instance (t : Text) : Decidable (CountsFit t) :=
  inferInstanceAs (Decidable
    (∀ m ∈ mentions t, ∀ n ∈ writtenCount (t.take m.span.start), n < numberBound))

theorem counts_eq_written (ascii : ∀ c ∈ t, isDecimal c = true → isAsciiDigit c = true)
    (fit : CountsFit t) (default : Option Nat) : counts t default = written t default := by
  refine List.filterMap_congr fun m hm => ?_
  have hread := trailingCount_eq_filter (t := t.take m.span.start)
    fun c hc => ascii c (List.mem_of_mem_take hc)
  rw [hread]
  cases hn : writtenCount (t.take m.span.start) with
  | none => rfl
  | some n => rw [Option.filter_some, if_pos (decide_eq_true (fit m hm n hn))]

/-! ## Adding up -/

/-- The weights give each stroke that has a count once, with the sum of its counts. -/
structure Adds (cs ws : List (Stroke × Nat)) : Prop where
  nodup : (ws.map (·.1)).Nodup
  strokes : ∀ s, s ∈ ws.map (·.1) ↔ s ∈ cs.map (·.1)
  weight : ∀ w ∈ ws, w.2 = totalOf w.1 cs

theorem totalOf_of_not_mem {s : Stroke} {cs : List (Stroke × Nat)} (h : s ∉ cs.map (·.1)) :
    totalOf s cs = 0 := by
  induction cs with
  | nil => rfl
  | cons c cs ih =>
    rw [List.map_cons, List.mem_cons, not_or] at h
    rw [totalOf_cons, if_neg (Ne.symm h.1), ih h.2]

/-- A stroke that has one entry has the number of that entry. -/
theorem totalOf_of_mem {w : Stroke × Nat} {ws : List (Stroke × Nat)} (hw : w ∈ ws)
    (hnodup : (ws.map (·.1)).Nodup) : totalOf w.1 ws = w.2 := by
  obtain ⟨a, b, rfl⟩ := List.append_of_mem hw
  rw [List.map_append, List.map_cons, List.nodup_middle, List.nodup_cons,
    ← List.map_append] at hnodup
  have ha : totalOf w.1 (a ++ b) = 0 := totalOf_of_not_mem hnodup.1
  rw [totalOf_append] at ha
  rw [totalOf_append, totalOf_cons, if_pos rfl]
  omega

theorem le_totalOf {c : Stroke × Nat} {cs : List (Stroke × Nat)} (h : c ∈ cs) :
    c.2 ≤ totalOf c.1 cs := by
  obtain ⟨a, b, rfl⟩ := List.append_of_mem h
  rw [totalOf_append, totalOf_cons, if_pos rfl]
  omega

theorem mem_strokes_addWeight {s s' : Stroke} {n : Nat} {ws us : List (Stroke × Nat)}
    (h : addWeight s n ws = some us) : s' ∈ us.map (·.1) ↔ s' ∈ ws.map (·.1) ∨ s' = s := by
  rcases addWeight_eq_some h with ⟨-, rfl⟩ | ⟨a, m, b, rfl, -, rfl⟩
  · simp
  · simp only [List.map_append, List.map_cons, List.mem_append, List.mem_cons]
    tauto

theorem mem_strokes_addAll {s : Stroke} {ws cs us : List (Stroke × Nat)}
    (h : addAll ws cs = some us) : s ∈ us.map (·.1) ↔ s ∈ ws.map (·.1) ∨ s ∈ cs.map (·.1) := by
  induction cs generalizing ws with
  | nil =>
    obtain rfl := Option.some.inj h
    simp
  | cons c cs ih =>
    rw [addAll, List.foldlM_cons] at h
    obtain ⟨vs, hv, h⟩ := Option.bind_eq_some_iff.1 h
    rw [ih h, mem_strokes_addWeight hv, List.map_cons, List.mem_cons, or_assoc]

variable {ws : List (Stroke × Nat)}

/-- **Weights add up the counts that are read.** -/
theorem adds_counts (hd : ∀ n ∈ default, n < numberBound) (h : weights t default = some ws) :
    Adds (counts t default) ws := by
  have exact := weights_exact hd h
  refine ⟨exact.nodup, fun s => ?_, fun w hw => ?_⟩
  · rw [mem_strokes_addAll (weights_eq t default ▸ h)]
    simp
  · rw [← exact.total, totalOf_of_mem hw exact.nodup]

/-- **Weights add up the counts that are written exactly if none is too large.** -/
theorem adds_written_iff (ascii : ∀ c ∈ t, isDecimal c = true → isAsciiDigit c = true)
    (hd : ∀ n ∈ default, n < numberBound) (h : weights t default = some ws) :
    Adds (written t default) ws ↔ CountsFit t := by
  constructor
  · intro adds m hm n hn
    have hmem : (m.stroke, n) ∈ written t default :=
      List.mem_filterMap.2 ⟨m, hm, by rw [Option.mem_def.1 hn]; rfl⟩
    obtain ⟨w, hw, hstroke⟩ :=
      List.mem_map.1 ((adds.strokes m.stroke).2 (List.mem_map.2 ⟨_, hmem, rfl⟩))
    calc n ≤ totalOf m.stroke (written t default) := le_totalOf hmem
      _ = w.2 := by rw [adds.weight w hw, hstroke]
      _ < numberBound := (weights_exact hd h).lt w hw
  · intro fit
    rw [← counts_eq_written ascii fit default]
    exact adds_counts hd h

/-- The weights that a split goes by: for two strokes or more they add up the counts that are read,
which are those that are written exactly if none of these is too large. -/
structure Honours (t : Text) (default : Option Nat) (ws : List (Stroke × Nat)) : Prop where
  two_le : 2 ≤ ws.length
  read : Adds (counts t default) ws
  written_iff : Adds (written t default) ws ↔ CountsFit t

theorem honours_weights (ascii : ∀ c ∈ t, isDecimal c = true → isAsciiDigit c = true)
    (hd : ∀ n ∈ default, n < numberBound) (h : weights t default = some ws)
    (two_le : 2 ≤ ws.length) : Honours t default ws :=
  ⟨two_le, adds_counts hd h, adds_written_iff ascii hd h⟩

theorem nodup_strokes {D : Type} (h : Honours t default ws) (f : Stroke × Nat → Contribution D)
    (hf : ∀ w, (f w).stroke = w.1) : ((ws.map f).map (·.stroke)).Nodup := by
  rw [List.map_map, show (fun c : Contribution D => c.stroke) ∘ f = (·.1) from funext hf]
  exact h.read.nodup

end Split

open Split

/-- **Theorem (splits by counts).** A line that is split by weights, or by counts of repetitions,
has each stroke once. A weight is the sum of the counts that are written before the stroke, one for
a mention without a count in the first split and none in the second, exactly if all these counts can
be held. The first split gives each stroke its part of the whole distance, and is made only where
the sum of the weights can be held; the second gives each stroke its repetitions, which come to
those of the line. -/
theorem split_counts_honoured [Speller] {D : Type} [Metres D] (raw : Text) (d : Distance) :
    let ctx := LineContext.of (LineView.of raw) d
    (∀ cs : List (Contribution D), halves.apply ctx = some cs →
      (cs.map (·.stroke)).Nodup ∧ ∃ h ws, activityAs.firstHit ctx.measurable = some h ∧
        Honours (ctx.measurable.drop h.span.stop) (some 1) ws ∧
        0 < (ws.map (·.2)).sum ∧ (ws.map (·.2)).sum < numberBound ∧
        cs = ws.map fun w => ⟨w.1, h.value, ctx.total * (w.2 : D) / ((ws.map (·.2)).sum : Nat)⟩) ∧
    ∀ cs : List (Contribution D), counted.apply ctx = some cs →
      (cs.map (·.stroke)).Nodup ∧ d.explicitReps = true ∧ ∃ ws,
        Honours (d.span.blank ctx.measurable) none ws ∧ (ws.map (·.2)).sum = d.reps ∧
        cs = ws.map fun w => ⟨w.1, ctx.activityOrAssumed, (w.2 : D) * ctx.perRep⟩ := by
  intro ctx
  have ascii {c : Char} (hc : c ∈ ctx.measurable) : isDecimal c = true → isAsciiDigit c = true :=
    isAsciiDigit_of_mem_measurable hc
  constructor
  · intro cs h
    obtain ⟨hit, ws, sum, hhit, hws, two_le, hsum, hpos, rfl⟩ := splitHalves_eq_some.1 h
    obtain ⟨rfl, hlt⟩ := weightSum_eq_some_iff.1 hsum
    have honours := honours_weights (fun c hc => ascii (List.mem_of_mem_drop hc))
      (by decide) hws two_le
    exact ⟨nodup_strokes honours _ fun _ => rfl, hit, ws, hhit, honours, Nat.pos_of_ne_zero hpos,
      hlt, rfl⟩
  · intro cs h
    obtain ⟨ws, hreps, hws, two_le, hsum, rfl⟩ := splitCounted_eq_some.1 h
    have hblank : ∀ c ∈ d.span.blank ctx.measurable,
        isDecimal c = true → isAsciiDigit c = true := by
      intro c hc
      rcases List.mem_append.1 hc with hc | hc
      · exact ascii (List.mem_of_mem_take hc)
      · rcases List.mem_cons.1 hc with rfl | hc
        · exact fun h => absurd h (by decide)
        · exact ascii (List.mem_of_mem_drop hc)
    have honours := honours_weights hblank (by simp) hws two_le
    exact ⟨nodup_strokes honours _ fun _ => rfl, hreps, ws, honours, weightSum_eq_some hsum, rfl⟩

/-- A count that is too large weighs one in the one split, and in the other its stroke is left
out. -/
theorem huge_count_passed_over :
    let weighed : Text := "2 x 50m pull as 99999999999 bk 1 fc"
    let clause : Text := "99999999999 bk 1 fc"
    let numbered : Text := "8 x 50m 99999999999 bk 4 no1 4 fc"
    let rest : Text := "  99999999999 bk 4 no1 4 fc"
    (written clause (some 1) = [(.backstroke, 99999999999), (.frontCrawl, 1)] ∧
      ¬ CountsFit clause ∧
      parseLine (D := Rat) 1 weighed [] = .accepted 1 weighed
        [⟨.backstroke, .pull, 50⟩, ⟨.frontCrawl, .pull, 50⟩] []) ∧
    written rest none =
        [(.backstroke, 99999999999), (.swimmersChoice, 4), (.frontCrawl, 4)] ∧
      ¬ CountsFit rest ∧
      parseLine (D := Rat) 1 numbered [] = .accepted 1 numbered
        [⟨.swimmersChoice, .swim, 200⟩, ⟨.frontCrawl, .swim, 200⟩] [] := by
  decide +kernel

end SwimSets
