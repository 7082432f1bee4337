import SwimSets.Proofs.Multipliers

/-!
# The numbers of a distance

A distance is read from runs of digits of the line, one for the distance itself and another one if
repetitions are written. A run is read whole: no digit stands next to it (`DigitRun`).

**Fragments** (`DigitRun.isFragment`). A written number can have a point or a comma between its
digits, and then it is several runs. The readers know neither sign. Each is a word edge to them,
so a distance can start behind one and stop before one. Between repetitions and distance only
blanks and the multiplication sign stand (`DigitRun.JoinedTo`), and nothing is cut off there.

Main result: `numbers_of_read`.
-/

namespace SwimSets

open Scanner

variable {t : Text}

/-- A run of digits with no digit next to it. -/
structure DigitRun (t : Text) where
  before : Text
  digits : Text
  after : Text
  text : t = before ++ (digits ++ after)
  nonempty : digits ≠ []
  allDigits : ∀ c ∈ digits, isDecimal c = true
  edgeBefore : before.getLast?.any isDecimal = false
  edgeAfter : after.head?.any isDecimal = false

/-- A sign that can stand between the digits of a written number. -/
def isPoint (c : Char) : Bool := c == '.' || c == ','

/-- What can stand between repetitions and distance. -/
def isJoint (c : Char) : Bool := isBlank c || (c == 'x' || c == '*')

theorem not_isPoint_of_isJoint {c : Char} (h : isJoint c = true) :
    isPoint c = false ∧ isDecimal c = false := by
  simp only [isJoint, Bool.or_eq_true, beq_iff_eq] at h
  obtain h | rfl | rfl := h
  · have hpoint := forall_blank (p := fun c => !isPoint c) (by decide +kernel) h
    exact ⟨by simpa using hpoint, not_isDecimal_of_isBlank h⟩
  · decide
  · decide

namespace DigitRun

/-- Where the run starts. -/
def start (r : DigitRun t) : Nat := r.before.length

/-- Where the digits stand. -/
def span (r : DigitRun t) : Span := ⟨r.start, r.start + r.digits.length⟩

section Places

variable (r : DigitRun t) {j p : Nat}

theorem getElem?_digits (h : j < r.digits.length) : t[r.start + j]? = r.digits[j]? := by
  have htext : t[r.start + j]? = (r.before ++ (r.digits ++ r.after))[r.start + j]? :=
    congrArg (·[r.start + j]?) r.text
  rw [htext, start, List.getElem?_append_right (Nat.le_add_right ..), Nat.add_sub_cancel_left,
    List.getElem?_append_left h]

theorem start_lt_stop : r.span.start < r.span.stop :=
  Nat.lt_add_of_pos_right (List.length_pos_iff.2 r.nonempty)

/-- At each place of the run stands a digit. -/
theorem exists_digit (hstart : r.span.start ≤ p) (hstop : p < r.span.stop) :
    ∃ c ∈ r.digits, t[p]? = some c := by
  obtain ⟨j, rfl⟩ := Nat.exists_eq_add_of_le hstart
  have hj : j < r.digits.length := Nat.lt_of_add_lt_add_left hstop
  exact ⟨_, List.getElem_mem hj, (r.getElem?_digits hj).trans (List.getElem?_eq_getElem hj)⟩

theorem getElem?_before (h : p + 1 = r.start) : t[p]? = r.before.getLast? := by
  have htext : t[p]? = (r.before ++ (r.digits ++ r.after))[p]? := congrArg (·[p]?) r.text
  have hlen : r.before.length = p + 1 := h.symm
  rw [htext, List.getElem?_append_left (by omega), List.getLast?_eq_getElem?, hlen,
    Nat.add_sub_cancel]

theorem drop_stop : t.drop r.span.stop = r.after := by
  have htext := congrArg (List.drop r.span.stop) r.text
  rw [htext, ← List.append_assoc]
  exact List.drop_left' (by simp [span, start])

theorem stop_le : r.span.stop ≤ t.length := by
  have := congrArg List.length r.text
  simp only [List.length_append] at this
  simp only [span, start]
  omega

theorem place_start : Cursor.place t r.start = ⟨r.before.getLast?, r.digits ++ r.after⟩ := by
  have := Cursor.place_length r.before (r.digits ++ r.after)
  rwa [← r.text] at this

theorem take_start : (t.take r.start).getLast? = r.before.getLast? :=
  congrArg Cursor.prev r.place_start

theorem drop_start : t.drop r.start = r.digits ++ r.after := congrArg Cursor.rest r.place_start

theorem reads_digits : (Cursor.place t r.start).Reads r.digits (.place t r.span.stop) := by
  rw [span, ← Cursor.place_advance]
  exact Cursor.reads_advance r.drop_start

theorem exists_place_stop :
    ∃ q, isDecimal q = true ∧ Cursor.place t r.span.stop = ⟨some q, r.after⟩ := by
  refine ⟨_, r.allDigits _ (List.getLast_mem r.nonempty), ?_⟩
  have hprev := r.reads_digits.prev
  rw [List.getLast?_eq_some_getLast r.nonempty, Option.some_or] at hprev
  rw [← hprev, ← r.drop_stop]
  rfl

/-- The digits are read where the run starts. -/
theorem digits_place_start :
    Scanner.digits (.place t r.start) = some (r.digits, .place t r.span.stop) := by
  refine run_eq_some.2 ⟨r.nonempty, r.allDigits, r.reads_digits, ?_⟩
  show (t.drop r.span.stop).head?.any isDecimal = false
  rw [r.drop_stop]
  exact r.edgeAfter

end Places

/-- A run is fixed by where it starts. -/
theorem eq_of_start {r r' : DigitRun t} (h : r.start = r'.start) : r = r' := by
  have hread := r.digits_place_start
  rw [h, r'.digits_place_start] at hread
  have hdigits : r'.digits = r.digits := (Prod.mk.inj (Option.some.inj hread)).1
  have hafter : r.after = r'.after := by
    rw [← r.drop_stop, ← r'.drop_stop, span, span, h, hdigits]
  have hbefore : r.before = r'.before := (List.append_inj (r.text.symm.trans r'.text) h).1
  cases r
  cases r'
  cases hbefore
  cases hdigits
  cases hafter
  rfl

/-- A digit and a point stand right before the run. -/
def cutBefore (r : DigitRun t) : Bool :=
  r.before.getLast?.any isPoint && r.before.dropLast.getLast?.any isDecimal

/-- A point and a digit stand right after it. -/
def cutAfter (r : DigitRun t) : Bool :=
  r.after.head?.any isPoint && r.after.tail.head?.any isDecimal

/-- The run is a piece of a longer written number. -/
def isFragment (r : DigitRun t) : Bool := r.cutBefore || r.cutAfter

/-- Only blanks and multiplication signs, at least one of these characters, stand between the
runs. -/
def JoinedTo (first last : DigitRun t) : Prop :=
  ∃ b ≠ [], (∀ c ∈ b, isJoint c = true) ∧ last.before = first.before ++ (first.digits ++ b)

/-- Neither run is cut off where they are joined. -/
theorem JoinedTo.uncut {first last : DigitRun t} (h : first.JoinedTo last) :
    first.cutAfter = false ∧ last.cutBefore = false := by
  obtain ⟨b, hne, hb, hbefore⟩ := h
  have hafter : first.after = b ++ (last.digits ++ last.after) := by
    have htext := first.text.symm.trans last.text
    rw [hbefore, List.append_assoc, List.append_assoc] at htext
    exact List.append_cancel_left (List.append_cancel_left htext)
  constructor
  · obtain ⟨c, s, rfl⟩ := List.exists_cons_of_ne_nil hne
    simp [cutAfter, hafter, (not_isPoint_of_isJoint (hb c List.mem_cons_self)).1]
  · have hlast := (not_isPoint_of_isJoint (hb _ (List.getLast_mem hne))).1
    simp [cutBefore, hbefore, List.getLast?_append, List.getLast?_eq_some_getLast hne, hlast]

/-- Runs of digits with only blanks and a multiplication sign between them. -/
theorem exists_joined {u m b n v : Text} (text : t = u ++ (m ++ (b ++ (n ++ v))))
    (hu : u.getLast?.any isDecimal = false) (hm : m ≠ []) (hmd : ∀ c ∈ m, isDecimal c = true)
    (hb : b ≠ []) (hbj : ∀ c ∈ b, isJoint c = true) (hn : n ≠ [])
    (hnd : ∀ c ∈ n, isDecimal c = true) (hv : v.head?.any isDecimal = false) :
    ∃ first last : DigitRun t, first.before = u ∧ first.digits = m ∧ last.digits = n ∧
      first.JoinedTo last := by
  have hhead : (b ++ (n ++ v)).head?.any isDecimal = false := by
    obtain ⟨c, s, rfl⟩ := List.exists_cons_of_ne_nil hb
    exact (not_isPoint_of_isJoint (hbj c List.mem_cons_self)).2
  have hlast : (u ++ (m ++ b)).getLast?.any isDecimal = false := by
    have := (not_isPoint_of_isJoint (hbj _ (List.getLast_mem hb))).2
    simp [List.getLast?_append, List.getLast?_eq_some_getLast hb, this]
  exact ⟨⟨u, m, b ++ (n ++ v), text, hm, hmd, hu, hhead⟩,
    ⟨u ++ (m ++ b), n, v, by simpa only [List.append_assoc] using text, hn, hnd, hlast, hv⟩,
    rfl, rfl, rfl, b, hb, hbj, rfl⟩

end DigitRun

/-- Digits that are read from a word edge on are a run. -/
theorem exists_digitRun {i : Nat} {w : Text} {d : Cursor}
    (edge : (Cursor.place t i).atWordEdge = true) (h : digits (.place t i) = some (w, d)) :
    ∃ r : DigitRun t, r.start = i ∧ r.digits = w := by
  obtain ⟨nonempty, allDigits, hr, hafter⟩ := run_eq_some.1 h
  have rest : t.drop i = w ++ d.rest := hr.rest
  obtain ⟨c, s, rfl⟩ := List.exists_cons_of_ne_nil nonempty
  have hi : i < t.length := by
    by_contra hle
    rw [List.drop_eq_nil_of_le (Nat.le_of_not_lt hle)] at rest
    cases rest
  have hword : (t.take i).getLast?.any isWordChar = false := by
    have hc := isWordChar_of_isDecimal (allDigits c List.mem_cons_self)
    simpa [Cursor.atWordEdge, Cursor.place, rest, hc] using edge
  refine ⟨⟨t.take i, c :: s, d.rest, ?_, nonempty, allDigits, not_any_isDecimal hword, hafter⟩,
    ?_, rfl⟩
  · rw [← rest, List.take_append_drop]
  · simp [DigitRun.start, Nat.le_of_lt hi]

namespace Distance

/-- Repetitions and distance are two runs. -/
theorem runs_of_repsTimes {i : Nat} {v : Text × Text} {e : Cursor}
    (h : repsTimes (.place t i) = some (v, e)) :
    ∃ first last : DigitRun t, first.start = i ∧ first.digits = v.1 ∧ last.digits = v.2 ∧
      first.JoinedTo last := by
  obtain ⟨s, rfl, hf⟩ := factor_eq_some.1 h
  simp only [bind_eq_some, pure_eq_some, blanks, skip_eq_some, digits, run_eq_some] at hf
  obtain ⟨-, d, ⟨space, hb, h₁, -⟩, number, d', ⟨hne, hd, h₂, hafter⟩, -, -, -, rfl, -⟩ := hf
  have hs : s.after = space ++ (number ++ d'.rest) := by
    have := h₁.rest
    rwa [h₂.rest] at this
  have hjoint : ∀ c ∈ s.gap ++ s.sign :: space, isJoint c = true := by
    intro c hc
    rcases List.mem_append.1 hc with hc | hc
    · simp [isJoint, s.allBlank c hc]
    · rcases List.mem_cons.1 hc with rfl | hc
      · rw [isJoint, s.isSign, Bool.or_true]
      · simp [isJoint, hb c hc]
  have htext :
      t = s.before ++ (s.number ++ ((s.gap ++ s.sign :: space) ++ (number ++ d'.rest))) := by
    rw [List.append_assoc, List.cons_append, ← hs]
    exact s.text
  obtain ⟨first, last, hbefore, hfirst, hlast, joined⟩ := DigitRun.exists_joined htext
    (not_any_isDecimal s.edge) s.nonempty s.allDigits (by simp) hjoint hne hd hafter
  exact ⟨first, last, congrArg List.length hbefore, hfirst, hlast, joined⟩

/-- What a distance is read from. -/
theorem read_eq_some {d : Distance} (h : read t = some d) :
    (∃ hit, repsTimes.firstHit t = some hit ∧ d.explicitReps = true ∧ d.span = hit.span ∧
        readNumber hit.value.1 = some d.reps ∧ readNumber hit.value.2 = some d.perRep) ∨
      d.explicitReps = false ∧ d.reps = 1 ∧ ∃ hit, d.span = hit.span ∧
        readNumber hit.value = some d.perRep ∧
        (hit ∈ measured.hits t ∨ hit ∈ bareNumber.hits t) := by
  rw [read] at h
  split at h
  · rename_i hit hhit
    split at h
    · rename_i reps perRep hreps hper
      obtain rfl := Option.some.inj h
      exact .inl ⟨hit, hhit, rfl, rfl, hreps, hper⟩
    · cases h
  · obtain ⟨⟨n, span⟩, hbare, rfl⟩ := Option.map_eq_some_iff.1 h
    refine .inr ⟨rfl, rfl, ?_⟩
    rw [readBare] at hbare
    split at hbare
    · rename_i hit hhit
      obtain ⟨m, hm, heq⟩ := Option.map_eq_some_iff.1 hbare
      obtain ⟨rfl, rfl⟩ := Prod.mk.inj heq
      exact ⟨hit, rfl, hm, .inl (mem_hits_of_firstHit hhit)⟩
    · obtain ⟨hit, hmem, hval⟩ := List.mem_filterMap.1 (List.mem_of_mem_head? hbare)
      split at hval
      · rename_i m hm
        split_ifs at hval
        obtain ⟨rfl, rfl⟩ := Prod.mk.inj (Option.some.inj hval)
        exact ⟨hit, rfl, hm, .inr hmem⟩
      · cases hval

/-- A distance without repetitions is one run. -/
theorem run_of_mem_hits {hit : Hit Text}
    (h : hit ∈ measured.hits t ∨ hit ∈ bareNumber.hits t) :
    ∃ r : DigitRun t, r.start = hit.span.start ∧ r.digits = hit.value := by
  rcases h with h | h
  · obtain ⟨d, hd, -⟩ := eq_some_of_mem_hits h
    simp only [measured, bind_eq_some, wordEdge_eq_some, pure_eq_some] at hd
    obtain ⟨-, _, ⟨edge, rfl⟩, w, e, hw, -, -, -, -, -, -, rfl, -⟩ := hd
    exact exists_digitRun edge hw
  · obtain ⟨d, hd, -⟩ := eq_some_of_mem_hits h
    simp only [bareNumber, bind_eq_some, wordEdge_eq_some, pure_eq_some] at hd
    obtain ⟨-, _, ⟨edge, rfl⟩, w, e, hw, -, -, -, rfl, -⟩ := hd
    exact exists_digitRun edge hw

end Distance

/-- **The numbers of a distance are whole runs of digits.** It starts with the first of them, and
without repetitions there is only one. Between the two, neither is a fragment of a longer number;
so one of them is exactly if a digit and a point stand right before the first run, or a point and a
digit right after the last. -/
theorem numbers_of_read {d : Distance} (h : Distance.read t = some d) :
    ∃ first last : DigitRun t, first.start = d.span.start ∧
      readNumber last.digits = some d.perRep ∧
      (d.explicitReps = true → readNumber first.digits = some d.reps ∧ first.JoinedTo last) ∧
      (d.explicitReps = false → d.reps = 1 ∧ first = last) ∧
      (first.isFragment = true ∨ last.isFragment = true ↔
        first.cutBefore = true ∨ last.cutAfter = true) := by
  rcases Distance.read_eq_some h with ⟨hit, hhit, hex, hspan, hreps, hper⟩ |
    ⟨hex, hreps, hit, hspan, hper, hmem⟩
  · obtain ⟨e, he, -⟩ := eq_some_of_mem_hits (mem_hits_of_firstHit hhit)
    obtain ⟨first, last, hstart, hfirst, hlast, joined⟩ := Distance.runs_of_repsTimes he
    obtain ⟨hafter, hbefore⟩ := joined.uncut
    refine ⟨first, last, by rw [hstart, hspan], by rw [hlast, hper], fun _ => ?_, ?_, ?_⟩
    · exact ⟨by rw [hfirst, hreps], joined⟩
    · simp [hex]
    · simp [DigitRun.isFragment, hafter, hbefore]
  · obtain ⟨r, hstart, hdigits⟩ := Distance.run_of_mem_hits hmem
    refine ⟨r, r, by rw [hstart, hspan], by rw [hdigits, hper], ?_, fun _ => ⟨hreps, rfl⟩, ?_⟩
    · simp [hex]
    · simp [DigitRun.isFragment]

theorem numbers_of_read_fifties :
    let t : Text := "warm up 8 x 50m fc"
    let d : Distance := ⟨8, 50, true, ⟨8, 15⟩⟩
    Distance.read t = some d ∧ ∃ first last : DigitRun t, first.start = d.span.start ∧
      readNumber last.digits = some d.perRep ∧
      (d.explicitReps = true → readNumber first.digits = some d.reps ∧ first.JoinedTo last) ∧
      (d.explicitReps = false → d.reps = 1 ∧ first = last) ∧
      (first.isFragment = true ∨ last.isFragment = true ↔
        first.cutBefore = true ∨ last.cutAfter = true) :=
  ⟨by decide +kernel, numbers_of_read (by decide +kernel)⟩

/-- The fraction of the one distance is cut off, and the thousands of the other. -/
theorem numbers_cut_off :
    let fraction : Text := "8 x 12.5m fc"
    let thousands : Text := "1,500 bk"
    (∃ r : DigitRun fraction, r.digits = "12".toList ∧ r.isFragment = true ∧
      Distance.read fraction = some ⟨8, 12, true, ⟨0, 6⟩⟩ ∧
      parseLine (D := Rat) 1 fraction [] = .accepted 1 fraction [⟨.frontCrawl, .swim, 96⟩] []) ∧
    ∃ r : DigitRun thousands, r.digits = "500".toList ∧ r.isFragment = true ∧
      Distance.read thousands = some ⟨1, 500, false, ⟨2, 5⟩⟩ ∧
      parseLine (D := Rat) 1 thousands [] =
        .accepted 1 thousands [⟨.backstroke, .swim, 500⟩] [] :=
  ⟨⟨⟨"8 x ".toList, "12".toList, ".5m fc".toList, by decide, by decide, by decide +kernel,
      by decide +kernel, by decide +kernel⟩, rfl, by decide +kernel, by decide +kernel,
      by decide +kernel⟩,
    ⟨⟨"1,".toList, "500".toList, " bk".toList, by decide, by decide, by decide +kernel,
      by decide +kernel, by decide +kernel⟩, rfl, by decide +kernel, by decide +kernel,
      by decide +kernel⟩⟩

end SwimSets
