import SwimSets.Line.Aside
import SwimSets.Proofs.Joined
import SwimSets.Proofs.Offsets

/-!
# Lane lists cut out in a loop

Lane lists are blanked out in one walk over the text. Here the same is done the way a program does
it that keeps positions in bytes and cuts what it needs out of the text (`stripLanes`): it goes
through the heads of lists, and from the end of each it goes on as long as a further number follows
(`laneEnd`).

**Result (`stripLanes_eq`).** The loops come to an end without a fault, and to the text with the
lists blanked out. Each turn of the inner loop moves on by the number that it read
(`laneMore_reads`), and stays between characters of the text (`exists_laneEnd`).

No head starts inside of a list, since all that follows the first letter of a list is written
without an l (`laneHead_reads`, `laneMore_reads`).
-/

namespace SwimSets

open Scanner Aside

/-! ## The loops -/

/-- The byte to which a further number of the list reaches, if one follows at byte `stop`. -/
def laneNext (t : Text) (stop : Nat) : Except Fault (Option Nat) := do
  let rest ← t.cut stop t.byteLength
  return (laneMore (Cursor.start rest)).map fun r =>
    stop + (rest.byteLength - Text.byteLength r.2.rest)

/-- The end of a lane list that has come to byte `stop`: where no further number follows, or one
that is a distance or a count. -/
def laneEnd (t : Text) (stop : Nat) : Except Fault Nat := do
  match ← laneNext t stop with
  | none => return stop
  | some next =>
    let behind ← t.cut next t.byteLength
    if (measureFollows (Cursor.start behind)).isSome then return stop
    else if _h : stop < next ∧ next ≤ t.byteLength then laneEnd t next
    else throw .noHeadway
termination_by t.byteLength - stop

/-- The text from byte `kept` on, with a space in the place of each list that starts with one of the
heads. -/
def stripFrom (t : Text) (kept : Nat) : List Span → Except Fault Text
  | [] => t.cut kept t.byteLength
  | head :: heads => do
    if head.start < kept then stripFrom t kept heads
    else
      let behind ← t.cut head.stop t.byteLength
      if (measureFollows (Cursor.start behind)).isSome then stripFrom t kept heads
      else
        let stop ← laneEnd t head.stop
        let before ← t.cut kept head.start
        let rest ← stripFrom t stop heads
        return before ++ ' ' :: rest

/-- The text with a space in the place of each lane list. -/
def stripLanes (t : Text) : Except Fault Text :=
  stripFrom t 0 ((laneHead.hits t).map fun h => h.span.bytes t)

/-! ## What is read of a list -/

theorem LooksAhead.skip_bind {α : Type} {p : Char → Bool} {f : Unit → Scanner α}
    (h : LooksAhead (f ())) : LooksAhead (skip p >>= f) := by
  intro q t
  show f () (Cursor.advance ⟨q, t⟩ _) = f () (Cursor.advance ⟨none, t⟩ _)
  rw [Cursor.advance, h, Cursor.advance, h ((_ : Option Char).or none)]

theorem LooksAhead.wholeWord {ws : List Text} (h : ∀ w ∈ ws, w ≠ []) :
    LooksAhead (wholeWord ws) := by
  refine LooksAhead.oneOf fun s hs => ?_
  obtain ⟨w, hw, rfl⟩ := List.mem_map.mp hs
  exact (LooksAhead.word (h w hw)).bind _

theorem LooksAhead.either {α : Type} {s s' : Scanner α} (h : LooksAhead s) (h' : LooksAhead s') :
    LooksAhead (Scanner.oneOf [s, s']) :=
  LooksAhead.oneOf (List.forall_mem_cons.2 ⟨h, List.forall_mem_singleton.2 h'⟩)

theorem laneMore_looksAhead : LooksAhead laneMore :=
  LooksAhead.skip_bind
    ((LooksAhead.either (LooksAhead.one _) (LooksAhead.wholeWord (by decide))).bind _)

theorem measureFollows_looksAhead : LooksAhead measureFollows :=
  LooksAhead.skip_bind (LooksAhead.either (LooksAhead.wholeWord (by decide)) (LooksAhead.one _))

/-- The text holds no letter that a list could start with. -/
def NoHead (w : Text) : Prop := ∀ x ∈ w, x ≠ 'l'

theorem NoHead.append {v w : Text} (hv : NoHead v) (hw : NoHead w) : NoHead (v ++ w) :=
  fun x hx => (List.mem_append.mp hx).elim (hv x) (hw x)

theorem noHead_of_blank {w : Text} (h : ∀ x ∈ w, isBlank x = true) : NoHead w := by
  rintro x hx rfl
  cases h _ hx

theorem noHead_of_digits {w : Text} (h : ∀ x ∈ w, isDecimal x = true) : NoHead w := by
  rintro x hx rfl
  cases not_letter_of_isDecimal (h _ hx)

/-- A further number of a list is read with at least one character, and without the letter that
lists start with. -/
theorem laneMore_reads {c d : Cursor} {u : Unit} (h : laneMore c = some (u, d)) :
    ∃ w ≠ [], c.Reads w d ∧ NoHead w := by
  simp only [laneMore, blanks, digits, bind_eq_some, skip_eq_some, run_eq_some,
    wordEdge_eq_some] at h
  obtain ⟨_, c₁, ⟨w₁, hw₁, hr₁, -⟩, _, c₂, hjoin, _, c₃, ⟨w₃, hw₃, hr₃, -⟩, w₄, c₄,
    ⟨hne, hw₄, hr₄, -⟩, -, rfl⟩ := h
  obtain ⟨w₂, hr₂, hw₂⟩ : ∃ w₂, c₁.Reads w₂ c₂ ∧ NoHead w₂ := by
    obtain ⟨s, hs, hjoin⟩ := oneOf_eq_some hjoin
    simp only [List.mem_cons, List.not_mem_nil, or_false] at hs
    rcases hs with rfl | rfl
    · obtain ⟨x, hx, hr⟩ := one_eq_some.mp hjoin
      refine ⟨[x], hr, List.forall_mem_singleton.mpr ?_⟩
      rintro rfl
      cases hx
    · obtain ⟨w, hw, hr, -⟩ := wholeWord_eq_some hjoin
      exact ⟨w, hr, (by decide : ∀ w ∈ ["and".toList, "to".toList], ∀ x ∈ w, x ≠ 'l') w hw⟩
  refine ⟨w₁ ++ w₂ ++ w₃ ++ w₄, by simp [hne], ((hr₁.trans hr₂).trans hr₃).trans hr₄, ?_⟩
  exact (((noHead_of_blank hw₁).append hw₂).append (noHead_of_blank hw₃)).append
    (noHead_of_digits hw₄)

/-- The head of a list has the letter at its start and nowhere else. -/
theorem laneHead_reads {c d : Cursor} {u : Unit} (h : laneHead c = some (u, d)) :
    ∃ w, c.Reads ('l' :: w) d ∧ NoHead w := by
  simp only [laneHead, blanks, digits, bind_eq_some, skip_eq_some, run_eq_some, word_eq_some,
    wordEdge_eq_some] at h
  obtain ⟨_, c₁, ⟨-, rfl⟩, _, c₂, hr₁, _, c₃, hs, _, c₄, ⟨w₄, hw₄, hr₄, -⟩, w₅, c₅,
    ⟨-, hw₅, hr₅, -⟩, -, rfl⟩ := h
  obtain ⟨w₃, hr₃, hw₃⟩ : ∃ w₃, c₂.Reads w₃ c₃ ∧ NoHead w₃ := by
    rcases maybe_eq_some hs with ⟨_, hone⟩ | ⟨-, rfl⟩
    · obtain ⟨x, hx, hr⟩ := one_eq_some.mp hone
      refine ⟨[x], hr, List.forall_mem_singleton.mpr ?_⟩
      rintro rfl
      cases hx
    · exact ⟨[], Cursor.Reads.refl _, List.forall_mem_nil _⟩
  refine ⟨"ane".toList ++ w₃ ++ w₄ ++ w₅, ((hr₁.trans hr₃).trans hr₄).trans hr₅, ?_⟩
  have hane : NoHead "ane".toList := (by decide : ∀ x ∈ "ane".toList, x ≠ 'l')
  exact ((hane.append hw₃).append (noHead_of_blank hw₄)).append (noHead_of_digits hw₅)

theorem laneHead_opensWith : OpensWith (· == 'l') laneHead :=
  OpensWith.wordEdge_bind ((OpensWith.word (by decide)).bind _)

theorem lanes_opensWith : OpensWith (· == 'l') lanes := laneHead_opensWith.bind _

/-- Where the letter is missing, what starts with it is not found. -/
theorem NoHead.failsThrough {α : Type} {s : Scanner α} (hs : OpensWith (· == 'l') s) {w : Text}
    (hw : NoHead w) (v : Text) : FailsThrough w v s := by
  intro b hb hne
  refine hs.fails ?_
  cases b with
  | nil => exact absurd rfl hne
  | cons x b => simpa using hw x (hb.subset List.mem_cons_self)

/-! ## The inner loop -/

/-- A further number of a list, unless it is a distance or a count. -/
def laneTurn : Scanner Unit := do
  laneMore
  notHere measureFollows

theorem laneNext_of_none {t : Text} {i : Nat} (hi : i ≤ t.length)
    (h : laneMore (Cursor.place t i) = none) : laneNext t (t.byteOffset i) = .ok none := by
  have hstart : laneMore (Cursor.start (t.drop i)) = none := by
    rw [← h]
    exact (laneMore_looksAhead _ _).symm
  rw [laneNext, Text.cut_from hi, ok_bind, hstart]
  rfl

theorem laneNext_of_some {t : Text} {i j : Nat} {u : Unit} (hij : i ≤ j) (hj : j ≤ t.length)
    (h : laneMore (Cursor.place t i) = some (u, Cursor.place t j)) :
    laneNext t (t.byteOffset i) = .ok (some (t.byteOffset j)) := by
  have hstart : laneMore (Cursor.start (t.drop i)) = some (u, Cursor.place t j) := by
    rw [← h]
    exact (laneMore_looksAhead _ _).symm
  have hnext : t.byteOffset i + (Text.byteLength (t.drop i) - Text.byteLength (t.drop j)) =
      t.byteOffset j := by
    rw [Text.drop_eq_slice_append hij, Text.byteLength_append, Nat.add_sub_cancel_right,
      ← Text.byteOffset_eq_add t hij]
  rw [laneNext, Text.cut_from (hij.trans hj), ok_bind, hstart, ← hnext]
  rfl

/-- **A turn of the inner loop moves on,** to a place between characters. -/
theorem laneNext_forward {t : Text} {stop next : Nat} (h : laneNext t stop = .ok (some next)) :
    (Span.mk stop next).Cuttable t := by
  cases hcut : t.cut stop t.byteLength with
  | error e =>
    rw [laneNext, hcut] at h
    cases h
  | ok rest =>
    obtain ⟨i, j, hij, hj, rfl, -, -⟩ := Text.cut_eq_ok_iff.mp hcut
    cases hm : laneMore (Cursor.place t i) with
    | none =>
      rw [laneNext_of_none (hij.trans hj) hm] at h
      cases h
    | some found =>
      obtain ⟨u, d⟩ := found
      obtain ⟨w, hne, hr, -⟩ := laneMore_reads hm
      obtain ⟨rfl, hk, -⟩ := place_of_reads hr (hij.trans hj)
      have hpos := List.length_pos_iff.mpr hne
      rw [laneNext_of_some (Nat.le_add_right i w.length) hk hm] at h
      obtain rfl := Option.some.inj (Except.ok.inj h)
      exact Span.Within.bytes (s := ⟨i, i + w.length⟩) ⟨by simpa using hpos, hk⟩

/-- The loop stops where no further number follows. -/
theorem laneEnd_of_none {t : Text} {i : Nat} (hi : i ≤ t.length)
    (h : laneMore (Cursor.place t i) = none) :
    laneEnd t (t.byteOffset i) = .ok (t.byteOffset i) := by
  rw [laneEnd, laneNext_of_none hi h]
  rfl

/-- A turn of the loop goes to where the further number ends, unless that is a distance or a
count. -/
theorem laneEnd_of_some {t : Text} {i j : Nat} {u : Unit} (hij : i < j) (hj : j ≤ t.length)
    (h : laneMore (Cursor.place t i) = some (u, Cursor.place t j)) :
    laneEnd t (t.byteOffset i) =
      if (measureFollows (Cursor.place t j)).isSome then .ok (t.byteOffset i)
      else laneEnd t (t.byteOffset j) := by
  have hfollows : measureFollows (Cursor.start (t.drop j)) = measureFollows (Cursor.place t j) :=
    (measureFollows_looksAhead _ _).symm
  have hforward : t.byteOffset i < t.byteOffset j ∧ t.byteOffset j ≤ t.byteLength :=
    ⟨Text.byteOffset_strictMono hij hj, Text.byteOffset_le_byteLength t j⟩
  rw [laneEnd, laneNext_of_some (Nat.le_of_lt hij) hj h]
  simp only [ok_bind, Text.cut_from hj, hfollows, hforward, and_self, dite_true]
  rfl

/-- **The inner loop ends without a fault,** where the scanner for lists does. -/
theorem exists_laneEnd {t : Text} {n i : Nat} (hi : i ≤ t.length) (hn : t.length - i ≤ n) :
    ∃ j, i ≤ j ∧ j ≤ t.length ∧ upTo laneTurn n (Cursor.place t i) = some ((), Cursor.place t j) ∧
      laneEnd t (t.byteOffset i) = .ok (t.byteOffset j) ∧ NoHead (t.slice i j) := by
  induction n generalizing i with
  | zero =>
    obtain rfl : i = t.length := by omega
    have hend : laneMore (Cursor.place t t.length) = none := by
      rw [Cursor.place, List.drop_length]
      rfl
    exact ⟨t.length, le_rfl, le_rfl, rfl, laneEnd_of_none le_rfl hend, by simp [Text.slice, NoHead]⟩
  | succ n ih =>
    -- where the loop stops, so does the scanner
    have stops (hturn : laneTurn (Cursor.place t i) = none)
        (hend : laneEnd t (t.byteOffset i) = .ok (t.byteOffset i)) :
        ∃ j, i ≤ j ∧ j ≤ t.length ∧
          upTo laneTurn (n + 1) (Cursor.place t i) = some ((), Cursor.place t j) ∧
          laneEnd t (t.byteOffset i) = .ok (t.byteOffset j) ∧ NoHead (t.slice i j) := by
      refine ⟨i, le_rfl, hi, ?_, hend, by simp [Text.slice, NoHead]⟩
      rw [upTo]
      simp only [hturn]
    cases hm : laneMore (Cursor.place t i) with
    | none =>
      refine stops ?_ (laneEnd_of_none hi hm)
      show (laneMore (Cursor.place t i)).bind _ = none
      rw [hm]
      rfl
    | some found =>
      obtain ⟨u, d⟩ := found
      obtain ⟨w, hne, hr, hw⟩ := laneMore_reads hm
      obtain ⟨rfl, hj, hslice⟩ := place_of_reads hr hi
      have hpos := List.length_pos_iff.mpr hne
      have hstep := laneEnd_of_some (by omega) hj hm
      have hturn : laneTurn (Cursor.place t i) =
          notHere measureFollows (Cursor.place t (i + w.length)) := by
        show (laneMore (Cursor.place t i)).bind _ = _
        rw [hm]
        rfl
      cases hf : measureFollows (Cursor.place t (i + w.length)) with
      | some r =>
        refine stops ?_ (by simp [hstep, hf])
        rw [hturn, notHere]
        simp only [hf]
      | none =>
        obtain ⟨j, hij, hjt, hup, hend, hno⟩ := ih hj (by omega)
        refine ⟨j, by omega, hjt, ?_, by simp [hstep, hf, hend], ?_⟩
        · have hsome : laneTurn (Cursor.place t i) = some ((), Cursor.place t (i + w.length)) := by
            rw [hturn, notHere]
            simp only [hf]
          rw [upTo]
          simp only [hsome]
          exact hup
        · rw [Text.slice_append_slice (Nat.le_add_right i w.length) hij hjt, hslice]
          exact hw.append hno

/-! ## The walk over the text -/

section Walk

variable {α : Type} {s : Scanner α} {t : Text} {i j : Nat}

/-- The occurrences from a position of the text on. -/
def hitsAt (s : Scanner α) (t : Text) (i : Nat) : List (Hit α) :=
  s.hitsFrom i 0 (Cursor.place t i).prev (t.drop i)

/-- The rest of the text from a position on, each occurrence made one space. -/
def blankAt (s : Scanner α) (t : Text) (i : Nat) : Text :=
  s.blankFrom 0 (Cursor.place t i).prev (t.drop i)

theorem prev_place (hij : i ≤ j) :
    (Cursor.place t j).prev = (t.slice i j).getLast?.or (Cursor.place t i).prev := by
  show (t.take j).getLast? = _
  rw [Text.take_eq_append_slice t hij, List.getLast?_append]
  rfl

theorem walk_of_failsThrough (hij : i ≤ j) (hj : j ≤ t.length)
    (h : FailsThrough (t.slice i j) (t.drop j) s) :
    hitsAt s t i = hitsAt s t j ∧ blankAt s t i = t.slice i j ++ blankAt s t j := by
  have hlen : i + (t.slice i j).length = j := by
    rw [Text.length_slice hj]
    omega
  constructor
  · rw [hitsAt, Text.drop_eq_slice_append hij, hitsFrom_of_failsThrough h, hlen, ← prev_place hij]
    rfl
  · rw [blankAt, Text.drop_eq_slice_append hij, blankFrom_of_failsThrough h, ← prev_place hij]
    rfl

theorem walk_of_reads {a : α} (hij : i < j) (hj : j ≤ t.length)
    (h : s (Cursor.place t i) = some (a, Cursor.place t j)) :
    hitsAt s t i = ⟨a, i, j⟩ :: hitsAt s t j ∧ blankAt s t i = ' ' :: blankAt s t j := by
  have hlen := Text.length_slice (i := i) hj
  obtain ⟨x, u, hxu⟩ : ∃ x u, t.slice i j = x :: u := by
    refine List.exists_cons_of_length_pos ?_
    omega
  have hstop : i + u.length + 1 = j := by
    rw [hxu, List.length_cons] at hlen
    omega
  have hdrop : t.drop i = x :: (u ++ t.drop j) := by
    rw [Text.drop_eq_slice_append (Nat.le_of_lt hij), hxu, List.cons_append]
  have hread : s ⟨(Cursor.place t i).prev, x :: (u ++ t.drop j)⟩ =
      some (a, ⟨(Cursor.place t j).prev, t.drop j⟩) := by
    rw [← hdrop]
    exact h
  constructor
  · rw [hitsAt, hdrop, hitsFrom_of_reads hread, hstop, ← hxu, ← prev_place (Nat.le_of_lt hij)]
    rfl
  · rw [blankAt, hdrop, blankFrom_of_reads hread, ← hxu, ← prev_place (Nat.le_of_lt hij)]
    rfl

theorem walk_of_none (hi : i < t.length) (h : s (Cursor.place t i) = none) :
    hitsAt s t i = hitsAt s t (i + 1) ∧
      blankAt s t i = t.slice i (i + 1) ++ blankAt s t (i + 1) := by
  obtain ⟨x, hx⟩ : ∃ x, t.slice i (i + 1) = [x] := by
    refine List.length_eq_one_iff.mp ?_
    rw [Text.length_slice hi]
    omega
  have hdrop : t.drop i = x :: t.drop (i + 1) := by
    rw [Text.drop_eq_slice_append (Nat.le_succ i), hx]
    rfl
  have hprev : (Cursor.place t (i + 1)).prev = some x := by
    rw [prev_place (Nat.le_succ i), hx]
    rfl
  have hfail : s ⟨(Cursor.place t i).prev, x :: t.drop (i + 1)⟩ = none := by
    rw [← hdrop]
    exact h
  constructor
  · rw [hitsAt, hdrop, hitsFrom, hfail, hitsAt, hprev]
  · rw [blankAt, hdrop, blankFrom, hfail, blankAt, hprev, hx]
    rfl

theorem walk_at_end (s : Scanner α) (t : Text) :
    hitsAt s t t.length = [] ∧ blankAt s t t.length = [] := by
  simp [hitsAt, blankAt, hitsFrom, blankFrom]

end Walk

/-! ## The outer loop -/

theorem lanes_of_laneHead {t : Text} {i j m : Nat}
    (hhead : laneHead (Cursor.place t i) = some ((), Cursor.place t j))
    (hfree : measureFollows (Cursor.place t j) = none)
    (hmore : upTo laneTurn (t.length - j) (Cursor.place t j) = some ((), Cursor.place t m)) :
    lanes (Cursor.place t i) = some ((), Cursor.place t m) := by
  have hrest : (Cursor.place t j).rest.length = t.length - j := List.length_drop
  show (laneHead (Cursor.place t i)).bind _ = _
  rw [hhead]
  show (notHere measureFollows (Cursor.place t j)).bind _ = _
  rw [notHere]
  simp only [hfree]
  show many laneTurn (Cursor.place t j) = _
  rw [many, hrest, hmore]

theorem lanes_of_measureFollows {t : Text} {i j : Nat} {r : Unit × Cursor}
    (hhead : laneHead (Cursor.place t i) = some ((), Cursor.place t j))
    (hfollows : measureFollows (Cursor.place t j) = some r) :
    lanes (Cursor.place t i) = none := by
  show (laneHead (Cursor.place t i)).bind _ = _
  rw [hhead]
  show (notHere measureFollows (Cursor.place t j)).bind _ = _
  rw [notHere]
  simp only [hfollows]
  rfl

/-- A turn of the outer loop: a head is passed over, or the list that starts with it is cut out. -/
theorem stripFrom_cons {t : Text} {i j k : Nat} (hk : k ≤ i) (hij : i ≤ j) (hj : j ≤ t.length)
    (heads : List Span) :
    stripFrom t (t.byteOffset k) (⟨t.byteOffset i, t.byteOffset j⟩ :: heads) =
      if (measureFollows (Cursor.place t j)).isSome then stripFrom t (t.byteOffset k) heads
      else do
        let stop ← laneEnd t (t.byteOffset j)
        let rest ← stripFrom t stop heads
        return t.slice k i ++ ' ' :: rest := by
  have hnot : ¬ t.byteOffset i < t.byteOffset k := Nat.not_lt.mpr (Text.byteOffset_mono t hk)
  have hfollows : measureFollows (Cursor.start (t.drop j)) = measureFollows (Cursor.place t j) :=
    (measureFollows_looksAhead _ _).symm
  rw [stripFrom, if_neg hnot, Text.cut_from hj, Text.cut_byteOffset hk (hij.trans hj)]
  simp only [bind, Except.bind, hfollows]

/-- **The outer loop ends without a fault,** with what the walk over the text gives. -/
theorem stripFrom_eq {t : Text} {n i k : Nat} (hi : i ≤ t.length) (hn : t.length - i ≤ n)
    (hk : k ≤ i) :
    stripFrom t (t.byteOffset k) ((hitsAt laneHead t i).map fun h => h.span.bytes t) =
      .ok (t.slice k i ++ blankAt lanes t i) := by
  induction n generalizing i k with
  | zero =>
    obtain rfl : i = t.length := by omega
    rw [(walk_at_end laneHead t).1, (walk_at_end lanes t).2, List.map_nil, stripFrom,
      Text.cut_from hk, List.append_nil, Text.slice, List.take_length]
  | succ n ih =>
    by_cases hend : i = t.length
    · subst hend
      rw [(walk_at_end laneHead t).1, (walk_at_end lanes t).2, List.map_nil, stripFrom,
        Text.cut_from hk, List.append_nil, Text.slice, List.take_length]
    have hlt : i < t.length := by omega
    cases hh : laneHead (Cursor.place t i) with
    | none =>
      have hl : lanes (Cursor.place t i) = none := by
        show (laneHead (Cursor.place t i)).bind _ = none
        rw [hh]
        rfl
      rw [(walk_of_none hlt hh).1, (walk_of_none hlt hl).2, ih hlt (by omega) (by omega),
        Text.slice_append_slice hk (Nat.le_succ i) hlt, List.append_assoc]
    | some found =>
      obtain ⟨u, d⟩ := found
      obtain ⟨w, hr, hw⟩ := laneHead_reads hh
      obtain ⟨rfl, hj, hslice⟩ := place_of_reads hr hi
      have hij : i < i + ('l' :: w).length := by simp
      generalize i + ('l' :: w).length = j at hh hj hslice hij
      have hbehind : t.slice (i + 1) j = w := by
        have hone : (t.slice i (i + 1)).length = 1 := by
          rw [Text.length_slice hlt]
          omega
        obtain ⟨x, hx⟩ := List.length_eq_one_iff.mp hone
        have h := Text.slice_append_slice (Nat.le_succ i) hij hj
        rw [hslice, hx] at h
        exact (List.cons.inj h).2.symm
      rw [(walk_of_reads hij hj hh).1, List.map_cons]
      show stripFrom t _ (⟨t.byteOffset i, t.byteOffset j⟩ :: _) = _
      rw [stripFrom_cons hk (Nat.le_of_lt hij) hj]
      cases hf : measureFollows (Cursor.place t j) with
      | some r =>
        have hl := lanes_of_measureFollows hh hf
        have hpassed := walk_of_failsThrough hij hj
          (NoHead.failsThrough lanes_opensWith (hbehind ▸ hw) (t.drop j))
        rw [Option.isSome_some, if_pos rfl, ih hj (by omega) (by omega), (walk_of_none hlt hl).2,
          hpassed.2, ← List.append_assoc (t.slice i (i + 1)),
          ← Text.slice_append_slice (Nat.le_succ i) hij hj, ← List.append_assoc,
          ← Text.slice_append_slice hk (Nat.le_of_lt hij) hj]
      | none =>
        obtain ⟨m, hjm, hm, hup, hlane, hno⟩ := exists_laneEnd hj le_rfl
        have hl := lanes_of_laneHead hh hf hup
        have hheads := walk_of_failsThrough hjm hm
          (NoHead.failsThrough laneHead_opensWith hno (t.drop m))
        rw [Option.isSome_none, if_neg Bool.false_ne_true, hlane, hheads.1]
        simp only [bind, Except.bind]
        rw [ih hm (by omega) le_rfl, Text.slice_self, (walk_of_reads (by omega) hm hl).2]
        rfl

/-- **Lane lists are cut out without a fault.** -/
theorem stripLanes_eq (t : Text) : stripLanes t = .ok (lanes.blankOut t) :=
  stripFrom_eq (Nat.zero_le _) le_rfl le_rfl

end SwimSets
