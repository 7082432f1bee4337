import SwimSets.Proofs.Encoding
import SwimSets.Proofs.Keywords
import SwimSets.Proofs.Strokes

/-!
# Positions in bytes

A stretch of a text is given by the bytes at which it starts and stops. Cutting it out (`cut`) fails
unless both are places where a character starts or the text ends, and the start does not come after
the stop; then what is cut out is what stands there (`cut_eq_ok_iff`), in bytes as well
(`toUtf8_of_cut`).

**Main results.** Every stretch that the readers of distances, keywords and strokes give lies in
its text (`Span.Within`), and so in bytes too (`Span.Within.bytes`): `Distance.read_within`,
`Distance.readBare_within`, `Keyword.find_within`, `mentions_within`. Where distances start, where
a keyword stands and where strokes are named is listed in strictly increasing order
(`Distance.starts_sorted`, `Keyword.find_pairwise`, `mentions_pairwise`).
-/

namespace SwimSets

namespace Text

/-! ## Characters and bytes -/

theorem length_encode (c : Char) : (String.utf8EncodeChar c).length = c.utf8Size :=
  String.length_utf8EncodeChar c

/-- The bytes of a text are as many as its length in bytes says. -/
theorem length_toUtf8 (t : Text) : t.toUtf8.length = t.byteLength := by
  induction t with
  | nil => rfl
  | cons c t ih => rw [toUtf8_cons, List.length_append, length_encode, ih, byteLength]

theorem toUtf8_append (u v : Text) : toUtf8 (u ++ v) = toUtf8 u ++ toUtf8 v :=
  List.flatMap_append

theorem byteLength_lt_of_append {u v : Text} (h : v ≠ []) :
    byteLength u < byteLength (u ++ v) := by
  cases v with
  | nil => exact absurd rfl h
  | cons c v =>
    have := c.utf8Size_pos
    rw [byteLength_append, byteLength]
    omega

theorem byteOffset_length (t : Text) : t.byteOffset t.length = t.byteLength := by
  rw [byteOffset, List.take_length]

theorem byteOffset_cons_succ (c : Char) (t : Text) (i : Nat) :
    byteOffset (c :: t) (i + 1) = c.utf8Size + t.byteOffset i := rfl

/-- A start of a text is a shorter start and what stands between. -/
theorem take_eq_append_slice (t : Text) {i j : Nat} (h : i ≤ j) :
    t.take j = t.take i ++ t.slice i j := by
  conv_lhs => rw [← List.take_append_drop i (t.take j), List.take_take, min_eq_left h]
  rfl

theorem length_slice {t : Text} {i j : Nat} (hj : j ≤ t.length) :
    (t.slice i j).length = j - i := by
  simp [slice, hj]

theorem slice_self (t : Text) (i : Nat) : t.slice i i = [] := by
  simp [slice]

/-- A stretch is cut in two at a position inside of it. -/
theorem slice_append_slice {t : Text} {i k j : Nat} (hik : i ≤ k) (hkj : k ≤ j)
    (hj : j ≤ t.length) : t.slice i j = t.slice i k ++ t.slice k j := by
  have hlen : i ≤ (t.take k).length := by
    rw [List.length_take]
    omega
  rw [slice, take_eq_append_slice t hkj, List.drop_append_of_le_length hlen]
  rfl

/-- The rest of a text is a stretch at its start and the rest behind that. -/
theorem drop_eq_slice_append {t : Text} {i j : Nat} (hij : i ≤ j) :
    t.drop i = t.slice i j ++ t.drop j := by
  rw [slice, List.drop_take]
  conv_lhs => rw [← List.take_append_drop (j - i) (t.drop i), List.drop_drop,
    Nat.add_sub_cancel' hij]

theorem byteOffset_eq_add (t : Text) {i j : Nat} (h : i ≤ j) :
    t.byteOffset j = t.byteOffset i + (t.slice i j).byteLength := by
  rw [byteOffset, take_eq_append_slice t h, byteLength_append, byteOffset]

theorem byteOffset_mono (t : Text) {i j : Nat} (h : i ≤ j) : t.byteOffset i ≤ t.byteOffset j := by
  rw [byteOffset_eq_add t h]
  exact Nat.le_add_right _ _

theorem byteOffset_strictMono {t : Text} {i j : Nat} (h : i < j) (hj : j ≤ t.length) :
    t.byteOffset i < t.byteOffset j := by
  rw [byteOffset, byteOffset, take_eq_append_slice t (Nat.le_of_lt h)]
  refine byteLength_lt_of_append fun hnil => ?_
  have hlen := length_slice (i := i) hj
  rw [hnil, List.length_nil] at hlen
  omega

theorem byteOffset_le_byteLength (t : Text) (i : Nat) : t.byteOffset i ≤ t.byteLength := by
  conv_rhs => rw [← List.take_append_drop i t, byteLength_append]
  exact Nat.le_add_right _ _

/-- The position of the character that starts at a byte, or of the end of the text; nothing inside
of a character or behind the end. -/
def atByte : Text → Nat → Option Nat
  | _, 0 => some 0
  | [], _ + 1 => none
  | c :: r, n + 1 =>
    if c.utf8Size ≤ n + 1 then (atByte r (n + 1 - c.utf8Size)).map (· + 1) else none

theorem atByte_cons {c : Char} {r : Text} {n : Nat} (hn : 0 < n) :
    atByte (c :: r) n =
      if c.utf8Size ≤ n then (atByte r (n - c.utf8Size)).map (· + 1) else none := by
  obtain ⟨n, rfl⟩ := Nat.exists_eq_succ_of_ne_zero (Nat.ne_of_gt hn)
  rfl

/-- A byte stands at a character, or at the end of the text, when it is the offset of one. -/
theorem atByte_eq_some_iff {t : Text} {n i : Nat} :
    t.atByte n = some i ↔ i ≤ t.length ∧ t.byteOffset i = n := by
  induction t generalizing n i with
  | nil =>
    cases n with
    | zero => simp [atByte, byteOffset, byteLength, eq_comm]
    | succ n => simp [atByte, byteOffset, byteLength]
  | cons c r ih =>
    have hpos := c.utf8Size_pos
    cases i with
    | zero =>
      cases n with
      | zero => simp [atByte, byteOffset, byteLength]
      | succ n => simp [atByte, byteOffset, byteLength]
    | succ i =>
      rw [byteOffset_cons_succ, List.length_cons, Nat.add_le_add_iff_right]
      by_cases hn : c.utf8Size ≤ n
      · rw [atByte_cons (by omega), if_pos hn]
        simp only [Option.map_eq_some_iff, Nat.add_right_cancel_iff, exists_eq_right, ih]
        exact and_congr_right fun _ => by omega
      · constructor
        · intro h
          cases n with
          | zero => simp [atByte] at h
          | succ n => simp [atByte, hn] at h
        · rintro ⟨-, rfl⟩
          omega

theorem atByte_byteOffset {t : Text} {i : Nat} (h : i ≤ t.length) :
    t.atByte (t.byteOffset i) = some i :=
  atByte_eq_some_iff.mpr ⟨h, rfl⟩

end Text

/-- What is read from a place of a text on is what stands there. -/
theorem place_of_reads {t w : Text} {i : Nat} {d : Cursor} (h : (Cursor.place t i).Reads w d)
    (hi : i ≤ t.length) :
    d = Cursor.place t (i + w.length) ∧ i + w.length ≤ t.length ∧ t.slice i (i + w.length) = w := by
  have hrest : t.drop i = w ++ d.rest := h.rest
  have hlen := congrArg List.length hrest
  rw [List.length_drop, List.length_append] at hlen
  refine ⟨h.eq_place, by omega, ?_⟩
  rw [Text.slice, List.drop_take, Nat.add_sub_cancel_left, hrest, List.take_left]

/-! ## Cutting -/

/-- What goes wrong when a program is careless with its numbers. -/
inductive Fault where
  /-- A stretch of a text is asked for that stops before it starts, or that starts or stops inside
  of a character or behind the end. -/
  | badCut (text : Text) (start stop : Nat)
  /-- A turn of a loop makes no headway. -/
  | noHeadway
  | divisionByZero
  deriving DecidableEq, Repr

theorem ok_bind {ε α β : Type} (a : α) (f : α → Except ε β) : (Except.ok a >>= f) = f a := rfl

namespace Text

/-- The stretch of the text between two of its bytes. -/
def cut (t : Text) (start stop : Nat) : Except Fault Text :=
  match t.atByte start, t.atByte stop with
  | some i, some j => if i ≤ j then .ok (t.slice i j) else .error (.badCut t start stop)
  | _, _ => .error (.badCut t start stop)

/-- **When a text can be cut.** -/
theorem cut_eq_ok_iff {t u : Text} {start stop : Nat} :
    t.cut start stop = .ok u ↔ ∃ i j, i ≤ j ∧ j ≤ t.length ∧ start = t.byteOffset i ∧
      stop = t.byteOffset j ∧ u = t.slice i j := by
  constructor
  · intro h
    unfold cut at h
    split at h
    · rename_i i j hi hj
      split_ifs at h with hij
      obtain ⟨-, hi⟩ := atByte_eq_some_iff.mp hi
      obtain ⟨hlen, hj⟩ := atByte_eq_some_iff.mp hj
      exact ⟨i, j, hij, hlen, hi.symm, hj.symm, (Except.ok.inj h).symm⟩
    · cases h
  · rintro ⟨i, j, hij, hj, rfl, rfl, rfl⟩
    simp only [cut, atByte_byteOffset hj, atByte_byteOffset (hij.trans hj), hij, if_true]

/-- Two bytes of four characters: the sign has both. -/
example : cut "4×50".toList 1 3 = .ok ['×'] ∧
    cut "4×50".toList 0 2 = .error (.badCut "4×50".toList 0 2) := by decide

theorem cut_byteOffset {t : Text} {i j : Nat} (hij : i ≤ j) (hj : j ≤ t.length) :
    t.cut (t.byteOffset i) (t.byteOffset j) = .ok (t.slice i j) :=
  cut_eq_ok_iff.mpr ⟨i, j, hij, hj, rfl, rfl, rfl⟩

theorem cut_from {t : Text} {i : Nat} (hi : i ≤ t.length) :
    t.cut (t.byteOffset i) t.byteLength = .ok (t.drop i) := by
  rw [← byteOffset_length, cut_byteOffset hi le_rfl, slice, List.take_length]

theorem cut_to {t : Text} {j : Nat} (hj : j ≤ t.length) :
    t.cut 0 (t.byteOffset j) = .ok (t.take j) := by
  have h := cut_byteOffset (Nat.zero_le j) hj
  rwa [show t.byteOffset 0 = 0 from rfl, slice, List.drop_zero] at h

theorem toUtf8_take (t : Text) (i : Nat) :
    toUtf8 (t.take i) = t.toUtf8.take (t.byteOffset i) := by
  have h : t.toUtf8 = toUtf8 (t.take i) ++ toUtf8 (t.drop i) := by
    rw [← toUtf8_append, List.take_append_drop]
  rw [h, byteOffset, ← length_toUtf8, List.take_left]

/-- What is cut out is written with the bytes that stand between the two. -/
theorem toUtf8_of_cut {t u : Text} {start stop : Nat} (h : t.cut start stop = .ok u) :
    u.toUtf8 = (t.toUtf8.take stop).drop start := by
  obtain ⟨i, j, hij, hj, rfl, rfl, rfl⟩ := cut_eq_ok_iff.mp h
  rw [← toUtf8_take, take_eq_append_slice t hij, toUtf8_append, byteOffset, ← length_toUtf8,
    List.drop_left]

end Text

/-! ## Stretches inside a text -/

namespace Span

/-- The stretch is not empty and lies inside the text. -/
structure Within (s : Span) (t : Text) : Prop where
  forward : s.start < s.stop
  inside : s.stop ≤ t.length

theorem Within.start_le {s : Span} {t : Text} (h : s.Within t) : s.start ≤ t.length :=
  (Nat.le_of_lt h.forward).trans h.inside

/-- The stretch in bytes. -/
def bytes (s : Span) (t : Text) : Span := ⟨t.byteOffset s.start, t.byteOffset s.stop⟩

/-- The stretch, in bytes, is not empty, lies inside the text, and starts and stops between
characters. -/
structure Cuttable (s : Span) (t : Text) : Prop where
  forward : s.start < s.stop
  inside : s.stop ≤ t.byteLength
  start : ∃ i, t.atByte s.start = some i
  stop : ∃ j, t.atByte s.stop = some j

/-- A stretch inside a text lies inside of its bytes. -/
theorem Within.bytes {s : Span} {t : Text} (h : s.Within t) : (s.bytes t).Cuttable t where
  forward := Text.byteOffset_strictMono h.forward h.inside
  inside := Text.byteOffset_le_byteLength t s.stop
  start := ⟨s.start, Text.atByte_byteOffset h.start_le⟩
  stop := ⟨s.stop, Text.atByte_byteOffset h.inside⟩

theorem within_of_mem_hits {α : Type} {s : Scanner α} {t : Text} {h : Hit α} (m : h ∈ s.hits t) :
    h.span.Within t :=
  ⟨(Scanner.mem_hits m).1, (Scanner.mem_hits m).2⟩

end Span

/-! ## Distances -/

namespace Distance

theorem within_of_mem_wholeLengths {t : Text} {d : Nat × Span} (h : d ∈ wholeLengths t) :
    d.2.Within t := by
  obtain ⟨g, hg, hd⟩ := List.mem_filterMap.mp h
  split at hd
  · split_ifs at hd
    cases hd
    exact Span.within_of_mem_hits hg
  · cases hd

theorem readBare_within {t : Text} {d : Nat × Span} (h : readBare t = some d) :
    d.2.Within t := by
  unfold readBare at h
  split at h
  · rename_i g hg
    obtain ⟨n, -, rfl⟩ := Option.map_eq_some_iff.mp h
    exact Span.within_of_mem_hits (Scanner.mem_hits_of_firstHit hg)
  · exact within_of_mem_wholeLengths (List.mem_of_mem_head? h)

theorem read_within {t : Text} {d : Distance} (h : read t = some d) : d.span.Within t := by
  unfold read at h
  split at h
  · rename_i g hg
    split at h
    · cases h
      exact Span.within_of_mem_hits (Scanner.mem_hits_of_firstHit hg)
    · cases h
  · obtain ⟨b, hb, rfl⟩ := Option.map_eq_some_iff.mp h
    exact readBare_within hb

theorem insertStart_sorted {n : Nat} {ms : List Nat} (h : ms.Pairwise (· < ·)) :
    (insertStart n ms).Pairwise (· < ·) := by
  induction ms with
  | nil => exact List.pairwise_singleton _ _
  | cons m ms ih =>
    obtain ⟨hm, hms⟩ := List.pairwise_cons.mp h
    unfold insertStart
    split_ifs with hlt heq
    · refine List.pairwise_cons.mpr ⟨fun k hk => ?_, h⟩
      rcases List.mem_cons.mp hk with rfl | hk
      · exact hlt
      · exact hlt.trans (hm k hk)
    · exact h
    · refine List.pairwise_cons.mpr ⟨fun k hk => ?_, ih hms⟩
      rcases mem_insertStart.mp hk with rfl | hk
      · omega
      · exact hm k hk

/-- **Where distances start, in strictly increasing order.** -/
theorem starts_sorted (t : Text) : (starts t).Pairwise (· < ·) := by
  unfold starts
  induction (measured.hits t).map (·.span.start) ++ (wholeLengths t).map (·.2.start) with
  | nil => exact .nil
  | cons n ns ih => exact insertStart_sorted ih

theorem lt_length_of_mem_starts {t : Text} {i : Nat} (h : i ∈ starts t) : i < t.length := by
  obtain ⟨s, -, g, hg, rfl⟩ := exists_hit_of_mem_starts h
  have hw := Span.within_of_mem_hits hg
  exact Nat.lt_of_lt_of_le hw.forward hw.inside

end Distance

/-! ## Keywords and strokes -/

namespace Keyword

theorem exists_hit_of_mem_find {keyword t : Text} {s : Span} (h : s ∈ find keyword t) :
    ∃ first last, ∃ g ∈ (occurrence first last keyword).hits t, s = g.span := by
  unfold find at h
  split at h
  · rename_i first last _ _
    obtain ⟨g, hg, hs⟩ := List.mem_filterMap.mp h
    split_ifs at hs
    exact ⟨first, last, g, hg, (Option.some.inj hs).symm⟩
  · cases h

theorem find_within {keyword t : Text} {s : Span} (h : s ∈ find keyword t) : s.Within t := by
  obtain ⟨first, last, g, hg, rfl⟩ := exists_hit_of_mem_find h
  exact Span.within_of_mem_hits hg

/-- **Where a keyword stands, one place ending before the next starts.** -/
theorem find_pairwise (keyword t : Text) :
    (find keyword t).Pairwise fun a b => a.stop ≤ b.start := by
  unfold find
  split
  · refine List.Pairwise.filterMap _ (fun a b hab s hs u hu => ?_) (Scanner.hits_pairwise _ t)
    split_ifs at hs hu
    cases hs
    cases hu
    exact hab
  · exact .nil

end Keyword

namespace Mention

/-- In order of place, none reaching into the next. -/
def InOrder (ms : List Mention) : Prop := ms.Pairwise fun a b => a.span.stop ≤ b.span.start

theorem insert_inOrder {m : Mention} {ms : List Mention} (h : InOrder ms)
    (hm : m.span.start < m.span.stop) (hms : ∀ n ∈ ms, n.span.start < n.span.stop)
    (hfree : ∀ n ∈ ms, n.span.overlaps m.span = false) : InOrder (insert m ms) := by
  have apart : ∀ n ∈ ms, n.span.stop ≤ m.span.start ∨ m.span.stop ≤ n.span.start := by
    intro n hn
    have hf := hfree n hn
    simp only [Span.overlaps, Bool.and_eq_false_iff, decide_eq_false_iff_not] at hf
    omega
  induction ms with
  | nil => exact List.pairwise_singleton _ _
  | cons n ns ih =>
    obtain ⟨hn, hns⟩ := List.pairwise_cons.mp h
    rw [List.forall_mem_cons] at hms hfree apart
    unfold insert
    split_ifs with hle
    · refine List.pairwise_cons.mpr ⟨fun k hk => ?_, ih hns hms.2 hfree.2 apart.2⟩
      rcases mem_insert.mp hk with rfl | hk
      · omega
      · exact hn k hk
    · have hstop : m.span.stop ≤ n.span.start := by omega
      refine List.pairwise_cons.mpr ⟨fun k hk => ?_, h⟩
      rcases List.mem_cons.mp hk with rfl | hk
      · exact hstop
      · exact hstop.trans ((Nat.le_of_lt hms.1).trans (hn k hk))

theorem addTo_inOrder {m : Mention} {ms : List Mention} (h : InOrder ms)
    (hm : m.span.start < m.span.stop) (hms : ∀ n ∈ ms, n.span.start < n.span.stop) :
    InOrder (addTo ms m) := by
  unfold addTo
  split_ifs with hfree
  · refine insert_inOrder h hm hms fun n hn => ?_
    simpa using List.all_eq_true.mp hfree n hn
  · exact h

end Mention

theorem candidates_within {t : Text} {m : Mention} (h : m ∈ candidates t) : m.span.Within t := by
  obtain ⟨entry, -, hm⟩ := List.mem_flatMap.mp h
  obtain ⟨span, hs, rfl⟩ := List.mem_map.mp hm
  exact Keyword.find_within hs

theorem mentions_within {t : Text} {m : Mention} (h : m ∈ mentions t) : m.span.Within t :=
  candidates_within (mem_candidates_of_mem_mentions h)

/-- **Where strokes are named, one place ending before the next starts.** -/
theorem mentions_pairwise (t : Text) : Mention.InOrder (mentions t) := by
  have keep : ∀ ms : List Mention, (∀ m ∈ ms, m.span.start < m.span.stop) →
      ∀ taken, (∀ n ∈ taken, n.span.start < n.span.stop) → Mention.InOrder taken →
      Mention.InOrder (ms.foldl Mention.addTo taken) := by
    intro ms
    induction ms with
    | nil => exact fun _ taken _ h => h
    | cons m ms ih =>
      intro hms taken htaken h
      rw [List.forall_mem_cons] at hms
      refine ih hms.2 _ (fun n hn => ?_) (Mention.addTo_inOrder h hms.1 htaken)
      rcases Mention.mem_of_mem_addTo hn with hn | rfl
      · exact htaken n hn
      · exact hms.1
  exact keep _ (fun m hm => (candidates_within hm).forward) [] (List.forall_mem_nil _) .nil

end SwimSets
