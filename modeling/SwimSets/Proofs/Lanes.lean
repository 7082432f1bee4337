import SwimSets.Proofs.Tails

/-!
# A list of lanes before a line

**Lists** (`LaneList`). Numbers joined by signs or words, written before a line with a comma
between. Normalizing keeps the list, and it is read to its end as one aside
(`LaneList.lanes_reads`), the kinds of aside before it finding nothing there
(`LaneList.failsThrough`). So the numbers of the line are left, behind a comma (`LaneList.strip`).

**Words.** No word that is looked for is in the list, but for the name of a drill that is written in
digits, "3-3-3". Lanes may be listed so, and then the line is read as a drill
(`LaneList.activityOf_before`). That shows if the rule that decides the line takes the activity from
it (`LaneList.MakesDrill`).
-/

namespace SwimSets

open Scanner Aside

/-- What stands between the numbers of a list of lanes. -/
def laneJoiners : List Text := ["-", "/", " & ", " and ", " to "]

/-- A list of lanes: a number, and further ones with what joins each to the one before. -/
structure LaneList where
  first : Numeral
  more : List (Text × Numeral)
  joined : ∀ m ∈ more, m.1 ∈ laneJoiners

namespace LaneList

/-- The further numbers as they are written. -/
def rest (more : List (Text × Numeral)) : Text := more.flatMap fun m => m.1 ++ m.2.digits

/-- The numbers as they are written. -/
def numbers (l : LaneList) : Text := l.first.digits ++ rest l.more

/-- The list as it is written. -/
def text (l : LaneList) : Text := "lanes".toList ++ ' ' :: l.numbers

theorem rest_cons (m : Text × Numeral) (ms : List (Text × Numeral)) :
    rest (m :: ms) = m.1 ++ (m.2.digits ++ rest ms) := by
  simp [rest]

variable {more : List (Text × Numeral)} {j : Text}

/-! ### What it is written with -/

/-- A character of the numbers of a list. -/
def isListed (c : Char) : Bool :=
  isAsciiDigit c || c ∈ ['-', '/', '&', ' ', 'a', 'n', 'd', 't', 'o']

theorem isListed_of_mem_rest (h : ∀ m ∈ more, m.1 ∈ laneJoiners) {c : Char}
    (hc : c ∈ rest more) : isListed c = true := by
  obtain ⟨m, hm, hc⟩ := List.mem_flatMap.1 hc
  rcases List.mem_append.1 hc with hc | hc
  · have hall : ∀ j ∈ laneJoiners, ∀ c ∈ j, isListed c = true := by decide
    exact hall _ (h m hm) c hc
  · simp [isListed, m.2.ascii c hc]

theorem isListed_of_mem (l : LaneList) {c : Char} (hc : c ∈ l.numbers) : isListed c = true := by
  rcases List.mem_append.1 hc with hc | hc
  · simp [isListed, l.first.ascii c hc]
  · exact isListed_of_mem_rest l.joined hc

theorem isChain_rest (h : ∀ m ∈ more, m.1 ∈ laneJoiners) : (rest more).IsChain Joined := by
  induction more with
  | nil => exact .nil
  | cons m ms ih =>
    obtain ⟨hm, hms⟩ := List.forall_mem_cons.1 h
    have hall : ∀ j ∈ laneJoiners, j.IsChain Joined := by decide
    rw [rest_cons]
    exact isChain_append (hall _ hm) (m.2.isChain (ih hms)) (.inr (m.2.head (by decide) _))

theorem isChain (l : LaneList) : l.text.IsChain Joined :=
  isChain_append (v := ' ' :: l.numbers) (by decide)
    (isChain_append (l := [' ']) (by decide) (l.first.isChain (isChain_rest l.joined))
      (.inl rfl)) (.inr rfl)

/-! ### Normalizing it -/

theorem squeeze_joiner (hj : j ∈ laneJoiners) (n : Numeral) (t : Text) :
    Text.squeeze (j ++ (n.digits ++ t)) = j ++ (n.digits ++ Text.squeeze t) := by
  simp only [laneJoiners, List.mem_cons, List.not_mem_nil, or_false] at hj
  rcases hj with rfl | rfl | rfl | rfl | rfl
  all_goals
    simp [Text.squeeze, n.squeeze, n.gap, Text.gap_cons, isBlank]

theorem squeeze_rest (h : ∀ m ∈ more, m.1 ∈ laneJoiners) (t : Text) :
    Text.squeeze (rest more ++ t) = rest more ++ Text.squeeze t := by
  induction more with
  | nil => rfl
  | cons m ms ih =>
    obtain ⟨hm, hms⟩ := List.forall_mem_cons.1 h
    simp only [rest_cons, List.append_assoc]
    rw [squeeze_joiner hm, ih hms]

theorem squeeze (l : LaneList) (t : Text) :
    Text.squeeze (l.text ++ t) = l.text ++ Text.squeeze t := by
  have hlanes : ∀ c ∈ "lanes".toList, isBlank c = false := by decide
  rw [text, List.append_assoc, Text.squeeze_append_of_nonblank hlanes, List.append_assoc,
    List.cons_append, Text.squeeze, if_pos (show isBlank ' ' = true from rfl), numbers,
    List.append_assoc, l.first.squeeze, squeeze_rest l.joined, l.first.gap, List.cons_append,
    List.append_assoc]

/-! ### Reading it -/

theorem edge_after (n : Numeral) {t : Text} (ht : t.head?.any isWordChar = false)
    (q : Option Char) : Cursor.atWordEdge ⟨n.digits.getLast?.or q, t⟩ = true := by
  obtain ⟨c, hc⟩ : ∃ c, n.digits.getLast? = some c :=
    ⟨_, List.getLast?_eq_some_getLast n.nonempty⟩
  have hword : isWordChar c = true :=
    isWordChar_of_isDecimal (n.isDecimal (List.mem_of_getLast? hc))
  simp [Cursor.atWordEdge, hc, hword, ht]

/-- A number is read as a word of its own where no word goes on. -/
theorem number_reads (n : Numeral) {t : Text} (ht : t.head?.any isWordChar = false)
    (q : Option Char) : (do let _ ← digits; wordEdge) ⟨q, n.digits ++ t⟩ =
      some ((), ⟨n.digits.getLast?.or q, t⟩) := by
  exact (bind_of_some (n.read (not_any_isDecimal ht) q)).trans
    (wordEdge_eq_some.2 ⟨edge_after n ht q, rfl⟩)

/-- No word goes on behind a number of the list. -/
theorem head_rest (h : ∀ m ∈ more, m.1 ∈ laneJoiners) (r : Text) :
    (rest more ++ ',' :: r).head?.any isWordChar = false := by
  cases more with
  | nil => rfl
  | cons m ms =>
    have hall : ∀ j ∈ laneJoiners, j.head?.any (!isWordChar ·) = true := by decide
    have hj := hall _ (h m List.mem_cons_self)
    rw [rest_cons]
    cases hm : m.1 with
    | nil => simp [hm] at hj
    | cons c s => simpa [hm] using hj

/-- No measure follows a number of the list. -/
theorem measureFollows_fails (h : ∀ m ∈ more, m.1 ∈ laneJoiners) (r : Text) :
    Fails (rest more ++ ',' :: r) measureFollows := by
  refine Fails.skip_bind (OpensWith.fails (p := fun x => x == 'm' || x == 'x' || x == '*') ?_ ?_)
  · exact .either (.wholeWord (by decide)) ((OpensWith.one _).mono fun x hx => by simp [hx])
  · cases more with
    | nil => rfl
    | cons m ms =>
      have hall : ∀ j ∈ laneJoiners, (j.dropWhile isBlank).head?.any
          (fun x => !(x == 'm' || x == 'x' || x == '*')) = true := by decide
      have hj := hall _ (h m List.mem_cons_self)
      rw [rest_cons, List.append_assoc, List.dropWhile_append]
      cases hm : m.1.dropWhile isBlank with
      | nil => simp [hm] at hj
      | cons c s => simpa [hm] using hj

/-- What is read behind the sign or word that joins a number to the list. -/
theorem joined_reads (n : Numeral) {t : Text} (ht : t.head?.any isWordChar = false)
    {s : Text} (hs : s = [] ∨ s = [' ']) (q : Option Char) :
    ∃ q', (do blanks; let _ ← digits; wordEdge) ⟨q, s ++ (n.digits ++ t)⟩ =
      some ((), ⟨q', t⟩) := by
  have hblank : (n.digits ++ t).head?.any isBlank = false := n.head (by decide) t
  rcases hs with rfl | rfl
  · exact ⟨_, (bind_of_some (blanks_nothing hblank q)).trans (number_reads n ht q)⟩
  · exact ⟨_, (bind_of_some (blanks_space hblank q)).trans (number_reads n ht _)⟩

theorem laneMore_reads (hj : j ∈ laneJoiners) (n : Numeral) {t : Text}
    (ht : t.head?.any isWordChar = false) (q : Option Char) :
    ∃ q', laneMore ⟨q, j ++ (n.digits ++ t)⟩ = some ((), ⟨q', t⟩) := by
  simp only [laneJoiners, List.mem_cons, List.not_mem_nil, or_false] at hj
  rcases hj with rfl | rfl | rfl | rfl | rfl
  -- Blanks and joiner are read by evaluation.
  · exact joined_reads n ht (.inl rfl) (some '-')
  · exact joined_reads n ht (.inl rfl) (some '/')
  · exact joined_reads n ht (.inr rfl) (some '&')
  · exact joined_reads n ht (.inr rfl) (some 'd')
  · exact joined_reads n ht (.inr rfl) (some 'o')

/-- The further numbers are read one after another. -/
theorem more_read (h : ∀ m ∈ more, m.1 ∈ laneJoiners) (r : Text) {turns : Nat}
    (hturns : (rest more ++ ',' :: r).length ≤ turns) (q : Option Char) :
    ∃ q', upTo (do laneMore; notHere measureFollows) turns ⟨q, rest more ++ ',' :: r⟩ =
      some ((), ⟨q', ',' :: r⟩) := by
  induction more generalizing turns q with
  | nil =>
    obtain ⟨k, rfl⟩ : ∃ k, turns = k + 1 := ⟨turns - 1, by simp [rest] at hturns; omega⟩
    exact ⟨q, rfl⟩
  | cons m ms ih =>
    obtain ⟨hm, hms⟩ := List.forall_mem_cons.1 h
    have hlen : (rest (m :: ms) ++ ',' :: r).length =
        m.1.length + m.2.digits.length + (rest ms ++ ',' :: r).length := by
      simp only [rest_cons, List.length_append]
      omega
    have hpos := List.length_pos_iff.2 m.2.nonempty
    obtain ⟨k, rfl⟩ : ∃ k, turns = k + 1 := ⟨turns - 1, by omega⟩
    obtain ⟨q', hread⟩ := laneMore_reads hm m.2 (head_rest hms r) q
    have hbody : (do laneMore; notHere measureFollows) ⟨q, rest (m :: ms) ++ ',' :: r⟩ =
        some ((), ⟨q', rest ms ++ ',' :: r⟩) := by
      simp only [rest_cons, List.append_assoc]
      exact (bind_of_some hread).trans
        (notHere_eq_some.2 ⟨measureFollows_fails hms r q', rfl⟩)
    obtain ⟨q'', hrest⟩ := ih hms (by omega : (rest ms ++ ',' :: r).length ≤ k) q'
    refine ⟨q'', ?_⟩
    simp only [upTo, hbody]
    exact hrest

/-- **A list of lanes is read to its end**, where a comma follows. -/
theorem lanes_reads (l : LaneList) (r : Text) :
    ∃ q', lanes ⟨none, l.text ++ ',' :: r⟩ = some ((), ⟨q', ',' :: r⟩) := by
  have htext : l.text ++ ',' :: r =
      "lanes".toList ++ ' ' :: (l.first.digits ++ (rest l.more ++ ',' :: r)) := by
    simp only [text, numbers, List.append_assoc, List.cons_append]
  obtain ⟨q, hhead⟩ : ∃ q, laneHead ⟨none, l.text ++ ',' :: r⟩ =
      some ((), ⟨q, rest l.more ++ ',' :: r⟩) := by
    rw [htext]
    exact joined_reads l.first (head_rest l.joined r) (.inr rfl) (some 's')
  obtain ⟨q', hmore⟩ := more_read l.joined r le_rfl q
  refine ⟨q', ?_⟩
  rw [lanes, bind_of_some hhead,
    bind_of_some ((notHere_eq_some (u := ())).2 ⟨measureFollows_fails l.joined r q, rfl⟩)]
  exact hmore

/-! ### What else is looked for in it -/

variable (l : LaneList)

theorem text_eq : l.text = "lanes ".toList ++ l.numbers := by simp [text]

theorem mem_text {c : Char} (hc : c ∈ l.text) : c ∈ "lanes ".toList ∨ isListed c = true := by
  rw [text_eq] at hc
  exact (List.mem_append.1 hc).imp_right l.isListed_of_mem

/-- From a digit on, the list holds only what its numbers are written with. -/
theorem isListed_of_suffix {c : Char} {t : Text} (h : c :: t <:+ l.text) (hc : isDecimal c = true) :
    ∀ x ∈ c :: t, isListed x = true := by
  obtain ⟨a, ha⟩ := h
  rw [text_eq] at ha
  have hlanes : ∀ c ∈ "lanes ".toList, isDecimal c = false := by decide
  rcases List.append_eq_append_iff.1 ha with ⟨s, hs, ht⟩ | ⟨s, -, ht⟩
  · cases s with
    | nil => exact fun x hx => l.isListed_of_mem (by rwa [ht, List.nil_append] at hx)
    | cons y s =>
      obtain ⟨rfl, -⟩ := List.cons.inj ht
      have hmem : c ∈ "lanes ".toList := by
        rw [hs]
        simp
      simp [hlanes c hmem] at hc
  · exact fun x hx => l.isListed_of_mem (by rw [ht]; exact List.mem_append_right _ hx)

/-- Before the comma a character comes next that the numbers are written with. -/
theorem head_listed {t : Text} (ht : ∀ c ∈ t, isListed c = true) {x : Char}
    (hx : isListed x = false) (hcomma : x ≠ ',') (g : Text) :
    (t ++ ',' :: g).head?.any (· == x) = false := by
  cases t with
  | nil => simpa using hcomma.symm
  | cons c t =>
    have hc := ht c List.mem_cons_self
    rw [List.cons_append, List.head?_cons, Option.any_some, beq_eq_false_iff_ne]
    rintro rfl
    simp [hx] at hc

/-- Behind a number of the list comes no colon and, blanks aside, no unit of time. -/
theorem number_fails {t : Text} (ht : ∀ c ∈ t, isListed c = true) (g : Text)
    {kind : Scanner Unit} (h : kind ∈ [timeThenRest, duration, clock]) :
    Fails (t ++ ',' :: g) kind := by
  obtain ⟨s, hs, hdrop⟩ :=
    dropWhile_append_cons (p := isDecimal) (by decide : isDecimal ',' = false) t g
  obtain ⟨s', hs', hdrop'⟩ :=
    dropWhile_append_cons (p := isBlank) (by decide : isBlank ',' = false) s g
  have hcolon : Fails (s ++ ',' :: g) colonPair :=
    OpensWith.fails (.bind (.one _) _)
      (head_listed (fun c hc => ht c (hs.subset hc)) (by decide) (by decide) g)
  have hunit : (s' ++ ',' :: g).head?.any (fun c => c == 's' || c == 'm') = false := by
    have hlisted : ∀ c ∈ s', isListed c = true := fun c hc => ht c (hs.subset (hs'.subset hc))
    have hs := head_listed hlisted (x := 's') (by decide) (by decide) g
    have hm := head_listed hlisted (x := 'm') (by decide) (by decide) g
    rw [Option.any_eq_false] at hs hm ⊢
    exact fun c hc => by simp only [hs c hc, hm c hc, Bool.or_false]
  simp only [List.mem_cons, List.not_mem_nil, or_false] at h
  rcases h with rfl | rfl | rfl
  · refine Fails.wordEdge_bind ?_
    rw [time, bind_assoc]
    refine Fails.run_bind fun _ => Fails.maybe_bind (hdrop ▸ hcolon) (Fails.skip_bind ?_)
    rw [hdrop, hdrop']
    exact OpensWith.fails (.bind (.anyWord (by decide)) _) hunit
  · refine Fails.wordEdge_bind (Fails.run_bind fun _ => Fails.skip_bind ?_)
    rw [hdrop, hdrop']
    exact OpensWith.fails (.wholeWord (by decide)) hunit
  · refine Fails.wordEdge_bind (Fails.run_bind fun _ => ?_)
    rw [hdrop]
    exact Fails.guard_bind (hcolon.bind _)

/-- **The kinds of aside that come before lanes find nothing in the list.** -/
theorem failsThrough {kind : Scanner Unit} (h : kind ∈ [restAt, restWorded, duration, clock])
    (g : Text) : FailsThrough (l.text ++ [',']) g kind := by
  intro b hb hne
  obtain ⟨t, rfl, ht⟩ := (List.suffix_concat_iff.1 hb).resolve_left hne
  rw [List.append_assoc]
  show Fails (t ++ ',' :: g) kind
  cases t with
  | nil =>
    have hall : [restAt, restWorded, duration, clock] ⊆ kinds := by simp [kinds]
    exact (opens_of_mem_kinds (hall h)).fails (show isOpening ',' = false by decide)
  | cons c t =>
    have hsign : (c == '@') = false ∧ (c == 'r') = false := by
      rcases l.mem_text (ht.subset List.mem_cons_self) with hc | hc
      · exact (by decide : ∀ c ∈ "lanes ".toList, (c == '@') = false ∧ (c == 'r') = false) c hc
      · constructor <;> rw [beq_eq_false_iff_ne] <;> rintro rfl <;> cases hc
    have hnumber {kind : Scanner Unit} (hk : kind ∈ [timeThenRest, duration, clock])
        (ho : OpensWith isDecimal kind) : Fails (c :: t ++ ',' :: g) kind := by
      cases hc : isDecimal c with
      | true => exact number_fails (l.isListed_of_suffix ht hc) g hk
      | false => exact ho.fails (by simpa using hc)
    simp only [List.mem_cons, List.not_mem_nil, or_false] at h
    rcases h with rfl | rfl | rfl | rfl
    · exact restAt_opens.fails (by simpa using hsign.1)
    · refine Fails.oneOf (List.forall_mem_cons.2 ⟨?_, List.forall_mem_singleton.2 ?_⟩)
      · exact restThenTime_opens.fails (by simpa using hsign.2)
      · exact hnumber (by simp) timeThenRest_opens
    · exact hnumber (by simp) duration_opens
    · exact hnumber (by simp) clock_opens

/-- The list is made a space, and the comma behind it stays. -/
theorem blankOut_lanes (g : Text) :
    lanes.blankOut (l.text ++ ',' :: g) = [' ', ','] ++ lanes.blankOut g := by
  obtain ⟨q, hread⟩ := l.lanes_reads g
  have htext : l.text = 'l' :: ("anes".toList ++ ' ' :: l.numbers) := by simp [text]
  rw [htext] at hread ⊢
  rw [blankOut, List.cons_append, blankFrom_of_reads hread, blankFrom, lanes_opens.fails rfl]
  dsimp only
  rw [blankFrom_afresh (startsAfresh_of_mem_kinds (by simp [kinds])) (by decide)]
  rfl

/-- **The list is blanked out**, and what stands behind the comma as it is without the list. -/
theorem blankAll_text (g : Text) :
    blankAll kinds (l.text ++ ',' :: g) = ' ' :: ',' :: blankAll kinds g := by
  have hsplit (t : Text) : blankAll kinds t =
      note.blankOut (lanes.blankOut (blankAll [restAt, restWorded, duration, clock] t)) := rfl
  have hfirst (g : Text) : blankAll [restAt, restWorded, duration, clock] (l.text ++ ',' :: g) =
      l.text ++ ',' :: blankAll [restAt, restWorded, duration, clock] g := by
    have := blankAll_behind (by simp [kinds] : [restAt, restWorded, duration, clock] ⊆ kinds)
      (u := l.text ++ [',']) (by simp; decide) (fun k hk => l.failsThrough hk) g
    simpa only [List.append_assoc, List.cons_append, List.nil_append] using this
  have hlast (g : Text) : note.blankOut ([' ', ','] ++ g) = [' ', ','] ++ note.blankOut g := by
    refine blankOut_behind (startsAfresh_of_mem_kinds (by simp [kinds])) (by decide) ?_
    exact note_opens.failsThrough (by decide) g
  rw [hsplit, hfirst, blankOut_lanes, hlast, ← hsplit]
  rfl

/-- **Only a comma is left of a list of lanes.** -/
theorem strip {n : Text} (hn : n.head?.any isBlank = false) :
    stripAsides (l.text ++ ',' :: Text.gap n) = ',' :: Text.gap (stripAsides n) := by
  rw [stripAsides_eq, l.blankAll_text, Text.collapse_space_cons (by decide)]
  cases n with
  | nil => rfl
  | cons c r =>
    have hc : isBlank c = false := by simpa using hn
    rw [Text.gap_cons hc]
    have hblank := blankAll_blank_append (b := [' ']) (by simp [isBlank]) (c :: r)
    rw [List.singleton_append] at hblank
    rw [hblank, List.singleton_append, Text.squeeze, if_pos (show isBlank ' ' = true from rfl),
      Text.gap_squeeze, stripAsides_eq]

/-! ### A line behind it -/

/-- The list before a line, with a comma between. -/
def before (raw : Text) : Text := l.text ++ ',' :: ' ' :: raw

theorem isKept_of_mem {c : Char} (hc : c ∈ l.text) : isKept c = true := by
  rcases l.mem_text hc with hc | hc
  · exact (by decide : ∀ c ∈ "lanes ".toList, isKept c = true) c hc
  · rcases Bool.or_eq_true_iff.1 hc with hc | hc
    · exact forall_digit (p := isKept) (by decide) hc
    · have hall : ∀ c ∈ ['-', '/', '&', ' ', 'a', 'n', 'd', 't', 'o'], isKept c = true := by decide
      exact hall c (by simpa using hc)

theorem normalize_before [Speller] (raw : Text) :
    normalize (l.before raw) = l.text ++ ',' :: Text.gap (normalize raw) := by
  refine normalize_prepend (by simp [text, isBlank]) (fun t => ?_) (fun c => l.isKept_of_mem) raw
  rw [l.squeeze, Text.squeeze]
  rfl

/-- No word that is looked for is in the list or goes on across the comma, but for the drill. -/
theorem word_failsThrough {w : Text} (hw : w ∈ lookedFor) (hne : w ≠ threes) (g : Text) :
    FailsThrough (l.text ++ [',']) g (word w) := by
  obtain ⟨hhead, hcomma⟩ := head_of_mem_lookedFor hw
  exact failsThrough_comma hhead hcomma (by simp) (.inr rfl)
    (not_infix_of_isChain l.isChain hw hne) g

theorem sameWords (n : Text) : SameWords (l.text ++ ',' :: Text.gap n) n := by
  have hne : ∀ w ∈ SameWords.words, w ≠ threes := by decide +kernel
  have hlist : SameWords ((l.text ++ [',']) ++ Text.gap n) (Text.gap n) :=
    sameWords_behind (by simp; decide) fun w hw =>
      l.word_failsThrough (List.mem_append_left _ hw) (hne w hw) _
  obtain ⟨b, hb, hgap⟩ := Text.exists_gap n
  rw [hgap, List.append_assoc] at hlist
  rw [hgap]
  exact hlist.trans (sameWords_blank hb n)

/-- The drill that is written in digits is named in the list or behind it. -/
theorem isIn_threes (g : Text) : Keyword.isIn threes (l.text ++ ',' :: g) =
    (Keyword.isIn threes l.text || Keyword.isIn threes g) := by
  have hfind := Keyword.find_across (by decide : isWordChar ',' = false)
    (by decide : ',' ∉ threes) l.text g
  rw [Keyword.isIn, hfind, Keyword.isIn, Keyword.isIn]
  cases Keyword.find threes l.text with
  | nil => rw [List.nil_append, List.isEmpty_map]; rfl
  | cons => rfl

/-- The activity is that of the line, or the drill that the list spells. -/
theorem activityOf_before (n : Text) : activityOf (l.text ++ ',' :: Text.gap n) =
    if Keyword.isIn threes l.text then some .drill else activityOf n := by
  split_ifs with h
  · have hdrill : (drillWords.any fun w => Keyword.isIn w (l.text ++ ',' :: Text.gap n)) = true :=
      List.any_eq_true.2 ⟨threes, by decide, by rw [l.isIn_threes, h]; rfl⟩
    rw [activityOf, if_pos hdrill]
  · have hlist : activityOf (l.text ++ ',' :: Text.gap n) = activityOf (Text.gap n) := by
      refine activityOf_congr fun w hw => ?_
      by_cases hne : w = threes
      · rw [hne, l.isIn_threes, Bool.eq_false_iff.2 h, Bool.false_or]
      · have := Keyword.find_behind (by simp; decide)
          (l.word_failsThrough (List.mem_append_right _ hw) hne (Text.gap n))
        rw [List.append_assoc] at this
        exact Keyword.isIn_eq_of_find this
    obtain ⟨b, hb, hgap⟩ := Text.exists_gap n
    rw [hlist, hgap, activityOf_blank hb]

/-- The line reads alike behind the list: a comma is left before its numbers. -/
theorem alike [Speller] (raw : Text) : (LineView.of (l.before raw)).Alike (LineView.of raw) := by
  refine ⟨?_, ?_⟩
  · rw [LineView.normalized_of, LineView.normalized_of, l.normalize_before]
    exact l.sameWords _
  · have hhead : (normalize raw).head?.any isBlank = false := Text.head_collapse _
    obtain ⟨b, hb, hgap⟩ := Text.exists_gap (stripAsides (normalize raw))
    refine ⟨',' :: b, ?_, ?_⟩
    · exact List.forall_mem_cons.2 ⟨.inl rfl, fun x hx => .inr (hb x hx)⟩
    · rw [LineView.measurable_of, LineView.measurable_of, l.normalize_before, l.strip hhead, hgap,
        List.cons_append]

theorem content_before (raw : Text) : LineKind.of (l.before raw) = .content :=
  content_of_mem (c := 'l') (by simp [before, text]) (by decide) (by decide)

/-- The list makes a drill of the line: it spells the name of one, the line names none, and the rule
that decides the line takes the activity from it. -/
def MakesDrill [Speller] (D : Type) [Metres D] (raw : Text) : Prop :=
  Keyword.isIn threes l.text = true ∧ activityOf (normalize raw) ≠ some .drill ∧
    (LineView.of raw).readsActivity D = true

section

variable [Speller] {D : Type} [Metres D] {raw : Text} (content : LineKind.of raw = .content)
  (number : Nat) (previous : List (ParsedLine D))
include content

/-- **A line comes to the same behind a list of lanes** that makes no drill of it. -/
theorem parseLine_before (h : ¬ l.MakesDrill D raw) :
    parseLine number (l.before raw) previous =
      (parseLine number raw previous).labelled number (l.before raw) := by
  have hactivity := l.activityOf_before (normalize raw)
  rw [← l.normalize_before] at hactivity
  by_cases hthrees : Keyword.isIn threes l.text = true
  · rw [if_pos hthrees] at hactivity
    by_cases hdrill : activityOf (normalize raw) = some .drill
    · exact parseLine_alike (l.content_before raw) content (l.alike raw) number previous
        (hactivity.trans hdrill.symm)
    · have hreads : ¬ (LineView.of raw).readsActivity D = true := fun hreads =>
        h ⟨hthrees, hdrill, hreads⟩
      rw [parseLine_activity (l.content_before raw) content (l.alike raw) number previous hactivity,
        if_neg hreads]
  · rw [if_neg hthrees] at hactivity
    exact parseLine_alike (l.content_before raw) content (l.alike raw) number previous hactivity

/-- **Behind a list that makes a drill of it** all that the line contributes is drill, and without
the list none of it is. -/
theorem parseLine_before_drill (h : l.MakesDrill D raw) :
    parseLine number (l.before raw) previous =
        ((parseLine number raw previous).withActivity .drill).labelled number (l.before raw) ∧
      (parseLine number raw previous).contributions ≠ [] ∧
      ∀ c ∈ (parseLine number raw previous).contributions, c.activity ≠ .drill := by
  obtain ⟨hthrees, hdrill, hreads⟩ := h
  have hactivity := l.activityOf_before (normalize raw)
  rw [← l.normalize_before, if_pos hthrees] at hactivity
  obtain ⟨hne, hall⟩ := contributions_of_readsActivity content number previous hreads
  refine ⟨?_, hne, fun c hc => ?_⟩
  · rw [parseLine_activity (l.content_before raw) content (l.alike raw) number previous hactivity,
      if_pos hreads]
  · rw [hall c hc]
    cases hnamed : activityOf (normalize raw) with
    | none => decide
    | some a =>
      rintro rfl
      exact hdrill hnamed

end

end LaneList

end SwimSets
