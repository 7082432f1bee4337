import SwimSets.Proofs.Tails
import SwimSets.Text.Spellings

/-!
# A rest in words behind a line

**Rests** (`WordedRest`). The word "rest", a number and a unit of time right behind it. A rest is
read to its end (`WordedRest.restWorded_reads`), so nothing is left of it (`WordedRest.strip`), and
behind a line it changes nothing (`rest_behind_line`).

**Whose rest it is.** A rest may also be written behind its time, as in "20s rest". So a line that
ends in a time with a unit (`timeAtEnd`) takes the word "rest" for its own, and the number behind it
is left in the place of the time (`WordedRest.taken`). Fifties are written like seconds, and so the
sets that end in "50s" are lost to the rest (`rest_takes_fifties`).
-/

namespace SwimSets

open Scanner Aside

/-! ## A time at the end of a text -/

/-- A time with a unit of time. -/
def timed : Scanner Unit := do
  wordEdge
  time
  blanks
  anyWord timeUnits

/-- A time with a unit, and behind it nothing but blanks. -/
def timeAtEnd : Scanner Unit := do
  timed
  blanks
  atEnd

theorem timeThenRest_eq : timeThenRest = (do timed; blanks1; word "rest"; wordEdge) := by
  simp only [timeThenRest, timed, bind_assoc]

theorem timed_stopsAt {v : Text} (hv : Apart v) : StopsAt v timed := by
  refine .bind (.wordEdge hv.edge) fun _ => .bind (time_stopsAt hv) fun _ => ?_
  exact hv.blanks_bind (p := fun x => x == 's' || x == 'm') (hv.anyWord (by decide))
    (.anyWord (by decide)) (by decide)

/-- A rest behind its time is read as it is without more text behind it, unless the text ends in a
time. -/
theorem timeThenRest_alikeAt {v : Text} (hv : Apart v) {c : Cursor} (hc : timeAtEnd c = none) :
    AlikeAt v timeThenRest c := by
  rw [timeThenRest_eq]
  refine (timed_stopsAt hv c).bind fun _ d hd => AlikeAt.blanks1_bind ?_ fun hall => ?_
  · exact .bind (hv.word (by decide)) fun _ => .wordEdge hv.edge
  · -- Behind the time are only blanks, so it stands at the end.
    have hrest : (d.advance d.rest.length).rest = [] := List.drop_length
    have hend : (do blanks; atEnd) d = some ((), d.advance d.rest.length) := by
      show atEnd (d.advance (d.rest.takeWhile isBlank).length) = _
      rw [List.takeWhile_eq_self_iff.2 hall, atEnd, hrest]
      rfl
    rw [timeAtEnd, bind_of_some hd, hend] at hc
    cases hc

/-! ## The word -/

theorem timed_forward : Forward timed := by
  have htime : Forward time := .bind (.run _) fun _ =>
    .maybe (.bind (.one _) fun _ => .bind (.one _) fun _ => .one _)
  exact .bind .wordEdge fun _ => .bind htime fun _ => .bind (.skip _) fun _ => .anyWord _

/-- No rest is read where the word does not stand. -/
theorem restThenTime_of_not_prefix {c : Cursor} (h : ¬ "rest".toList <+: c.rest) :
    restThenTime c = none :=
  Fails.wordEdge_bind (t := c.rest) (.bind (.word h) _) c.prev

theorem timeThenRest_of_not_infix {c : Cursor} (h : ¬ "rest".toList <:+: c.rest) :
    timeThenRest c = none := by
  rw [timeThenRest_eq]
  cases hc : (do timed; blanks1; word "rest"; wordEdge : Scanner Unit) c with
  | none => rfl
  | some r =>
    obtain ⟨_, g⟩ := r
    simp only [bind_eq_some, word_eq_some] at hc
    obtain ⟨_, d, hd, _, e, he, _, f, hf, -⟩ := hc
    obtain ⟨w, -, -, hw⟩ := blanks1_eq_some he
    refine absurd (List.IsInfix.trans ?_ (timed_forward c _ d hd).isInfix) h
    exact ⟨w, f.rest, by rw [hw.rest, hf.rest, List.append_assoc]⟩

theorem restWorded_of_not_infix {c : Cursor} (h : ¬ "rest".toList <:+: c.rest) :
    restWorded c = none := by
  simp only [restWorded, oneOf, restThenTime_of_not_prefix fun hp => h hp.isInfix,
    timeThenRest_of_not_infix h]

/-! ## Rests -/

/-- A rest: a number, and right behind it a unit of time. -/
structure WordedRest where
  number : Numeral
  unit : Text
  isUnit : unit ∈ timeUnits

namespace WordedRest

variable (r : WordedRest)

/-- The rest as it is written. -/
def text : Text := "rest".toList ++ ' ' :: (r.number.digits ++ r.unit)

/-- What holds of the word, of the digits and of the units holds of all in the rest. -/
theorem forall_mem {p : Char → Bool} (hrest : ∀ c ∈ "rest ".toList, p c = true)
    (hdigit : digitCodes.all fun k => p (Char.ofNat k))
    (hunit : ∀ u ∈ timeUnits, ∀ c ∈ u, p c = true) {c : Char} (hc : c ∈ r.text) : p c = true := by
  have htext : r.text = "rest ".toList ++ (r.number.digits ++ r.unit) := by simp [text]
  rw [htext, List.mem_append, List.mem_append] at hc
  rcases hc with hc | hc | hc
  · exact hrest c hc
  · exact r.number.forall_mem hdigit hc
  · exact hunit _ r.isUnit c hc

theorem squeezed : Text.squeeze r.text = r.text := by
  have hrest : ∀ c ∈ "rest".toList, isBlank c = false := by decide
  have hunit : ∀ u ∈ timeUnits, Text.squeeze u = u := by decide
  rw [text, Text.squeeze_append_of_nonblank hrest, Text.squeeze,
    if_pos (show isBlank ' ' = true from rfl), r.number.squeeze, hunit _ r.isUnit, r.number.gap]

theorem joined : r.text.IsChain Joined := by
  have hunit : ∀ u ∈ timeUnits, u.IsChain Joined := by decide
  refine isChain_append (v := ' ' :: (r.number.digits ++ r.unit)) (by decide) ?_ (.inr rfl)
  exact isChain_append (l := [' ']) (by decide) (r.number.isChain (hunit _ r.isUnit)) (.inl rfl)

theorem tail : Tail r.text where
  head := ⟨'r', by decide, _, rfl⟩
  kept := fun _ => r.forall_mem (by decide) (by decide) (by decide)
  squeezed := r.squeezed
  joined := r.joined
  noDash := fun h => by
    have := r.forall_mem (p := (· != '-')) (by decide) (by decide) (by decide) h
    simp at this

/-! ### Reading them -/

/-- A unit of time that ends a text is read to its end. -/
theorem wholeWord_reads {u : Text} (hu : u ∈ timeUnits) (q : Option Char) :
    ∃ d, wholeWord timeUnits ⟨q, u⟩ = some ((), d) ∧ d.rest = [] := by
  have hahead : LooksAhead (wholeWord timeUnits) := by
    refine .oneOf fun s hs => ?_
    obtain ⟨w, hw, rfl⟩ := List.mem_map.1 hs
    exact .bind (.word ((by decide : ∀ w ∈ timeUnits, w ≠ []) w hw)) _
  have hall : ∀ u ∈ timeUnits, wholeWord timeUnits ⟨none, u⟩ =
      some ((), ⟨u.getLast?, []⟩) := by decide +kernel
  exact ⟨_, (hahead q u).trans (hall u hu), rfl⟩

theorem restWorded_reads :
    ∃ d, restWorded ⟨some ' ', r.text⟩ = some ((), d) ∧ d.rest = [] := by
  have hdecimal : r.unit.head?.any isDecimal = false :=
    (by decide : ∀ u ∈ timeUnits, u.head?.any isDecimal = false) _ r.isUnit
  have hcolon : Fails r.unit colonPair :=
    OpensWith.fails (p := (· == ':')) (.bind (.one _) _)
      ((by decide : ∀ u ∈ timeUnits, u.head?.any (· == ':') = false) _ r.isUnit)
  have hblank : r.unit.head?.any isBlank = false :=
    (by decide : ∀ u ∈ timeUnits, u.head?.any isBlank = false) _ r.isUnit
  obtain ⟨d, hunit, hd⟩ := wholeWord_reads r.isUnit (r.number.digits.getLast?.or (some ' '))
  have htime : time ⟨some ' ', r.number.digits ++ r.unit⟩ =
      some ((), ⟨r.number.digits.getLast?.or (some ' '), r.unit⟩) := by
    rw [time, bind_of_some (r.number.read hdecimal _)]
    exact maybe_of_fails hcolon _
  have hread : restThenTime ⟨some ' ', r.text⟩ = some ((), d) := by
    rw [restThenTime, text, bind_of_some (wordEdge_eq_some (u := ()).2 ⟨rfl, rfl⟩),
      bind_of_some (word_append _ _ _), bind_of_some (blanks_space (r.number.head (by decide) _) _),
      bind_of_some (maybe_of_fails (Fails.one (r.number.head (by decide) _)) _),
      bind_of_some (blanks_nothing (r.number.head (by decide) _) _), bind_of_some htime]
    exact maybe_of_some ((bind_of_some (blanks_nothing hblank _)).trans hunit)
  refine ⟨d, ?_, hd⟩
  simp only [restWorded, oneOf, hread]

/-- The space before the rest is left, and the rest makes another. -/
theorem blankFrom_restWorded {q : Option Char} :
    blankFrom restWorded 0 q (' ' :: r.text) = [' ', ' '] := by
  obtain ⟨⟨q', t⟩, hread, rfl⟩ := r.restWorded_reads
  have htext : r.text = 'r' :: (("est".toList ++ ' ' :: (r.number.digits ++ r.unit)) ++ []) := by
    rw [List.append_nil]
    rfl
  rw [blankFrom, restWorded_opens.fails rfl q]
  rw [htext] at hread ⊢
  dsimp only
  rw [blankFrom_of_reads hread]
  rfl

/-- **A rest behind a text is taken out**, unless the text ends in a time. -/
theorem strip {t : Text} (ht : timeAtEnd.occursIn (restAt.blankOut t) = false) :
    stripAsides (t ++ ' ' :: r.text) = stripAsides t := by
  have hv : Apart (' ' :: r.text) := r.tail.apart
  have hsign : ∀ c ∈ ' ' :: r.text, (c == '@') = false := by
    refine List.forall_mem_cons.2 ⟨rfl, fun c hc => ?_⟩
    simpa using r.forall_mem (p := (· != '@')) (by decide) (by decide) (by decide) hc
  refine stripAsides_append [restAt] restWorded _ rfl (List.forall_mem_singleton.2 fun u => ?_) ?_
    (by decide : ∀ x ∈ [' ', ' '], isBlank x = true)
  · exact blankOut_before (restAt_stopsAt hv) (restAt_opens.failsThrough hsign []) u
  · show blankFrom restWorded 0 none (restAt.blankOut t ++ ' ' :: r.text) = _
    rw [blankFrom_append (Nat.zero_le _) fun i hi => ?_, r.blankFrom_restWorded]
    · rfl
    · rw [advance_start]
      exact (restThenTime_stopsAt hv _).either
        (timeThenRest_alikeAt hv (eq_none_of_not_occursIn ht hi))

/-! ### Whose rest it is -/

/-- The number and the unit of the rest, with the space before them. -/
def amount : Text := ' ' :: (r.number.digits ++ r.unit)

theorem text_eq : r.text = "rest".toList ++ r.amount := rfl

/-- Nothing is read as a rest in the number and unit alone. -/
theorem amount_failsThrough : FailsThrough r.amount [] restWorded := by
  have hno : 'r' ∉ r.amount := by
    intro h
    rcases List.mem_append.1 ((List.mem_cons.1 h).resolve_left (by decide)) with h | h
    · simpa using r.number.forall_mem (p := (· != 'r')) (by decide) h
    · exact (by decide : ∀ u ∈ timeUnits, 'r' ∉ u) _ r.isUnit h
  intro b hb _ q
  refine restWorded_of_not_infix fun hin => hno ?_
  rw [List.append_nil] at hin
  exact hb.subset (hin.subset (by decide))

/-- At a time that ends the text, it is read together with the word "rest" behind it. -/
theorem restWorded_takes {c e : Cursor} (hc : timeAtEnd c = some ((), e))
    (hno : ¬ "rest".toList <:+: c.rest) :
    ∃ q, restWorded (c.before (' ' :: r.text)) = some ((), ⟨q, r.amount⟩) := by
  have hv : Apart (' ' :: r.text) := r.tail.apart
  have hfirst : restThenTime (c.before (' ' :: r.text)) = none := by
    rw [(restThenTime_stopsAt hv c).eq, restThenTime_of_not_prefix fun hp => hno hp.isInfix]
    rfl
  simp only [timeAtEnd, bind_eq_some, blanks, skip_eq_some, atEnd_eq_some] at hc
  obtain ⟨_, d, htimed, _, f, ⟨w, hw, hwd, -⟩, hend, -⟩ := hc
  have hd : d.rest = w := by rw [hwd.rest, hend, List.append_nil]
  have htimed' : timed (c.before (' ' :: r.text)) = some ((), d.before (' ' :: r.text)) := by
    rw [(timed_stopsAt hv c).eq, htimed]
    rfl
  obtain ⟨q, hblanks⟩ : ∃ q, blanks1 (d.before (' ' :: r.text)) = some ((), ⟨q, r.text⟩) := by
    have hsplit : d.rest ++ ' ' :: r.text = (w ++ [' ']) ++ r.text := by simp [hd]
    have hall : ∀ x ∈ w ++ [' '], isBlank x = true :=
      List.forall_mem_append.2 ⟨hw, List.forall_mem_singleton.2 rfl⟩
    rw [Cursor.before, hsplit]
    exact blanks1_append (by simp) hall rfl d.prev
  refine ⟨some 't', ?_⟩
  have hsecond : timeThenRest (c.before (' ' :: r.text)) = some ((), ⟨some 't', r.amount⟩) := by
    rw [timeThenRest_eq, bind_of_some htimed', bind_of_some hblanks, text_eq,
      bind_of_some (word_append _ _ q)]
    rfl
  simp only [restWorded, oneOf, hfirst, hsecond]

theorem blankFrom_taken {u : Text} {q : Option Char} (hno : ¬ "rest".toList <:+: u)
    (hu : ∃ i < u.length, timeAtEnd (Cursor.advance ⟨q, u⟩ i) ≠ none) :
    ∃ a b, u = a ++ b ∧ timeAtEnd ⟨a.getLast?.or q, b⟩ ≠ none ∧
      blankFrom restWorded 0 q (u ++ ' ' :: r.text) = a ++ ' ' :: r.amount := by
  induction u generalizing q with
  | nil =>
    obtain ⟨i, hi, -⟩ := hu
    cases hi
  | cons x u ih =>
    cases hx : timeAtEnd ⟨q, x :: u⟩ with
    | some e =>
      -- Here the time begins, and the amount is left behind the word.
      obtain ⟨q', hread⟩ := r.restWorded_takes hx hno
      have hsplit : (x :: u) ++ ' ' :: r.text = x :: ((u ++ " rest".toList) ++ r.amount) := by
        simp [text_eq]
      have hleft := blankFrom_of_failsThrough r.amount_failsThrough
        ((x :: (u ++ " rest".toList)).getLast?.or q)
      rw [List.append_nil, blankFrom, List.append_nil] at hleft
      rw [Cursor.before, hsplit] at hread
      refine ⟨[], x :: u, rfl, hx ▸ Option.some_ne_none e, ?_⟩
      rw [hsplit, blankFrom_of_reads hread, hleft, List.nil_append]
    | none =>
      have hfails : restWorded ⟨q, x :: (u ++ ' ' :: r.text)⟩ = none := by
        have h := ((restThenTime_stopsAt r.tail.apart _).either
          (timeThenRest_alikeAt r.tail.apart hx)).eq
        exact h.trans (by rw [← restWorded, restWorded_of_not_infix hno]; rfl)
      obtain ⟨i, hi, hsome⟩ := hu
      obtain ⟨j, rfl⟩ : ∃ j, i = j + 1 := ⟨i - 1, by cases i with
        | zero => exact absurd hx hsome
        | succ j => rfl⟩
      rw [place_cons] at hsome
      obtain ⟨a, b, hab, hb, hrest⟩ := ih (fun h => hno (h.trans (List.suffix_cons x u).isInfix))
        ⟨j, by simpa using hi, hsome⟩
      refine ⟨x :: a, b, by rw [hab, List.cons_append], getLast?_cons_or q x a ▸ hb, ?_⟩
      rw [List.cons_append, blankFrom, hfails]
      dsimp only
      rw [hrest, List.cons_append]

/-- **A text that ends in a time takes the word "rest" for its own.** What comes before the time is
left, and so are the number and unit of the rest. -/
theorem taken {u : Text} (hno : ¬ "rest".toList <:+: u) (hu : timeAtEnd.occursIn u = true) :
    ∃ a b, u = a ++ b ∧ timeAtEnd ⟨a.getLast?, b⟩ ≠ none ∧
      restWorded.blankOut (u ++ ' ' :: r.text) = a ++ ' ' :: r.amount := by
  suffices h : ∃ i < u.length, timeAtEnd (Cursor.advance ⟨none, u⟩ i) ≠ none by
    simpa only [Option.or_none, blankOut] using r.blankFrom_taken hno h
  obtain ⟨h, hh⟩ : ∃ h, h ∈ timeAtEnd.hits u :=
    List.exists_mem_of_ne_nil _ (by simpa [occursIn] using hu)
  obtain ⟨d, hd, -⟩ := eq_some_of_mem_hits hh
  have hbound := mem_hits hh
  refine ⟨h.span.start, by omega, ?_⟩
  rw [advance_start, hd]
  exact Option.some_ne_none _

end WordedRest

/-! ## Lines -/

/-- **A rest behind a line does not change the set**, unless the line, send-offs aside, ends in a
time with a unit. -/
theorem rest_behind_line [Speller] [Speller.KeepsAscii] {D : Type} [Metres D] (number : Nat)
    {raw : Text} (content : LineKind.of raw = .content)
    (ending : timeAtEnd.occursIn (restAt.blankOut (normalize raw)) = false)
    (previous : List (ParsedLine D)) (rest : WordedRest) :
    parseLine number (raw ++ ' ' :: rest.text) previous =
      (parseLine number raw previous).labelled number (raw ++ ' ' :: rest.text) :=
  rest.tail.parseLine_behind content (rest.strip ending) number previous

theorem rest_behind_line_hundreds :
    let raw : Text := "4 x 100m fc"
    let rest : WordedRest := ⟨⟨"20", by decide, by decide⟩, "s", by decide⟩
    Speller.KeepsAscii ∧ LineKind.of raw = .content ∧
      timeAtEnd.occursIn (restAt.blankOut (normalize raw)) = false ∧
      parseLine (D := Rat) 1 (raw ++ ' ' :: rest.text) [] =
        (parseLine 1 raw []).labelled 1 (raw ++ ' ' :: rest.text) :=
  ⟨inferInstance, by decide +kernel, by decide +kernel,
    rest_behind_line 1 (by decide +kernel) (by decide +kernel) [] _⟩

/-- A set of fifties loses them to the rest: eight times the twenty seconds are left. -/
theorem rest_takes_fifties :
    let raw : Text := "fc 8 x 50s"
    let rest : WordedRest := ⟨⟨"20", by decide, by decide⟩, "s", by decide⟩
    LineKind.of raw = .content ∧ ¬ "rest".toList <:+: normalize raw ∧
      (parseLine (D := Rat) 1 raw []).contributions = [⟨.frontCrawl, .swim, 400⟩] ∧
      (parseLine (D := Rat) 1 (raw ++ ' ' :: rest.text) []).contributions =
        [⟨.frontCrawl, .swim, 160⟩] := by
  decide +kernel

end SwimSets
