import SwimSets.Proofs.Alike
import SwimSets.Proofs.Asides

/-!
# Asides behind a line

**Tails** (`Tail`). An aside that normalizing keeps, and in which no word is found that is looked
for, may stand behind a line. If it is taken out of the numbers of the line, the line comes to the
same with it (`Tail.parseLine_behind`).

**Send-offs** (`SendOff`). A send-off time is a tail. It is made a space before anything else is
(`SendOff.strip`).

**Notes** (`Note`). A note in parentheses, without digits, is left by the other kinds of aside and
made a space at the end (`Note.strip`).
-/

namespace SwimSets

open Scanner Aside

/-! ## Numbers -/

/-- A number as it is written: one digit or more. -/
structure Numeral where
  digits : Text
  nonempty : digits ≠ []
  ascii : ∀ c ∈ digits, isAsciiDigit c = true

namespace Numeral

variable (n : Numeral)

/-- What holds of each digit holds of all in the number. -/
theorem forall_mem {p : Char → Bool} (h : digitCodes.all fun k => p (Char.ofNat k)) {c : Char}
    (hc : c ∈ n.digits) : p c = true := forall_digit h (n.ascii c hc)

theorem isDecimal {c : Char} (hc : c ∈ n.digits) : isDecimal c = true :=
  isDecimal_of_isAsciiDigit (n.ascii c hc)

theorem isKept {c : Char} (hc : c ∈ n.digits) : isKept c = true :=
  n.forall_mem (p := SwimSets.isKept) (by decide) hc

theorem not_isBlank {c : Char} (hc : c ∈ n.digits) : isBlank c = false := by
  simpa using n.forall_mem (p := fun c => !isBlank c) (by decide) hc

theorem not_isLettering {c : Char} (hc : c ∈ n.digits) : isLettering c = false := by
  simpa using n.forall_mem (p := fun c => !isLettering c) (by decide) hc

/-- The number and its first digit. -/
theorem head {p : Char → Bool} (h : digitCodes.all fun k => !p (Char.ofNat k)) (t : Text) :
    (n.digits ++ t).head?.any p = false := by
  obtain ⟨c, r, hn⟩ := List.exists_cons_of_ne_nil n.nonempty
  have hc : c ∈ n.digits := hn ▸ List.mem_cons_self
  simpa [hn] using n.forall_mem (p := fun c => !p c) h hc

theorem isChain {t : Text} (ht : t.IsChain Joined) : (n.digits ++ t).IsChain Joined := by
  refine isChain_append (isChain_of_not_lettering fun c => n.not_isLettering) ht (.inl ?_)
  exact (Option.any_eq_false _ _).2 fun c hc => n.not_isLettering (List.mem_of_getLast? hc)

/-- A space before a number stays. -/
theorem gap (t : Text) : Text.gap (n.digits ++ t) = ' ' :: (n.digits ++ t) := by
  obtain ⟨c, r, hcr⟩ := List.exists_cons_of_ne_nil n.nonempty
  rw [hcr]
  exact Text.gap_cons (n.not_isBlank (hcr ▸ List.mem_cons_self)) _

theorem squeeze (t : Text) : Text.squeeze (n.digits ++ t) = n.digits ++ Text.squeeze t :=
  Text.squeeze_append_of_nonblank (fun _ => n.not_isBlank) t

/-- A number is read whole where no further digit follows. -/
theorem read {t : Text} (ht : t.head?.any SwimSets.isDecimal = false) (q : Option Char) :
    Scanner.digits ⟨q, n.digits ++ t⟩ = some (n.digits, ⟨n.digits.getLast?.or q, t⟩) :=
  run_append n.nonempty (fun _ => n.isDecimal) ht q

end Numeral

/-! ## Behind a line -/

/-- An aside that may stand behind a line: it begins as asides do, normalizing keeps it, and no word
that is looked for can be found in it. -/
structure Tail (t : Text) : Prop where
  head : ∃ c ∈ ['@', 'r'], ∃ r, t = c :: r
  kept : ∀ x ∈ t, isKept x = true
  squeezed : Text.squeeze t = t
  joined : t.IsChain Joined
  noDash : '-' ∉ t

namespace Tail

variable {t raw : Text} (ht : Tail t)
include ht

theorem apart : Apart (' ' :: t) := by
  obtain ⟨c, hc, r, rfl⟩ := ht.head
  exact .of_space ((by decide : ∀ c ∈ ['@', 'r'], c ∈ ['@', '(', 'r']) c hc) r

theorem not_infix {w : Text} (hw : w ∈ lookedFor) : ¬ w <:+: ' ' :: t := by
  by_cases hne : w = threes
  · subst hne
    intro h
    have hmem : '-' ∈ ' ' :: t := h.subset (by decide)
    exact ht.noDash (by simpa using hmem)
  · refine not_infix_of_isChain ?_ hw hne
    exact isChain_append (l := [' ']) (by decide) ht.joined (.inl rfl)

/-- Normalizing the line with the aside behind it. Only where the line normalizes to nothing the
space before the aside is gone. -/
theorem normalize_behind [Speller] [Speller.KeepsAscii] (raw : Text) :
    normalize (raw ++ ' ' :: t) = Text.trimStart (normalize raw ++ ' ' :: t) := by
  obtain ⟨c, hc, r, rfl⟩ := ht.head
  have hblank : isBlank c = false := (by decide : ∀ c ∈ ['@', 'r'], isBlank c = false) c hc
  have hsq : Text.squeeze r = r := by
    have := ht.squeezed
    rw [Text.squeeze, hblank] at this
    exact (List.cons.inj this).2
  exact normalize_append raw hblank hsq (List.forall_mem_cons.2 ⟨rfl, ht.kept⟩)

theorem failsThrough {w : Text} (hw : w ∈ lookedFor) : FailsThrough (' ' :: t) [] (word w) :=
  failsThrough_of_not_infix (ht.not_infix hw)

/-- The line reads alike, if the aside is taken out of its numbers. -/
theorem alike [Speller] [Speller.KeepsAscii]
    (hstrip : stripAsides (normalize raw ++ ' ' :: t) = stripAsides (normalize raw)) :
    (LineView.of (raw ++ ' ' :: t)).Alike (LineView.of raw) := by
  refine ⟨?_, [], by simp [Commas], ?_⟩
  · rw [LineView.normalized_of, LineView.normalized_of, ht.normalize_behind]
    exact (sameWords_trimStart _).trans (sameWords_before ht.apart
      (fun w hw => ht.failsThrough (List.mem_append_left _ hw)) _)
  · rw [LineView.measurable_of, LineView.measurable_of, ht.normalize_behind, stripAsides_trimStart,
      hstrip, List.nil_append]

theorem activity [Speller] [Speller.KeepsAscii] (raw : Text) :
    activityOf (normalize (raw ++ ' ' :: t)) = activityOf (normalize raw) := by
  rw [ht.normalize_behind, activityOf_trimStart]
  exact activityOf_before ht.apart (fun w hw => ht.failsThrough (List.mem_append_right _ hw)) _

theorem content_behind (raw : Text) : LineKind.of (raw ++ ' ' :: t) = .content := by
  obtain ⟨c, hc, r, rfl⟩ := ht.head
  have hall : ∀ c ∈ ['@', 'r'], isBlank c = false ∧ isRule c = false := by decide
  exact content_of_mem (c := c) (by simp) (hall c hc).1 (hall c hc).2

/-- **A line comes to the same with an aside behind it**, if the aside is taken out of its
numbers. -/
theorem parseLine_behind [Speller] [Speller.KeepsAscii] {D : Type} [Metres D]
    (content : LineKind.of raw = .content)
    (hstrip : stripAsides (normalize raw ++ ' ' :: t) = stripAsides (normalize raw))
    (number : Nat) (previous : List (ParsedLine D)) :
    parseLine number (raw ++ ' ' :: t) previous =
      (parseLine number raw previous).labelled number (raw ++ ' ' :: t) :=
  parseLine_alike (ht.content_behind raw) content (ht.alike hstrip) number previous
    (ht.activity raw)

end Tail

/-! ## Send-offs -/

/-- A send-off time: minutes, and seconds of two digits. -/
structure SendOff where
  minutes : Numeral
  seconds : Numeral
  two_digits : seconds.digits.length = 2

namespace SendOff

variable (s : SendOff)

/-- The time as it is written, with its sign. -/
def text : Text := '@' :: (s.minutes.digits ++ ':' :: s.seconds.digits)

theorem mem_text {c : Char} (h : c ∈ s.text) :
    c = '@' ∨ c = ':' ∨ c ∈ s.minutes.digits ∨ c ∈ s.seconds.digits := by
  simp only [text, List.mem_cons, List.mem_append] at h
  tauto

theorem tail : Tail s.text := by
  have hkept : ∀ x ∈ s.text, isKept x = true ∧ isBlank x = false ∧ isLettering x = false ∧
      x ≠ '-' := by
    intro x hx
    have digit {n : Numeral} (h : x ∈ n.digits) : isKept x = true ∧ isBlank x = false ∧
        isLettering x = false ∧ x ≠ '-' := by
      refine ⟨n.isKept h, n.not_isBlank h, n.not_isLettering h, ?_⟩
      simpa using n.forall_mem (p := (· != '-')) (by decide) h
    rcases s.mem_text hx with rfl | rfl | h | h
    · decide
    · decide
    · exact digit h
    · exact digit h
  exact ⟨⟨'@', by decide, _, rfl⟩, fun x hx => (hkept x hx).1,
    Text.squeeze_of_nonblank fun x hx => (hkept x hx).2.1,
    isChain_of_not_lettering fun x hx => (hkept x hx).2.2.1, fun h => (hkept _ h).2.2.2 rfl⟩

theorem colonPair_reads (q : Option Char) :
    ∃ d, colonPair ⟨q, ':' :: s.seconds.digits⟩ = some ((), d) ∧ d.rest = [] := by
  obtain ⟨a, b, hab⟩ := List.length_eq_two.1 s.two_digits
  have ha : isDecimal a = true := s.seconds.isDecimal (by simp [hab])
  have hb : isDecimal b = true := s.seconds.isDecimal (by simp [hab])
  refine ⟨⟨some b, []⟩, ?_, rfl⟩
  rw [hab, colonPair, bind_of_some (one_cons rfl _ q), bind_of_some (one_cons ha _ _)]
  exact one_cons hb _ _

theorem restAt_reads (q : Option Char) :
    ∃ d, restAt ⟨q, s.text⟩ = some ((), d) ∧ d.rest = [] := by
  obtain ⟨⟨q', r⟩, hpair, rfl⟩ := s.colonPair_reads (s.minutes.digits.getLast?.or (some '@'))
  have htime : time ⟨some '@', s.minutes.digits ++ ':' :: s.seconds.digits⟩ =
      some ((), ⟨q', []⟩) := by
    rw [time, bind_of_some (s.minutes.read rfl _)]
    exact maybe_of_some hpair
  refine ⟨⟨q', []⟩, ?_, rfl⟩
  rw [restAt, text, bind_of_some (one_cons rfl _ q),
    bind_of_some (blanks_nothing (s.minutes.head (by decide) _) _),
    bind_of_some (maybe_of_fails (Fails.one (s.minutes.head (by decide) _)) _),
    bind_of_some (blanks_nothing (s.minutes.head (by decide) _) _), bind_of_some htime]
  exact maybe_of_fails (Fails.skip_bind
    (OpensWith.fails (.wholeWord (p := fun x => x == 's' || x == 'm') (by decide)) rfl)) q'

/-- The space before the send-off is left, and the send-off makes another. -/
theorem blankFrom_restAt (q : Option Char) : blankFrom restAt 0 q (' ' :: s.text) = [' ', ' '] := by
  obtain ⟨⟨q', r⟩, hread, rfl⟩ := s.restAt_reads (some ' ')
  have htext : s.text = '@' :: ((s.minutes.digits ++ ':' :: s.seconds.digits) ++ []) := by
    rw [List.append_nil, text]
  rw [blankFrom, restAt_opens.fails rfl q]
  rw [htext] at hread ⊢
  dsimp only
  rw [blankFrom_of_reads hread]
  rfl

theorem strip (t : Text) : stripAsides (t ++ ' ' :: s.text) = stripAsides t := by
  refine stripAsides_append [] restAt _ rfl (by simp) ?_
    (by decide : ∀ x ∈ [' ', ' '], isBlank x = true)
  show blankFrom restAt 0 none (t ++ ' ' :: s.text) = _
  rw [blankFrom_append (Nat.zero_le _) fun i _ => restAt_stopsAt s.tail.apart _,
    s.blankFrom_restAt]
  rfl

end SendOff

/-! ## Notes -/

/-- What may be noted in parentheses: ASCII without digits and parentheses. -/
structure Note where
  wording : Text
  ascii : ∀ c ∈ wording, c.toNat < 128
  no_digit : ∀ c ∈ wording, isAsciiDigit c = false
  no_parenthesis : ∀ c ∈ wording, c ≠ '(' ∧ c ≠ ')'

namespace Note

variable (n : Note)

/-- The note as it is written. -/
def text : Text := '(' :: (n.wording ++ [')'])

theorem apart : Apart (' ' :: n.text) := .of_space (by decide) _

theorem not_isDecimal {c : Char} (hc : c ∈ ' ' :: n.text) : isDecimal c = false := by
  simp only [text, List.mem_cons, List.mem_append, List.not_mem_nil, or_false] at hc
  rcases hc with rfl | rfl | hc | rfl
  · decide
  · decide
  · simp [SwimSets.isDecimal, n.ascii c hc, n.no_digit c hc]
  · decide

theorem note_reads (q : Option Char) : ∃ d, note ⟨q, n.text⟩ = some ((), d) ∧ d.rest = [] := by
  have hin : ∀ c ∈ n.wording, inNote c = true := fun c hc => by
    simp [inNote, n.no_digit c hc, n.no_parenthesis c hc]
  have hskip : skip inNote ⟨some '(', n.wording ++ [')']⟩ = some ((), ⟨_, [')']⟩) :=
    skip_append hin rfl _
  refine ⟨⟨some ')', []⟩, ?_, rfl⟩
  rw [note, text, bind_of_some (one_cons rfl _ q)]
  exact (bind_of_some hskip).trans (one_cons rfl _ _)

theorem blankFrom_note (q : Option Char) : blankFrom note 0 q (' ' :: n.text) = [' ', ' '] := by
  obtain ⟨⟨q', r⟩, hread, rfl⟩ := n.note_reads (some ' ')
  have htext : n.text = '(' :: ((n.wording ++ [')']) ++ []) := by rw [List.append_nil, text]
  rw [blankFrom, note_opens.fails rfl q]
  rw [htext] at hread ⊢
  dsimp only
  rw [blankFrom_of_reads hread]
  rfl

/-- **A note behind a text changes nothing of what is measured.** -/
theorem strip (t : Text) : stripAsides (t ++ ' ' :: n.text) = stripAsides t := by
  have hstops {kind : Scanner Unit} (h : kind ∈ kinds) : StopsAt (' ' :: n.text) kind :=
    stopsAt_of_mem_kinds n.apart (by simp [text, isBlank]) (by simp [text, inNote, isAsciiDigit]) h
  refine stripAsides_append kinds.dropLast note [] rfl
    (fun k hk u => ?_) ?_ (by decide : ∀ x ∈ [' ', ' '], isBlank x = true)
  · exact blankOut_before (hstops (List.dropLast_subset _ hk))
      ((needs_digit hk).failsThrough fun x => n.not_isDecimal) u
  · have hnote : StopsAt (' ' :: n.text) note := hstops (by simp [kinds])
    rw [blankOut, blankFrom_append (Nat.zero_le _) fun i _ => hnote _, n.blankFrom_note]
    rfl

end Note

end SwimSets
