import Mathlib.Tactic.SplitIfs
import SwimSets.Session.Parse

/-!
# What can become of a line

`parseLine` tries its rules one after another. Here the ways in which it can end are listed once,
each with all that led to it, so that a property of every line is shown by one case for each.

**Readable lines** (`Readable`). Content that is no repeat, says nothing of odd or even lanes and
has no sets within sets.

**Measured lines** (`Measured`). A readable line with a distance. What becomes of it depends on its
text alone, not on the lines above it.

**Refusals** (`Refusal`). The reasons to refuse a line of content.

**Verdicts** (`Verdict`). The ends of the rules. The last three are the lines with a distance that
are understood.

Main result: `parseLine_verdict`.
-/

namespace SwimSets

variable {D : Type} [Metres D]

/-- The line is content, and of no kind that is refused or repeated unread. -/
structure Readable [Speller] (raw : Text) : Prop where
  content : LineKind.of raw = .content
  noRepeat : Repeat.isAsked (normalize raw) = false
  noLanes : laneConditional.occursIn (normalize raw) = false
  single : Distance.countMultipliers (LineView.of raw).measurable ≤ 1

/-- The line is readable and has a distance. -/
structure Measured [Speller] (raw : Text) (distance : Distance) : Prop extends Readable raw where
  read : Distance.read (LineView.of raw).measurable = some distance

/-- What the rules know of a line with the given distance. -/
def contextOf [Speller] (raw : Text) (distance : Distance) : LineContext :=
  LineContext.of (LineView.of raw) distance

theorem contextOf_measurable [Speller] (raw : Text) (distance : Distance) :
    (contextOf raw distance).measurable = (LineView.of raw).measurable := rfl

/-- The reasons to refuse a line of content, each with what led to it. -/
inductive Refusal [Speller] (raw : Text) (previous : List (ParsedLine D)) : UnparsedReason → Prop
  | noSource (asked : Repeat.isAsked (normalize raw) = true)
      (found : Repeat.resolve previous = none) : Refusal raw previous .noRepeatSource
  | lanes (noRepeat : Repeat.isAsked (normalize raw) = false)
      (lanes : laneConditional.occursIn (normalize raw) = true) :
      Refusal raw previous .laneConditional
  | nested (noRepeat : Repeat.isAsked (normalize raw) = false)
      (noLanes : laneConditional.occursIn (normalize raw) = false)
      (several : 1 < Distance.countMultipliers (LineView.of raw).measurable) :
      Refusal raw previous .nestedMultiplier
  | noDistance (readable : Readable raw)
      (found : Distance.read (LineView.of raw).measurable = none) :
      Refusal raw previous .noDistance
  | noParts (distance : Distance) (measured : Measured raw distance)
      (parts : Breakdown.read (D := D) (contextOf raw distance) = .noDistances)
      (found : Split.choose (D := D) (contextOf raw distance) = none) :
      Refusal raw previous .breakdownWithoutDistances

/-- The ends of the rules for a line, each with what led to it. -/
inductive Verdict [Speller] (number : Nat) (raw : Text) (previous : List (ParsedLine D)) :
    ParsedLine D → Prop
  | layout (reason : UnparsedReason) (kind : LineKind.of raw ≠ .content)
      (isLayout : reason.isLayout = true) :
      Verdict number raw previous (.refused number raw reason)
  | refused (reason : UnparsedReason) (content : LineKind.of raw = .content)
      (refusal : Refusal raw previous reason) :
      Verdict number raw previous (.refused number raw reason)
  | repeated (contributions : List (Contribution D)) (count : Nat)
      (content : LineKind.of raw = .content) (asked : Repeat.isAsked (normalize raw) = true)
      (found : Repeat.resolve previous = some (contributions, count)) :
      Verdict number raw previous (.accepted number raw contributions [.repeated count])
  | parts (distance : Distance) (contributions : List (Contribution D)) (warnings : List Warning)
      (measured : Measured raw distance)
      (found : Breakdown.read (contextOf raw distance) = .parts contributions warnings) :
      Verdict number raw previous (.accepted number raw contributions warnings)
  | split (distance : Distance) (way : Split) (contributions : List (Contribution D))
      (measured : Measured raw distance)
      (noParts : ∀ cs ws, Breakdown.read (D := D) (contextOf raw distance) ≠ .parts cs ws)
      (found : Split.choose (contextOf raw distance) = some (way, contributions)) :
      Verdict number raw previous (.accepted number raw contributions [])
  | plain (distance : Distance) (measured : Measured raw distance)
      (noParts : ∀ cs ws, Breakdown.read (D := D) (contextOf raw distance) ≠ .parts cs ws) :
      Verdict number raw previous (plainLine number raw (contextOf raw distance))

/-- No line of content is refused as layout. -/
theorem Refusal.not_layout [Speller] {raw : Text} {previous : List (ParsedLine D)}
    {reason : UnparsedReason} (h : Refusal raw previous reason) : reason.isLayout = false := by
  cases h <;> rfl

theorem parseMeasured_verdict [Speller] (number : Nat) {raw : Text} {distance : Distance}
    (measured : Measured raw distance) (previous : List (ParsedLine D)) :
    Verdict number raw previous (parseMeasured number raw (contextOf raw distance)) := by
  unfold parseMeasured
  cases hb : Breakdown.read (D := D) (contextOf raw distance) with
  | parts cs ws => exact .parts distance cs ws measured hb
  | noDistances =>
    cases hs : Split.choose (D := D) (contextOf raw distance) with
    | none => exact .refused _ measured.content (.noParts distance measured hb hs)
    | some found => exact .split distance found.1 found.2 measured (by simp [hb]) hs
  | notApplicable =>
    cases hs : Split.choose (D := D) (contextOf raw distance) with
    | none => exact .plain distance measured (by simp [hb])
    | some found => exact .split distance found.1 found.2 measured (by simp [hb]) hs

/-- **Every line ends in one of the verdicts.** -/
theorem parseLine_verdict [Speller] (number : Nat) (raw : Text) (previous : List (ParsedLine D)) :
    Verdict number raw previous (parseLine number raw previous) := by
  unfold parseLine
  cases hk : LineKind.of raw with
  | blank => exact .layout .blank (by simp [hk]) rfl
  | separator => exact .layout .separator (by simp [hk]) rfl
  | content =>
    simp only [parseContent]
    split_ifs with hr hl hm
    · cases hf : Repeat.resolve previous with
      | none => exact .refused _ hk (.noSource hr hf)
      | some found => exact .repeated found.1 found.2 hk hr hf
    · exact .refused _ hk (.lanes (Bool.eq_false_iff.2 hr) hl)
    · exact .refused _ hk (.nested (Bool.eq_false_iff.2 hr) (Bool.eq_false_iff.2 hl) hm)
    · have readable : Readable raw :=
        ⟨hk, Bool.eq_false_iff.2 hr, Bool.eq_false_iff.2 hl, Nat.le_of_not_lt hm⟩
      cases hd : Distance.read (LineView.of raw).measurable with
      | none => exact .refused _ hk (.noDistance readable hd)
      | some distance => exact parseMeasured_verdict number ⟨readable, hd⟩ previous

/-- A line of content that has a reason was refused for it. -/
theorem Verdict.refusal [Speller] {number : Nat} {raw : Text} {previous : List (ParsedLine D)}
    {l : ParsedLine D} (h : Verdict number raw previous l) (content : LineKind.of raw = .content)
    {reason : UnparsedReason} (why : l.reason = some reason) : Refusal raw previous reason := by
  cases h with
  | layout r kind => exact absurd content kind
  | refused r _ refusal =>
    obtain rfl : r = reason := Option.some.inj why
    exact refusal
  | repeated | parts | split | plain => cases why

/-- A line that is understood and asks for no repeat has a distance. -/
theorem Verdict.measured [Speller] {number : Nat} {raw : Text} {previous : List (ParsedLine D)}
    {l : ParsedLine D} (h : Verdict number raw previous l) (parsed : l.parsed = true)
    (noRepeat : Repeat.isAsked (normalize raw) = false) : ∃ distance, Measured raw distance := by
  cases h with
  | layout | refused => cases parsed
  | repeated cs n content asked => simp [asked] at noRepeat
  | parts distance _ _ measured | split distance _ _ measured | plain distance measured =>
    exact ⟨distance, measured⟩

end SwimSets
