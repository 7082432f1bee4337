import Mathlib.Tactic.SplitIfs
import SwimSets.Session.Parse

/-!
# What a line comes to depends on its views

Once a line is known to be content, its number and its wording are only put on the answer
(`parseContent_labelled`), and of the lines above it nothing counts but what a repeat would take
from them. So lines with the same views come to the same, wherever they stand.
-/

namespace SwimSets

variable {D : Type}

/-- What the line came to, with another number and wording put on it. -/
def ParsedLine.labelled (l : ParsedLine D) (number : Nat) (text : Text) : ParsedLine D :=
  { l with number, text }

variable [Metres D]

theorem parseMeasured_labelled (n m : Nat) (raw t : Text) (ctx : LineContext) :
    (parseMeasured (D := D) n raw ctx).labelled m t = parseMeasured m t ctx := by
  unfold parseMeasured
  cases Breakdown.read (D := D) ctx with
  | parts => rfl
  | noDistances => cases Split.choose (D := D) ctx <;> rfl
  | notApplicable => cases Split.choose (D := D) ctx <;> rfl

/-- Number and wording of a line are only put on what it comes to. -/
theorem parseContent_labelled (n m : Nat) (raw t : Text) (view : LineView)
    {p q : List (ParsedLine D)} (h : Repeat.resolve p = Repeat.resolve q) :
    (parseContent n raw view p).labelled m t = parseContent m t view q := by
  unfold parseContent
  split_ifs
  · rw [h]
    cases Repeat.resolve q <;> rfl
  · rfl
  · rfl
  · cases Distance.read view.measurable with
    | none => rfl
    | some d => exact parseMeasured_labelled n m raw t _

/-- A line that stands elsewhere comes to the same where a repeat would take the same from above. -/
theorem parseLine_labelled [Speller] (n m : Nat) (raw : Text) {p q : List (ParsedLine D)}
    (h : Repeat.resolve p = Repeat.resolve q) :
    (parseLine n raw p).labelled m raw = parseLine m raw q := by
  unfold parseLine
  cases LineKind.of raw with
  | blank | separator => rfl
  | content => exact parseContent_labelled n m raw raw _ h

end SwimSets
