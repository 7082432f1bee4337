import SwimSets.Proofs.Lanes
import SwimSets.Text.Spellings

/-!
# What is written around a set

Coaches write the lanes before a set and the send-off time behind it, and note the equipment in
parentheses. None of this changes what the set comes to (`asides_do_not_interfere`).

There is one exception. Words are looked for in the line with its asides, and the name of one drill
is written in digits. Lanes that are listed as "3-3-3" name that drill (`lanes_name_drill`). It
shows in the plain set and in the splits that take the activity from the line. A breakdown and a
split with an activity of its own are swum as they say, and a repeat as the lines above it.
-/

namespace SwimSets

/-- **Send-offs, lanes and notes do not interfere.** A line comes to the same with a send-off behind
it. It comes to the same with lanes before it, unless these make a drill of it; then it comes to the
same in drill, and none of it was drill without them. A note behind a text leaves the numbers as
they are. -/
theorem asides_do_not_interfere [Speller] [Speller.KeepsAscii] {D : Type} [Metres D] (number : Nat)
    {raw : Text} (content : LineKind.of raw = .content) (previous : List (ParsedLine D))
    (sendOff : SendOff) (lanes : LaneList) (note : Note) (t : Text) :
    parseLine number (raw ++ ' ' :: sendOff.text) previous =
        (parseLine number raw previous).labelled number (raw ++ ' ' :: sendOff.text) ∧
      (¬ lanes.MakesDrill D raw → parseLine number (lanes.before raw) previous =
        (parseLine number raw previous).labelled number (lanes.before raw)) ∧
      (lanes.MakesDrill D raw →
        parseLine number (lanes.before raw) previous =
            ((parseLine number raw previous).withActivity .drill).labelled number
              (lanes.before raw) ∧
          (parseLine number raw previous).contributions ≠ [] ∧
          ∀ c ∈ (parseLine number raw previous).contributions, c.activity ≠ .drill) ∧
      stripAsides (t ++ ' ' :: note.text) = stripAsides t :=
  ⟨sendOff.tail.parseLine_behind content (sendOff.strip _) number previous,
    lanes.parseLine_before content number previous,
    lanes.parseLine_before_drill content number previous, note.strip t⟩

/-- A set of hundreds, with the send-off, the lanes and the equipment, and a breakdown behind lanes
that spell the drill. -/
theorem asides_do_not_interfere_hundreds :
    let raw : Text := "4 x 100m fc"
    let parts : Text := "4 x 100m as 50m bk kick / 50m fc"
    let sendOff : SendOff := ⟨⟨"1", by decide, by decide⟩, ⟨"45", by decide, by decide⟩, rfl⟩
    let lanes : LaneList :=
      ⟨⟨"1", by decide, by decide⟩, [("-", ⟨"3", by decide, by decide⟩)], by decide⟩
    let threes : LaneList :=
      ⟨⟨"3", by decide, by decide⟩,
        [("-", ⟨"3", by decide, by decide⟩), ("-", ⟨"3", by decide, by decide⟩)], by decide⟩
    let note : Note := ⟨"fins", by decide, by decide, by decide⟩
    Speller.KeepsAscii ∧ LineKind.of raw = .content ∧ LineKind.of parts = .content ∧
      parseLine (D := Rat) 1 (raw ++ ' ' :: sendOff.text) [] =
        (parseLine 1 raw []).labelled 1 (raw ++ ' ' :: sendOff.text) ∧
      parseLine (D := Rat) 1 (lanes.before raw) [] =
        (parseLine 1 raw []).labelled 1 (lanes.before raw) ∧
      (parseLine (D := Rat) 1 (threes.before raw) []).contributions =
        [⟨.frontCrawl, .drill, 400⟩] ∧
      parseLine (D := Rat) 1 (threes.before parts) [] =
        (parseLine 1 parts []).labelled 1 (threes.before parts) ∧
      stripAsides (raw ++ ' ' :: note.text) = stripAsides raw := by
  intro raw parts sendOff lanes threes note
  have content : LineKind.of raw = .content := by decide +kernel
  have contentParts : LineKind.of parts = .content := by decide +kernel
  have hundreds := asides_do_not_interfere (D := Rat) 1 content [] sendOff lanes note raw
  have drill : threes.MakesDrill Rat raw :=
    ⟨by decide +kernel, by decide +kernel, by decide +kernel⟩
  have kept : ¬ threes.MakesDrill Rat parts := fun h => absurd h.2.2 (by decide +kernel)
  refine ⟨inferInstance, content, contentParts, hundreds.1,
    hundreds.2.1 fun h => absurd h.1 (by decide +kernel), ?_, ?_, hundreds.2.2.2⟩
  · rw [((asides_do_not_interfere (D := Rat) 1 content [] sendOff threes note raw).2.2.1 drill).1]
    decide +kernel
  · exact (asides_do_not_interfere (D := Rat) 1 contentParts [] sendOff threes note raw).2.1 kept

/-- Not all lanes leave the line as it is: three lanes may spell a drill. -/
theorem lanes_name_drill :
    ¬ ∀ (lanes : LaneList) (raw : Text), LineKind.of raw = .content →
      (parseLine (D := Rat) 1 (lanes.before raw) []).contributions =
        (parseLine 1 raw []).contributions := by
  intro h
  have := h ⟨⟨"3", by decide, by decide⟩, [("-", ⟨"3", by decide, by decide⟩),
    ("-", ⟨"3", by decide, by decide⟩)], by decide⟩ "400m fc" (by decide +kernel)
  exact absurd this (by decide +kernel)

end SwimSets
