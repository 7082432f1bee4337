import SwimSets.Text.Basic

/-!
# Reading TOML, piece by piece

A reader takes a piece off the front of a text, or fails. It looks at nothing before that piece,
so its state is the text still to be read.
-/

namespace SwimSets.Toml

/-- A reader of the front of a text. -/
abbrev Reader (α : Type) := StateT Text Option α

namespace Reader

variable {α : Type}

/-- The reader that fails. -/
def fail : Reader α := fun _ => none

/-- Reads one character that satisfies `p`. -/
def char (p : Char → Bool) : Reader Char
  | [] => none
  | c :: r => if p c then some (c, r) else none

/-- Reads exactly the text `w`. -/
def exactly (w : Text) : Reader Unit := fun t =>
  if w.isPrefixOf t then some ((), t.drop w.length) else none

/-- Reads the longest run, perhaps empty, of characters that satisfy `p`. -/
def run (p : Char → Bool) : Reader Text := fun t => some (t.takeWhile p, t.dropWhile p)

/-- The first of the readers that succeeds. -/
def oneOf : List (Reader α) → Reader α
  | [] => fail
  | s :: ss => fun t =>
    match s t with
    | some r => some r
    | none => oneOf ss t

/-- Reads as `s` does, or nothing where `s` fails. -/
def maybe (s : Reader α) : Reader (Option α) := fun t =>
  match s t with
  | some (a, r) => some (some a, r)
  | none => some (none, t)

/-- Succeeds at the end of the text. -/
def atEnd : Reader Unit := fun t => if t.isEmpty then some ((), t) else none

/-- Reads `s` as often as it succeeds, at most `n` times. -/
def upTo (s : Reader α) : Nat → Reader (List α)
  | 0 => pure []
  | n + 1 => fun t =>
    match s t with
    | none => some ([], t)
    | some (a, r) => (upTo s n r).map fun (as, u) => (a :: as, u)

/-- Reads `s` as often as it succeeds, for a reader that never reads nothing. -/
def many (s : Reader α) : Reader (List α) := fun t => upTo s t.length t

/-- Reads `s` exactly `n` times. -/
def exactTimes (s : Reader α) : Nat → Reader (List α)
  | 0 => pure []
  | n + 1 => do return (← s) :: (← exactTimes s n)

/-- One or more of `s`, with `sep` between each two. -/
def sepBy1 {β : Type} (sep : Reader β) (s : Reader α) : Reader (List α) := do
  return (← s) :: (← many (do let _ ← sep; s))

end Reader

end SwimSets.Toml
