import SwimSets.Text.Class

/-!
# Scanners

A scanner reads a piece of text at a place and moves on, or fails and moves nowhere.

**The place** (`Cursor`). What a scanner may look at: the character just before it, and the
characters after it. A text is scanned from `Cursor.start`, which has nothing before it.

**The scanner** (`Scanner`). A function from a cursor to a value and the cursor after what was
read. Runs are greedy, and an alternative that has succeeded is kept: no scanner of this library
needs to give characters back, because no run can end in a character that the next part starts
with.
-/

namespace SwimSets

/-- A place in a text: the character before it, if any, and all that comes after it. -/
structure Cursor where
  prev : Option Char
  rest : Text
  deriving DecidableEq, Repr

namespace Cursor

/-- The place before the first character of a text. -/
def start (t : Text) : Cursor := ⟨none, t⟩

/-- The place `n` characters further on. -/
def advance (c : Cursor) (n : Nat) : Cursor :=
  ⟨(c.rest.take n).getLast?.or c.prev, c.rest.drop n⟩

/-- A word starts or ends here: one neighbour is a word character and the other is not. -/
def atWordEdge (c : Cursor) : Bool := c.prev.any isWordChar != c.rest.head?.any isWordChar

end Cursor

/-- A reader of text at a cursor. -/
abbrev Scanner (α : Type) := StateT Cursor Option α

namespace Scanner

variable {α β : Type}

/-- Succeeds, without reading, where a word starts or ends. -/
def wordEdge : Scanner Unit := fun c => if c.atWordEdge then some ((), c) else none

/-- Succeeds, without reading, at the end of the text. -/
def atEnd : Scanner Unit := fun c => if c.rest.isEmpty then some ((), c) else none

/-- Reads one character that satisfies `p`. -/
def one (p : Char → Bool) : Scanner Unit := fun c =>
  match c.rest with
  | [] => none
  | x :: r => if p x then some ((), ⟨some x, r⟩) else none

/-- Reads the longest run, perhaps empty, of characters that satisfy `p`. -/
def skip (p : Char → Bool) : Scanner Unit := fun c =>
  some ((), c.advance (c.rest.takeWhile p).length)

/-- Reads the longest run of characters that satisfy `p`, at least one. -/
def run (p : Char → Bool) : Scanner Text := fun c =>
  let u := c.rest.takeWhile p
  if u.isEmpty then none else some (u, c.advance u.length)

/-- Reads exactly the text `w`. -/
def word (w : Text) : Scanner Unit := fun c =>
  if w.isPrefixOf c.rest then some ((), c.advance w.length) else none

/-- Reads as `s` does, or nothing where `s` fails. -/
def maybe (s : Scanner α) : Scanner Unit := fun c =>
  match s c with
  | some (_, d) => some ((), d)
  | none => some ((), c)

/-- The first of the scanners that succeeds. -/
def oneOf : List (Scanner α) → Scanner α
  | [] => fun _ => none
  | s :: ss => fun c =>
    match s c with
    | some r => some r
    | none => oneOf ss c

/-- Reads the first of the texts that stands here. -/
def anyWord (ws : List Text) : Scanner Unit := oneOf (ws.map word)

/-- Succeeds, without reading, where `s` fails. -/
def notHere (s : Scanner α) : Scanner Unit := fun c =>
  match s c with
  | some _ => none
  | none => some ((), c)

/-- Reads `s` at most `n` times, as often as it succeeds. -/
def upTo (s : Scanner Unit) : Nat → Scanner Unit
  | 0 => pure ()
  | n + 1 => fun c =>
    match s c with
    | some (_, d) => upTo s n d
    | none => some ((), c)

/-- Reads `s` as often as it succeeds, for a scanner that never reads nothing. -/
def many (s : Scanner Unit) : Scanner Unit := fun c => upTo s c.rest.length c

/-! ## Parts that every measure shares -/

/-- A run of decimal digits. -/
def digits : Scanner Text := run isDecimal

/-- Blanks, perhaps none. -/
def blanks : Scanner Unit := skip isBlank

/-- At least one blank. -/
def blanks1 : Scanner Unit := do
  one isBlank
  blanks

/-- One of the texts, ending at a word edge; a text that stands here but does not end at an edge
is passed over for the next. -/
def wholeWord (ws : List Text) : Scanner Unit :=
  oneOf (ws.map fun w => do word w; wordEdge)

end Scanner

end SwimSets
