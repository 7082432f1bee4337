import SwimSets.Toml.Format
import SwimSets.Toml.Reader

/-!
# Quoted text in TOML

**Reading.** A text stands between double quotes, with escapes, or between single quotes, as it
is; either kind of quote may be tripled for a text of several lines, and a newline directly after
the opening triple is not part of the text.

**Writing** (`quote`). A text is written between the first of the four kinds of quotes in which it
stands without an escape (`styleFor`), and with escapes between double quotes if there is none.
-/

namespace SwimSets.Toml

/-- The character that an escape stands for, read after its backslash. -/
def escaped : Reader Char
  | 'u' :: a :: b :: c :: d :: r => (charOfHex? [a, b, c, d]).map fun x => (x, r)
  | 'U' :: a :: b :: c :: d :: e :: f :: g :: h :: r =>
    (charOfHex? [a, b, c, d, e, f, g, h]).map fun x => (x, r)
  | c :: r => (shortEscape? c).map fun x => (x, r)
  | [] => none

/-- A character of a text between double quotes. -/
def basicChar : Reader Char := fun t =>
  match t with
  | '\\' :: r => escaped r
  | c :: r => if c != '"' && isPrintable c then some (c, r) else none
  | [] => none

/-- A newline, with or without a carriage return. -/
def newline : Reader Unit
  | '\n' :: r => some ((), r)
  | '\r' :: '\n' :: r => some ((), r)
  | _ => none

/-- A text of one line between double quotes. -/
def basicText : Reader Text := do
  Reader.exactly "\""
  let t ← Reader.many basicChar
  Reader.exactly "\""
  return t

/-- A text of one line between single quotes. -/
def literalText : Reader Text := do
  Reader.exactly "'"
  let t ← Reader.run fun c => c != '\'' && isPrintable c
  Reader.exactly "'"
  return t

/-- A backslash at the end of a line, with all blanks and newlines after it. -/
def lineJoin : Reader Text := do
  Reader.exactly "\\"
  let _ ← Reader.run fun c => c == ' ' || c == '\t'
  newline
  let _ ← Reader.many
    (Reader.oneOf [newline, do let _ ← Reader.char fun c => c == ' ' || c == '\t'])
  return []

/-- Quotes, one or two, that do not close a text: the close comes after them, or something else
does. -/
def looseQuotes (q : Char) : Reader Text := fun t =>
  let run := (t.takeWhile (· == q)).length
  let loose := if 3 ≤ run then run - 3 else run
  if loose = 0 || 2 < loose then none else some (List.replicate loose q, t.drop loose)

/-- A piece of a text between triple double quotes. -/
def basicPiece : Reader Text :=
  Reader.oneOf [lineJoin, do return [← basicChar], do newline; return ['\n'], looseQuotes '"']

/-- A piece of a text between triple single quotes. -/
def literalPiece : Reader Text :=
  Reader.oneOf [do return [← Reader.char fun c => c != '\'' && isPrintable c],
    do newline; return ['\n'], looseQuotes '\'']

/-- A text of several lines between two marks. -/
def longText (mark : Text) (piece : Reader Text) : Reader Text := do
  Reader.exactly mark
  let _ ← Reader.maybe newline
  let ts ← Reader.many piece
  Reader.exactly mark
  return ts.flatten

/-- A text in quotes of any kind. -/
def quoted : Reader Text :=
  Reader.oneOf [longText "\"\"\"" basicPiece, longText "'''" literalPiece, basicText, literalText]

/-! ## Writing -/

/-- The four ways to quote a text: between double or single quotes, once or three times. -/
inductive QuoteStyle where
  /-- Double quotes, on one line. -/
  | basic
  /-- Single quotes, on one line. -/
  | literal
  /-- Three double quotes. -/
  | longBasic
  /-- Three single quotes. -/
  | longLiteral
  deriving DecidableEq, Repr

namespace QuoteStyle

/-- The quotes at each end. -/
def mark : QuoteStyle → Text
  | basic => "\"".toList
  | literal => "'".toList
  | longBasic => "\"\"\"".toList
  | longLiteral => "'''".toList

end QuoteStyle

/-- The length of the longest run of `q`, given the length of the run before the text and the
longest so far. -/
def longestRun (q : Char) (current longest : Nat) : Text → Nat
  | [] => max current longest
  | c :: r =>
    if c = q then longestRun q (current + 1) longest r
    else longestRun q 0 (max current longest) r

/-- A character that no quotes hold as it is: a control other than a tab or a newline. -/
def needsEscape (c : Char) : Bool := !(c == '\n' || isPrintable c)

/-- The quotes in which a text is written: the first in the order basic, literal, long basic and
long literal in which it stands without an escape, and otherwise basic ones, long ones for a text
of several lines. A tab is no reason to leave double quotes, although it is escaped there. -/
def styleFor (t : Text) : QuoteStyle :=
  let lines := t.contains '\n'
  let doubles := longestRun '"' 0 0 t
  let singles := longestRun '\'' 0 0 t
  if t.any needsEscape then (if lines then .longBasic else .basic)
  else if !t.contains '\\' && doubles = 0 && !lines then .basic
  else if singles = 0 && !lines then .literal
  else if !t.contains '\\' && doubles ≤ 2 then .longBasic
  else if singles ≤ 2 then .longLiteral
  else if lines then .longBasic
  else .basic

/-- A hexadecimal digit in upper case. -/
def hexUpper (n : Nat) : Char := if n < 10 then Char.ofNat (48 + n) else Char.ofNat (55 + n)

/-- A character other than a double quote between double quotes. A newline is kept between long
ones. -/
def escapeChar (long : Bool) (c : Char) : Text :=
  if c = '\n' then (if long then ['\n'] else ['\\', 'n'])
  else if c = '\t' then ['\\', 't']
  else if c = '\r' then ['\\', 'r']
  else if c.toNat = 8 then ['\\', 'b']
  else if c.toNat = 12 then ['\\', 'f']
  else if c = '\\' then ['\\', '\\']
  else if c.toNat < 32 || c.toNat = 127 then
    ['\\', 'u', '0', '0', hexUpper (c.toNat / 16), hexUpper (c.toNat % 16)]
  else [c]

/-- The text between double quotes. Long ones hold double quotes, but not three in a row: after
two that stand as they are the next is escaped. `seen` counts those directly before the text. -/
def escape (long : Bool) (seen : Nat) : Text → Text
  | [] => []
  | c :: r =>
    if c = '"' then
      if long && seen < 2 then '"' :: escape long (seen + 1) r
      else '\\' :: '"' :: escape long 0 r
    else escapeChar long c ++ escape long 0 r

/-- The text in quotes. A text of several lines starts on the line after them. -/
def quote (t : Text) : Text :=
  let style := styleFor t
  let first : Text := if t.contains '\n' then ['\n'] else []
  let body :=
    match style with
    | .basic => escape false 0 t
    | .literal => t
    | .longBasic => first ++ escape true 0 t
    | .longLiteral => first ++ t
  style.mark ++ body ++ style.mark

end SwimSets.Toml
