/-!
# Text

A text is a list of characters. This module holds the blanks, the two ways of cutting a text
(into lines, and at separators), trimming, and the reduction of every run of blanks to one space.

**Blanks** (`isBlank`). The characters with the White_Space property. A zero-width space or a
byte order mark is not blank.

**Collapsing** (`collapse`). `squeeze` makes each run of blanks one space and drops a run at the
end; `collapse` also drops the space at the start. Both read the text from its end, so what they
do to `u ++ v` is fixed by `u` and the squeezed `v`.
-/

namespace SwimSets

/-- A text: its characters in order. -/
abbrev Text := List Char

instance : Coe String Text := ⟨String.toList⟩

/-- The characters with the White_Space property. -/
def isBlank (c : Char) : Bool :=
  let n := c.toNat
  (9 ≤ n && n ≤ 13) || n == 32 || n == 0x85 || n == 0xA0 || n == 0x1680 ||
    (0x2000 ≤ n && n ≤ 0x200A) || n == 0x2028 || n == 0x2029 || n == 0x202F || n == 0x205F ||
    n == 0x3000

/-- A control character. -/
def isControl (c : Char) : Bool := c.toNat < 32 || (127 ≤ c.toNat && c.toNat < 160)

/-- An ASCII digit. -/
def isAsciiDigit (c : Char) : Bool := '0' ≤ c && c ≤ '9'

/-- An ASCII letter. -/
def isAsciiLetter (c : Char) : Bool := ('a' ≤ c && c ≤ 'z') || ('A' ≤ c && c ≤ 'Z')

/-- The lower-case form of an ASCII letter; any other character is kept. -/
def lower (c : Char) : Char := if 'A' ≤ c && c ≤ 'Z' then Char.ofNat (c.toNat + 32) else c

namespace Text

/-! ## Trimming and collapsing -/

/-- The text without the blanks at its start. -/
def trimStart (t : Text) : Text := t.dropWhile isBlank

/-- The text without the blanks at its end. -/
def trimEnd : Text → Text
  | [] => []
  | c :: r =>
    match trimEnd r with
    | [] => if isBlank c then [] else [c]
    | d :: s => c :: d :: s

/-- The text without the blanks at either end. -/
def trim (t : Text) : Text := trimEnd (trimStart t)

/-- A space put before a squeezed text, unless that is empty or starts with one. -/
def gap : Text → Text
  | [] => []
  | c :: r => if c = ' ' then c :: r else ' ' :: c :: r

/-- The text with each run of blanks made one space, and none at its end. -/
def squeeze : Text → Text
  | [] => []
  | c :: r => if isBlank c then gap (squeeze r) else c :: squeeze r

/-- Texts that squeeze alike do so behind any text. -/
theorem squeeze_append_congr {v w : Text} (h : squeeze v = squeeze w) (u : Text) :
    squeeze (u ++ v) = squeeze (u ++ w) := by
  induction u with
  | nil => exact h
  | cons c u ih => simp [squeeze, ih]

/-- The text with each run of blanks inside it made one space, and none at either end. -/
def collapse (t : Text) : Text := trimStart (squeeze t)

/-! ## Cutting and joining -/

/-- The lines of a text. A line ends at a newline or at the end of the text; one carriage return
directly before a newline belongs to the line end. A text that ends with a newline has no empty
line after it. -/
def lines : Text → List Text
  | [] => []
  | '\n' :: r => [] :: lines r
  | '\r' :: '\n' :: r => [] :: lines r
  | c :: r =>
    match lines r with
    | [] => [[c]]
    | l :: ls => (c :: l) :: ls

/-- The pieces of a text between the characters that satisfy `p`: one more than there are such
characters. -/
def splitAt (p : Char → Bool) : Text → List Text
  | [] => [[]]
  | c :: r =>
    if p c then [] :: splitAt p r
    else
      match splitAt p r with
      | [] => [[c]]
      | l :: ls => (c :: l) :: ls

/-- The pieces with `sep` between each two. -/
def join (sep : Text) : List Text → Text
  | [] => []
  | [t] => t
  | t :: ts => t ++ sep ++ join sep ts

/-- The characters of `t` from position `start` up to, not including, `stop`. -/
def slice (t : Text) (start stop : Nat) : Text := (t.take stop).drop start

/-! ## Numbers written in digits -/

/-- The number that a run of ASCII digits writes. -/
def value (t : Text) : Nat := t.foldl (fun n c => 10 * n + (c.toNat - 48)) 0

/-- The digits of a number. -/
def ofNat (n : Nat) : Text := Nat.toDigits 10 n

/-! ## Size in bytes -/

/-- The number of bytes of the text in UTF-8. -/
def byteLength : Text → Nat
  | [] => 0
  | c :: r => c.utf8Size + byteLength r

theorem byteLength_append (u v : Text) : byteLength (u ++ v) = byteLength u + byteLength v := by
  induction u with
  | nil => simp [byteLength]
  | cons c u ih => simp [byteLength, ih, Nat.add_assoc]

/-- The position in bytes of the character at position `i`. -/
def byteOffset (t : Text) (i : Nat) : Nat := byteLength (t.take i)

end Text

end SwimSets
