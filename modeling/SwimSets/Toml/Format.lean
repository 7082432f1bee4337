import SwimSets.Toml.Value

/-!
# Writing and reading TOML

How a text is quoted and how a document is read is left to whoever writes and reads TOML for the
program (`Format`). What is asked of them (`Format.Lawful`) is said in terms of TOML itself.

**Texts of one line** (`OneLine`). A text stands between double quotes, where a backslash starts an
escape, or between single quotes, as it is. Texts of several lines, between tripled quotes, are not
described here.

**Documents** (`document`). A document of tables is written one table after another, with an empty
line between two of them. A table is its name in brackets and then a line for each of its settings,
with a key, an equals sign and a text that writes a value (`Writes`). Names and keys are bare, and
no key stands twice in a table.
-/

namespace SwimSets.Toml

/-! ## Texts of one line -/

/-- A character that a comment or a text of one line may hold. -/
def isPrintable (c : Char) : Bool := c == '\t' || (32 ≤ c.toNat && c.toNat != 127)

/-- The value of a hexadecimal digit. -/
def hexDigit? (c : Char) : Option Nat :=
  if '0' ≤ c && c ≤ '9' then some (c.toNat - 48)
  else if 'a' ≤ c && c ≤ 'f' then some (c.toNat - 87)
  else if 'A' ≤ c && c ≤ 'F' then some (c.toNat - 55)
  else none

/-- The number that hexadecimal digits write. -/
def hexValue? (t : Text) : Option Nat := t.foldlM (fun n c => (hexDigit? c).map (16 * n + ·)) 0

/-- The character with the code that hexadecimal digits write. -/
def charOfHex? (t : Text) : Option Char :=
  (hexValue? t).bind fun n => if n.isValidChar then some (Char.ofNat n) else none

/-- The character that an escape of one letter stands for. -/
def shortEscape? (c : Char) : Option Char :=
  if c = 'b' then some (Char.ofNat 8)
  else if c = 't' then some '\t'
  else if c = 'n' then some '\n'
  else if c = 'f' then some (Char.ofNat 12)
  else if c = 'r' then some '\r'
  else if c = '"' then some '"'
  else if c = '\\' then some '\\'
  else none

/-- What stands between double quotes for a character. -/
inductive Piece : Text → Char → Prop
  | plain {c : Char} (printable : isPrintable c = true) (noQuote : c ≠ '"') (noEscape : c ≠ '\\') :
    Piece [c] c
  | short {e c : Char} (h : shortEscape? e = some c) : Piece ['\\', e] c
  | code {a₁ a₂ a₃ a₄ c : Char} (h : charOfHex? [a₁, a₂, a₃, a₄] = some c) :
    Piece ['\\', 'u', a₁, a₂, a₃, a₄] c
  | longCode {a₁ a₂ a₃ a₄ a₅ a₆ a₇ a₈ c : Char}
    (h : charOfHex? [a₁, a₂, a₃, a₄, a₅, a₆, a₇, a₈] = some c) :
    Piece ['\\', 'U', a₁, a₂, a₃, a₄, a₅, a₆, a₇, a₈] c

/-- What stands between double quotes for a text. -/
inductive Body : Text → Text → Prop
  | nil : Body [] []
  | cons {p b t : Text} {c : Char} (piece : Piece p c) (rest : Body b t) : Body (p ++ b) (c :: t)

/-- A text in quotes on one line, and the text that it writes. -/
inductive OneLine : Text → Text → Prop
  | basic {b t : Text} (body : Body b t) : OneLine ('"' :: (b ++ ['"'])) t
  | literal {t : Text} (plain : ∀ c ∈ t, c ≠ '\'' ∧ isPrintable c = true) :
    OneLine ('\'' :: (t ++ ['\''])) t

/-! ## Documents -/

/-- One more than the largest integer. -/
def integerBound : Nat := 9223372036854775808

/-- A boolean as text. -/
def boolText (b : Bool) : Text := if b then "true" else "false"

/-- A text that writes a value. -/
inductive Writes : Text → Value → Prop
  | integer {n : Nat} (bounded : n < integerBound) : Writes (Text.ofNat n) (.integer n)
  | boolean (b : Bool) : Writes (boolText b) (.boolean b)
  | text {w t : Text} (quoted : OneLine w t) : Writes w (.text t)

/-- A character of a key without quotes. -/
def isKeyChar (c : Char) : Bool := isAsciiLetter c || isAsciiDigit c || c == '_' || c == '-'

/-- A key that needs no quotes. -/
def isBare (k : Text) : Bool := !k.isEmpty && k.all isKeyChar

/-- A key with its value, as it is written and as it is read. -/
structure Setting where
  key : Text
  bare : isBare key = true
  text : Text
  value : Value
  writes : Writes text value

/-- A table as it is written: a header and settings with distinct keys. -/
structure Section where
  name : Text
  bare : isBare name = true
  settings : List Setting
  distinct : (settings.map Setting.key).Nodup

/-- The line of a header. -/
def headerLine (name : Text) : Text := '[' :: (name ++ "]\n".toList)

/-- The line of a key and its value. -/
def entryLine (key value : Text) : Text := key ++ " = ".toList ++ value ++ ['\n']

namespace Section

/-- The text of a section. -/
def text (s : Section) : Text :=
  headerLine s.name ++ s.settings.flatMap fun e => entryLine e.key e.text

/-- The entries of a section. -/
def entries (s : Section) : Entries := s.settings.map fun e => (e.key, e.value)

/-- The table that a section stands for, under its name. -/
def table (s : Section) : Text × Value := (s.name, .table s.entries)

end Section

/-- Sections as a document. -/
def document (ss : List Section) : Text := Text.join ['\n'] (ss.map Section.text)

/-! ## Writers and readers -/

/-- A writer and a reader of TOML. -/
class Format where
  /-- A text in quotes. -/
  quote : Text → Text
  /-- The entries of a document, if it is one. -/
  read : Text → Option Entries

/-- The writer and the reader keep to TOML. -/
class Format.Lawful [Format] : Prop where
  /-- Letters are put between double quotes. -/
  quote_letters : ∀ t : Text, (∀ c ∈ t, isAsciiLetter c = true) →
    Format.quote t = '"' :: (t ++ ['"'])
  /-- What is quoted on one line is the text that was to be quoted. -/
  quote_oneLine : ∀ t u : Text, OneLine (Format.quote t) u → u = t
  /-- A document of tables is read as these tables, if no two share a name. -/
  read_document : ∀ ss : List Section, (ss.map Section.name).Nodup →
    Format.read (document ss) = some (ss.map Section.table)

end SwimSets.Toml
