import SwimSets.Number.Shortest

/-!
# JSON text

Values of JSON and how they are laid out over several lines: two spaces for each level, a member
per line, and nothing between the brackets of an empty array or object.

Numbers are whole numbers or doubles; a double that is not finite is written `null`. In strings
only quotes, backslashes and control characters are escaped.
-/

namespace SwimSets

/-- A value of JSON. -/
inductive Json where
  | null
  | bool (b : Bool)
  | whole (n : Nat)
  | double (x : Float)
  | text (t : Text)
  | array (items : List Json)
  | object (members : List (Text × Json))

namespace Json

/-- A text, or null where there is none. -/
def optional (t : Option Text) : Json :=
  match t with
  | some t => .text t
  | none => .null

/-- A hexadecimal digit in lower case. -/
def hexDigit (n : Nat) : Char := if n < 10 then Char.ofNat (48 + n) else Char.ofNat (87 + n)

/-- A character inside a string. -/
def escape (c : Char) : Text :=
  if c = '"' then ['\\', '"']
  else if c = '\\' then ['\\', '\\']
  else if c = '\n' then ['\\', 'n']
  else if c = '\r' then ['\\', 'r']
  else if c = '\t' then ['\\', 't']
  else if c.toNat = 8 then ['\\', 'b']
  else if c.toNat = 12 then ['\\', 'f']
  else if c.toNat < 32 then
    ['\\', 'u', '0', '0', hexDigit (c.toNat / 16), hexDigit (c.toNat % 16)]
  else [c]

/-- A string in quotes. -/
def quote (t : Text) : Text := '"' :: (t.flatMap escape ++ ['"'])

/-- A double, or null if it is not finite. -/
def ofDouble (x : Float) : Text := (Double.ofFloat x).shortest.getD "null".toList

/-- The start of a line at a level. -/
def newline (level : Nat) : Text := '\n' :: List.replicate (2 * level) ' '

mutual

/-- The value laid out, its first line being at the given level. -/
def renderAt (level : Nat) : Json → Text
  | null => "null"
  | bool b => if b then "true" else "false"
  | whole n => Text.ofNat n
  | double x => ofDouble x
  | text t => quote t
  | array [] => "[]"
  | array (j :: js) =>
    '[' :: (newline (level + 1) ++ renderAt (level + 1) j ++ renderItems (level + 1) js ++
      newline level ++ [']'])
  | object [] => ['\x7b', '\x7d']
  | object (m :: ms) =>
    '\x7b' :: (newline (level + 1) ++ renderMember (level + 1) m ++ renderMembers (level + 1) ms ++
      newline level ++ ['\x7d'])

/-- Further items of an array. -/
def renderItems (level : Nat) : List Json → Text
  | [] => []
  | j :: js => ',' :: (newline level ++ renderAt level j ++ renderItems level js)

/-- A member of an object. -/
def renderMember (level : Nat) : Text × Json → Text
  | (key, j) => quote key ++ ':' :: ' ' :: renderAt level j

/-- Further members of an object. -/
def renderMembers (level : Nat) : List (Text × Json) → Text
  | [] => []
  | m :: ms => ',' :: (newline level ++ renderMember level m ++ renderMembers level ms)

end

/-- The value laid out over lines. -/
def pretty (j : Json) : Text := renderAt 0 j

end Json

end SwimSets
