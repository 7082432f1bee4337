import SwimSets.Text.Visible

/-!
# Texts shown in quotes

A message that names a file shows the name between double quotes, with an escape for every
character that would not be seen or would end the quotes. A single quote stands as it is.
-/

namespace SwimSets

/-- A character between double quotes. -/
def showChar (c : Char) : Text :=
  if c = '\t' then ['\\', 't']
  else if c = '\n' then ['\\', 'n']
  else if c = '\r' then ['\\', 'r']
  else if c = '\x00' then ['\\', '0']
  else if c = '"' || c = '\\' then ['\\', c]
  else if isVisible c then [c]
  else "\\u\x7b".toList ++ Nat.toDigits 16 c.toNat ++ ['\x7d']

/-- The text between double quotes. -/
def Text.shown (t : Text) : Text := '"' :: (t.flatMap showChar ++ ['"'])

end SwimSets
