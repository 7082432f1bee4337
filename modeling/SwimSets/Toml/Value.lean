import SwimSets.Text.Basic

/-!
# TOML documents as values

A document is a table: keys with their values, in order. Values keep what a reader of settings can
ask for. The number of a float and the parts of a date do not matter here, so neither is kept.
-/

namespace SwimSets.Toml

/-- A value of TOML. -/
inductive Value where
  | text (t : Text)
  | integer (n : Int)
  | float
  | boolean (b : Bool)
  | date
  | array (items : List Value)
  | table (entries : List (Text × Value))

/-- The entries of a table, in order. -/
abbrev Entries := List (Text × Value)

end SwimSets.Toml
