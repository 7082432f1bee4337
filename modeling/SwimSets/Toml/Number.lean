import SwimSets.Toml.Node
import SwimSets.Toml.Quoted

/-!
# Numbers and dates in TOML

Integers are decimal with an optional sign, or hexadecimal, octal or binary after `0x`, `0o` and
`0b`; an underscore may stand between two digits, and a decimal integer has no leading zero. They
must fit 64 bits with sign. Floats and dates are read for their form only, except that a float must
not be too large for a double and a date must be one of the calendar.
-/

namespace SwimSets.Toml

open Reader

/-- Digits in a base, with underscores between them; gives the digits. -/
def digitsIn (isDigit : Char → Bool) : Reader Text := do
  let first ← char isDigit
  let rest ← many (oneOf [char isDigit, do exactly "_"; char isDigit])
  return first :: rest

/-- A sign; whether it is a minus. -/
def sign : Reader Bool := do
  let s ← maybe (char fun c => c == '+' || c == '-')
  return s == some '-'

/-- A decimal integer without its sign: zero, or digits that do not start with zero. -/
def decimalDigits : Reader Text :=
  oneOf [do
      let first ← char fun c => '1' ≤ c && c ≤ '9'
      let rest ← many (oneOf [char isAsciiDigit, do exactly "_"; char isAsciiDigit])
      return first :: rest,
    do return [← char (· == '0')]]

/-- The number that digits of a base write. -/
def valueIn (base : Nat) (digits : Text) : Nat :=
  digits.foldl (fun n c => base * n + (hexDigit? c).getD 0) 0

/-- An integer after the mark of its base. -/
def basedInteger (mark : Text) (base : Nat) : Reader Value := do
  exactly mark
  let ds ← digitsIn fun c => (hexDigit? c).any (· < base)
  guard (valueIn base ds < integerBound)
  return .integer (valueIn base ds)

/-- A decimal integer. -/
def decimalInteger : Reader Value := do
  let negative ← sign
  let n := Text.value (← decimalDigits)
  guard (n < integerBound || (negative && n = integerBound))
  return .integer (if negative then -(n : Int) else n)

/-- An integer. -/
def integer : Reader Value :=
  oneOf [basedInteger "0x" 16, basedInteger "0o" 8, basedInteger "0b" 2, decimalInteger]

/-- The exponent of a float. -/
def exponent : Reader Int := do
  let _ ← char fun c => c == 'e' || c == 'E'
  let negative ← sign
  let n := Text.value (← digitsIn isAsciiDigit)
  return if negative then -(n : Int) else n

/-- The number `m * 10 ^ e` is at least half a unit above the largest double, so that it reads as
an infinity. -/
def overflowsDouble (m : Nat) (e : Int) : Bool :=
  let bound := Nat.pow 2 1024 - Nat.pow 2 970
  let digits : Int := (Nat.toDigits 10 m).length
  if m = 0 || digits + e < 309 then false
  else if 310 < digits + e then true
  else
    match e with
    | .ofNat k => bound ≤ m * Nat.pow 10 k
    | .negSucc k => bound * Nat.pow 10 (k + 1) ≤ m

/-- A float with a fraction, an exponent, or both. One that is too large is refused, but with a
minus sign it passes as an infinity. -/
def numericFloat : Reader Value := do
  let negative ← sign
  let whole ← decimalDigits
  let (part, e) ← oneOf [do return ([], ← exponent),
    do
      exactly "."
      let part ← digitsIn isAsciiDigit
      let e ← maybe exponent
      return (part, e.getD 0)]
  guard (negative || !overflowsDouble (Text.value (whole ++ part)) (e - part.length))
  return .float

/-- An infinity or what is not a number. -/
def specialFloat : Reader Value := do
  let _ ← sign
  oneOf [exactly "inf", exactly "nan"]
  return .float

/-- A float. -/
def float : Reader Value := oneOf [numericFloat, specialFloat]

/-- A number of exactly `n` digits, no larger or smaller than the bounds. -/
def fixedDigits (n low high : Nat) : Reader Nat := do
  let v := Text.value (← exactTimes (char isAsciiDigit) n)
  guard (low ≤ v && v ≤ high)
  return v

/-- The number of days of a month. -/
def daysOf (year month : Nat) : Nat :=
  if month = 2 then
    (if year % 4 = 0 && (year % 100 != 0 || year % 400 = 0) then 29 else 28)
  else if month = 4 || month = 6 || month = 9 || month = 11 then 30
  else 31

/-- A day of the calendar. -/
def fullDate : Reader Unit := do
  let year ← fixedDigits 4 0 9999
  exactly "-"
  let month ← fixedDigits 2 1 12
  exactly "-"
  let day ← fixedDigits 2 1 31
  guard (day ≤ daysOf year month)

/-- A time of day. -/
def timeOfDay : Reader Unit := do
  let _ ← fixedDigits 2 0 23
  exactly ":"
  let _ ← fixedDigits 2 0 59
  exactly ":"
  let _ ← fixedDigits 2 0 60
  let _ ← maybe do
    exactly "."
    let _ ← char isAsciiDigit
    let _ ← run isAsciiDigit

/-- The offset of a time from universal time. -/
def timeOffset : Reader Unit :=
  oneOf [do let _ ← char fun c => c == 'Z' || c == 'z',
    do
      let _ ← char fun c => c == '+' || c == '-'
      let _ ← fixedDigits 2 0 23
      exactly ":"
      let _ ← fixedDigits 2 0 59]

/-- A date, a time, or both. -/
def date : Reader Value := do
  oneOf [do
      fullDate
      let _ ← maybe do
        let _ ← char fun c => c == 'T' || c == 't' || c == ' '
        timeOfDay
        let _ ← maybe timeOffset,
    timeOfDay]
  return .date

/-- A number or a date. -/
def number : Reader Value := oneOf [date, float, integer]

end SwimSets.Toml
