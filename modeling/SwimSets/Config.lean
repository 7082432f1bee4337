import SwimSets.Report.Options
import SwimSets.Toml.Format

/-!
# Settings

What a user sets once in a file: how reports look, and how much is logged. The file is TOML with a
table `report` and a table `log`; what it leaves out keeps its default, and what it says beyond
the known keys is passed over.

**Reading** (`Config.read`) fails for a file that is not TOML or has a value of a wrong kind;
values that no report can honour are found by `Config.check`. How TOML is written and read is left
open (`Toml.Format`).

**Command line.** Settings given there (`Overrides`) go before those of the file and are checked in
the same way.
-/

namespace SwimSets

/-- The most decimal places that a report shows. -/
def maxDecimals : Nat := 3

/-- Settings that a report cannot honour. -/
inductive SettingFault where
  | zeroPool
  | tooManyDecimals (decimals : Nat)
  deriving DecidableEq, Repr

namespace SettingFault

/-- What is wrong, in words, given what the two settings are called. -/
def message (poolName decimalsName : Text) : SettingFault → Text
  | zeroPool => poolName ++ " must be greater than 0".toList
  | tooManyDecimals d =>
    decimalsName ++ " must be at most ".toList ++ Text.ofNat maxDecimals ++ ", got ".toList ++
      Text.ofNat d

end SettingFault

/-- A pool length that a report can honour. -/
def checkPool (pool : Nat) : Except SettingFault Unit :=
  if pool = 0 then .error .zeroPool else .ok ()

/-- A number of decimal places that a report can honour. -/
def checkDecimals (decimals : Nat) : Except SettingFault Unit :=
  if maxDecimals < decimals then .error (.tooManyDecimals decimals) else .ok ()

/-- The settings of the program. -/
structure Config where
  poolLength : Nat
  decimals : Nat
  format : OutputFormat
  showLines : Bool
  /-- What is logged when neither the command line nor the environment says so. -/
  logLevel : Text
  deriving DecidableEq, Repr

namespace Config

/-- The settings where nothing is set. -/
def initial : Config := ⟨25, 0, .text, false, "warn"⟩

/-- The faults of settings from a file, in words. -/
def faultMessage (f : SettingFault) : Text :=
  f.message "report.pool_length" "report.decimals"

/-- The settings can be honoured. The length of the pool is looked at first. -/
def check (c : Config) : Except SettingFault Unit := do
  checkPool c.poolLength
  checkDecimals c.decimals

/-! ## Reading -/

open Toml (Value boolText entryLine)

/-- What a value holds for each of the named keys, in the order of the names. The items of an array
stand for the keys in order. A date holds none of them. -/
def slots (names : List Text) : Value → Option (List (Option Value))
  | .table es => some (names.map fun k => List.lookup k es)
  | .array items => some ((List.range names.length).map (items[·]?))
  | .date => some (names.map fun _ => none)
  | _ => none

/-- What a slot holds, read by `f`, or the default for an empty slot. -/
def slotOr {α : Type} (default : α) (f : Value → Option α) (slot : Option Value) : Option α :=
  match slot with
  | none => some default
  | some v => f v

/-- A whole number from zero up to, not including, the bound. -/
def natBelow (bound : Nat) : Value → Option Nat
  | .integer n => if 0 ≤ n && n < bound then some n.toNat else none
  | _ => none

/-- A boolean. -/
def boolOf : Value → Option Bool
  | .boolean b => some b
  | _ => none

/-- A text. -/
def textOf : Value → Option Text
  | .text t => some t
  | _ => none

/-- A table or array that holds nothing. -/
def isEmptyTable : Value → Bool
  | .table es => es.isEmpty
  | .array items => items.isEmpty
  | _ => false

/-- A form of report: its name, or a table with its name as the only key and nothing inside. -/
def formatOf : Value → Option OutputFormat
  | .text t => OutputFormat.ofName t
  | .table [(k, v)] => if isEmptyTable v then OutputFormat.ofName k else none
  | _ => none

/-- The settings with those of the table `report`. -/
def readReport (c : Config) (v : Value) : Option Config := do
  let slots ← slots ["pool_length", "decimals", "format", "show_lines"] v
  match slots with
  | [pool, decimals, format, showLines] =>
    let pool ← slotOr c.poolLength (natBelow 4294967296) pool
    let decimals ← slotOr c.decimals (natBelow Toml.integerBound) decimals
    let format ← slotOr c.format formatOf format
    let showLines ← slotOr c.showLines boolOf showLines
    return { c with
      poolLength := pool, decimals := decimals, format := format, showLines := showLines }
  | _ => none

/-- The settings with those of the table `log`. -/
def readLog (c : Config) (v : Value) : Option Config := do
  let slots ← slots ["level"] v
  match slots with
  | [level] => return { c with logLevel := ← slotOr c.logLevel textOf level }
  | _ => none

/-- The settings that a file holds. -/
def read [Toml.Format] (t : Text) : Option Config := do
  let es ← Toml.Format.read t
  let c ← slotOr initial (readReport initial) (List.lookup "report".toList es)
  slotOr c (readLog c) (List.lookup "log".toList es)

/-- Why a file gives no settings. -/
inductive Fault where
  /-- It is not TOML, or has a value of a wrong kind. -/
  | unreadable
  | invalid (fault : SettingFault)
  deriving DecidableEq, Repr

/-- The settings that a file holds, if a report can honour them. -/
def load [Toml.Format] (t : Text) : Except Fault Config :=
  match read t with
  | none => .error .unreadable
  | some c =>
    match c.check with
    | .error f => .error (.invalid f)
    | .ok () => .ok c

/-! ## Writing -/

/-- The settings as a file. -/
def render [Toml.Format] (c : Config) : Text :=
  "[report]\n".toList ++ entryLine "pool_length" (Text.ofNat c.poolLength) ++
    entryLine "decimals" (Text.ofNat c.decimals) ++
    entryLine "format" (Toml.Format.quote c.format.name) ++
    entryLine "show_lines" (boolText c.showLines) ++ "\n[log]\n".toList ++
    entryLine "level" (Toml.Format.quote c.logLevel)

end Config

/-! ## Settings on the command line -/

/-- Settings that go before those of the file. -/
structure Overrides where
  format : Option OutputFormat
  /-- Every line of content is listed, whatever the file says. -/
  lines : Bool
  pool : Option Nat
  decimals : Option Nat
  deriving DecidableEq, Repr

namespace Overrides

/-- The faults of settings from the command line, in words. -/
def faultMessage (f : SettingFault) : Text := f.message "--pool" "--decimals"

/-- The form and the settings of the report. -/
def resolve (o : Overrides) (c : Config) : Except SettingFault (OutputFormat × ReportOptions) := do
  o.pool.forM checkPool
  o.decimals.forM checkDecimals
  return (o.format.getD c.format,
    ⟨o.decimals.getD c.decimals, o.pool.getD c.poolLength, c.showLines || o.lines⟩)

end Overrides

/-! ## Logging -/

/-- What is logged: the flags of the command line go before the environment, and that before the
settings. -/
def logDirective (verbose : Nat) (environment : Option Text) (level : Text) : Text :=
  match verbose with
  | 0 =>
    match environment.map Text.trim with
    | none | some [] => level
    | some t => t
  | 1 => "swimtally=debug"
  | _ => "swimtally=trace"

end SwimSets
