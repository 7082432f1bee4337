import SwimSets.Text.Basic

/-!
# Descriptions of commands

A command line is described by data: which commands there are, which arguments each takes and what
their values may be. Reading arguments (`Arguments.read`) and writing the reference both go by this
one description.

**Commands** form a tree. A command either does something (`action`) or holds further commands
(`group`), of which one has to be named.

**Arguments** are flags, counters, options with a value, and values that stand by their position.
A counter may also be given to every command further in.
-/

namespace SwimSets

/-- What the value of an argument may be. -/
inductive ValueKind where
  /-- The name of a file; not empty. -/
  | path
  /-- One of the given words. -/
  | choice (words : List Text)
  /-- A whole number below a bound. A zero may have a minus sign if `signedZero` says so. -/
  | number (bound : Nat) (signedZero : Bool)
  deriving DecidableEq, Repr

/-- How an argument is given. -/
inductive ArgumentForm where
  /-- By name, at most once. -/
  | flag
  /-- By name, as often as wanted. -/
  | counter
  /-- By name with a value, at most once. -/
  | option (kind : ValueKind)
  /-- By a value at its position. -/
  | required (kind : ValueKind)
  /-- By any number of values from its position on. -/
  | series (kind : ValueKind)
  /-- By name, to ask for help. -/
  | help
  /-- By name, to ask for the version. -/
  | version
  deriving DecidableEq, Repr

/-- An argument of a command. -/
structure Argument where
  /-- The name, which is written after two dashes if the argument is given by name. -/
  name : Text
  /-- The letter that is written after one dash. -/
  letter : Option Char
  form : ArgumentForm
  /-- What the argument is for. -/
  about : Text
  deriving DecidableEq, Repr

namespace Argument

/-- The argument is given by a value at its position. -/
def isPositional (a : Argument) : Bool :=
  match a.form with
  | .required _ | .series _ => true
  | _ => false

/-- The argument is given by name with a value. -/
def isOption (a : Argument) : Bool :=
  match a.form with
  | .option _ => true
  | _ => false

/-- The argument may be given any number of times. -/
def isRepeatable (a : Argument) : Bool :=
  match a.form with
  | .counter | .series _ => true
  | _ => false

/-- The argument holds for the commands further in as well. -/
def isInherited (a : Argument) : Bool := a.form = .counter

end Argument

/-- What is known of a command besides what it does. -/
structure CommandInfo where
  name : Text
  /-- What the command is for, in a line. -/
  about : Text
  /-- What the command is for, at length. -/
  details : Option Text
  arguments : List Argument
  deriving DecidableEq, Repr

/-- A command. -/
inductive Command (α : Type) where
  /-- A command that does something. -/
  | action (info : CommandInfo) (does : α)
  /-- A command that holds others. -/
  | group (info : CommandInfo) (members : List (Command α))

namespace Command

variable {α : Type}

/-- What is known of the command. -/
def info : Command α → CommandInfo
  | action i _ => i
  | group i _ => i

/-- The commands that it holds. -/
def members : Command α → List (Command α)
  | action _ _ => []
  | group _ ms => ms

/-- The command holds others. -/
def isGroup : Command α → Bool
  | action _ _ => false
  | group _ _ => true

/-- The command of the given name that it holds. -/
def member? (c : Command α) (name : Text) : Option (Command α) :=
  c.members.find? fun m => m.info.name == name

/-- The command that asks for help; every group has it. -/
def helpWord : Text := "help"

/-- A group has a command of the given name. -/
def answersTo (c : Command α) (name : Text) : Bool :=
  c.isGroup && ((c.member? name).isSome || name == helpWord)

end Command

end SwimSets
