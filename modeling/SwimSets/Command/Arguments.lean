import SwimSets.Command.Description

/-!
# Reading arguments

The arguments of a program are read from left to right against the description of its commands.

**Levels.** Each command on the way from the outermost to the one that is carried out has a level
(`Level`) with the arguments given to it. A word that names a command held by the present one starts
the next level.

**Collecting.** The values of an argument are collected first and checked only when something else
is given or the arguments end (`settle`), so a fault of a later argument may be found before one of
an earlier value.

**Two dashes** alone make every later word a value by position.
-/

namespace SwimSets

/-- What is wrong with arguments. -/
inductive UsageFault where
  | unknownArgument
  | unknownCommand
  /-- A command that holds others was given arguments, but none of the others was named. -/
  | missingCommand
  /-- A command that holds others was given nothing. -/
  | nothingGiven
  | missingArgument
  /-- A value is missing, empty or not one of the words that it may be. -/
  | invalidValue
  /-- A value is not a number in its range. -/
  | malformedNumber
  /-- An argument was given twice. -/
  | repeated
  /-- A value was given to an argument that takes none. -/
  | needlessValue
  deriving DecidableEq, Repr

/-- Why arguments name nothing to carry out. -/
inductive Stop where
  /-- They ask for help with a command. -/
  | help (info : CommandInfo)
  | version
  | fault (fault : UsageFault)
  deriving DecidableEq, Repr

/-- A value of an argument, checked. -/
inductive ArgumentValue where
  | text (t : Text)
  | number (n : Nat)
  deriving DecidableEq, Repr

/-- Arguments with their values, the first given first. -/
abbrev Given := List (Argument × List ArgumentValue)

/-! ## Values -/

/-- The number that a text of digits writes. -/
def digits? (t : Text) : Option Nat :=
  if !t.isEmpty && t.all isAsciiDigit then some (Text.value t) else none

/-- The whole number that a text writes: digits, perhaps with a plus sign before them. Where
`signedZero` holds, zero may have a minus sign. -/
def wholeNumber? (signedZero : Bool) : Text → Option Nat
  | '+' :: r => digits? r
  | '-' :: r => if signedZero && digits? r = some 0 then some 0 else none
  | t => digits? t

/-- A value checked. -/
def ValueKind.read : ValueKind → Text → Except UsageFault ArgumentValue
  | path, t => if t.isEmpty then .error .invalidValue else .ok (.text t)
  | choice words, t => if words.contains t then .ok (.text t) else .error .invalidValue
  | number bound signedZero, t =>
    match wholeNumber? signedZero t with
    | some n => if n < bound then .ok (.number n) else .error .malformedNumber
    | none => .error .malformedNumber

/-- The values of an argument checked. -/
def Argument.read (a : Argument) (ts : List Text) : Except UsageFault (List ArgumentValue) :=
  match a.form with
  | .option kind | .required kind | .series kind => ts.mapM kind.read
  | .flag | .counter | .help | .version => .ok []

/-! ## Levels -/

/-- A command with what has been read of its arguments. -/
structure Level (α : Type) where
  command : Command α
  /-- The arguments of commands further out that hold here too. -/
  inherited : List Argument
  /-- The command can be asked for a version. -/
  hasVersion : Bool
  given : Given
  /-- The argument whose values are being collected. -/
  collecting : Option (Argument × List Text)
  /-- How many positions have been filled. -/
  filled : Nat
  /-- Two dashes have been read. -/
  afterDashes : Bool

namespace Level

variable {α : Type}

/-- The level of a command of which nothing has been read. -/
def start (c : Command α) (inherited : List Argument) (hasVersion : Bool) : Level α :=
  ⟨c, inherited, hasVersion, [], none, 0, false⟩

/-- The arguments that every command has. -/
def common (hasVersion : Bool) : List Argument :=
  ⟨"help", some 'h', .help, "Print help"⟩ ::
    if hasVersion then [⟨"version", some 'V', .version, "Print version"⟩] else []

/-- The arguments that may be given by name. -/
def named (l : Level α) : List Argument :=
  l.command.info.arguments.filter (!·.isPositional) ++ l.inherited ++ common l.hasVersion

/-- The argument whose place is filled next by position. -/
def nextPlace (l : Level α) : Option Argument :=
  (l.command.info.arguments.filter (·.isPositional))[l.filled]?

/-- An option has been given and its value comes next. -/
def awaitsValue (l : Level α) : Bool :=
  match l.collecting with
  | some (_, []) => true
  | _ => false

/-- An argument given with its values. A missing value is found first, then that the argument was
given before, then a value that cannot stand. -/
def give (l : Level α) (a : Argument) (ts : List Text) : Except Stop (Level α) :=
  match a.form with
  | .help => .error (.help l.command.info)
  | .version => .error .version
  | .option _ | .required _ | .series _ | .flag | .counter =>
    if (a.isPositional || a.isOption) && ts.isEmpty then .error (.fault .invalidValue)
    else if !a.isRepeatable && l.given.any (·.1.name == a.name) then .error (.fault .repeated)
    else
      match a.read ts with
      | .ok vs => .ok { l with given := l.given ++ [(a, vs)], collecting := none }
      | .error f => .error (.fault f)

/-- The level with the collected values checked and given. -/
def settle (l : Level α) : Except Stop (Level α) :=
  match l.collecting with
  | none => .ok l
  | some (a, ts) => l.give a ts

/-- A further value for an argument. -/
def collect (l : Level α) (a : Argument) (t : Text) : Except Stop (Level α) :=
  match l.collecting with
  | some (b, ts) =>
    if b = a then .ok { l with collecting := some (a, ts ++ [t]) }
    else l.settle.map fun l => { l with collecting := some (a, [t]) }
  | none => .ok { l with collecting := some (a, [t]) }

/-- An option without its value yet. -/
def await (l : Level α) (a : Argument) : Except Stop (Level α) :=
  l.settle.map fun l => { l with collecting := some (a, []) }

/-- An argument given by name, with the values that are written in the same word. -/
def settleAndGive (l : Level α) (a : Argument) (ts : List Text) : Except Stop (Level α) := do
  let l ← l.settle
  l.give a ts

/-- A word after two dashes: a name, perhaps with an equals sign and a value. -/
def takeLong (l : Level α) (word : Text) : Except Stop (Level α) :=
  let name := word.takeWhile (· != '=')
  match l.named.find? fun a => a.name == name, word.dropWhile (· != '=') with
  | none, _ => .error (.fault .unknownArgument)
  | some a, [] => if a.isOption then l.await a else l.settleAndGive a []
  | some a, _ :: value =>
    if a.isOption then l.settleAndGive a [value] else .error (.fault .needlessValue)

/-- Letters after one dash. The first that belongs to an option takes the rest of the word for its
value, if there is a rest. -/
def takeLetters (l : Level α) : Text → Except Stop (Level α)
  | [] => .ok l
  | c :: rest =>
    match l.named.find? fun a => a.letter == some c with
    | none => .error (.fault .unknownArgument)
    | some a =>
      if a.isOption then
        match rest with
        | [] => l.await a
        | '=' :: value => l.settleAndGive a [value]
        | value => l.settleAndGive a [value]
      else
        match l.settleAndGive a [] with
        | .ok l => takeLetters l rest
        | .error s => .error s

/-- A word that fills a place. -/
def takePlaced (l : Level α) (word : Text) : Except Stop (Level α) :=
  match l.nextPlace with
  | some a =>
    if a.isRepeatable then l.collect a word
    else (l.collect a word).map fun l => { l with filled := l.filled + 1 }
  | none =>
    .error (.fault (if l.command.isGroup && !(l.afterDashes && l.command.answersTo word)
      then .unknownCommand else .unknownArgument))

/-- A word that names no command. -/
def take (l : Level α) (word : Text) : Except Stop (Level α) :=
  if l.afterDashes then l.takePlaced word
  else
    match word with
    | ['-', '-'] => .ok { l with afterDashes := true }
    | '-' :: '-' :: r => l.takeLong r
    | '-' :: c :: r => l.takeLetters (c :: r)
    | _ =>
      match l.collecting with
      | some (a, []) => l.collect a word
      | _ => l.takePlaced word

/-- The end of the arguments: what the command does, and what was given to it. -/
def finish (l : Level α) : Except Stop (α × Given) := do
  let l ← l.settle
  match l.command with
  | .group _ _ =>
    .error (.fault (if l.given.isEmpty then .nothingGiven else .missingCommand))
  | .action i does =>
    let lacks := fun (a : Argument) =>
      match a.form with
      | .required _ => !l.given.any (·.1.name == a.name)
      | _ => false
    if i.arguments.any lacks then .error (.fault .missingArgument) else .ok (does, l.given)

end Level

namespace Arguments

variable {α : Type}

/-- Help with the command that the words name, one inside the other. -/
def help (c : Command α) : List Text → Stop
  | [] => .help c.info
  | w :: ws =>
    match c.member? w with
    | some m => help m ws
    | none =>
      if c.isGroup && w == Command.helpWord && ws.isEmpty then .help c.info
      else .fault .unknownCommand

/-- A word can name a command here. -/
def namesCommand (l : Level α) : Bool := l.command.isGroup && !l.afterDashes && !l.awaitsValue

/-- The words after those of `l`: what is to be done, and what was given to each command, the
innermost first. `outer` holds what was given to the commands further out. -/
def readFrom (l : Level α) (outer : List Given) :
    List Text → Except Stop (α × List Given)
  | [] => do
    let (does, given) ← l.finish
    return (does, given :: outer)
  | w :: ws =>
    if namesCommand l && w == Command.helpWord then .error (help l.command ws)
    else
      match (if namesCommand l then l.command.member? w else none) with
      | some m =>
        match l.settle with
        | .ok l =>
          readFrom
            (Level.start m (l.inherited ++ l.command.info.arguments.filter (·.isInherited)) false)
            (l.given :: outer) ws
        | .error s => .error s
      | none =>
        match l.take w with
        | .ok l => readFrom l outer ws
        | .error s => .error s

/-- What the words ask for, and what is given to each command, the innermost first. -/
def read (c : Command α) (hasVersion : Bool) (words : List Text) :
    Except Stop (α × List Given) :=
  readFrom (Level.start c [] hasVersion) [] words

end Arguments

/-! ## Looking up what was given -/

namespace Given

/-- Each giving of an argument, at the innermost command that it was given to. -/
def givings (gs : List Given) (name : String) : List (List ArgumentValue) :=
  match gs with
  | [] => []
  | g :: outer =>
    let found := (g.filter fun x => x.1.name == name.toList).map (·.2)
    if found.isEmpty then givings outer name else found

/-- The argument was given. -/
def has (gs : List Given) (name : String) : Bool := !(givings gs name).isEmpty

/-- The texts given for an argument. -/
def texts (gs : List Given) (name : String) : List Text :=
  (givings gs name).flatten.filterMap fun v =>
    match v with
    | .text t => some t
    | .number _ => none

/-- The text given for an argument. -/
def text? (gs : List Given) (name : String) : Option Text := (texts gs name).head?

/-- The number given for an argument. -/
def number? (gs : List Given) (name : String) : Option Nat :=
  (givings gs name).flatten.findSome? fun v =>
    match v with
    | .number n => some n
    | .text _ => none

/-- How often an argument was given, as far as it is counted. -/
def count (gs : List Given) (name : String) : Nat := min 255 (givings gs name).length

end Given

end SwimSets
