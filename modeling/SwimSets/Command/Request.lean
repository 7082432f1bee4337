import SwimSets.Command.Arguments
import SwimSets.Config

/-!
# What the program can be asked

The commands of the program, as a description, and what a command line asks once it has been read
against it.
-/

namespace SwimSets

/-- A shell that can complete command lines. -/
inductive Shell where
  | bash
  | elvish
  | fish
  | powershell
  | zsh
  deriving DecidableEq, Repr

namespace Shell

/-- All shells. -/
def all : List Shell := [bash, elvish, fish, powershell, zsh]

/-- The name of the shell on the command line. -/
def name : Shell → Text
  | bash => "bash"
  | elvish => "elvish"
  | fish => "fish"
  | powershell => "powershell"
  | zsh => "zsh"

/-- The shell with the given name. -/
def ofName (t : Text) : Option Shell := all.find? fun s => s.name == t

end Shell

/-- The commands that do something. -/
inductive Action where
  | parse
  | showConfig
  | configPath
  | initConfig
  | completions
  deriving DecidableEq, Repr

namespace Program

/-- The name of the program. -/
def name : Text := "swimtally"

/-- The version of the program. -/
def version : Text := "0.1.0"

/-- The name of a file that stands for the standard input. -/
def inputName : Text := "-"

/-- The program at length. -/
def details : Text :=
  "swimtally - turn a coach's freehand swim session into distance totals.

Each line of the session is read on its own (\"4 x 100m FC Swim\",
\"4 x 100m FC as 25m Kick / 25m Drill / 25m Pull / 25m Swim\") and the
distances are added up per stroke (Front Crawl, Backstroke, Breaststroke,
Butterfly, IM, No.1) and per activity (Swim, Drill, Kick, Pull).

Lines that cannot be read are reported, never guessed.

QUICK START:
    swimtally parse monday.txt            Totals for one session
    swimtally parse --lines monday.txt    Totals plus a line-by-line audit
    cat monday.txt | swimtally parse      Read the session from stdin
    swimtally parse --format json *.txt   Several sessions as JSON"

/-- The command that reads sessions, at length. -/
def parseDetails : Text :=
  "Parse one or more session files and print distance totals.

With no FILES, or with '-', the session is read from stdin. Several files
are parsed in parallel and reported one after another.

Totals are checked against the pool length: a total that is not a whole
number of lengths usually means a line was misread. The check is
informative only.

EXAMPLES:
    swimtally parse monday.txt
    swimtally parse --lines --pool 50 monday.txt
    swimtally parse --format json monday.txt tuesday.txt
    swimtally parse --strict monday.txt     Exit with code 2 if any line is unparsed"

/-- The command for completions, at length. -/
def completionsDetails : Text :=
  "Generate shell completion scripts.

EXAMPLES:
    swimtally completions bash > ~/.local/share/bash-completion/completions/swimtally
    swimtally completions zsh > ~/.zfunc/_swimtally"

/-- The arguments of the command that reads sessions. -/
def parseArguments : List Argument := [
  ⟨"files", none, .series .path, "Session text files ('-' or none reads stdin)"⟩,
  ⟨"format", some 'f', .option (.choice (OutputFormat.all.map OutputFormat.name)),
    "Output format [default: from config, else text]"⟩,
  ⟨"lines", some 'l', .flag, "Include a line-by-line audit"⟩,
  ⟨"pool", none, .option (.number 4294967296 true), "Pool length in metres for the total check"⟩,
  ⟨"decimals", none, .option (.number 18446744073709551616 false),
    "Decimal places shown for distances"⟩,
  ⟨"strict", none, .flag, "Exit with code 2 if any content line is unparsed"⟩]

/-- The commands for the settings. -/
def configCommands : List (Command Action) := [
  .action ⟨"show", "Show current configuration", none, []⟩ .showConfig,
  .action ⟨"path", "Print the configuration file path", none, []⟩ .configPath,
  .action ⟨"init", "Write a config file with default values", none,
    [⟨"force", none, .flag, "Overwrite an existing config file"⟩]⟩ .initConfig]

/-- The commands of the program. -/
def command : Command Action :=
  .group ⟨name, "Tally swim session text into distance per stroke and activity", some details,
      [⟨"verbose", some 'v', .counter, "Increase log verbosity (-v debug, -vv trace)"⟩]⟩ [
    .action ⟨"parse", "Parse session text and print distance totals", some parseDetails,
      parseArguments⟩ .parse,
    .group ⟨"config", "Configuration management", none, []⟩ configCommands,
    .action ⟨"completions", "Generate shell completions", some completionsDetails,
      [⟨"shell", none, .required (.choice (Shell.all.map Shell.name)),
        "Shell to generate completions for"⟩]⟩ .completions]

end Program

/-- What the program is asked. -/
inductive Request where
  /-- To report the sessions in the files. With `strict`, a line that was not read is a failure. -/
  | parse (files : List Text) (overrides : Overrides) (strict : Bool)
  | showConfig
  | configPath
  | initConfig (force : Bool)
  | completions (shell : Shell)
  deriving DecidableEq, Repr

/-- A request and how much is to be logged on the way. -/
structure Invocation where
  verbose : Nat
  request : Request
  deriving DecidableEq, Repr

namespace Request

/-- The files that a request reads. -/
def files : Request → List Text
  | parse names _ _ => names.filter (· != Program.inputName)
  | _ => []

/-- A request reads the standard input. -/
def readsInput : Request → Bool
  | parse names _ _ => names.isEmpty || names.contains Program.inputName
  | _ => false

/-- What an action is asked to do by what was given to it. -/
def ofGiven (action : Action) (gs : List Given) : Except Stop Request :=
  match action with
  | .parse =>
    .ok (.parse (Given.texts gs "files")
      ⟨(Given.text? gs "format").bind OutputFormat.ofName, Given.has gs "lines",
        Given.number? gs "pool", Given.number? gs "decimals"⟩
      (Given.has gs "strict"))
  | .showConfig => .ok .showConfig
  | .configPath => .ok .configPath
  | .initConfig => .ok (.initConfig (Given.has gs "force"))
  | .completions =>
    match (Given.text? gs "shell").bind Shell.ofName with
    | some s => .ok (.completions s)
    | none => .error (.fault .missingArgument)

end Request

namespace Invocation

/-- What the words of a command line ask. -/
def read (words : List Text) : Except Stop Invocation := do
  let (action, gs) ← Arguments.read Program.command true words
  let request ← Request.ofGiven action gs
  return ⟨Given.count gs "verbose", request⟩

end Invocation

end SwimSets
