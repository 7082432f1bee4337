import SwimSets.Completions
import SwimSets.Report.Batch
import SwimSets.Text.Shown

/-!
# A run of the program

A run takes a command line and the world that it finds (`World`) and gives an exit code, what is
written, and the world that it leaves. The world is the file of settings, the standard input and
the files that a command line can name. Any of them may be impossible to read, settings may be
impossible to save, and there may be no home directory to keep them in.

**Failures** (`Failure`) end a run with nothing on the standard output and exit code 1. Arguments
that name nothing to do end it with exit code 2, and so does a strict run that met a line it could
not read, but that one only after the report is written.

**Order.** Reports are made in steps, and the first failure ends the run: the settings are read,
then the overrides are checked, then all files are read in order, and then all sessions.
-/

namespace SwimSets

/-! ## The world -/

/-- Why settings cannot be saved. -/
inductive SaveFault where
  /-- Their directory cannot be made. -/
  | directory (reason : Text)
  /-- Their file cannot be written. What it holds after the attempt, if it is there, is `left`. -/
  | file (reason : Text) (left : Option (List UInt8))
  deriving DecidableEq, Repr

/-- What a run finds outside the program. -/
structure World where
  /-- The home directory, if it is known. -/
  home : Option Text
  /-- What the file of settings holds, if it is there. -/
  config : Option (List UInt8)
  /-- Why the file of settings cannot be read, if it cannot. -/
  configFault : Option Text
  /-- Why settings cannot be saved, if they cannot. -/
  saveFault : Option SaveFault
  /-- The standard input, or why it cannot be read. -/
  input : Except Text (List UInt8)
  /-- The file of a name, or why it cannot be read. -/
  file : Text → Except Text (List UInt8)

/-- The path of a name in a directory. -/
def pathIn (directory name : Text) : Text :=
  if directory.getLast? = some '/' then directory ++ name else directory ++ '/' :: name

/-- The directory of the settings of a user. -/
def configDirectory (home : Text) : Text := pathIn (pathIn home ".config") "swimtally"

/-- The file of the settings of a user. -/
def configFile (home : Text) : Text := pathIn (configDirectory home) "config.toml"

/-- What comes out of a run. -/
structure Outcome where
  /-- The exit code. -/
  code : Nat
  /-- What goes to the standard output. -/
  output : Text
  /-- What the program has to say besides, for the error output. -/
  message : Text
  /-- How to go on after arguments that name nothing to do. -/
  advice : Text
  deriving DecidableEq, Repr

/-! ## Failures -/

/-- Why a run fails. -/
inductive Failure where
  /-- There is no home directory to keep settings in. -/
  | unknownHome
  | unreadableConfig (path reason : Text)
  /-- The file of settings does not hold settings. -/
  | malformedConfig (path : Text)
  /-- The settings cannot be honoured. -/
  | invalidConfig (path : Text) (fault : SettingFault)
  /-- There is a file of settings already. -/
  | configExists (path : Text)
  /-- The directory of the settings cannot be made. -/
  | noConfigDirectory (path reason : Text)
  | unwritableConfig (path reason : Text)
  /-- The overrides cannot be honoured. -/
  | invalidOverride (fault : SettingFault)
  /-- The standard input was named more than once. -/
  | repeatedInput
  | unreadableInput (reason : Text)
  | unreadableFile (name reason : Text)
  | badSource (source : BadSource)
  deriving DecidableEq, Repr

namespace Failure

/-- A file that gives no settings. -/
def ofConfig (path : Text) : Config.Fault → Failure
  | .unreadable => malformedConfig path
  | .invalid f => invalidConfig path f

/-- What failed, in words. -/
def message : Failure → Text
  | unknownHome => "Could not determine home directory"
  | unreadableConfig path _ => "Failed to read config file: ".toList ++ path.shown
  | malformedConfig path => "Failed to parse config file: ".toList ++ path.shown
  | invalidConfig path _ => "Invalid config: ".toList ++ path.shown
  | configExists path =>
    "Config file already exists: ".toList ++ path ++ " (use --force to overwrite)".toList
  | noConfigDirectory path _ => "Failed to create config directory: ".toList ++ path.shown
  | unwritableConfig path _ => "Failed to write config file: ".toList ++ path.shown
  | invalidOverride f => Overrides.faultMessage f
  | repeatedInput => "stdin ('-') can only be given once"
  | unreadableInput _ => "Failed to read session from stdin"
  | unreadableFile name _ => "Failed to read session file: ".toList ++ name.shown
  | badSource s => s.message

/-- Why it failed, in words, where there is more to say. -/
def cause : Failure → Option Text
  | malformedConfig _ => some "a table, key or value is not what it should be"
  | invalidConfig _ f => some (Config.faultMessage f)
  | unreadableConfig _ reason | noConfigDirectory _ reason | unwritableConfig _ reason
  | unreadableInput reason | unreadableFile _ reason => some reason
  | badSource s => some s.fault.message
  | unknownHome | configExists _ | invalidOverride _ | repeatedInput => none

/-- The failure as the program reports it. -/
def report (f : Failure) : Text :=
  "Error: ".toList ++ f.message ++ ['\n'] ++
    match f.cause with
    | some c => "\nCaused by:\n    ".toList ++ c ++ ['\n']
    | none => []

/-- The end of a run that fails. -/
def outcome (f : Failure) : Outcome := ⟨1, [], f.report, []⟩

end Failure

/-! ## The world read and written -/

namespace World

/-- Where the settings are kept. -/
def configPath (w : World) : Except Failure Text :=
  match w.home with
  | some home => .ok (configFile home)
  | none => .error .unknownHome

/-- The text of the file of settings, if it is there, or why it cannot be read. -/
def configText (w : World) : Except Text (Option Text) :=
  match w.config, w.configFault with
  | none, _ => .ok none
  | some _, some reason => .error reason
  | some bytes, none =>
    match Text.ofUtf8 bytes with
    | .ok t => .ok (some t)
    | .error _ => .error "stream did not contain valid UTF-8"

/-- The settings that hold: those of the file, or the initial ones where there is no file. -/
def settings [Toml.Format] (w : World) : Except Failure Config := do
  let path ← w.configPath
  match ← w.configText.mapError (.unreadableConfig path) with
  | none => return Config.initial
  | some t => (Config.load t).mapError (.ofConfig path)

/-- The settings written to their file, whatever it held before: whether they are saved, and the
world that is left. -/
def save [Toml.Format] (w : World) (c : Config) : Except Failure Unit × World :=
  match w.home, w.saveFault with
  | none, _ => (.error .unknownHome, w)
  | some home, some (.directory reason) =>
    (.error (.noConfigDirectory (configDirectory home) reason), w)
  | some home, some (.file reason left) =>
    (.error (.unwritableConfig (configFile home) reason), { w with config := left })
  | some _, none => (.ok (), { w with config := some c.render.toUtf8 })

/-- The label of a session from the standard input. -/
def inputLabel : Text := "<stdin>"

/-- The source of a name. -/
def source (w : World) (name : Text) : Except Failure Source :=
  if name = Program.inputName then
    match w.input with
    | .ok bytes => .ok ⟨inputLabel, bytes⟩
    | .error reason => .error (.unreadableInput reason)
  else
    match w.file name with
    | .ok bytes => .ok ⟨name, bytes⟩
    | .error reason => .error (.unreadableFile name reason)

/-- The sources of the names in order, or the first that cannot be read. -/
def sourcesOf (w : World) : List Text → Except Failure (List Source)
  | [] => .ok []
  | n :: ns => do
    let first ← w.source n
    let rest ← w.sourcesOf ns
    return first :: rest

/-- The sources that a command line names. Where it names none, the standard input is meant. -/
def sources (w : World) (names : List Text) : Except Failure (List Source) :=
  if names.isEmpty then w.sourcesOf [Program.inputName]
  else if 1 < names.count Program.inputName then .error .repeatedInput
  else w.sourcesOf names

/-- The sessions that a command line names, and how to report them. -/
def sessions [Speller] [Toml.Format] (w : World) (names : List Text) (overrides : Overrides) :
    Except Failure (OutputFormat × ReportOptions × List Labelled) := do
  let config ← w.settings
  let (format, options) ← (overrides.resolve config).mapError .invalidOverride
  let sources ← w.sources names
  let sessions ← (Source.readAll sources).mapError .badSource
  return (format, options, sessions)

end World

/-! ## Carrying out requests -/

namespace Outcome

/-- A run that went well. -/
def success (output : Text) : Outcome := ⟨0, output, [], []⟩

/-- A run that comes to an output or fails. -/
def ofResult (r : Except Failure Text) : Outcome :=
  match r with
  | .ok t => success t
  | .error f => f.outcome

/-- What a run says that met lines it could not read, where that is a failure. -/
def strictMessage (unparsed : Nat) : Text :=
  Text.ofNat unparsed ++ " unparsed line(s), failing because of --strict\n".toList

/-- The end of a run that reports sessions. -/
def ofSessions [Ruler] (strict : Bool) (format : OutputFormat) (options : ReportOptions)
    (sessions : List Labelled) : Outcome :=
  let unparsed := unparsedLines sessions
  let output := Report.render format options sessions
  if strict && 0 < unparsed then ⟨2, output, strictMessage unparsed, []⟩ else success output

/-- The end of a run whose arguments name nothing to do. -/
def ofStop : Stop → Outcome
  | .help i => success (i.details.getD i.about ++ ['\n'])
  | .version => success (Program.name ++ ' ' :: (Program.version ++ ['\n']))
  | .fault _ =>
    ⟨2, [], [], "The arguments cannot be used. For more information, try '--help'.\n"⟩

end Outcome

namespace Request

/-- A request carried out: what comes out, and the world that is left. -/
def perform [Speller] [Ruler] [Toml.Format] (w : World) : Request → Outcome × World
  | .parse files overrides strict =>
    match w.sessions files overrides with
    | .ok (format, options, sessions) =>
      (Outcome.ofSessions strict format options sessions, w)
    | .error f => (f.outcome, w)
  | .showConfig => (Outcome.ofResult (w.settings.map Config.render), w)
  | .configPath => (Outcome.ofResult (w.configPath.map (· ++ ['\n'])), w)
  | .initConfig force =>
    match w.configPath with
    | .error f => (f.outcome, w)
    | .ok path =>
      if w.config.isSome && !force then ((Failure.configExists path).outcome, w)
      else
        let (saved, left) := w.save Config.initial
        (Outcome.ofResult (saved.map fun _ =>
          "Wrote default config to ".toList ++ path ++ ['\n']), left)
  | .completions shell => (Outcome.success (Completions.script shell), w)

end Request

namespace World

/-- A run of the program with the words of a command line. -/
def run [Speller] [Ruler] [Toml.Format] (w : World) (words : List Text) : Outcome × World :=
  match Invocation.read words with
  | .ok i => i.request.perform w
  | .error s => (Outcome.ofStop s, w)

end World

end SwimSets
