import SwimSets.Command.Run
import SwimSets.Text.Spellings
import SwimSets.Text.Widths
import SwimSets.Toml.Document

/-!
# The program

Reads from the system what a run needs to know of the world, makes the run, saves the settings if
they are to be saved, and writes what comes out. Nothing that cannot be read stops it: that is for
the run to report, if it needs what is missing.
-/

namespace SwimSets

/-- The number of an error, whatever its sign. -/
def errorNumber (code : UInt32) : Nat :=
  if code < 0x80000000 then code.toNat else 0x100000000 - code.toNat

/-- What the system says of an error, as far as it says anything. -/
def systemMessage : IO.Error → Text
  | .noFileOrDirectory _ code details => numbered code details
  | .inappropriateType _ code details => numbered code details
  | .permissionDenied _ code details => numbered code details
  | .alreadyExists _ code details => numbered code details
  | .resourceExhausted _ code details => numbered code details
  | .resourceVanished code details => numbered code details
  | .hardwareFault code details => numbered code details
  | .otherError code details => numbered code details
  | e => e.toString.toList
where
  numbered (code : UInt32) (details : String) : Text :=
    details.capitalize.toList ++ " (os error ".toList ++ Text.ofNat (errorNumber code) ++ [')']

/-- What an action gives, or what the system says of its failure. -/
def attempt {α : Type} (action : IO α) : IO (Except Text α) := do
  try
    return .ok (← action)
  catch e => return .error (systemMessage e)

/-- The bytes of a file, or what the system says if it cannot be read. -/
def readFile (path : Text) : IO (Except Text (List UInt8)) :=
  attempt do return (← IO.FS.readBinFile (String.ofList path)).data.toList

/-- There is something under the path. -/
def isThere (path : Text) : IO Bool := do
  return (← attempt (IO.FS.realPath (String.ofList path))).toBool

/-- All that is left of a stream. -/
partial def readStream (s : IO.FS.Stream) : IO (List UInt8) := do
  let chunk ← s.read 65536
  if chunk.isEmpty then return []
  return chunk.data.toList ++ (← readStream s)

/-- The home directory, if it is known. -/
def findHome : IO (Option Text) := do
  return ((← IO.getEnv "HOME").map String.toList).filter (!·.isEmpty)

/-- The bytes of the file of settings, if it is there, and why it cannot be read, if it cannot. -/
def readConfig (home : Option Text) : IO (Option (List UInt8) × Option Text) := do
  match home with
  | none => return (none, none)
  | some home =>
    if !(← isThere (configFile home)) then return (none, none)
    match ← readFile (configFile home) with
    | .ok bytes => return (some bytes, none)
    | .error reason => return (some [], some reason)

/-- The files that a run reads, by name. -/
def readFiles (names : List Text) : IO (List (Text × Except Text (List UInt8))) :=
  names.mapM fun n => return (n, ← readFile n)

/-- What a run with the given words can see of the system. Whether settings can be saved is not
known before it is tried. -/
def findWorld (words : List Text) : IO World := do
  let home ← findHome
  let (config, configFault) ← readConfig home
  match Invocation.read words with
  | .error _ => return ⟨home, config, configFault, none, .ok [], fun _ => .error []⟩
  | .ok i =>
    let input ←
      if i.request.readsInput then attempt (do readStream (← IO.getStdin)) else pure (.ok [])
    let files ← readFiles i.request.files
    return ⟨home, config, configFault, none, input, fun n => (files.lookup n).getD (.error [])⟩

/-- Saves what the file of settings is to hold, and gives what stands in the way. -/
def saveConfig (home : Text) (bytes : List UInt8) : IO (Option SaveFault) := do
  match ← attempt (IO.FS.createDirAll (String.ofList (configDirectory home))) with
  | .error reason => return some (.directory reason)
  | .ok () =>
    match ← attempt (IO.FS.writeBinFile (String.ofList (configFile home)) ⟨bytes.toArray⟩) with
    | .error reason => return some (.file reason none)
    | .ok () => return none

/-- What a run comes to, once the settings are saved that it saves. -/
def runIn (before : World) (words : List Text) : IO Outcome := do
  let (outcome, after) := before.run words
  match Invocation.read words, before.home, outcome.code with
  | .ok ⟨_, .initConfig _⟩, some home, 0 =>
    match ← saveConfig home (after.config.getD []) with
    | none => return outcome
    | some fault => return ({ before with saveFault := some fault }.run words).1
  | _, _, _ => return outcome

end SwimSets

/-- A run of the program. -/
def main (args : List String) : IO UInt32 := do
  let words := args.map String.toList
  let outcome ← SwimSets.runIn (← SwimSets.findWorld words) words
  IO.print (String.ofList outcome.output)
  IO.eprint (String.ofList (outcome.message ++ outcome.advice))
  return outcome.code.toUInt32
