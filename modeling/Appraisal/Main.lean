import Appraisal.CommandLine.Files
import Appraisal.CommandLine.Run
import Appraisal.Double
import Std.Time.DateTime.Timestamp

/-!
# The program

Runs a command with the files, the environment and the clock of the system.
-/

namespace Appraisal.CommandLine

/-- Why the system refused. Numbers of causes may come negated. -/
def causeOf : IO.Error → String
  | .noFileOrDirectory _ number description | .permissionDenied _ number description
  | .inappropriateType _ number description | .invalidArgument _ number description
  | .resourceExhausted _ number description | .otherError number description =>
    systemCause description.capitalize number.toInt32.toInt.natAbs
  | e => toString e

def readText (path : String) : IO (Except Failure String) := do
  try return textOfBytes path (← IO.FS.readBinFile path)
  catch e => return .error (unreadableFile path (causeOf e))

/-- The path of a database in the words of the system: the way to its place. -/
def systemPath? (loc : Location) : Option String := do
  let p := placeOf (← loc.path)
  let steps ← p.steps.mapM fun step => String.fromUTF8? ⟨step.toArray⟩
  return (if p.isAbsolute then "/" else "./") ++ "/".intercalate steps

def writeDatabase (loc : Location) (db : Database Float) : IO Unit := do
  if let some path := systemPath? loc then IO.FS.writeBinFile path (databaseBytes db)

/-- What is found at the location of a database. Where nothing is, a file is created if it may be. -/
def findDatabase (loc : Location) (path : String) : IO (Found Float) := do
  try return .ofBytes (← IO.FS.readBinFile path)
  catch
    | .noFileOrDirectory .. =>
      if loc.access != .create then return .nothing
      try
        IO.FS.writeBinFile path .empty
        return .blank
      catch _ => return .unreachable
    | .inappropriateType .. => return .folder
    | _ => return .unreachable

/-- Whether the file is there whose permissions a new file gets, if one is named. -/
def hasModel (loc : Location) : IO Bool := do
  let some path := loc.model.bind fun model => String.fromUTF8? ⟨model.toArray⟩ | return loc.model.isNone
  try
    discard (IO.FS.readBinFile path)
    return true
  catch
    | .noFileOrDirectory .. => return false
    | _ => return true

def openFile (loc : Location) : IO (Except Failure (Database Float)) := do
  let found ←
    if ← hasModel loc then (systemPath? loc).elim (pure .unreachable) (findDatabase loc)
    else pure .withoutModel
  return loc.openFound false found

/-- The settings that the system's environment holds. -/
def readEnvironment : IO (List (String × String)) :=
  Settings.keys.filterMapM fun key => return (← IO.getEnv key).map (key, ·)

def readClock : IO Moment :=
  return .ofNat _ (← Std.Time.Timestamp.now).toNanosecondsSinceUnixEpoch.val.toNat

def surroundings : IO (Surroundings Float IO) := do
  let values ← readEnvironment
  let now ← readClock
  let some present := now.timestamp? | throw (IO.userError "the clock shows no date")
  return {
    environment := fun key => values.lookup key
    openDatabase := openFile
    keepDatabase := writeDatabase
    fileText := readText
    today := present.date
    now
    analyzedAt := present.text "Z"
    requestedAt := id }

end Appraisal.CommandLine

def main (args : List String) : IO UInt32 := do
  let outcome ← Appraisal.CommandLine.run (← Appraisal.CommandLine.surroundings) args
  unless outcome.output.isEmpty do IO.println outcome.output
  unless outcome.errors.isEmpty do IO.eprintln outcome.errors
  return outcome.exitCode.toUInt32
