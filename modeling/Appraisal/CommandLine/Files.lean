import Appraisal.CommandLine.Location
import Appraisal.Document.Database
import Appraisal.Json.Printer

/-!
# Files

What a database file holds, what opening one comes to, and what is said of a file that cannot be used.
-/

namespace Appraisal
variable {α : Type} [Arithmetic α] [NumberText α]

namespace CommandLine

/-- A database file begins with a byte that no text has, so it is not taken for a document. -/
def signature : UInt8 := 255

def unreadableFile (path cause : String) : Failure :=
  .invalid ("cannot read " ++ path ++ ": " ++ cause)

/-- Why a file with other bytes than text cannot be read. -/
def notText : String := "stream did not contain valid UTF-8"

/-- Why the system refuses a file: its number for the cause, in words of its own before it. -/
def systemCause (description : String) (number : Nat) : String :=
  description ++ " (os error " ++ Nat.repr number ++ ")"

def textOfBytes (path : String) (bytes : ByteArray) : Except Failure String :=
  match String.fromUTF8? bytes with
  | some text => .ok text
  | none => .error (unreadableFile path notText)

def databaseBytes (db : Database α) : ByteArray :=
  ByteArray.mk #[signature] ++ db.toJson.compact.toUTF8

omit [NumberText α] in
/-- The database that a file with a signature holds. -/
def databaseOfBytes? (bytes : ByteArray) : Option (Database α) :=
  if bytes.data[0]? = some signature then
    String.fromUTF8? (bytes.extract 1 bytes.size) >>= Json.read? >>= Database.ofJson?
  else none

/-- What the path of a database leads to. -/
inductive Found (α : Type) where
  /-- No file can stand there. -/
  | unreachable
  /-- The file after which a new one is modelled is not there. -/
  | withoutModel
  | folder
  /-- Nothing yet. -/
  | nothing
  /-- A file without content. -/
  | blank
  /-- A file that takes whatever is written and keeps nothing. -/
  | sink
  /-- A file with other content. -/
  | foreign
  | database (db : Database α)

/-- A file of at most one byte counts as one without content. -/
def Found.isBlankSize (size : Nat) : Bool := size ≤ 1

omit [NumberText α] in
def Found.ofBytes (bytes : ByteArray) : Found α :=
  if Found.isBlankSize bytes.size then .blank
  else (databaseOfBytes? bytes).elim .foreign .database

namespace Location

def cannotOpen : String := "unable to open database file"

def notWritable : String := "attempt to write a readonly database"

def brokenOff : String := "disk I/O error"

def noFile (loc : Location) : Failure :=
  .database ("DB error: " ++ cannotOpen ++ ": " ++ loc.given)

def badFile (cause : String) : Failure := .database ("DB error: " ++ cause)

/-- A failure to use the log, or to read the file before that. -/
def noLog (cause : String) : Failure := .database ("WAL error: " ++ cause)

/-- A failure to set up the tables. -/
def noTables (cause : String) : Failure := .database ("Migration failed: " ++ cause)

/-- While a file changes, a journal stands beside it. -/
def journalSuffix : String := "-journal"

/-- While a file is locked, a folder may stand beside it. -/
def lockSuffix : String := ".lock"

/-- Whether a folder can hold the name of the file with a suffix. -/
def hasRoomFor (loc : Location) (suffix : String) : Bool :=
  (loc.path >>= fun path => (placeOf path).name?).all fun name =>
    name.length + suffix.utf8ByteSize ≤ longestName

/-- The first change of a file: it is marked as one with a log, or without a log the tables are set
up in it. -/
def firstChange (loc : Location) : String → Failure := if loc.log = .absent then noTables else noLog

/-- Sets up the tables in a file without content; `keeps` tells whether the file keeps them. -/
def setUp {β : Type} (loc : Location) (keeps : Bool) (empty : β) : Except Failure β :=
  if loc.isReadOnly then .error (loc.firstChange notWritable)
  else if !loc.hasRoomFor journalSuffix then .error (loc.firstChange cannotOpen)
  else if !keeps then .error (loc.firstChange brokenOff)
  else if loc.sparesIndex then .error (noTables cannotOpen)
  else .ok empty

/-- Takes the lock before a file is read. -/
def lockAnd {β : Type} (loc : Location) (isLocked : Bool) (next : Except Failure β) :
    Except Failure β :=
  if loc.locksByFolder && !loc.hasRoomFor lockSuffix then .error (noLog brokenOff)
  else if loc.locksByFolder && isLocked then .error (noLog "database is locked")
  else next

omit [Arithmetic α] [NumberText α] in
/-- The database that is opened where `found` was found. -/
def openFound (loc : Location) (isLocked : Bool) : Found α → Except Failure (Database α)
  | .unreachable => .error loc.noFile
  | .withoutModel => .error (badFile brokenOff)
  | .folder => .error (if loc.access = .read then badFile brokenOff else loc.noFile)
  | .nothing =>
    if loc.access = .create then loc.lockAnd isLocked (loc.setUp true .empty)
    else .error loc.noFile
  | .blank => loc.lockAnd isLocked (loc.setUp true .empty)
  | .sink => loc.lockAnd isLocked (loc.setUp false .empty)
  | .foreign => loc.lockAnd isLocked (.error (noLog "file is not a database"))
  | .database db =>
    loc.lockAnd isLocked (if loc.sparesIndex then .error (noLog cannotOpen) else .ok db)

end Location
end CommandLine
end Appraisal
