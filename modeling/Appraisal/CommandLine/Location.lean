import Appraisal.CommandLine.Path
import Appraisal.Failure
import Appraisal.Text.Hexadecimal

/-!
# Locations of databases

A database is named by the path of a file. A name that begins with `file:` may have options after a
question mark, which restrict the use of the file or do without one. The main definition is
`Location.parse`.
-/

namespace Appraisal.CommandLine

/-- What a file may be opened for. -/
inductive Access where
  | read
  | write
  /-- Writing, also to a file that is not there yet. -/
  | create
  deriving DecidableEq

/-- Where changes are collected before they reach the file. -/
inductive Log where
  /-- In files beside it, for all who use it. -/
  | shared
  /-- In a file beside it, for one user. -/
  | exclusive
  /-- Nowhere: they are written to the file itself. -/
  | absent
  deriving DecidableEq

/-- Where a database is kept and how it is used. -/
structure Location where
  /-- The name as it was given. -/
  given : String
  /-- The path of the file. A database without one lives as long as the run. -/
  path : Option (List UInt8)
  access : Access
  /-- The path of a file whose permissions a new file gets. -/
  model : Option (List UInt8) := none
  /-- Whether the file is taken to change never. -/
  isFrozen : Bool
  log : Log
  /-- Whether the index to the log is used only if it is there. -/
  sparesIndex : Bool := false
  /-- Whether users keep each other out by a folder beside the file. -/
  locksByFolder : Bool := false
  deriving DecidableEq

namespace Location

def isReadOnly (loc : Location) : Bool := loc.access = .read || loc.isFrozen

/-- The path that stands for no file. -/
def transientPath : List UInt8 := bytesOf ":memory:"

/-- The path of a file, unless it stands for none. -/
def filePath? (path : List UInt8) : Option (List UInt8) :=
  if path.isEmpty || path = transientPath then none else some path

/-- What an option may say about the use of a file. -/
inductive Mode where
  | file (access : Access)
  /-- There is no file. -/
  | memory
  deriving DecidableEq

namespace Mode

def names : List (List UInt8 × Mode) := [
  (bytesOf "ro", .file .read), (bytesOf "rw", .file .write), (bytesOf "rwc", .file .create),
  (bytesOf "memory", .memory)]

/-- Whether a mode may be replaced. What it does not allow cannot be allowed later. -/
def admits : Mode → Mode → Bool
  | .file .read, .file next => next = .read
  | .file .write, .file next => next != .create
  | .file .create, _ | .memory, _ | _, .memory => true

def access : Mode → Access
  | .file access => access
  | .memory => .create

end Mode

/-- What keeps the content of files. -/
inductive System where
  | disk (log : Log) (locksByFolder : Bool)
  | memory
  deriving DecidableEq

namespace System

def names : List (List UInt8 × System) := [
  (bytesOf "unix", .disk .shared false), (bytesOf "unix-excl", .disk .exclusive false),
  (bytesOf "unix-none", .disk .absent false), (bytesOf "unix-dotfile", .disk .absent true),
  (bytesOf "memdb", .memory)]

end System

/-! ## Options -/

def refused (cause : String) (bytes : List UInt8) : Failure :=
  .database ("DB error: " ++ cause ++ shownBytes bytes)

/-- A byte by its two digits. -/
def byteOf? (high low : UInt8) : Option UInt8 := do
  let h ← Text.hexValue? (Char.ofNat high.toNat)
  let l ← Text.hexValue? (Char.ofNat low.toNat)
  return UInt8.ofNat (16 * h + l)

/-- Resolves numbered bytes. The byte zero ends the part that it stands in. -/
def decode : List UInt8 → List UInt8
  | b :: high :: low :: rest =>
    if b = '%'.toUInt8 then
      match byteOf? high low with
      | some 0 => []
      | some byte => byte :: decode rest
      | none => b :: decode (high :: low :: rest)
    else b :: decode (high :: low :: rest)
  | bytes => bytes

/-- The options of a query, in order. One without a name is passed over. -/
def options (query : List UInt8) : List (List UInt8 × List UInt8) :=
  (splitBytes '&'.toUInt8 query).filterMap fun part =>
    let (name, value) := cutBytes '='.toUInt8 part
    if (decode name).isEmpty then none else some (decode name, decode (value.getD []))

/-- The number that the digits at the front stand for. -/
def leadingNumber (base : Nat) (value : List UInt8) : Nat :=
  let digit? (b : UInt8) : Option Nat :=
    (Text.hexValue? (Char.ofNat b.toNat)).filter (· < base)
  (value.takeWhile fun b => (digit? b).isSome).foldl (fun n b => base * n + (digit? b).getD 0) 0

/-- The number at the front of a value, which may be hexadecimal. One that is too large counts as
zero. -/
def numberOf (value : List UInt8) : Nat :=
  let n :=
    if (bytesOf "0x").isPrefixOf value || (bytesOf "0X").isPrefixOf value then
      leadingNumber 16 (value.drop 2)
    else leadingNumber 10 value
  if n < 2147483648 then n else 0

/-- Whether a value means yes: a word, or a number whose last byte is not zero. -/
def isYes (value : List UInt8) : Bool :=
  numberOf value % 256 != 0 ||
    ["on", "yes", "true"].contains ((shownBytes value).map Char.toLower)

/-- Whether the first option of a name means yes. -/
def hasOption (options : List (List UInt8 × List UInt8)) (name : String) : Bool :=
  ((options.lookup (bytesOf name)).map isYes).getD false

/-- What the options have said so far. -/
structure Choice where
  mode : Mode := .file .create
  system : List UInt8 := bytesOf "unix"

def Choice.take (choice : Choice) (name value : List UInt8) : Except Failure Choice :=
  if name = bytesOf "vfs" then .ok { choice with system := value }
  else if name = bytesOf "cache" then
    if value = bytesOf "shared" || value = bytesOf "private" then .ok choice
    else .error (refused "no such cache mode: " value)
  else if name = bytesOf "mode" then
    match Mode.names.lookup value with
    | none => .error (refused "no such access mode: " value)
    | some mode =>
      if choice.mode.admits mode then .ok { choice with mode }
      else .error (refused "access mode not allowed: " value)
  else .ok choice

/-- Takes options from the first to the last. -/
def Choice.ofOptions (options : List (List UInt8 × List UInt8)) : Except Failure Choice :=
  options.foldlM (fun (choice : Choice) (name, value) => choice.take name value) {}

/-- The system that a choice names. -/
def Choice.system? (choice : Choice) : Except Failure System :=
  match System.names.lookup choice.system with
  | some system => .ok system
  | none => .error (refused "no such vfs: " choice.system)

/-- The location of a file with options. -/
def ofOptions (given : String) (path : List UInt8) (options : List (List UInt8 × List UInt8)) :
    Except Failure Location := do
  let choice ← Choice.ofOptions options
  let system ← choice.system?
  let path := if choice.mode = .memory then none else filePath? path
  let isFrozen := path.isSome && hasOption options "immutable"
  let isUnlocked := isFrozen || hasOption options "nolock"
  let access := choice.mode.access
  match path, system with
  | some path, .disk log locksByFolder =>
    let log := if isUnlocked then .absent else log
    return {
      given, path, access, isFrozen, log
      model := options.lookup (bytesOf "modeof")
      sparesIndex := log = .shared && hasOption options "readonly_shm"
      locksByFolder := locksByFolder && !isUnlocked }
  | _, _ => return { given, path := none, access, isFrozen, log := .absent }

/-- What follows two slashes: the host, which has to be this one, and the rest from the next slash. -/
def withoutHost : List UInt8 → Except Failure (List UInt8)
  | a :: b :: rest =>
    if a = slash && b = slash then
      let host := rest.takeWhile (· != slash)
      if host.isEmpty || host = bytesOf "localhost" then .ok (rest.dropWhile (· != slash))
      else .error (refused "invalid uri authority: " host)
    else .ok (a :: b :: rest)
  | bytes => .ok bytes

/-- Reads what follows `file:`. -/
def parseUri (given : String) (bytes : List UInt8) : Except Failure Location := do
  let (whole, _) := cutBytes '#'.toUInt8 (← withoutHost bytes)
  let (path, query) := cutBytes '?'.toUInt8 whole
  ofOptions given (decode path) (options (query.getD []))

def scheme : List UInt8 := bytesOf "file:"

def parse (given : String) : Except Failure Location :=
  let bytes := bytesOf given
  if scheme.isPrefixOf bytes then parseUri given (bytes.drop scheme.length)
  else ofOptions given bytes []

end Location
end Appraisal.CommandLine
