import Appraisal.Calendar.Timestamp
import Appraisal.Text.Blank

/-!
# Reading dates and timestamps

The accepted forms are wider than the written ones: blanks may stand in some places, months and
days may have one digit, and a timestamp may have any offset from universal time.
-/

namespace Appraisal.Calendar

/-- Consumes characters, or fails. -/
abbrev Reader := StateT (List Char) Option

namespace Reader

def skipBlanks : Reader Unit := modify Text.trimLeft

def atEnd : Reader Unit := do
  guard (← get).isEmpty

/-- The next character, which must satisfy `accepts`. -/
def next (accepts : Char → Bool) : Reader Char := fun
  | c :: rest => if accepts c then some (c, rest) else none
  | [] => none

def literal (c : Char) : Reader Unit := discard (next (· == c))

def digitValue (c : Char) : Nat := c.toNat - '0'.toNat

def numberOf (digits : List Char) : Nat := digits.foldl (fun n c => 10 * n + digitValue c) 0

/-- The digits at the front, at least one and at most `limit`. -/
def digits (limit : Nat) : Reader (List Char) := fun cs =>
  let found := (cs.take limit).takeWhile Char.isDigit
  if found.isEmpty then none else some (found, cs.drop found.length)

def number (limit : Nat) : Reader Nat := numberOf <$> digits limit

/-- A number of at most two digits after blanks. -/
def twoDigits : Reader Nat := do
  skipBlanks
  number 2

/-- A year has at most four digits, or a sign and as many digits as it likes. -/
def year : Reader Int := do
  skipBlanks
  match ← get with
  | '-' :: rest =>
    set rest
    return -(← number rest.length)
  | '+' :: rest =>
    set rest
    number rest.length
  | _ => number 4

/-- The year, month and day, with `gap` before each dash. -/
def dateParts (gap : Reader Unit) : Reader Date := do
  let y ← year
  gap
  literal '-'
  let m ← twoDigits
  gap
  literal '-'
  let d ← twoDigits
  Date.of? y m d

/-- The fraction of a second in nanoseconds; what is finer than that is dropped. -/
def fraction : Reader Nat := fun
  | '.' :: rest => do
    let (found, after) ← digits 9 rest
    pure (numberOf found * Nat.pow 10 (9 - found.length), after.dropWhile Char.isDigit)
  | cs => some (0, cs)

def isZero (c : Char) : Bool := c == 'Z' || c == 'z'

def startsWithUtc : List Char → Bool
  | u :: t :: c :: _ => u.toLower == 'u' && t.toLower == 't' && c.toLower == 'c'
  | _ => false

def sign : Reader Int := fun
  | '+' :: rest => some (1, rest)
  | '-' :: rest => some (-1, rest)
  | '−' :: rest => some (-1, rest)
  | _ => none

def isHourGap (c : Char) : Bool := c == ':' || Text.isBlank c

/-- The offset from universal time in seconds, less than a day. -/
def offset : Reader Int := do
  let cs ← get
  if startsWithUtc cs then
    set (cs.drop 3)
    return 0
  match cs with
  | c :: rest =>
    if isZero c then
      set rest
      return 0
  | [] => failure
  let direction ← sign
  let h1 ← next Char.isDigit
  let h2 ← next Char.isDigit
  modify (List.dropWhile isHourGap)
  let m1 ← next fun c => c.isDigit && c ≤ '5'
  let m2 ← next Char.isDigit
  let hours := numberOf [h1, h2]
  guard (hours < 24)
  return direction * (hours * 3600 + numberOf [m1, m2] * 60)

def dateTimeGap (c : Char) : Bool := c == 't' || c == 'T' || c == ' '

/-- The moment of a clock that is `shift` seconds ahead of universal time. Second 60 is a leap
second. -/
def atClock (date : Date) (hour minute second nanosecond : Nat) (shift : Int) : Option Timestamp :=
  let leap := second / 60
  let clock := hour * 3600 + minute * 60 + (second - leap)
  Timestamp.ofSeconds? date (clock - shift) (nanosecond + leap * 1000000000)

def timestamp : Reader Timestamp := do
  let date ← dateParts skipBlanks
  discard (next dateTimeGap)
  let hour ← twoDigits
  skipBlanks
  literal ':'
  let minute ← twoDigits
  skipBlanks
  literal ':'
  let second ← twoDigits
  guard (hour < 24 && minute < 60 && second ≤ 60)
  let nanosecond ← fraction
  skipBlanks
  let shift ← offset
  skipBlanks
  atEnd
  atClock date hour minute second nanosecond shift

def exactly (count : Nat) : Reader Nat := do
  let found ← digits count
  guard (found.length = count)
  return numberOf found

/-- The offset in the form of the standard: a letter, or a sign, two digits, a colon and two digits. -/
def strictOffset : Reader Int := do
  if (← get).head?.any isZero then
    discard (next isZero)
    return 0
  let direction ← sign
  let hours ← exactly 2
  literal ':'
  let minutes ← exactly 2
  guard (hours < 24 && minutes < 60)
  return direction * (hours * 3600 + minutes * 60)

/-- A timestamp in the form of the standard, with no blanks and all digits. -/
def strictTimestamp : Reader Timestamp := do
  let year ← exactly 4
  literal '-'
  let month ← exactly 2
  literal '-'
  let day ← exactly 2
  discard (next dateTimeGap)
  let hour ← exactly 2
  literal ':'
  let minute ← exactly 2
  literal ':'
  let second ← exactly 2
  guard (hour < 24 && minute < 60 && second ≤ 60)
  let nanosecond ← fraction
  let shift ← strictOffset
  atEnd
  let date ← Date.of? year month day
  atClock date hour minute second nanosecond shift

def run? {β : Type} (r : Reader β) (s : String) : Option β := (StateT.run r s.toList).map (·.1)

end Reader
end Calendar

/-- Reads a date; blanks may stand in front of its numbers and dashes and at its end. -/
def Date.read? (s : String) : Option Date :=
  Calendar.Reader.run? (do
    let date ← Calendar.Reader.dateParts Calendar.Reader.skipBlanks
    Calendar.Reader.skipBlanks
    Calendar.Reader.atEnd
    return date) s

/-- Reads a date with nothing in front of its dashes or after it. -/
def Date.readStrict? (s : String) : Option Date :=
  Calendar.Reader.run? (do
    let date ← Calendar.Reader.dateParts (pure ())
    Calendar.Reader.atEnd
    return date) s

def Timestamp.read? (s : String) : Option Timestamp :=
  Calendar.Reader.run? Calendar.Reader.timestamp s

/-- Reads a timestamp in the form of the standard. -/
def Timestamp.readStrict? (s : String) : Option Timestamp :=
  Calendar.Reader.run? Calendar.Reader.strictTimestamp s

end Appraisal
