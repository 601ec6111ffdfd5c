import Appraisal.Json.Basic
import Appraisal.Text.Hexadecimal

/-!
# Reading documents

A reader of the JSON grammar. Every step consumes a character, so the length of the text bounds the
depth of the recursion.
-/

namespace Appraisal.Json

/-- Consumes characters, or fails. -/
abbrev Reader := StateT (List Char) Option

namespace Reader

def isGap (c : Char) : Bool := c == ' ' || c == '\n' || c == '\t' || c == '\r'

def skipGap : Reader Unit := modify (List.dropWhile isGap)

def next? : Reader (Option Char) := fun
  | c :: rest => some (some c, rest)
  | [] => some (none, [])

def peek? : Reader (Option Char) := fun cs => some (cs.head?, cs)

def literal (expected : Char) : Reader Unit := fun
  | c :: rest => if c = expected then some ((), rest) else none
  | [] => none

def word (expected : String) : Reader Unit := expected.toList.forM literal

def hexDigit : Reader Nat := fun
  | c :: rest => (Text.hexValue? c).map (·, rest)
  | [] => none

def codeUnit : Reader Nat := do
  let a ← hexDigit
  let b ← hexDigit
  let c ← hexDigit
  let d ← hexDigit
  return 4096 * a + 256 * b + 16 * c + d

def isHighHalf (unit : Nat) : Bool := 0xD800 ≤ unit && unit < 0xDC00

def isLowHalf (unit : Nat) : Bool := 0xDC00 ≤ unit && unit < 0xE000

/-- The second half of a character. -/
def lowHalf : Reader Nat := do
  literal '\\'
  literal 'u'
  let unit ← codeUnit
  guard (isLowHalf unit)
  return unit

/-- A numbered character. One beyond the first 65536 is written as two halves; one half alone is no
character, and what follows it is read on its own. -/
def numberedChar : Reader (Option Char) := do
  let unit ← codeUnit
  if isLowHalf unit then return none
  else if isHighHalf unit then
    match lowHalf.run (← get) with
    | some (low, rest) =>
      set rest
      return some (Char.ofNat (0x10000 + (unit - 0xD800) * 0x400 + (low - 0xDC00)))
    | none => return none
  else return some (Char.ofNat unit)

/-- What a backslash and `c` stand for. -/
def escaped (c : Char) : Reader (Option Char) :=
  match c with
  | '"' => return some '"'
  | '\\' => return some '\\'
  | '/' => return some '/'
  | 'b' => return some (Char.ofNat 8)
  | 'f' => return some (Char.ofNat 12)
  | 'n' => return some '\n'
  | 'r' => return some '\r'
  | 't' => return some '\t'
  | 'u' => numberedChar
  | _ => failure

/-- The text up to the closing quote. The characters that were already `read` stand back to front;
half a character among them leaves no text. -/
def quoted : Nat → Option (List Char) → Reader (Option String)
  | 0, _ => failure
  | fuel + 1, read => do
    match ← next? with
    | none => failure
    | some '"' => return read.map fun cs => String.ofList cs.reverse
    | some '\\' =>
      match ← next? with
      | none => failure
      | some c =>
        let found ← escaped c
        quoted fuel (found.bind fun c => read.map (c :: ·))
    | some c => if c.toNat < 32 then failure else quoted fuel (read.map (c :: ·))

def text : Reader (Option String) := do quoted (← get).length.succ (some [])

def takeDigits : Reader (List Char) := fun cs =>
  let found := cs.takeWhile Char.isDigit
  some (found, cs.drop found.length)

def someDigits : Reader (List Char) := do
  let found ← takeDigits
  guard !found.isEmpty
  return found

/-- A whole part has no zero in front of other digits. -/
def wholePart : Reader (List Char) := do
  let found ← someDigits
  guard (found.length = 1 || found.head? != some '0')
  return found

def numberOf (digits : List Char) : Nat :=
  digits.foldl (fun n c => 10 * n + (c.toNat - '0'.toNat)) 0

def optionalFraction : Reader (Option (List Char)) := do
  if (← peek?) = some '.' then
    literal '.'
    some <$> someDigits
  else return none

def exponentDigits : Reader Int := do
  match ← peek? with
  | some '-' =>
    literal '-'
    return -(numberOf (← someDigits))
  | some '+' =>
    literal '+'
    return numberOf (← someDigits)
  | _ => return numberOf (← someDigits)

def optionalExponent : Reader (Option Int) := do
  match ← peek? with
  | some 'e' | some 'E' =>
    let _ ← next?
    some <$> exponentDigits
  | _ => return none

variable {α : Type} [Arithmetic α]

/-- Appends digits to a number as long as it fits into 64 bits. Gives the number and the digits that
are left. -/
def fill (n : Nat) : List Char → Nat × List Char
  | [] => (n, [])
  | c :: rest =>
    let longer := 10 * n + (c.toNat - '0'.toNat)
    if longer < UInt64.size then fill longer rest else (n, c :: rest)

/-- The exponent of the greatest power of ten at hand. -/
def greatestPower : Nat := 308

def powerOfTen (exponent : Nat) : α := OfScientific.ofScientific 1 false exponent

/-- Divides by the greatest power of ten again and again, until nothing is left. -/
def divideOften (x : α) : Nat → α
  | 0 => x
  | times + 1 => if x == 0.0 then x else divideOften (x / powerOfTen greatestPower) times

/-- Multiplies by a power of ten, in one step. A product that is not finite is none. -/
def scaledUp? (x : α) (exponent : Nat) : Option α :=
  if exponent ≤ greatestPower then some (x * powerOfTen exponent) |>.filter Arithmetic.isFinite
  else if x == 0.0 then some x
  else none

/-- Divides by a power of ten, in steps that the greatest power allows. -/
def scaledDown (x : α) (exponent : Nat) : α :=
  let times := (exponent - 1) / greatestPower
  divideOften x times / powerOfTen (exponent - times * greatestPower)

/-- The number that digits before and after the point and an exponent stand for. As many digits count
as fit into 64 bits. Their number is rounded, and so is every step that takes it to its power of
ten: the nearest number to the text may be missed. -/
def decimal? (whole fraction : List Char) (exponent : Int) : Option α :=
  let (start, wholeLeft) := fill 0 whole
  let (significand, fractionLeft) := fill start fraction
  let x : α := Arithmetic.ofNat significand
  match exponent + wholeLeft.length - (fraction.length - fractionLeft.length : Nat) with
  | .ofNat e => scaledUp? x e
  | .negSucc e => some (scaledDown x (e + 1))

/-- The range of whole numbers that are kept exact. -/
def isExact (n : Int) : Bool := Int64.minValue.toInt ≤ n && n < UInt64.size

def magnitude (negative : Bool) : Reader (Json α) := do
  let whole ← wholePart
  let fraction ← optionalFraction
  let exponent ← optionalExponent
  let n : Int := if negative then -numberOf whole else numberOf whole
  if fraction.isNone && exponent.isNone && isExact n && !(negative && n == 0) then return .int n
  else
    match decimal? whole (fraction.getD []) (exponent.getD 0) with
    | some x => return .float (if negative then -x else x)
    | none => return .meaningless

def number : Reader (Json α) := do
  if (← peek?) = some '-' then
    literal '-'
    magnitude true
  else magnitude false

def objectOf (members : List (Option String × Json α)) : Json α :=
  match members.mapM fun (key, value) => key.map (·, value) with
  | some members => .object members
  | none => .meaningless

mutual

def value : Nat → Reader (Json α)
  | 0 => failure
  | fuel + 1 => do
    skipGap
    match ← peek? with
    | some '\x7b' =>
      literal '\x7b'
      skipGap
      if (← peek?) = some '\x7d' then
        literal '\x7d'
        return .object []
      else return objectOf (← members fuel)
    | some '[' =>
      literal '['
      skipGap
      if (← peek?) = some ']' then
        literal ']'
        return .array []
      else return .array (← items fuel)
    | some '"' =>
      literal '"'
      return (← text).elim .meaningless .string
    | some 't' =>
      word "true"
      return .bool true
    | some 'f' =>
      word "false"
      return .bool false
    | some 'n' =>
      word "null"
      return .null
    | _ => number

/-- The items up to the closing bracket, at least one. -/
def items : Nat → Reader (List (Json α))
  | 0 => failure
  | fuel + 1 => do
    let item ← value fuel
    skipGap
    match ← next? with
    | some ',' => return item :: (← items fuel)
    | some ']' => return [item]
    | _ => failure

/-- The members up to the closing brace, at least one. -/
def members : Nat → Reader (List (Option String × Json α))
  | 0 => failure
  | fuel + 1 => do
    skipGap
    literal '"'
    let key ← text
    skipGap
    literal ':'
    let item ← value fuel
    skipGap
    match ← next? with
    | some ',' => return (key, item) :: (← members fuel)
    | some '\x7d' => return [(key, item)]
    | _ => failure

end

end Reader

variable {α : Type} [Arithmetic α]

/-- Reads a text that is one document, parts of which may be meaningless. -/
def readLoosely? (s : String) : Option (Json α) :=
  let cs := s.toList
  match (Reader.value (cs.length + 1)).run cs with
  | some (j, rest) => if rest.all Reader.isGap then some j else none
  | none => none

def read? (s : String) : Option (Json α) := (readLoosely? s).filter isMeaningful

end Appraisal.Json
