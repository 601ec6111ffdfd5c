/-!
# Paths

A path is a sequence of bytes, in which slashes divide steps. A single dot is a step to nowhere, and
two dots are a step up.
-/

namespace Appraisal.CommandLine

abbrev FileName := List UInt8

def bytesOf (s : String) : List UInt8 := s.toUTF8.toList

/-- The bytes as a text. Where they are none, what lies outside the first 128 bytes is unknown. -/
def shownBytes (bytes : List UInt8) : String :=
  (String.fromUTF8? ⟨bytes.toArray⟩).getD
    (String.ofList (bytes.map fun b => if b < 128 then Char.ofNat b.toNat else Char.ofNat 0xFFFD))

/-- The parts before, between and after the separators. -/
def splitBytes (separator : UInt8) : List UInt8 → List (List UInt8)
  | [] => [[]]
  | b :: rest =>
    match splitBytes separator rest with
    | part :: parts => if b = separator then [] :: part :: parts else (b :: part) :: parts
    | [] => [[b]]

/-- What stands before the first separator and, if there is one, what stands after it. -/
def cutBytes (separator : UInt8) (bytes : List UInt8) : List UInt8 × Option (List UInt8) :=
  (bytes.takeWhile (· != separator), (bytes.dropWhile (· != separator)).tail?)

def slash : UInt8 := '/'.toUInt8

/-- The step to nowhere. -/
def stay : FileName := bytesOf "."

/-- The step to the folder around. -/
def up : FileName := bytesOf ".."

/-- No folder holds a name of more bytes. -/
def longestName : Nat := 255

/-- A place among the folders, by the steps that lead there from the root or from the working folder.
None of them leads to nowhere, and only the first ones from the working folder lead up. -/
structure Place where
  isAbsolute : Bool
  steps : List FileName
  deriving DecidableEq

namespace Place

def start (path : List UInt8) : Place := ⟨path.head? = some slash, []⟩

/-- The folder around a place. Around the root there is only the root. -/
def above (p : Place) : Place :=
  match p.steps.getLast? with
  | none => if p.isAbsolute then p else { p with steps := [up] }
  | some last =>
    if last = up then { p with steps := p.steps ++ [up] } else { p with steps := p.steps.dropLast }

def enter (p : Place) (step : FileName) : Place :=
  if step = stay then p else if step = up then p.above else { p with steps := p.steps ++ [step] }

/-- The last name, unless the place is known only as the way to it. -/
def name? (p : Place) : Option FileName := p.steps.getLast?.filter (· != up)

end Place

/-- The steps of a path. Slashes side by side count as one. -/
def stepsOf (path : List UInt8) : List FileName := (splitBytes slash path).filter (!·.isEmpty)

/-- Where a path leads if all names on the way stand for folders. -/
def placeOf (path : List UInt8) : Place := (stepsOf path).foldl Place.enter (.start path)

end Appraisal.CommandLine
