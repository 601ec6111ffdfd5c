import Appraisal.Calendar.Timestamp

/-!
# Moments

Points in time as a clock counts them, and the dates, timestamps and texts that show them.
-/

namespace Appraisal

namespace Calendar

/-- The day number of 1 January 1970. -/
def firstDayNumber : Int := 719163

/-- The last year that begins before day `n`. The mean length of a year finds it up to one year. -/
def yearOfDay (n : Int) : Int :=
  let near := 400 * n / 146097 + 1
  if daysBeforeYear (near + 1) < n then near + 1
  else if daysBeforeYear near < n then near
  else near - 1

/-- The last month of a year that begins before its day `n`. -/
def monthOfDay (year : Int) (n : Nat) : Nat :=
  ((List.range' 1 12).filter fun month => daysBeforeMonth year month < n).length

end Calendar

def Date.ofDayNumber? (n : Int) : Option Date :=
  let year := Calendar.yearOfDay n
  let day := (n - Calendar.daysBeforeYear year).toNat
  let month := Calendar.monthOfDay year day
  Date.of? year month (day - Calendar.daysBeforeMonth year month)

/-- A moment that a clock shows, in nanoseconds since the start of 1970 and before the year 10000. -/
abbrev Moment := Fin 253402300800000000000

namespace Moment

def timestamp? (t : Moment) : Option Timestamp := do
  let date ← Date.ofDayNumber? (Calendar.firstDayNumber + (t.val / 86400000000000 : Nat))
  Timestamp.ofSeconds? date (t.val / 1000000000 % 86400 : Nat) (t.val % 1000000000)

/-- A moment as text, in the form of the standard. -/
def text (t : Moment) : String := t.timestamp?.elim "" (·.text "+00:00")

end Moment
end Appraisal
