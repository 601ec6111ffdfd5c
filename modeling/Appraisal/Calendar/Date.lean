import Appraisal.Decimal.Fixed

/-!
# Dates

Days of the proleptic Gregorian calendar. A date exists only for years that the calendar covers,
so that a difference of dates is a difference of day numbers.
-/

namespace Appraisal

namespace Calendar

def isLeapYear (year : Int) : Bool := year % 4 == 0 && (year % 100 != 0 || year % 400 == 0)

def daysInMonth (year : Int) (month : Nat) : Nat :=
  match month with
  | 2 => if isLeapYear year then 29 else 28
  | 4 | 6 | 9 | 11 => 30
  | _ => 31

def firstYear : Int := -262143

def lastYear : Int := 262142

/-- Whether the calendar has this day. -/
def isDay (year : Int) (month day : Nat) : Bool :=
  firstYear ≤ year && year ≤ lastYear && 1 ≤ month && month ≤ 12 &&
    1 ≤ day && day ≤ daysInMonth year month

/-- The days of all years from year 1 to the one before `year`. -/
def daysBeforeYear (year : Int) : Int :=
  let past := year - 1
  365 * past + past / 4 - past / 100 + past / 400

def daysBeforeMonth (year : Int) (month : Nat) : Nat :=
  (List.range' 1 (month - 1)).foldl (fun days m => days + daysInMonth year m) 0

end Calendar

structure Date where
  year : Int32
  month : Nat
  day : Nat
  valid : Calendar.isDay year.toInt month day = true
  deriving DecidableEq

namespace Date

/-- The date with these parts, if the calendar has it. -/
def of? (year : Int) (month day : Nat) : Option Date :=
  let narrow := Int32.ofInt year
  if h : Calendar.isDay narrow.toInt month day ∧ narrow.toInt = year then
    some ⟨narrow, month, day, h.1⟩
  else none

/-- Days since the day before 1 January of year 1. -/
def dayNumber (d : Date) : Int :=
  Calendar.daysBeforeYear d.year.toInt + Calendar.daysBeforeMonth d.year.toInt d.month + d.day

/-- The days from `start` to `d`; negative when `d` is the earlier one. -/
def daysSince (d start : Date) : Int := d.dayNumber - start.dayNumber

def next? (d : Date) : Option Date :=
  of? d.year.toInt d.month (d.day + 1) <|> of? d.year.toInt (d.month + 1) 1 <|>
    of? (d.year.toInt + 1) 1 1

def previous? (d : Date) : Option Date :=
  if 1 < d.day then of? d.year.toInt d.month (d.day - 1)
  else if 1 < d.month then
    of? d.year.toInt (d.month - 1) (Calendar.daysInMonth d.year.toInt (d.month - 1))
  else of? (d.year.toInt - 1) 12 31

/-- Four digits; a year with another count of digits, or before year 0, has a sign. -/
def yearText (year : Int) : String :=
  if 0 ≤ year ∧ year ≤ 9999 then Decimal.padded 4 year.toNat
  else (if year < 0 then "-" else "+") ++ Decimal.padded 4 year.natAbs

protected def toString (d : Date) : String :=
  yearText d.year.toInt ++ "-" ++ Decimal.padded 2 d.month ++ "-" ++ Decimal.padded 2 d.day

instance : ToString Date := ⟨Date.toString⟩

end Date
end Appraisal
