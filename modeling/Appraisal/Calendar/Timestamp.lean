import Appraisal.Calendar.Date

/-!
# Timestamps

Moments in universal time to the nanosecond. A leap second is the last second of a minute with a
whole second of nanoseconds on top.
-/

namespace Appraisal

structure Timestamp where
  date : Date
  second : Fin 86400
  nanosecond : Fin 2000000000
  leap : nanosecond.val < 1000000000 ∨ second.val % 60 = 59
  deriving DecidableEq

namespace Timestamp

/-- As few of 0, 3, 6 or 9 decimal places as show the nanoseconds. -/
def fractionText (nanosecond : Nat) : String :=
  if nanosecond = 0 then ""
  else if nanosecond % 1000000 = 0 then "." ++ Decimal.padded 3 (nanosecond / 1000000)
  else if nanosecond % 1000 = 0 then "." ++ Decimal.padded 6 (nanosecond / 1000)
  else "." ++ Decimal.padded 9 nanosecond

/-- The time of day; a leap second is shown as second 60. -/
def timeText (second nanosecond : Nat) : String :=
  let leap := nanosecond / 1000000000
  Decimal.padded 2 (second / 3600) ++ ":" ++ Decimal.padded 2 (second / 60 % 60) ++ ":" ++
    Decimal.padded 2 (second % 60 + leap) ++ fractionText (nanosecond % 1000000000)

/-- The date and the time of day, with a name for universal time. -/
def text (t : Timestamp) (zone : String) : String :=
  t.date.toString ++ "T" ++ timeText t.second t.nanosecond ++ zone

protected def toString (t : Timestamp) : String := t.text "Z"

instance : ToString Timestamp := ⟨Timestamp.toString⟩

/-- The moment `seconds` after the start of `date`, which may lie up to a day before or after. -/
def ofSeconds? (date : Date) (seconds : Int) (nanosecond : Nat) : Option Timestamp :=
  let day? := if seconds < 0 then date.previous? else if 86400 ≤ seconds then date.next? else date
  let second := (seconds % 86400).toNat
  if h : second < 86400 ∧ nanosecond < 2000000000 ∧ (nanosecond < 1000000000 ∨ second % 60 = 59) then
    day?.map fun day => ⟨day, ⟨second, h.1⟩, ⟨nanosecond, h.2.1⟩, h.2.2⟩
  else none

end Timestamp
end Appraisal
