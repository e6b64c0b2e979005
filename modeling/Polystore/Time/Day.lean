/-!
# Days

Days of the Gregorian calendar, extended without end in both directions and counted from
1970-01-01.
-/

namespace Polystore.Time

/-- Milliseconds of a day. -/
def dayMillis : Int := 86400000

/-- A date, not necessarily one that exists. -/
structure Date where
  year : Int
  month : Nat
  day : Nat
  deriving DecidableEq

/-- Has the year a 29th of February? -/
def isLeapYear (y : Int) : Bool := y % 4 == 0 && (y % 100 != 0 || y % 400 == 0)

/-- The number of days of a month. -/
def daysInMonth (y : Int) (m : Nat) : Nat :=
  if m = 2 then (if isLeapYear y then 29 else 28)
  else if m = 4 ∨ m = 6 ∨ m = 9 ∨ m = 11 then 30
  else 31

namespace Date

/-- Does the date exist, in a year between -262143 and 262142? -/
def isReal (d : Date) : Bool :=
  -262143 ≤ d.year && d.year ≤ 262142 && (1 ≤ d.month && d.month ≤ 12) &&
    (1 ≤ d.day && d.day ≤ daysInMonth d.year d.month)

/-- The number of the day.  Years are taken to begin in March, so that a leap day is the last day
of its year; 400 years have 146097 days. -/
def toDays (d : Date) : Int :=
  let y : Int := if d.month ≤ 2 then d.year - 1 else d.year
  let era := y.fdiv 400
  let yearOfEra := y - era * 400
  let month : Int := (d.month + 9) % 12
  let dayOfYear := (153 * month + 2).fdiv 5 + d.day - 1
  let dayOfEra := yearOfEra * 365 + yearOfEra.fdiv 4 - yearOfEra.fdiv 100 + dayOfYear
  era * 146097 + dayOfEra - 719468

/-- The date of a day number. -/
def ofDays (n : Int) : Date :=
  let z := n + 719468
  let era := z.fdiv 146097
  let dayOfEra := z - era * 146097
  let yearOfEra :=
    (dayOfEra - dayOfEra.fdiv 1460 + dayOfEra.fdiv 36524 - dayOfEra.fdiv 146096).fdiv 365
  let dayOfYear := dayOfEra - (365 * yearOfEra + yearOfEra.fdiv 4 - yearOfEra.fdiv 100)
  let month := (5 * dayOfYear + 2).fdiv 153
  let day := dayOfYear - (153 * month + 2).fdiv 5 + 1
  let calendarMonth := if month < 10 then month + 3 else month - 9
  let year := yearOfEra + era * 400 + (if calendarMonth ≤ 2 then 1 else 0)
  ⟨year, calendarMonth.toNat, day.toNat⟩

end Date

/-- The number of the day that holds an instant, both counted from 1970; instants before it are
rounded toward the past. -/
def dayOfMillis (ms : Int) : Int := ms.fdiv dayMillis

/-! ## Examples -/

example : Date.toDays ⟨1970, 1, 1⟩ = 0 := by decide
example : Date.toDays ⟨2024, 2, 29⟩ = 19782 := by decide
example : Date.ofDays 19782 = ⟨2024, 2, 29⟩ := by decide
example : Date.ofDays (-1) = ⟨1969, 12, 31⟩ := by decide

end Polystore.Time
