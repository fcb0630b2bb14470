import Rollout.Duration.Short

/-!
# Points in time

A point in time as a date and a time of day, both in universal time. A second may be the sixtieth
of its minute. The days of the calendar are numbered, so that a time can be moved by minutes.
-/

namespace Rollout

/-- A point in time. -/
structure Timestamp where
  year : Int
  month : Nat
  day : Nat
  hour : Nat
  minute : Nat
  second : Nat
  nanos : Nat
  deriving DecidableEq, Repr

namespace Timestamp

/-! ### The calendar -/

/-- Whether a year has a day more. -/
def isLeapYear (y : Int) : Bool := y % 4 = 0 && (y % 100 ≠ 0 || y % 400 = 0)

/-- The days of a month. -/
def daysInMonth (y : Int) (m : Nat) : Nat :=
  if m = 2 then (if isLeapYear y then 29 else 28) else if [4, 6, 9, 11].contains m then 30 else 31

/-- The years of the calendar. -/
def leastYear : Int := -262143

def greatestYear : Int := 262142

/-- Whether there is such a date. -/
def isDate (y : Int) (m d : Nat) : Bool :=
  leastYear ≤ y && y ≤ greatestYear && 1 ≤ m && m ≤ 12 && 1 ≤ d && d ≤ daysInMonth y m

/-- The number of a date, counted from the first day of 1970. Years are taken to begin in March, so
that the day that not every year has is the last. -/
def dayNumber (y : Int) (m d : Nat) : Int :=
  let y := if m ≤ 2 then y - 1 else y
  let monthOfYear : Int := (m + 9) % 12
  let dayOfYear := (153 * monthOfYear + 2) / 5 + d - 1
  y * 365 + y / 4 - y / 100 + y / 400 + dayOfYear - 719468

/-- The date of a number. -/
def dateOfDay (n : Int) : Int × Nat × Nat :=
  let n := n + 719468
  let era := n / 146097
  let dayOfEra := n % 146097
  let yearOfEra := (dayOfEra - dayOfEra / 1460 + dayOfEra / 36524 - dayOfEra / 146096) / 365
  let dayOfYear := dayOfEra - (365 * yearOfEra + yearOfEra / 4 - yearOfEra / 100)
  let monthOfYear := (5 * dayOfYear + 2) / 153
  let day := dayOfYear - (153 * monthOfYear + 2) / 5 + 1
  let month := if monthOfYear < 10 then monthOfYear + 3 else monthOfYear - 9
  (yearOfEra + era * 400 + (if month ≤ 2 then 1 else 0), month.toNat, day.toNat)

/-- The time some minutes later, or earlier if their number is negative. -/
def addMinutes (t : Timestamp) (minutes : Int) : Timestamp :=
  if minutes = 0 then t
  else
    let total := dayNumber t.year t.month t.day * 1440 + t.hour * 60 + t.minute + minutes
    let (year, month, day) := dateOfDay (total / 1440)
    let ofDay := (total % 1440).toNat
    { t with year, month, day, hour := ofDay / 60, minute := ofDay % 60 }

/-- The time that far behind the beginning of 1970. -/
def afterEpoch (d : Duration) : Timestamp :=
  let (year, month, day) := dateOfDay (d.seconds / 86400 : Nat)
  let ofDay := d.seconds % 86400
  ⟨year, month, day, ofDay / 3600, ofDay % 3600 / 60, ofDay % 60, d.subsecond⟩

end Timestamp

end Rollout
