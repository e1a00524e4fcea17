import SqlGateway.Fault

/-!
# Dates

The calendar with a leap day every four years except in centuries that 400 does not divide,
extended to all of the years 1 to 9999. `Date.ordinal` numbers the days from 1 January of year 1,
which is day 1; `Date.ofOrdinal` finds the date of a day.
-/

namespace SqlGateway

/-- A day of the calendar. -/
structure Date where
  year : Nat
  month : Nat
  day : Nat
  deriving DecidableEq, Repr

namespace Date

/-- A year with a 29 February. -/
def isLeap (year : Nat) : Bool :=
  year % 4 = 0 && (year % 100 ≠ 0 || year % 400 = 0)

/-- The lengths of the twelve months. -/
def monthLengths (leap : Bool) : List Nat :=
  [31, if leap then 29 else 28, 31, 30, 31, 30, 31, 31, 30, 31, 30, 31]

/-- The length of a month that is counted from 1; 0 for a month that is not one of the twelve. -/
def daysInMonth (year month : Nat) : Nat :=
  if month = 0 then 0 else (monthLengths (isLeap year))[month - 1]?.getD 0

/-- A day that the calendar has. -/
def Valid (d : Date) : Prop :=
  1 ≤ d.year ∧ d.year ≤ 9999 ∧ 1 ≤ d.month ∧ d.month ≤ 12 ∧ 1 ≤ d.day ∧
    d.day ≤ daysInMonth d.year d.month

instance (d : Date) : Decidable d.Valid := by
  unfold Valid
  infer_instance

/-- The day with the given numbers, if the calendar has it. -/
def make (year month day : Nat) : Except Fault Date :=
  let d : Date := ⟨year, month, day⟩
  if d.Valid then .ok d else .error .outOfRange

/-- The days before 1 January of a year. -/
def daysBeforeYear (year : Nat) : Nat :=
  let y := year - 1
  y * 365 + y / 4 - y / 100 + y / 400

/-- The days of the year before the first of a month. -/
def daysBeforeMonth (year month : Nat) : Nat :=
  ((monthLengths (isLeap year)).take (month - 1)).foldl (· + ·) 0

/-- The number of a day, counted from 1 January of year 1 as day 1. -/
def ordinal (d : Date) : Nat := daysBeforeYear d.year + daysBeforeMonth d.year d.month + d.day

/-- The number of 31 December 9999. -/
def lastOrdinal : Nat := 3652059

/-- Month and day of the day that comes `rest` days after the first of `month`, for the lengths of
`month` and the months after it. -/
def monthAndDay (month rest : Nat) : List Nat → Nat × Nat
  | [] => (month, rest + 1)
  | length :: lengths =>
    if rest < length then (month, rest + 1) else monthAndDay (month + 1) (rest - length) lengths

/-- The day that comes `rest` days after 1 January. -/
def ofYearDay (year rest : Nat) : Date :=
  let (month, day) := monthAndDay 1 rest (monthLengths (isLeap year))
  ⟨year, month, day⟩

/-- The date of a day that is numbered from 1. -/
def ofOrdinal (ordinal : Nat) : Date :=
  let n := ordinal - 1
  let era := n / 146097
  let dayOfEra := n % 146097
  let century := min (dayOfEra / 36524) 3
  let dayOfCentury := dayOfEra - century * 36524
  let cycle := dayOfCentury / 1461
  let dayOfCycle := dayOfCentury % 1461
  let yearOfCycle := min (dayOfCycle / 365) 3
  ofYearDay (400 * era + 100 * century + 4 * cycle + yearOfCycle + 1)
    (dayOfCycle - yearOfCycle * 365)

/-- Year, month and day with four, two and two digits. -/
def text (d : Date) : Text :=
  Text.padZeros 4 (Text.ofNat d.year) ++ '-' :: Text.padZeros 2 (Text.ofNat d.month) ++
    '-' :: Text.padZeros 2 (Text.ofNat d.day)

end Date

end SqlGateway
