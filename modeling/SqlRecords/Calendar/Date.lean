/-
This file holds calendar dates: the days of the years -9999 to 9999, in the calendar that has a
leap year every fourth year except in three centuries out of four, extended to all years.

Every date carries the proof that its month exists and that its day exists in that month, so no
operation has to ask again. Dates are numbered consecutively by `dayNumber`, which is what
differences between instants are measured in.
-/

import SqlRecords.Text.Digits

namespace SqlRecords

/-! ### The parts of a date and a time -/

/-- A part of a date or a time that can be out of its range. -/
inductive CalendarPart where
  | year
  | month
  | day
  | hour
  | minute
  | second
  | microsecond
deriving DecidableEq, Repr

/-- The name of the part. -/
def CalendarPart.name : CalendarPart → String
  | year => "year"
  | month => "month"
  | day => "day"
  | hour => "hour"
  | minute => "minute"
  | second => "second"
  | microsecond => "microsecond"

/-- The wording of the error that a part is out of its range. -/
def CalendarPart.message (part : CalendarPart) : String :=
  part.name ++ " was not in range"

/-! ### Months -/

/-- Whether a year has a twenty-ninth of February. -/
def isLeapYear (year : Int) : Bool :=
  year % 4 == 0 && (year % 100 != 0 || year % 400 == 0)

/-- The number of days of a month. -/
def monthLength (year : Int) (month : Nat) : Nat :=
  if month = 2 then (if isLeapYear year then 29 else 28)
  else if month = 4 ∨ month = 6 ∨ month = 9 ∨ month = 11 then 30
  else 31

/-- The number of days of a year before a month. -/
def daysBeforeMonth (year : Int) : Nat → Nat
  | 0 | 1 => 0
  | month + 1 => daysBeforeMonth year month + monthLength year month

/-! ### Dates -/

/-- A calendar date. -/
structure Date where
  year : Int
  month : Nat
  day : Nat
  year_ge : -9999 ≤ year
  year_le : year ≤ 9999
  month_pos : 1 ≤ month
  month_le : month ≤ 12
  day_pos : 1 ≤ day
  day_le : day ≤ monthLength year month
deriving DecidableEq

namespace Date

/-- The date with the given parts, or the first part that is out of its range, where the month
is looked at before the year and the day last. -/
def ofParts (year : Int) (month day : Nat) : Except CalendarPart Date :=
  if monthRange : 1 ≤ month ∧ month ≤ 12 then
    if yearRange : -9999 ≤ year ∧ year ≤ 9999 then
      if dayRange : 1 ≤ day ∧ day ≤ monthLength year month then
        .ok ⟨year, month, day, yearRange.1, yearRange.2, monthRange.1, monthRange.2, dayRange.1,
          dayRange.2⟩
      else
        .error .day
    else
      .error .year
  else
    .error .month

/-- The date with the given parts, if there is one. -/
def ofParts? (year : Int) (month day : Nat) : Option Date :=
  (ofParts year month day).toOption

/-- Whether a date is the last one of its month. -/
def isMonthEnd (date : Date) : Bool :=
  date.day == monthLength date.year date.month

/-- The date after a date, if there is one. -/
def next? (date : Date) : Option Date :=
  if date.day < monthLength date.year date.month then ofParts? date.year date.month (date.day + 1)
  else if date.month < 12 then ofParts? date.year (date.month + 1) 1
  else ofParts? (date.year + 1) 1 1

/-- The date before a date, if there is one. -/
def previous? (date : Date) : Option Date :=
  if 1 < date.day then ofParts? date.year date.month (date.day - 1)
  else if 1 < date.month then
    ofParts? date.year (date.month - 1) (monthLength date.year (date.month - 1))
  else ofParts? (date.year - 1) 12 31

/-- The date a number of days later, if there is one. -/
def later? : Nat → Date → Option Date
  | 0, date => some date
  | days + 1, date => date.next?.bind (later? days)

/-- The date a number of days earlier, if there is one. -/
def earlier? : Nat → Date → Option Date
  | 0, date => some date
  | days + 1, date => date.previous?.bind (earlier? days)

/-- The date some days away, later for a positive number and earlier for a negative one. -/
def shift? (days : Int) (date : Date) : Option Date :=
  if 0 ≤ days then date.later? days.toNat else date.earlier? (-days).toNat

/-- The number of a date when all dates are numbered consecutively, the last day of the year 0
being number zero. -/
def dayNumber (date : Date) : Int :=
  let years := date.year - 1
  years * 365 + years / 4 - years / 100 + years / 400 +
    daysBeforeMonth date.year date.month + date.day

/-- The text of a date: year, month and day, the year with at least four digits behind its
sign. -/
def characters (date : Date) : List Char :=
  (if date.year < 0 then ['-'] else []) ++ Text.zeroPadded 4 date.year.natAbs ++ ['-'] ++
    Text.zeroPadded 2 date.month ++ ['-'] ++ Text.zeroPadded 2 date.day

/-- The text of a date. -/
def text (date : Date) : String :=
  String.ofList date.characters

end Date

end SqlRecords
