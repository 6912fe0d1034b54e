/-
This file holds points of time: a date with a time of day, and such a date-time together with
the offset from universal time of the place whose clock shows it.

Two zoned date-times with different offsets may denote the same instant, and are then equal as
values. The universal date-time of an instant is found by moving the clock back by the offset;
near the two ends of the calendar its date may not exist.
-/

import SqlRecords.Calendar.Time

namespace SqlRecords

/-! ### Date-times -/

/-- A date with a time of day. -/
structure DateTime where
  date : Date
  time : Time
deriving DecidableEq

/-- The first moment of a date. -/
def Date.midnight (date : Date) : DateTime :=
  ⟨date, .midnight⟩

/-- The seconds from the start of day number zero to a date-time. -/
def DateTime.seconds (dateTime : DateTime) : Int :=
  dateTime.date.dayNumber * 86400 + dateTime.time.secondOfDay

/-- The text of a date-time: its date, a blank and its time. -/
def DateTime.characters (dateTime : DateTime) : List Char :=
  dateTime.date.characters ++ [' '] ++ dateTime.time.characters

/-- The text of a date-time. -/
def DateTime.text (dateTime : DateTime) : String :=
  String.ofList dateTime.characters

/-! ### Zoned date-times -/

/-- A date-time on the clock of a place, with the seconds by which that clock is ahead of
universal time. -/
structure ZonedDateTime where
  clock : DateTime
  offset : Int
  offset_ge : -93599 ≤ offset
  offset_le : offset ≤ 93599
deriving DecidableEq

namespace ZonedDateTime

/-- The zoned date-time with the given clock and offset, if the offset is in its range. -/
def ofClock? (clock : DateTime) (offset : Int) : Option ZonedDateTime :=
  if range : -93599 ≤ offset ∧ offset ≤ 93599 then
    some ⟨clock, offset, range.1, range.2⟩
  else
    none

/-- A date-time taken as universal time. -/
def universal (clock : DateTime) : ZonedDateTime :=
  ⟨clock, 0, by decide, by decide⟩

/-- The universal date-time of the instant, if its date exists. -/
def utc? (zoned : ZonedDateTime) : Option DateTime :=
  let second : Int := zoned.clock.time.secondOfDay - zoned.offset
  (zoned.clock.date.shift? (second / 86400)).map fun date =>
    ⟨date, .ofSecondOfDay (second % 86400).toNat zoned.clock.time.nanosecond⟩

/-- The whole seconds from the start of universal day number zero to the instant. -/
def seconds (zoned : ZonedDateTime) : Int :=
  zoned.clock.seconds - zoned.offset

/-- Whether two zoned date-times denote the same instant. -/
def sameInstant (left right : ZonedDateTime) : Bool :=
  left.seconds == right.seconds &&
    left.clock.time.nanosecond == right.clock.time.nanosecond

/-- The text of a zoned date-time: its clock, a blank and the offset with its sign. -/
def characters (zoned : ZonedDateTime) : List Char :=
  let offset := zoned.offset.natAbs
  zoned.clock.characters ++ [' ', if zoned.offset < 0 then '-' else '+'] ++
    Text.zeroPadded 2 (offset / 3600) ++ [':'] ++ Text.zeroPadded 2 (offset / 60 % 60) ++ [':'] ++
    Text.zeroPadded 2 (offset % 60)

/-- The text of a zoned date-time. -/
def text (zoned : ZonedDateTime) : String :=
  String.ofList zoned.characters

end ZonedDateTime

end SqlRecords
