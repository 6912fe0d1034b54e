/-
This file holds times of day, from midnight to the last nanosecond before the next. There are
no leap seconds.
-/

import SqlRecords.Calendar.Date

namespace SqlRecords

/-- A time of day. -/
structure Time where
  hour : Nat
  minute : Nat
  second : Nat
  nanosecond : Nat
  hour_lt : hour < 24
  minute_lt : minute < 60
  second_lt : second < 60
  nanosecond_lt : nanosecond < 1000000000
deriving DecidableEq

namespace Time

/-- The time with the given parts, if there is one. -/
def ofParts? (hour minute second nanosecond : Nat) : Option Time :=
  if range : hour < 24 ∧ minute < 60 ∧ second < 60 ∧ nanosecond < 1000000000 then
    some ⟨hour, minute, second, nanosecond, range.1, range.2.1, range.2.2.1, range.2.2.2⟩
  else
    none

/-- The time with the given parts, or the first part that is out of its range. -/
def ofMicroseconds (hour minute second microsecond : Nat) : Except CalendarPart Time :=
  if hourRange : hour < 24 then
    if minuteRange : minute < 60 then
      if secondRange : second < 60 then
        if microsecondRange : microsecond < 1000000 then
          .ok ⟨hour, minute, second, microsecond * 1000, hourRange, minuteRange, secondRange, by
            omega⟩
        else
          .error .microsecond
      else
        .error .second
    else
      .error .minute
  else
    .error .hour

/-- The first moment of a day. -/
def midnight : Time :=
  ⟨0, 0, 0, 0, by decide, by decide, by decide, by decide⟩

/-- The whole seconds since midnight. -/
def secondOfDay (time : Time) : Nat :=
  time.hour * 3600 + time.minute * 60 + time.second

/-- The time that lies a number of seconds, counted around the clock, and of nanoseconds after
midnight. -/
def ofSecondOfDay (second nanosecond : Nat) : Time where
  hour := second / 3600 % 24
  minute := second / 60 % 60
  second := second % 60
  nanosecond := nanosecond % 1000000000
  hour_lt := Nat.mod_lt _ (by decide)
  minute_lt := Nat.mod_lt _ (by decide)
  second_lt := Nat.mod_lt _ (by decide)
  nanosecond_lt := Nat.mod_lt _ (by decide)

/-- The text of a time: the hour as it is, minute and second with two digits, and a fraction of
a second with at least one digit and no zeros at its end beyond that. -/
def characters (time : Time) : List Char :=
  Nat.toDigits 10 time.hour ++ [':'] ++ Text.zeroPadded 2 time.minute ++ [':'] ++
    Text.zeroPadded 2 time.second ++ ['.'] ++ Text.dropEndZeros (Text.zeroPadded 9 time.nanosecond)

/-- The text of a time. -/
def text (time : Time) : String :=
  String.ofList time.characters

end Time

end SqlRecords
