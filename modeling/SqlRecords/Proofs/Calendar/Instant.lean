/-
This file says which date-time of universal time an instant has. Moving the clock back by the
offset carries through minutes, hours and days, and whatever it carries, the date-time that comes
out is as many seconds from the start of the calendar as the instant is. A date-time is known by
these seconds and by its nanosecond. So instants that are the same have the same universal
date-time, whatever the clocks that show them, and an instant has none exactly if its day is
before the first or after the last one of the calendar.
-/

import SqlRecords.Proofs.Calendar.DayNumber

namespace SqlRecords

/-! ### Times by their seconds -/

theorem Time.secondOfDay_lt (time : Time) : time.secondOfDay < 86400 := by
  obtain ⟨_, _, _, _, _, _, _, _⟩ := time
  unfold Time.secondOfDay
  dsimp only
  omega

/-- A time is that of its second of the day and its nanosecond. -/
theorem Time.ofSecondOfDay_eq_iff {second nanosecond : Nat} (inDay : second < 86400)
    (inSecond : nanosecond < 1000000000) (time : Time) :
    Time.ofSecondOfDay second nanosecond = time ↔
      time.secondOfDay = second ∧ time.nanosecond = nanosecond := by
  obtain ⟨hour, minute, whole, fraction, _, _, _, _⟩ := time
  unfold Time.ofSecondOfDay Time.secondOfDay
  rw [Time.mk.injEq]
  dsimp only
  omega

/-- The day of a date-time is known from its seconds. -/
theorem DateTime.dayNumber_eq_div (moment : DateTime) :
    moment.date.dayNumber = moment.seconds / 86400 := by
  have inDay := moment.time.secondOfDay_lt
  unfold DateTime.seconds
  omega

namespace ZonedDateTime

/-! ### Universal time -/

/-- The universal date-time of an instant is the one with its seconds and its nanosecond. -/
theorem utc?_eq_some_iff (zoned : ZonedDateTime) (moment : DateTime) :
    zoned.utc? = some moment ↔
      moment.seconds = zoned.seconds ∧ moment.time.nanosecond = zoned.clock.time.nanosecond := by
  obtain ⟨date, time⟩ := moment
  have inDay := time.secondOfDay_lt
  have inSecond := zoned.clock.time.nanosecond_lt
  have remainder : ((zoned.clock.time.secondOfDay - zoned.offset) % 86400).toNat < 86400 := by
    omega
  unfold utc?
  dsimp only
  rw [Option.map_eq_some_iff]
  simp only [Date.shift?_eq_some_iff, DateTime.mk.injEq,
    Time.ofSecondOfDay_eq_iff remainder inSecond]
  unfold seconds DateTime.seconds
  dsimp only
  constructor
  · rintro ⟨_, number, rfl, second, nanosecond⟩
    omega
  · rintro ⟨second, nanosecond⟩
    refine ⟨date, ?_, rfl, ?_, nanosecond⟩ <;> omega

/-- Whether the universal day of an instant is in the years from -9999 to 9999. -/
def InCalendar (zoned : ZonedDateTime) : Prop :=
  daysBeforeYear (-9999) < zoned.seconds / 86400 ∧ zoned.seconds / 86400 ≤ daysBeforeYear 10000

instance (zoned : ZonedDateTime) : Decidable zoned.InCalendar :=
  inferInstanceAs (Decidable (_ ∧ _))

/-- The instants of the calendar are those with a universal date-time. -/
theorem exists_utc?_eq_iff (zoned : ZonedDateTime) :
    (∃ moment, zoned.utc? = some moment) ↔ zoned.InCalendar := by
  simp only [utc?_eq_some_iff]
  constructor
  · rintro ⟨moment, second, -⟩
    unfold InCalendar
    rw [← second, ← moment.dayNumber_eq_div]
    exact ⟨moment.date.calendarStart_lt_dayNumber, moment.date.dayNumber_le_calendarEnd⟩
  · intro inside
    obtain ⟨date, day⟩ := (Date.exists_dayNumber_eq_iff _).mpr inside
    have remainder : (zoned.seconds % 86400).toNat < 86400 := by omega
    let time := Time.ofSecondOfDay (zoned.seconds % 86400).toNat zoned.clock.time.nanosecond
    obtain ⟨second, nanosecond⟩ :=
      (Time.ofSecondOfDay_eq_iff remainder zoned.clock.time.nanosecond_lt time).mp rfl
    refine ⟨⟨date, time⟩, ?_, nanosecond⟩
    unfold DateTime.seconds
    rw [day, second]
    omega

theorem utc?_eq_none_iff (zoned : ZonedDateTime) : zoned.utc? = none ↔ ¬ zoned.InCalendar := by
  rw [← exists_utc?_eq_iff, Option.eq_none_iff_forall_ne_some, not_exists]

/-- The clock of a place is ahead of universal time by exactly its offset. -/
theorem clock_sub_of_utc? {zoned : ZonedDateTime} {moment : DateTime}
    (universal : zoned.utc? = some moment) :
    zoned.clock.seconds - moment.seconds = zoned.offset ∧
      moment.time.nanosecond = zoned.clock.time.nanosecond := by
  obtain ⟨second, nanosecond⟩ := (utc?_eq_some_iff zoned moment).mp universal
  refine ⟨?_, nanosecond⟩
  rw [second, seconds]
  omega

/-! ### Equal instants -/

variable {left right : ZonedDateTime}

theorem sameInstant_iff :
    left.sameInstant right = true ↔ left.seconds = right.seconds ∧
      left.clock.time.nanosecond = right.clock.time.nanosecond := by
  unfold sameInstant
  rw [Bool.and_eq_true, beq_iff_eq, beq_iff_eq]

/-- Equal instants have the same universal date-time. -/
theorem utc?_eq_of_sameInstant (same : left.sameInstant right = true) :
    left.utc? = right.utc? := by
  obtain ⟨second, nanosecond⟩ := sameInstant_iff.mp same
  refine Option.ext fun moment => ?_
  rw [utc?_eq_some_iff, utc?_eq_some_iff, second, nanosecond]

end ZonedDateTime

end SqlRecords
