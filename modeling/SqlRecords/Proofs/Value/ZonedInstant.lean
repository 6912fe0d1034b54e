/-
This file says that a zoned date-time counts as the instant it denotes. Its literal, its date, its
time and its date-time are those of universal time, found in four places from the same universal
date-time. Equal instants have the same one whatever their offsets, so none of the four can tell
them apart; and where the calendar ends there is none, and all four fail in the same way.
-/

import SqlRecords.Proofs.Sql.Writing
import SqlRecords.Proofs.Value.UniversalTime

namespace SqlRecords

/-! ### From the universal date-time -/

section Universal

variable {zoned : ZonedDateTime} {moment : DateTime}

/-- What a zoned date-time becomes as a date, as a time and as a date-time, by its universal
date-time. -/
theorem ofValue_of_utc? (universal : zoned.utc? = some moment) :
    ScalarType.timestamp.ofValue (.zoned (some zoned)) = .ok moment ∧
      ScalarType.date.ofValue (.zoned (some zoned)) = .ok moment.date ∧
      ScalarType.time.ofValue (.zoned (some zoned)) = .ok moment.time := by
  have read : Conversion.utcOf zoned = .ok moment := by
    unfold Conversion.utcOf
    rw [universal]
  refine ⟨read, ?_, ?_⟩
  · show (Conversion.utcOf zoned).map DateTime.date = _
    rw [read]
    rfl
  · show (Conversion.utcOf zoned).map DateTime.time = _
    rw [read]
    rfl

/-- The literal of a zoned date-time is that of its universal date-time. -/
theorem literal_of_utc? (dialect : Dialect) (forKey : Bool) (universal : zoned.utc? = some moment) :
    dialect.literal forKey (.zoned (some zoned)) = .ok (dateTimeLiteral forKey moment) := by
  simp [Dialect.literal, Value.isNull, universal]

theorem literal_of_utc?_eq_none (dialect : Dialect) (forKey : Bool) (outside : zoned.utc? = none) :
    dialect.literal forKey (.zoned (some zoned)) = .error .utcOutOfRange := by
  simp [Dialect.literal, Value.isNull, outside]

end Universal

/-! ### Equal instants -/

section Equal

variable {left right : Option ZonedDateTime}

/-- Equal zoned values are both null, or both there with the same universal date-time. -/
theorem eq_or_utc?_eq_of_same (same : (Value.zoned left).same (.zoned right) = true) :
    left = right ∨ ∃ first second, left = some first ∧ right = some second ∧
      first.utc? = second.utc? := by
  cases left with
  | none =>
    cases right with
    | none => exact .inl rfl
    | some right => cases same
  | some left =>
    cases right with
    | none => cases same
    | some right => exact .inr ⟨left, right, rfl, rfl, ZonedDateTime.utc?_eq_of_sameInstant same⟩

/-- Equal zoned values have the same literal. -/
theorem literal_eq_of_same (dialect : Dialect) (forKey : Bool)
    (same : (Value.zoned left).same (.zoned right) = true) :
    dialect.literal forKey (.zoned left) = dialect.literal forKey (.zoned right) := by
  obtain rfl | ⟨first, second, rfl, rfl, equal⟩ := eq_or_utc?_eq_of_same same
  · rfl
  · cases universal : second.utc? with
    | some moment =>
      rw [literal_of_utc? dialect forKey universal,
        literal_of_utc? dialect forKey (equal.trans universal)]
    | none =>
      rw [literal_of_utc?_eq_none dialect forKey universal,
        literal_of_utc?_eq_none dialect forKey (equal.trans universal)]

/-- Equal zoned values are the same date, the same time and the same date-time. -/
theorem ofValue_eq_of_same (same : (Value.zoned left).same (.zoned right) = true)
    {type : ScalarType} (calendar : type ∈ ScalarType.universal) :
    type.ofValue (.zoned left) = type.ofValue (.zoned right) := by
  obtain rfl | ⟨first, second, rfl, rfl, equal⟩ := eq_or_utc?_eq_of_same same
  · rfl
  · obtain ⟨read, reads⟩ := ScalarType.exists_ofValue_zoned_eq calendar
    rw [reads, reads, Conversion.utcOf, Conversion.utcOf, equal]

end Equal

/-! ### Zoned values as instants -/

/-- Equal zoned values are written and converted in the same way. A zoned date-time whose universal
day is in the calendar is the date, the time and the date-time of one moment, has the literal of
that moment and a clock that is ahead of it by the offset; with any other day it is none of them. -/
theorem zoned_as_instant (dialect : Dialect) (context : Context) :
    (∀ left right, (Value.zoned left).same (.zoned right) = true →
      dialect.writeValue context (.zoned left) = dialect.writeValue context (.zoned right) ∧
      ∀ type ∈ [ScalarType.date, .time, .timestamp],
        type.ofValue (.zoned left) = type.ofValue (.zoned right)) ∧
    ∀ zoned : ZonedDateTime, if zoned.InCalendar then
      ∃ moment text,
        ScalarType.timestamp.ofValue (.zoned (some zoned)) = .ok moment ∧
        ScalarType.date.ofValue (.zoned (some zoned)) = .ok moment.date ∧
        ScalarType.time.ofValue (.zoned (some zoned)) = .ok moment.time ∧
        (dialect.writeValue context (.zoned (some zoned))).toText = .ok text ∧
        (dialect.writeValue context (.timestamp (some moment))).toText = .ok text ∧
        zoned.clock.seconds - moment.seconds = zoned.offset ∧
        moment.time.nanosecond = zoned.clock.time.nanosecond
    else
      ScalarType.timestamp.ofValue (.zoned (some zoned)) = .error .utcOutOfRange ∧
      ScalarType.date.ofValue (.zoned (some zoned)) = .error .utcOutOfRange ∧
      ScalarType.time.ofValue (.zoned (some zoned)) = .error .utcOutOfRange ∧
      (dialect.writeValue context (.zoned (some zoned))).toText = .error .utcOutOfRange := by
  refine ⟨fun left right same => ⟨?_, fun type => ofValue_eq_of_same same⟩, fun zoned => ?_⟩
  · unfold Dialect.writeValue
    rw [literal_eq_of_same dialect _ same]
  · simp only [toText_writeValue]
    split
    case isTrue inside =>
      obtain ⟨moment, universal⟩ := zoned.exists_utc?_eq_iff.mpr inside
      obtain ⟨timestamp, date, time⟩ := ofValue_of_utc? universal
      obtain ⟨ahead, nanosecond⟩ := ZonedDateTime.clock_sub_of_utc? universal
      exact ⟨moment, _, timestamp, date, time, literal_of_utc? dialect _ universal, rfl, ahead,
        nanosecond⟩
    case isFalse outside =>
      have refused (type : ScalarType) (universal : type ∈ ScalarType.universal) :
          type.ofValue (.zoned (some zoned)) = .error .utcOutOfRange :=
        (type.ofValue_eq_utcOutOfRange_iff _).mpr ⟨universal, zoned, rfl, outside⟩
      exact ⟨refused .timestamp (by decide), refused .date (by decide), refused .time (by decide),
        literal_of_utc?_eq_none dialect _ (zoned.utc?_eq_none_iff.mpr outside)⟩

/-- Half past midnight, less half a minute, on a clock that is ahead by an hour less half a
minute. -/
def newYearNight : ZonedDateTime where
  clock := ⟨firstDate, .ofSecondOfDay 1770 5⟩
  offset := 3570
  offset_ge := by decide
  offset_le := by decide

/-- The same instant on a clock that is further ahead. -/
def newYearMorning : ZonedDateTime where
  clock := ⟨firstDate, .ofSecondOfDay 18000 5⟩
  offset := 19800
  offset_ge := by decide
  offset_le := by decide

/-- Both clocks are in the new year, but the instant that they show is in the last hour of the old
one. -/
theorem zoned_as_instant_newYear :
    (Value.zoned (some newYearNight)).same (.zoned (some newYearMorning)) = true ∧
      (∀ dialect : Dialect, dialect.writeValue ⟨.updateSet, none⟩ (.zoned (some newYearNight)) =
        dialect.writeValue ⟨.updateSet, none⟩ (.zoned (some newYearMorning))) ∧
      ScalarType.date.ofValue (.zoned (some newYearNight)) =
        ScalarType.date.ofValue (.zoned (some newYearMorning)) ∧
      newYearNight.InCalendar ∧
      ∃ moment, ScalarType.timestamp.ofValue (.zoned (some newYearNight)) = .ok moment ∧
        newYearNight.clock.seconds - moment.seconds = 3570 := by
  have same : (Value.zoned (some newYearNight)).same (.zoned (some newYearMorning)) = true := by
    decide
  have inside : newYearNight.InCalendar := by decide
  have written (dialect : Dialect) := ((zoned_as_instant dialect ⟨.updateSet, none⟩).1 _ _ same).1
  obtain ⟨equal, alone⟩ := zoned_as_instant .standard ⟨.updateSet, none⟩
  have night := alone newYearNight
  rw [if_pos inside] at night
  obtain ⟨moment, text, timestamp, -, -, -, -, ahead, -⟩ := night
  exact ⟨same, written, (equal _ _ same).2 .date List.mem_cons_self, inside, moment, timestamp,
    ahead⟩

end SqlRecords
